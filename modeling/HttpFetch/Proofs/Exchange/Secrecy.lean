import HttpFetch.Proofs.Exchange.Stages

/-!
# Secure cookies stay on TLS

What a hop sends is decided by the scheme of its URL in two places: the cookies are selected by it,
and the connection is made by it.  The two agree, so that a connection without TLS is sent what it
would be sent if the jar had no secure cookies; `run_confines` says so of every hop of a chain, with
the jar that the hop meets.
-/

namespace HttpFetch

/-! ## Jars without secure cookies -/

namespace Jar

def withoutSecure (jar : Jar) : Jar := jar.filter fun cookie => !cookie.secure

/-- Without TLS, secure cookies make no difference. -/
theorem fields_withoutSecure (jar : Jar) (now : Int) (host path : Text) :
    (jar.withoutSecure.purge now).fields host path false =
      (jar.purge now).fields host path false := by
  unfold fields select
  congr 1
  simp only [purge_eq_filter, withoutSecure, toList_filter, List.filter_filter]
  apply List.filter_congr
  intro cookie hcookie
  cases hsecure : cookie.secure <;> simp [Cookie.applies, hsecure]

end Jar

/-! ## What is offered on a connection -/

namespace SocketEvent

theorem wraps_of_isTransfer {event : SocketEvent} (h : event.isTransfer = true) :
    event.wraps = false := by
  cases event with
  | wrap serverName succeeded => cases h
  | setTimeout | connect | receive | send | close => rfl

/-- Calls among which TLS does not begin, and the first to send anything sends a given prelude. -/
structure Opening (prelude : Except Failure Bytes) (events : List SocketEvent) : Prop where
  unwrapped : ∀ event ∈ events, event.wraps = false
  first : ∀ octets ∈ (events.filterMap offered?).head?, prelude = .ok octets

namespace Opening

variable {prelude : Except Failure Bytes} {events : List SocketEvent}

theorem nil : Opening prelude [] := ⟨by simp, by simp⟩

theorem of_send {octets : Bytes} (h : prelude = .ok octets) (seconds : Option Double)
    (succeeded : Bool) : Opening prelude [.setTimeout seconds, .send octets succeeded] := by
  constructor
  · simp [wraps]
  · rintro _ ⟨⟩
    exact h

/-- After the first call to send, or without another one, the first stays what it was. -/
theorem append (h : Opening prelude events) {more : List SocketEvent}
    (hmore : ∀ event ∈ more, event.wraps = false)
    (hoffers : events.filterMap offered? ≠ [] ∨ more.filterMap offered? = []) :
    Opening prelude (events ++ more) := by
  refine ⟨List.forall_mem_append.mpr ⟨h.unwrapped, hmore⟩, ?_⟩
  rw [List.filterMap_append]
  rcases hoffers with hsome | hnone
  · rw [List.head?_append_of_ne_nil _ hsome]
    exact h.first
  · rw [hnone, List.append_nil]
    exact h.first

end Opening

end SocketEvent

namespace Socket

/-- Whether TLS began before anything was sent. -/
def wrappedFirst (socket : Socket) : Bool :=
  (socket.history.takeWhile fun event => event.offered?.isNone).any SocketEvent.wraps

/-- TLS began on a socket if it had begun before any other call. -/
theorem views_of_history
    {before after : Socket} (hidle : before.offered = []) {events : List SocketEvent}
    (hhistory : after.history = before.history ++ events)
    (hunwrapped : ∀ event ∈ events, event.wraps = false) :
    after.isWrapped = before.isWrapped ∧ after.wrappedFirst = before.isWrapped ∧
      after.offered = events.filterMap SocketEvent.offered? := by
  have hnone : ∀ event ∈ before.history, event.offered?.isNone = true := fun event hevent =>
    Option.isNone_iff_eq_none.mpr (List.filterMap_eq_nil_iff.mp hidle event hevent)
  have hevents : events.any SocketEvent.wraps = false := by simpa using hunwrapped
  have htaken : (events.takeWhile fun event => event.offered?.isNone).any SocketEvent.wraps =
      false := by
    refine List.any_eq_false.mpr fun event hevent => ?_
    simp [hunwrapped event (List.takeWhile_subset _ hevent)]
  refine ⟨?_, ?_, ?_⟩
  · rw [isWrapped, hhistory, List.any_append, hevents, Bool.or_false, isWrapped]
  · rw [wrappedFirst, hhistory, List.takeWhile_append_of_pos hnone, List.any_append, htaken,
      Bool.or_false, isWrapped]
  · rw [offered] at hidle
    rw [offered, hhistory, List.filterMap_append, hidle, List.nil_append]

end Socket

theorem Hop.sendPrelude_opening (hop : Hop) (cookies : Headers) (state : HopState) :
    ∃ events, (Step.left (hop.sendPrelude cookies state)).socket.history =
        state.socket.history ++ events ∧
      SocketEvent.Opening (hop.request.prelude hop.method hop.url cookies) events ∧
      ∀ after, hop.sendPrelude cookies state = .ok () after →
        events.filterMap SocketEvent.offered? ≠ [] := by
  unfold sendPrelude
  cases hprelude : hop.request.prelude hop.method hop.url cookies with
  | error failure => exact ⟨[], (List.append_nil _).symm, .nil, fun _ h => by cases h⟩
  | ok octets =>
      obtain ⟨succeeded, hhistory⟩ := state.reader.transport.history_write octets
      refine ⟨_, ?_, .of_send rfl state.reader.transport.writeTimeout succeeded, ?_⟩
      · simp only
        split
        next hwrite => rwa [hwrite] at hhistory
        next hwrite => rwa [hwrite] at hhistory
      · exact fun _ _ => List.cons_ne_nil _ _

namespace Visit

/-- The first that is sent on the connection of a visit is what precedes the body. -/
theorem socket_opening (visit : Visit) :
    ∃ events, visit.socket.history = visit.begun.socket.history ++ events ∧
      SocketEvent.Opening
        (visit.hop.request.prelude visit.hop.method visit.hop.url visit.cookies) events := by
  obtain ⟨events, hhistory, hopening, hoffers⟩ :=
    visit.hop.sendPrelude_opening visit.cookies visit.begun
  have hleft : ∃ events, (Step.left visit.result).socket.history =
      visit.begun.socket.history ++ events ∧ SocketEvent.Opening
        (visit.hop.request.prelude visit.hop.method visit.hop.url visit.cookies) events := by
    have hperform := (visit.hop.perform_left visit.host visit.cookies visit.begun).2
    cases hsend : visit.hop.sendPrelude visit.cookies visit.begun with
    | error failure state =>
        -- The hop ends there.
        rw [hsend] at hperform hhistory
        exact ⟨events, by rw [result, hperform]; exact hhistory, hopening⟩
    | ok _ asked =>
        -- What the hop does then is sending and receiving, and something has been sent.
        rw [hsend] at hperform hhistory
        obtain ⟨sends, hsends⟩ := hperform
        obtain ⟨more, hmore, htransfer⟩ := hsends.history
        refine ⟨events ++ more, ?_, hopening.append ?_ (Or.inl (hoffers asked hsend))⟩
        · rw [result, hmore, ← List.append_assoc, ← hhistory]
          rfl
        · exact fun event hevent => SocketEvent.wraps_of_isTransfer (htransfer event hevent)
  obtain ⟨events, hhistory, hopening⟩ := hleft
  have hclose : ∀ state : HopState, state.socket.history = visit.begun.socket.history ++ events →
      state.socket.close.history = visit.begun.socket.history ++ (events ++ [.close]) := by
    intro state h
    rw [Socket.close, Socket.record, h, List.append_assoc]
  have hclosing : SocketEvent.Opening
      (visit.hop.request.prelude visit.hop.method visit.hop.url visit.cookies)
      (events ++ [.close]) := hopening.append (by simp [SocketEvent.wraps]) (Or.inr rfl)
  unfold socket
  split
  next head state hresult =>
    rw [hresult] at hhistory
    exact ⟨events, hhistory, hopening⟩
  next head next state hresult =>
    rw [hresult] at hhistory
    exact ⟨_, hclose state hhistory, hclosing⟩
  next failure state hresult =>
    rw [hresult] at hhistory
    exact ⟨_, hclose state hhistory, hclosing⟩

end Visit

namespace Stage

/-- What precedes the body of a hop that meets a jar. -/
def prelude (stage : Stage) (jar : Option Jar) : Except Failure Bytes :=
  match stage.hop.url.hostname with
  | .error failure => .error failure
  | .ok hostname =>
    stage.hop.request.prelude stage.hop.method stage.hop.url
      (((jar.getD Jar.empty).purge stage.hop.clock.first.selecting).fields (Hop.cookieHost hostname)
        stage.hop.url.decodedPath stage.hop.url.isSecure)

/-- Without TLS, what precedes the body does not depend on secure cookies. -/
theorem prelude_withoutSecure {stage : Stage} (hplain : stage.hop.url.isSecure = false)
    (jar : Option Jar) : stage.prelude (jar.map Jar.withoutSecure) = stage.prelude jar := by
  unfold prelude
  cases stage.hop.url.hostname with
  | error failure => rfl
  | ok hostname =>
      cases jar with
      | none => rfl
      | some jar =>
          simp only [hplain, Option.map_some, Option.getD_some]
          rw [Jar.fields_withoutSecure]

theorem prelude_of_visit {stage : Stage} {visit : Visit} (h : stage.visit? = some visit) :
    visit.hop.request.prelude visit.hop.method visit.hop.url visit.cookies =
      stage.prelude stage.exchange.jar := by
  obtain ⟨after, hbegins⟩ := begins_of_visit h
  obtain ⟨hostname, hhostname, hhost⟩ := hbegins.hostname
  have hjar : visit.begun.jar.getD Jar.empty =
      (stage.exchange.jar.getD Jar.empty).purge stage.hop.clock.first.selecting := by
    rw [hbegins.jar_eq]
    cases stage.exchange.jar <;> rfl
  rw [hbegins.hop_eq, hbegins.cookies_eq, hjar, hhost, prelude, hhostname]

end Stage

namespace Exchange

/-- The sockets of a chain are those of its stages.  One that is not connected is not wrapped and
nothing is sent on it; one that is connected is wrapped in TLS, before anything else, exactly when
the URL of its hop says so.  What is sent first is what precedes the body for the jar that the hop
meets, and without TLS also for that jar without its secure cookies. -/
theorem run_confines (hop : Hop) (exchange : Exchange) :
    (settled (run hop exchange)).sockets =
      exchange.network.sockets ++ (stages hop exchange).flatMap Stage.sockets ∧
    (∀ jar : Jar, jar.withoutSecure.toList = jar.toList.filter fun cookie => !cookie.secure) ∧
    ∀ stage ∈ stages hop exchange, ∀ socket ∈ stage.sockets,
      (stage.visit? = none → socket.isWrapped = false ∧ socket.offered = []) ∧
      (stage.visit? ≠ none → socket.isWrapped = stage.hop.url.isSecure ∧
        socket.wrappedFirst = stage.hop.url.isSecure) ∧
      ∀ octets ∈ socket.offered.head?,
        stage.prelude stage.exchange.jar = .ok octets ∧
        (socket.isWrapped = false →
          stage.prelude (stage.exchange.jar.map Jar.withoutSecure) = .ok octets) := by
  refine ⟨run_sockets hop exchange, Jar.toList_filter _, fun stage _ socket hsocket => ?_⟩
  cases hvisit : stage.visit? with
  | none =>
      have hunused := Stage.unused_of_not_visit hvisit socket hsocket
      refine ⟨fun _ => ⟨hunused.isWrapped_eq, hunused.offered_eq⟩, fun h => absurd rfl h, ?_⟩
      rw [hunused.offered_eq]
      exact fun octets hoctets => absurd hoctets (Option.not_mem_none octets)
  | some visit =>
      rw [Stage.sockets_of_visit hvisit, List.mem_singleton] at hsocket
      subst hsocket
      obtain ⟨after, hbegins⟩ := Stage.begins_of_visit hvisit
      obtain ⟨events, hhistory, hopening⟩ := visit.socket_opening
      obtain ⟨hwrapped, hfirst, hoffered⟩ :=
        Socket.views_of_history hbegins.connected.offered_eq hhistory hopening.unwrapped
      rw [hbegins.wrapped] at hwrapped hfirst
      refine ⟨nofun, fun _ => ⟨hwrapped, hfirst⟩, fun octets hoctets => ?_⟩
      have hprelude : stage.prelude stage.exchange.jar = .ok octets := by
        rw [← Stage.prelude_of_visit hvisit]
        exact hopening.first octets (hoffered ▸ hoctets)
      refine ⟨hprelude, fun hplain => ?_⟩
      rw [Stage.prelude_withoutSecure (hwrapped.symm.trans hplain), hprelude]

/-- Without TLS the first of two cookies is kept back. -/
example :
    let url : Url := ⟨"http".toList, [], "h".toList, none, "/".toList, none, none⟩
    let cookie (name : String) (secure : Bool) : Cookie :=
      ⟨name.toList, "1".toList, "h".toList, false, "/".toList, false, secure, none, []⟩
    let jar := Jar.ofList [cookie "a" true, cookie "b" false]
    let sockets := (stages ⟨⟨[], none, none, none⟩, "GET".toList, url, 5, .still 0⟩
      (start (.ofScripts [⟨[], none, none, none⟩] []) (some jar) .empty)).flatMap Stage.sockets
    sockets.map Socket.isWrapped = [false] ∧ sockets.map Socket.offered =
      [[Utf8.encode "GET / HTTP/1.1\r\nHost: h\r\nCookie: b=1\r\n\r\n".toList]] := by
  decide +kernel

end Exchange

end HttpFetch
