import HttpFetch.Proofs.Exchange.Budget
import HttpFetch.Proofs.Exchange.Keeping
import Mathlib.Data.Nat.Bitwise

/-!
# Timeouts of the calls on a socket

A request has three timeouts, one for connecting, one for reading and one for writing, and a socket
has one at a time.  `SocketEvent.Paced` says of all calls on a socket that each ran under its own:
the timeout is set right before the call, is taken off again once the socket is connected, and is
never a number that is not positive.  `Exchange.run_paced` says so of every socket that a chain
opens, plain or over TLS, whatever fails on the way, and of the connection of a response for as long
as it is used.
-/

namespace HttpFetch

/-! ## Positive numbers -/

namespace Double

/-- Whether a double is a number above zero. -/
def isPositive (x : Double) : Bool := 0 < x.bits && x.bits ≤ infinity.bits

/-- A timeout, if it is a positive number. -/
def positive? (timeout : Option Double) : Option Double := timeout.filter isPositive

theorem toNat_magnitude (x : Double) : x.magnitude.toNat = x.bits.toNat % 2 ^ 63 := by
  have hmask : (signBit - 1).toNat = 2 ^ 63 - 1 := rfl
  rw [magnitude, UInt64.toNat_and, hmask, Nat.and_two_pow_sub_one_eq_mod]

theorem and_signBit_eq_zero (x : Double) : x.bits &&& signBit = 0 ↔ x.bits.toNat < 2 ^ 63 := by
  have hbound := x.bits.toNat_lt
  have hsign : signBit.toNat = 2 ^ 63 := rfl
  rw [← UInt64.toNat_inj, UInt64.toNat_and, hsign, Nat.and_two_pow,
    Nat.testBit_eq_decide_div_mod_eq, UInt64.toNat_zero]
  by_cases hhigh : x.bits.toNat / 2 ^ 63 % 2 = 1
  · simp only [hhigh, decide_true, Bool.toNat_true]
    omega
  · simp only [hhigh, decide_false, Bool.toNat_false]
    omega

/-- A number that is not positive is zero or less. -/
theorem isAtMostZero_eq {x : Double} (h : x.isNumber = true) :
    x.isAtMostZero = !x.isPositive := by
  have hmagnitude := x.toNat_magnitude
  have hsign := x.and_signBit_eq_zero
  have hinfinity : infinity.bits.toNat = infinityBits := rfl
  have hzero : x.magnitude = 0 ↔ x.bits.toNat % 2 ^ 63 = 0 := by
    rw [← UInt64.toNat_inj, hmagnitude, UInt64.toNat_zero]
  rw [isAtMostZero, h, Bool.true_and, Bool.eq_iff_iff]
  rw [isNumber, decide_eq_true_eq, UInt64.le_iff_toNat_le, hmagnitude, hinfinity, infinityBits] at h
  simp only [isPositive, Bool.or_eq_true, decide_eq_true_eq, bne_iff_ne, ne_eq, Bool.not_eq_true',
    Bool.and_eq_false_iff, decide_eq_false_iff_not, UInt64.lt_iff_toNat_lt,
    UInt64.le_iff_toNat_le, hzero, hsign, hinfinity, UInt64.toNat_zero, infinityBits]
  omega

/-- Of numbers the positive ones take effect as timeouts. -/
theorem effectiveTimeout_eq {timeout : Option Double}
    (h : ∀ seconds, timeout = some seconds → seconds.isNumber = true) :
    effectiveTimeout timeout = positive? timeout := by
  cases timeout with
  | none => rfl
  | some seconds =>
      rw [effectiveTimeout, isAtMostZero_eq (h seconds rfl), positive?, Option.filter]
      cases seconds.isPositive <;> rfl

theorem isPositive_of_positive? {timeout : Option Double} {seconds : Double}
    (h : positive? timeout = some seconds) : seconds.isPositive = true :=
  (Option.filter_eq_some_iff.mp h).2

end Double

/-! ## Paced calls -/

namespace SocketEvent

open Double (positive?)

/-- The calls on one socket under the timeouts of a request: no timeout is set that is not positive;
before connecting the timeout for it is set, if it is positive, and nothing else is done; connected,
the socket first has its timeout taken off; and each call to receive or to send comes right after
the timeout for it was set, or taken off if that is not positive. -/
structure Paced (request : Request) (events : List SocketEvent) : Prop where
  positive : ∀ seconds, .setTimeout (some seconds) ∈ events → seconds.isPositive = true
  connects : ∀ earlier address succeeded later,
    events = earlier ++ .connect address succeeded :: later →
      earlier = (positive? request.connectTimeout).toList.map fun seconds =>
        .setTimeout (some seconds)
  connected : ∀ earlier address later, events = earlier ++ .connect address true :: later →
    later.head? = some (.setTimeout none)
  receives : ∀ earlier size got later, events = earlier ++ .receive size got :: later →
    earlier.getLast? = some (.setTimeout (positive? request.readTimeout))
  sends : ∀ earlier octets succeeded later, events = earlier ++ .send octets succeeded :: later →
    earlier.getLast? = some (.setTimeout (positive? request.writeTimeout))

def setsTimeout : SocketEvent → Bool
  | setTimeout _ => true
  | _ => false

/-- Among calls that set timeouts, any other call is the one that they surround. -/
theorem split_among {before after earlier later : List SocketEvent} {event found : SocketEvent}
    (hbefore : ∀ call ∈ before, call.setsTimeout = true)
    (hafter : ∀ call ∈ after, call.setsTimeout = true) (hfound : found.setsTimeout = false)
    (h : before ++ event :: after = earlier ++ found :: later) :
    earlier = before ∧ found = event ∧ later = after := by
  rcases List.append_eq_append_iff.mp h with ⟨between, rfl, hrest⟩ | ⟨between, rfl, hrest⟩
  · cases between with
    | nil =>
        cases hrest
        exact ⟨List.append_nil _, rfl, rfl⟩
    | cons first between =>
        injection hrest with _ hlater
        have hset := hafter found (by simp [hlater])
        exact absurd (hfound.symm.trans hset) Bool.false_ne_true
  · cases between with
    | nil =>
        cases hrest
        exact ⟨(List.append_nil _).symm, rfl, rfl⟩
    | cons first between =>
        injection hrest with hfirst _
        have hset := hbefore found (by simp [hfirst])
        exact absurd (hfound.symm.trans hset) Bool.false_ne_true

/-- Whether a call other than connecting may be the next one. -/
def Follows (request : Request) (earlier : List SocketEvent) : SocketEvent → Prop
  | setTimeout seconds => ∀ s, seconds = some s → s.isPositive = true
  | connect .. => False
  | receive .. => earlier.getLast? = some (.setTimeout (positive? request.readTimeout))
  | send .. => earlier.getLast? = some (.setTimeout (positive? request.writeTimeout))
  | wrap .. | close => True

namespace Paced

variable {request : Request} {events : List SocketEvent}

theorem concat (h : Paced request events) {event : SocketEvent}
    (hfollows : Follows request events event) : Paced request (events ++ [event]) where
  positive := by
    intro seconds hmem
    rcases List.mem_append.mp hmem with hold | hnew
    · exact h.positive seconds hold
    · cases List.mem_singleton.mp hnew
      exact hfollows seconds rfl
  connects := by
    intro earlier address succeeded later hsplit
    rcases split_concat hsplit with ⟨-, -, rfl⟩ | ⟨between, -, hevents⟩
    · exact absurd hfollows id
    · exact h.connects _ _ _ _ hevents
  connected := by
    intro earlier address later hsplit
    rcases split_concat hsplit with ⟨-, -, rfl⟩ | ⟨between, rfl, hevents⟩
    · exact absurd hfollows id
    · have hhead := h.connected _ _ _ hevents
      rw [List.head?_append, hhead]
      rfl
  receives := by
    intro earlier size got later hsplit
    rcases split_concat hsplit with ⟨-, rfl, rfl⟩ | ⟨between, -, hevents⟩
    · exact hfollows
    · exact h.receives _ _ _ _ hevents
  sends := by
    intro earlier octets succeeded later hsplit
    rcases split_concat hsplit with ⟨-, rfl, rfl⟩ | ⟨between, -, hevents⟩
    · exact hfollows
    · exact h.sends _ _ _ _ hevents

theorem closing (h : Paced request events) {closing : List SocketEvent}
    (hclosing : closing = [] ∨ closing = [.close]) : Paced request (events ++ closing) := by
  rcases hclosing with rfl | rfl
  · rwa [List.append_nil]
  · exact h.concat trivial

/-- A call right after the setting of a timeout. -/
theorem call (h : Paced request events) {timeout : Option Double} {event : SocketEvent}
    (hfollows : Follows request (events ++ [.setTimeout (positive? timeout)]) event) :
    Paced request (events ++ [.setTimeout (positive? timeout), event]) := by
  have hset : Paced request (events ++ [.setTimeout (positive? timeout)]) :=
    h.concat fun _ => Double.isPositive_of_positive?
  have hcall := hset.concat hfollows
  rwa [List.append_assoc] at hcall

/-- A connection under its timeout, up to where the socket is connected or not. -/
theorem connection (request : Request) (address : Address) (succeeded : Bool) :
    Paced request (((positive? request.connectTimeout).toList.map fun seconds =>
        .setTimeout (some seconds)) ++
      .connect address succeeded :: if succeeded then [.setTimeout none] else []) := by
  have hbefore : ∀ event ∈ (positive? request.connectTimeout).toList.map fun seconds =>
      SocketEvent.setTimeout (some seconds), event.setsTimeout = true := by
    simp [setsTimeout]
  have hafter : ∀ event ∈ if succeeded then [SocketEvent.setTimeout none] else [],
      event.setsTimeout = true := by
    cases succeeded <;> simp [setsTimeout]
  constructor
  · intro seconds hmem
    rcases List.mem_append.mp hmem with hset | hconnect
    · obtain ⟨_, htimeout, heq⟩ := List.mem_map.mp hset
      cases heq
      exact Double.isPositive_of_positive? (Option.mem_toList.mp htimeout)
    · cases succeeded <;> simp at hconnect
  · intro earlier address' succeeded' later hsplit
    exact (split_among hbefore hafter rfl hsplit).1
  · intro earlier address' later hsplit
    obtain ⟨-, hconnect, rfl⟩ := split_among hbefore hafter rfl hsplit
    cases hconnect
    rfl
  · intro earlier size got later hsplit
    cases (split_among hbefore hafter rfl hsplit).2.1
  · intro earlier octets succeeded' later hsplit
    cases (split_among hbefore hafter rfl hsplit).2.1

theorem of_dialling
    (heffective : effectiveTimeout request.connectTimeout = positive? request.connectTimeout)
    (h : Dialling request.connectTimeout events) : Paced request events := by
  have htiming : timing request.connectTimeout =
      (positive? request.connectTimeout).toList.map fun seconds => .setTimeout (some seconds) := by
    rw [timing, heffective]
  cases h with
  | refused address hclosing =>
      have hpaced := (connection request address false).closing hclosing
      rw [← htiming, List.append_assoc] at hpaced
      exact hpaced
  | connected address =>
      rw [htiming]
      exact connection request address true
  | wrapped address serverName succeeded hclosing =>
      have hconnected := connection request address true
      have hwrapped :=
        hconnected.concat (show Follows request _ (.wrap serverName succeeded) from trivial)
      have hpaced := hwrapped.closing hclosing
      rw [← htiming, List.append_assoc, List.append_assoc] at hpaced
      exact hpaced

end Paced

end SocketEvent

/-! ## The chain -/

open Double (positive?)

/-- A connection with the timeouts of a request, under which it has been called so far. -/
structure Transport.KeepsPace (request : Request) (transport : Transport) : Prop where
  readTimeout_eq : transport.readTimeout = positive? request.readTimeout
  writeTimeout_eq : transport.writeTimeout = positive? request.writeTimeout
  paced : SocketEvent.Paced request transport.socket.history

namespace Transport

theorem left_read (size : Nat) (transport : Transport) :
    Step.left (transport.read size) =
      transport.withSocket (Step.left (transport.read size)).socket := by
  unfold read
  split
  next => rfl
  next => split <;> rfl
  next => rfl

theorem left_write (octets : Bytes) (transport : Transport) :
    Step.left (transport.write octets) =
      transport.withSocket (Step.left (transport.write octets)).socket := by
  unfold write
  split <;> rfl

namespace KeepsPace

variable {request : Request}

theorem read (size : Nat) :
    Step.Keeps (KeepsPace request) (fun _ => True) (Transport.read size) := by
  apply Step.Keeps.of_left
  intro transport h
  obtain ⟨got, hhistory, -⟩ := transport.read_history size
  rw [left_read]
  refine ⟨h.readTimeout_eq, h.writeTimeout_eq, ?_⟩
  change SocketEvent.Paced request (Step.left (transport.read size)).socket.history
  rw [hhistory, h.readTimeout_eq]
  exact h.paced.call List.getLast?_concat

theorem write (octets : Bytes) :
    Step.Keeps (KeepsPace request) (fun _ => True) (Transport.write octets) := by
  apply Step.Keeps.of_left
  intro transport h
  obtain ⟨succeeded, hhistory⟩ := transport.history_write octets
  rw [left_write]
  refine ⟨h.readTimeout_eq, h.writeTimeout_eq, ?_⟩
  change SocketEvent.Paced request (Step.left (transport.write octets)).socket.history
  rw [hhistory, h.writeTimeout_eq]
  exact h.paced.call List.getLast?_concat

theorem close {transport : Transport} (h : transport.KeepsPace request) :
    transport.close.KeepsPace request :=
  ⟨h.readTimeout_eq, h.writeTimeout_eq, h.paced.concat trivial⟩

end KeepsPace

end Transport

/-- A network in which all sockets given up since a point in its past were called at the pace of a
request. -/
def Network.KeepsPace (request : Request) (past : List Socket) (network : Network) : Prop :=
  ∃ created, network.sockets = past ++ created ∧
    ∀ socket ∈ created, SocketEvent.Paced request socket.history

namespace Network.KeepsPace

variable {request : Request} {past : List Socket} {network : Network}

theorem retire (h : network.KeepsPace request past) {socket : Socket}
    (hpaced : SocketEvent.Paced request socket.history) :
    (network.retire socket).KeepsPace request past := by
  obtain ⟨created, hsockets, hall⟩ := h
  refine ⟨created ++ [socket], ?_, ?_⟩
  · rw [← List.append_assoc, ← hsockets]
    rfl
  · rw [List.forall_mem_append, List.forall_mem_singleton]
    exact ⟨hall, hpaced⟩

theorem of_opens (h : network.KeepsPace request past) {after : Network} {retired : List Socket}
    {opened : Nat} (hopens : network.Opens retired opened after)
    (hpaced : ∀ socket ∈ retired, SocketEvent.Paced request socket.history) :
    after.KeepsPace request past := by
  obtain ⟨created, hsockets, hall⟩ := h
  refine ⟨created ++ retired, ?_, List.forall_mem_append.mpr ⟨hall, hpaced⟩⟩
  rw [hopens.sockets_eq, hsockets, List.append_assoc]

end Network.KeepsPace

/-- The timeouts of a request are numbers where there are any. -/
def Request.HasNumbers (request : Request) : Prop :=
  ∀ seconds, some seconds ∈ [request.connectTimeout, request.readTimeout, request.writeTimeout] →
    seconds.isNumber = true

theorem Request.HasNumbers.effective {request : Request} (h : request.HasNumbers)
    {timeout : Option Double}
    (hmem : timeout ∈ [request.connectTimeout, request.readTimeout, request.writeTimeout]) :
    effectiveTimeout timeout = positive? timeout := by
  apply Double.effectiveTimeout_eq
  rintro seconds rfl
  exact h seconds hmem

namespace Exchange

/-- The pace of a request is kept by all that a chain does for it. -/
theorem pace_invariant {request : Request} (hnumbers : request.HasNumbers) (past : List Socket) :
    Invariant request (Network.KeepsPace request past) (Transport.KeepsPace request)
      (fun _ => True) fun _ => True where
  connect_ok url network transport after hnetwork hconnect := by
    have hattempts := Network.connect_attempts request url network
    rw [hconnect] at hattempts
    cases hattempts with
    | opened hlater hcalls hscript hmade =>
        obtain ⟨rfl, -, -⟩ := hmade
        refine ⟨hnetwork.of_opens hlater.toOpens (by simp), hnumbers.effective (by simp),
          hnumbers.effective (by simp), ?_⟩
        exact .of_dialling (hnumbers.effective (by simp)) hcalls
  connect_error url network failure after hnetwork hconnect := by
    have hattempts := Network.connect_attempts request url network
    rw [hconnect] at hattempts
    refine ⟨?_, trivial⟩
    cases hattempts with
    | unopened hlater hthrows => exact hnetwork.of_opens hlater.toOpens (by simp)
    | abandoned hlater hcalls hunused hthrows =>
        apply hnetwork.of_opens hlater.toOpens
        rw [List.forall_mem_singleton]
        exact .of_dialling (hnumbers.effective (by simp)) hcalls
  note _ _ _ hnetwork := hnetwork
  retire _ _ hnetwork htransport := hnetwork.retire htransport.paced
  read := Transport.KeepsPace.read readChunkSize
  write := Transport.KeepsPace.write
  close _ htransport := htransport.close
  consume := .of_left fun _ _ => trivial
  take := .of_left fun _ _ => trivial
  empty := trivial
  own _ _ := trivial

/-- The network that a chain leaves when its response, if it has one, is used for a while, and the
connection of the response is among its sockets as the uses leave it. -/
def settledAfter (uses : List Reading.Use) :
    EStateM.Result Failure Exchange Response → Network
  | .ok response exchange =>
    exchange.network.retire
      (Reading.afterUses uses (.ofResponse response)).response.reader.transport.socket
  | .error _ exchange => exchange.network

/-- Uses of a response open no connection. -/
theorem settledAfter_opens (hop : Hop) (exchange : Exchange) (uses : List Reading.Use) :
    ∃ created : List Socket, exchange.network.Opens created created.length
      (settledAfter uses (run hop exchange)) := by
  cases hrun : run hop exchange with
  | error failure after =>
      obtain ⟨unused, hopens, -⟩ := run_opens hop exchange
      rw [hrun, settled, ← List.length_map (f := Visit.socket), ← List.length_append] at hopens
      exact ⟨_, hopens⟩
  | ok response after =>
      obtain ⟨followed, last, hcompletes⟩ := completes_of_ok hrun
      have hsockets : after.network.sockets =
          exchange.network.sockets ++ followed.map Visit.socket := by
        have hall := hcompletes.opens.sockets_eq
        rw [List.map_append, List.map_singleton, ← List.append_assoc] at hall
        exact List.append_cancel_right hall
      have hscripts := hcompletes.opens.scripts_eq
      refine ⟨followed.map Visit.socket ++
        [(Reading.afterUses uses (.ofResponse response)).response.reader.transport.socket], ?_, ?_⟩
      · rw [← List.append_assoc, ← hsockets]
        rfl
      · rw [List.length_append, List.length_map, List.length_singleton]
        exact hscripts

/-- Every call on every socket that a chain opens runs under the timeout of the request that is for
it, and so do those of any later use of its response. -/
theorem run_paced (hop : Hop) (exchange : Exchange) (hnumbers : hop.request.HasNumbers)
    (uses : List Reading.Use) :
    ∃ created : List Socket,
      exchange.network.Opens created created.length (settledAfter uses (run hop exchange)) ∧
      ∀ socket ∈ created, SocketEvent.Paced hop.request socket.history := by
  have hinvariant := pace_invariant hnumbers exchange.network.sockets
  have hstart : exchange.network.KeepsPace hop.request exchange.network.sockets :=
    ⟨[], (List.append_nil _).symm, by simp⟩
  have hrun := hinvariant.run rfl hstart trivial
  obtain ⟨created, hopens⟩ := settledAfter_opens hop exchange uses
  have hkeeps : (settledAfter uses (run hop exchange)).KeepsPace hop.request
      exchange.network.sockets := by
    cases hresult : run hop exchange with
    | error failure after =>
        rw [hresult] at hrun
        exact hrun.1
    | ok response after =>
        rw [hresult] at hrun
        have hreader : (Reading.afterUses uses
            (.ofResponse response)).response.reader.transport.KeepsPace hop.request :=
          hinvariant.reader.uses hinvariant.closeReader uses hrun.2
        exact hrun.1.retire hreader.paced
  obtain ⟨created', hsockets, hall⟩ := hkeeps
  rw [hopens.sockets_eq, List.append_cancel_left_eq] at hsockets
  subst hsockets
  exact ⟨created, hopens, hall⟩

/-- A redirect and the response behind it, read whole: two connections, and only the timeout for
reading is positive. -/
theorem run_paced_redirected :
    let request : Request := ⟨[], some (Double.ofRatio 0 1), some (Double.ofRatio 5 2), none⟩
    let hop : Hop := { Hop.root "h".toList with request := request }
    let exchange : Exchange := .start (.ofScripts [roundabout,
      ⟨[.data (Utf8.encode "HTTP/1.1 200 OK\r\n\r\nhello".toList)], none, none, none⟩] [])
        none .empty
    request.HasNumbers ∧
      ∃ created : List Socket,
        exchange.network.Opens created 2 (settledAfter [.read] (run hop exchange)) ∧
        ∀ socket ∈ created, SocketEvent.Paced request socket.history := by
  intro request hop exchange
  have hnumbers : request.HasNumbers := by
    intro seconds hmem
    simp only [request, List.mem_cons, Option.some.injEq, reduceCtorEq, List.not_mem_nil,
      or_false] at hmem
    rcases hmem with rfl | rfl
    · rfl
    · rfl
  obtain ⟨created, hopens, hpaced⟩ := run_paced hop exchange hnumbers [.read]
  have htwo : (settledAfter [.read] (run hop exchange)).sockets.length = 2 := by decide +kernel
  have hlength : created.length = 2 := by
    rwa [hopens.sockets_eq, show exchange.network.sockets = [] from rfl, List.nil_append] at htwo
  rw [hlength] at hopens
  exact ⟨hnumbers, created, hopens, hpaced⟩

end Exchange

end HttpFetch
