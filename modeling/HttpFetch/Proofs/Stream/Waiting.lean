import HttpFetch.Proofs.Stream.Supply

/-!
# When data is asked for

A peer that keeps its connection open sends nothing after a message, so a client that asks for data
once the message has arrived waits for ever.  `Socket.Receives` follows a socket over which a
message arrives, then some more octets, and then whatever may come: nothing is lost, and data is
asked for only while a part of the message is missing.  Every reading step that takes no more than
the message keeps this up, since it fills the buffer only while what it takes is not all there.
-/

namespace HttpFetch

namespace SocketEvent

/-- The octets that a call received. -/
def octets : SocketEvent → Bytes
  | receive _ (some octets) => octets
  | _ => []

def received (events : List SocketEvent) : Bytes := events.flatMap octets

theorem received_concat (events : List SocketEvent) (event : SocketEvent) :
    received (events ++ [event]) = received events ++ event.octets := by
  rw [received, received, List.flatMap_append, List.flatMap_singleton]

theorem octets_of_not_receive {event : SocketEvent}
    (h : ∀ size got, event ≠ .receive size got) : event.octets = [] := by
  cases event with
  | receive size got => exact absurd rfl (h size got)
  | setTimeout | connect | wrap | send | close => rfl

/-- A call among others and one more is the last of them or one of the others. -/
theorem split_concat {events earlier later : List SocketEvent} {event found : SocketEvent}
    (h : events ++ [event] = earlier ++ found :: later) :
    (later = [] ∧ earlier = events ∧ found = event) ∨
      ∃ between, later = between ++ [event] ∧ events = earlier ++ found :: between := by
  rcases List.eq_nil_or_concat later with rfl | ⟨between, last, rfl⟩
  · obtain ⟨rfl, hlast⟩ := List.append_inj' h rfl
    exact Or.inl ⟨rfl, rfl, (List.singleton_inj.mp hlast).symm⟩
  · rw [List.concat_eq_append, ← List.cons_append, ← List.append_assoc] at h
    obtain ⟨hevents, hlast⟩ := List.append_inj' h rfl
    rw [List.concat_eq_append, List.singleton_inj.mp hlast]
    exact Or.inr ⟨between, rfl, hevents⟩

/-- Data was asked for only while a part of a message had not been received. -/
def Punctual (message : Bytes) (events : List SocketEvent) : Prop :=
  ∀ earlier size got later, events = earlier ++ .receive size got :: later →
    received earlier <+: message ∧ received earlier ≠ message

theorem punctual_nil (message : Bytes) : Punctual message [] := by
  intro earlier size got later hsplit
  simp at hsplit

theorem Punctual.concat {message : Bytes} {events : List SocketEvent}
    (h : Punctual message events) {event : SocketEvent}
    (hevent : ∀ size got, event = .receive size got →
      received events <+: message ∧ received events ≠ message) :
    Punctual message (events ++ [event]) := by
  intro earlier size got later hsplit
  rcases split_concat hsplit with ⟨-, rfl, hlast⟩ | ⟨between, -, hevents⟩
  · exact hevent size got hlast.symm
  · exact h earlier size got between hevents

end SocketEvent

variable {past : List SocketEvent} {message more : Bytes}

namespace Socket

/-- Items of data are taken one after the other, whatever comes after them. -/
theorem take_items {size : Nat} (hsize : 0 < size) {items : List Bytes}
    (hitems : items.flatten ≠ []) (later : List Arrival) :
    ∃ (got : Bytes) (items' : List Bytes),
      take size (items.map .data ++ later) = (.ok got, items'.map .data ++ later) ∧
      got ≠ [] ∧ got ++ items'.flatten = items.flatten := by
  induction items with
  | nil => exact absurd rfl hitems
  | cons item items ih =>
      cases item with
      | nil => exact ih hitems
      | cons b octets =>
          have hgot : (b :: octets).take size ≠ [] := by
            simp only [ne_eq, List.take_eq_nil_iff, not_or]
            exact ⟨by omega, List.cons_ne_nil _ _⟩
          by_cases hleft : ((b :: octets).drop size).isEmpty = true
          · have hall : (b :: octets).take size = b :: octets := by
              rw [List.take_eq_self_iff]
              simpa using hleft
            refine ⟨_, items, ?_, hgot, by rw [hall, List.flatten_cons]⟩
            simp only [List.map_cons, List.cons_append, take, if_pos hleft]
          · refine ⟨_, (b :: octets).drop size :: items, ?_, hgot, ?_⟩
            · simp only [List.map_cons, List.cons_append, take, if_neg hleft]
            · rw [List.flatten_cons, ← List.append_assoc, List.take_append_drop, List.flatten_cons]

/-- A socket over which a message arrives and more octets after it: of these some are still coming,
and since a point in its past it asked for data only while a part of the message was missing. -/
structure Receives (past : List SocketEvent) (message more : Bytes) (socket : Socket)
    (coming : Bytes) : Prop where
  arrivals : ∃ (items : List Bytes) (later : List Arrival), items.flatten = coming ∧
    socket.script.arrivals = items.map .data ++ later
  history : ∃ events, socket.history = past ++ events ∧
    SocketEvent.received events ++ coming = message ++ more ∧ SocketEvent.Punctual message events

namespace Receives

variable {socket : Socket} {coming : Bytes}

theorem record (h : socket.Receives past message more coming) {event : SocketEvent}
    (hquiet : ∀ size got, event ≠ .receive size got) :
    (socket.record event).Receives past message more coming := by
  obtain ⟨events, hhistory, hreceived, hpunctual⟩ := h.history
  refine ⟨h.arrivals, events ++ [event], ?_, ?_, ?_⟩
  · rw [← List.append_assoc, ← hhistory]
    rfl
  · rw [SocketEvent.received_concat, SocketEvent.octets_of_not_receive hquiet, List.append_nil,
      hreceived]
  · exact hpunctual.concat fun size got hevent => absurd hevent (hquiet size got)

theorem setTimeout (h : socket.Receives past message more coming) (seconds : Option Double) :
    (socket.setTimeout seconds).Receives past message more coming :=
  h.record fun _ _ hevent => by cases hevent

theorem close (h : socket.Receives past message more coming) :
    socket.close.Receives past message more coming :=
  h.record fun _ _ hevent => by cases hevent

theorem receive (h : socket.Receives past message more coming)
    (hmissing : more.length < coming.length) {size : Nat} (hsize : 0 < size) :
    ∃ got coming' socket', Socket.receive size socket = .ok got socket' ∧ got ≠ [] ∧
      got ++ coming' = coming ∧ socket'.Receives past message more coming' := by
  obtain ⟨items, later, rfl, harrivals⟩ := h.arrivals
  obtain ⟨events, hhistory, hreceived, hpunctual⟩ := h.history
  have hne : items.flatten ≠ [] := List.ne_nil_of_length_pos (by omega)
  obtain ⟨got, items', htake, hgot, hflatten⟩ := take_items hsize hne later
  have hlength : (SocketEvent.received events).length < message.length := by
    have := congrArg List.length hreceived
    rw [List.length_append, List.length_append] at this
    omega
  have hbegins : SocketEvent.received events <+: message :=
    List.prefix_of_prefix_length_le ⟨_, hreceived⟩ (List.prefix_append message more) hlength.le
  refine ⟨got, items'.flatten,
    (socket.withArrivals (items'.map .data ++ later)).record (.receive size (some got)), ?_, hgot,
    hflatten, ⟨items', later, rfl, rfl⟩, events ++ [.receive size (some got)], ?_, ?_, ?_⟩
  · rw [Socket.receive, harrivals, htake]
  · rw [← List.append_assoc, ← hhistory]
    rfl
  · rw [SocketEvent.received_concat, List.append_assoc, ← hreceived, ← hflatten]
    rfl
  · refine hpunctual.concat fun _ _ _ => ⟨hbegins, fun heq => ?_⟩
    rw [heq] at hlength
    exact lt_irrefl _ hlength

end Receives

end Socket

namespace Reader

/-- A reader over such a socket: what it has buffered and what is coming lie ahead of it. -/
structure Receives (past : List SocketEvent) (message more : Bytes) (reader : Reader)
    (ahead : Bytes) : Prop where
  not_ended : reader.ended = false
  socket : ∃ coming, reader.transport.socket.Receives past message more coming ∧
    reader.buffer ++ coming = ahead

namespace Receives

variable {reader : Reader} {ahead : Bytes}

theorem buffer_prefix (h : reader.Receives past message more ahead) : reader.buffer <+: ahead := by
  obtain ⟨coming, -, hahead⟩ := h.socket
  exact ⟨coming, hahead⟩

/-- While a part of the message is missing, filling brings some of it. -/
theorem fill (h : reader.Receives past message more ahead)
    (hmissing : reader.buffer.length + more.length < ahead.length) :
    ∃ reader', Reader.fill reader = .ok true reader' ∧
      reader'.Receives past message more ahead ∧ reader'.buffer ≠ [] := by
  obtain ⟨coming, hsocket, rfl⟩ := h.socket
  rw [List.length_append] at hmissing
  obtain ⟨got, coming', socket, hreceive, hgot, rfl, hrest⟩ :=
    (hsocket.setTimeout reader.transport.readTimeout).receive (by omega)
      (show 0 < readChunkSize by decide)
  have hread : reader.transport.read readChunkSize =
      .ok got (reader.transport.withSocket socket) := by
    simp only [Transport.read, hreceive]
  unfold Reader.fill
  rw [if_neg (by simp [h.not_ended]), hread]
  cases got with
  | nil => exact absurd rfl hgot
  | cons b got =>
      refine ⟨_, rfl, ⟨h.not_ended, coming', hrest, ?_⟩, by simp⟩
      exact List.append_assoc ..

theorem takeBuffered (h : reader.Receives past message more ahead) {count : Nat}
    (hcount : count ≤ reader.buffer.length) :
    ∃ reader', Reader.takeBuffered count reader = .ok (ahead.take count) reader' ∧
      reader'.Receives past message more (ahead.drop count) := by
  obtain ⟨coming, hsocket, rfl⟩ := h.socket
  refine ⟨reader.withBuffer (reader.buffer.drop count), ?_, h.not_ended, coming, hsocket, ?_⟩
  · rw [List.take_append_of_le_length hcount]
    rfl
  · rw [List.drop_append_of_le_length hcount]
    rfl

/-- A line of the message within the limit is read whole. -/
theorem readLine (h : reader.Receives past message more ahead) (hline : (10 : UInt8) ∈ ahead)
    {limit : Int} (hlimit : (Bytes.firstLine ahead).length ≤ limit)
    (hmessage : more.length ≤ (Bytes.afterLine ahead).length) :
    ∃ reader', Reader.readLine limit reader = .ok (Bytes.firstLine ahead) reader' ∧
      reader'.Receives past message more (Bytes.afterLine ahead) := by
  have hlength := Bytes.length_afterLine ahead
  -- A buffer without a line feed is shorter than the line, so some of the message is missing.
  have hshort : ∀ reader : Reader, reader.Receives past message more ahead →
      lineLength? reader.buffer = none →
      reader.buffer.length < (Bytes.firstLine ahead).length := by
    intro reader h hnone
    obtain ⟨rest, rfl⟩ := h.buffer_prefix
    have hbuffer : (10 : UInt8) ∉ reader.buffer := by
      intro hmem
      rw [Bytes.lineLength_eq, if_pos hmem] at hnone
      cases hnone
    exact Bytes.length_lt_firstLine_append hbuffer ((List.mem_append.mp hline).resolve_left hbuffer)
  fun_induction Reader.readLine limit reader with
  | case1 reader count hcount =>
      rw [Bytes.lineLength_eq] at hcount
      split at hcount
      next hmem =>
        injection hcount with hcount
        obtain ⟨rest, hrest⟩ := h.buffer_prefix
        have hfirst := Bytes.firstLine_append_of_mem hmem rest
        rw [hrest] at hfirst
        have hbuffered := Bytes.length_afterLine reader.buffer
        obtain ⟨reader', htake, hafter⟩ := h.takeBuffered (show count ≤ _ by omega)
        have hsplit := Bytes.firstLine_append_afterLine ahead
        refine ⟨reader', ?_, ?_⟩
        · rw [htake, ← hcount, ← hfirst.1]
          congr 1
          exact (List.prefix_iff_eq_take.mp ⟨_, hsplit⟩).symm
        · have hdrop : ahead.drop count = Bytes.afterLine ahead := by
            conv_lhs => rw [← hsplit, ← hcount, ← hfirst.1]
            exact List.drop_left
          rwa [hdrop] at hafter
      next => cases hcount
  | case2 reader hnone hfull =>
      have := hshort reader h hnone
      omega
  | case3 reader hnone hroom filled hfill ih =>
      have hmissing := hshort reader h hnone
      obtain ⟨reader', hfill', hkept, -⟩ := h.fill (by omega)
      rw [hfill] at hfill'
      cases hfill'
      exact ih hkept
  | case4 reader hnone hroom all hfill =>
      have hmissing := hshort reader h hnone
      obtain ⟨reader', hfill', -⟩ := h.fill (by omega)
      rw [hfill] at hfill'
      cases hfill'
  | case5 reader hnone hroom failure reader' hfill =>
      have hmissing := hshort reader h hnone
      obtain ⟨reader', hfill', -⟩ := h.fill (by omega)
      rw [hfill] at hfill'
      cases hfill'

/-- At most `size` octets of the message are read at once, and some while it has them. -/
theorem readSome (h : reader.Receives past message more ahead) {size : Nat} (hsize : 0 < size)
    (hmessage : size + more.length ≤ ahead.length) :
    ∃ got ahead' reader', Reader.readSome size reader = .ok got reader' ∧ got ≠ [] ∧
      got ++ ahead' = ahead ∧ got.length ≤ size ∧
      reader'.Receives past message more ahead' := by
  have hfilled : ∀ filled : Reader, filled.Receives past message more ahead →
      filled.buffer ≠ [] →
      ∃ got ahead' reader', Reader.takeBuffered size filled = .ok got reader' ∧ got ≠ [] ∧
        got ++ ahead' = ahead ∧ got.length ≤ size ∧
        reader'.Receives past message more ahead' := by
    intro filled h hbuffer
    obtain ⟨coming, hsocket, rfl⟩ := h.socket
    refine ⟨_, filled.buffer.drop size ++ coming, _, rfl, ?_, ?_, ?_, h.not_ended, coming, hsocket,
      rfl⟩
    · simp only [ne_eq, List.take_eq_nil_iff, not_or]
      exact ⟨by omega, hbuffer⟩
    · rw [← List.append_assoc, List.take_append_drop]
    · rw [List.length_take]
      omega
  unfold Reader.readSome
  split
  next hempty =>
    have hbuffer := List.isEmpty_iff.mp hempty
    obtain ⟨filled, hfill, hkept, hsome⟩ := h.fill (by simp only [hbuffer, List.length_nil]; omega)
    rw [hfill]
    exact hfilled filled hkept hsome
  next hfull => exact hfilled reader h (fun hnone => hfull (List.isEmpty_iff.mpr hnone))

theorem readBlock (h : reader.Receives past message more ahead) {missing : Nat} (got : Bytes)
    (hmessage : missing + more.length ≤ ahead.length) :
    ∃ reader', Reader.readBlock missing got reader = .ok (got ++ ahead.take missing) reader' ∧
      reader'.Receives past message more (ahead.drop missing) := by
  fun_induction Reader.readBlock missing got reader generalizing ahead with
  | case1 got reader => exact ⟨reader, by simp, h⟩
  | case2 missing got reader hmissing reader' hread =>
      obtain ⟨piece, ahead', after, hread', hpiece, -⟩ := h.readSome (by omega) hmessage
      rw [hread] at hread'
      cases hread'
      exact absurd rfl hpiece
  | case3 missing got reader hmissing b octets reader' hread ih =>
      obtain ⟨piece, ahead', after, hread', -, rfl, hle, hrest⟩ := h.readSome (by omega) hmessage
      rw [hread] at hread'
      cases hread'
      rw [List.length_append] at hmessage
      rw [List.length_cons] at hle hmessage
      have hall : (b :: octets).length ≤ missing := hle
      obtain ⟨reader'', hblock, hend⟩ := ih hrest (by omega)
      refine ⟨reader'', ?_, ?_⟩
      · rw [hblock, List.take_append, (List.take_eq_self_iff _).mpr hall, ← List.append_assoc]
        rfl
      · rw [List.drop_append, List.drop_eq_nil_iff.mpr hall]
        exact hend
  | case4 missing got reader hmissing failure reader' hread =>
      obtain ⟨piece, ahead', after, hread', -⟩ := h.readSome (by omega) hmessage
      rw [hread] at hread'
      cases hread'

end Receives

end Reader

end HttpFetch
