import HttpFetch.Proofs.Stream.Keeping

/-!
# What reading and writing leave alone

Between its connection and its end a socket is only read from and written to.  Such calls are
neither a connection nor a closing, and what they add to the octets sent is known: nothing for a
read or for a send that fails, the octets themselves for a send that succeeds.
-/

namespace HttpFetch

/-- The failure that a step ends with, if it does. -/
def Step.failure? {σ α : Type} : EStateM.Result Failure σ α → Option Failure
  | .ok _ _ => none
  | .error failure _ => some failure

theorem Step.eq_error_of_failure? {σ α : Type} {result : EStateM.Result Failure σ α}
    {failure : Failure} (h : Step.failure? result = some failure) :
    result = .error failure (Step.left result) := by
  cases result with
  | ok a state => cases h
  | error failure' state =>
      cases h
      rfl

/-- What a step gives, unless it fails. -/
def Step.value? {σ α : Type} : EStateM.Result Failure σ α → Option α
  | .ok a _ => some a
  | .error _ _ => none

theorem Step.eq_ok_of_value? {σ α : Type} {result : EStateM.Result Failure σ α} {a : α}
    (h : Step.value? result = some a) : result = .ok a (Step.left result) := by
  cases result with
  | ok a' state =>
      cases h
      rfl
  | error failure state => cases h

/-- Whether a call only moves data or sets a timeout. -/
def SocketEvent.isTransfer : SocketEvent → Bool
  | setTimeout _ | receive .. | send .. => true
  | connect .. | wrap .. | close => false

namespace Socket

/-- Whether a connection of the socket was made. -/
def isConnected (socket : Socket) : Bool :=
  socket.history.any fun
    | .connect _ true => true
    | _ => false

theorem isClosed_close (socket : Socket) : socket.close.isClosed = true := by
  simp [close, isClosed, record]

/-- One socket later than another, when it was only read from and written to in between: the
octets of every send between them. -/
structure Transfers (sends : List Bytes) (before after : Socket) : Prop where
  history : ∃ events, after.history = before.history ++ events ∧
    ∀ event ∈ events, event.isTransfer = true
  sent_eq : after.sent = before.sent ++ sends
  connectFault_eq : after.script.connectFault = before.script.connectFault
  wrapFault_eq : after.script.wrapFault = before.script.wrapFault
  ready : before.script.sendFault = none → after.script.sendFault = none

namespace Transfers

theorem refl (socket : Socket) : socket.Transfers [] socket :=
  ⟨⟨[], (List.append_nil _).symm, by simp⟩, (List.append_nil _).symm, rfl, rfl, id⟩

theorem trans
    {sends more : List Bytes} {before between after : Socket}
    (hfirst : before.Transfers sends between) (hsecond : between.Transfers more after) :
    before.Transfers (sends ++ more) after where
  history := by
    obtain ⟨events, hevents, htransfer⟩ := hfirst.history
    obtain ⟨further, hfurther, hmore⟩ := hsecond.history
    exact ⟨events ++ further, by rw [hfurther, hevents, List.append_assoc],
      List.forall_mem_append.mpr ⟨htransfer, hmore⟩⟩
  sent_eq := by rw [hsecond.sent_eq, hfirst.sent_eq, List.append_assoc]
  connectFault_eq := hsecond.connectFault_eq.trans hfirst.connectFault_eq
  wrapFault_eq := hsecond.wrapFault_eq.trans hfirst.wrapFault_eq
  ready := hsecond.ready ∘ hfirst.ready

theorem silent
    {sends : List Bytes} {before between after : Socket} (hfirst : before.Transfers [] between)
    (hsecond : between.Transfers sends after) : before.Transfers sends after :=
  hfirst.trans hsecond

theorem quiet
    {sends : List Bytes} {before between after : Socket} (hfirst : before.Transfers sends between)
    (hsecond : between.Transfers [] after) : before.Transfers sends after := by
  have h := hfirst.trans hsecond
  rwa [List.append_nil] at h

/-- What is read off the events other than transfers stays as it was. -/
theorem filterMap_eq
    {sends : List Bytes} {before after : Socket} (h : before.Transfers sends after) {β : Type}
    {view : SocketEvent → Option β} (hview : ∀ event, event.isTransfer = true → view event = none) :
    after.history.filterMap view = before.history.filterMap view := by
  obtain ⟨events, hevents, htransfer⟩ := h.history
  rw [hevents, List.filterMap_append,
    List.filterMap_eq_nil_iff.mpr fun event hevent => hview event (htransfer event hevent),
    List.append_nil]

theorem any_eq
    {sends : List Bytes} {before after : Socket} (h : before.Transfers sends after)
    {view : SocketEvent → Bool} (hview : ∀ event, event.isTransfer = true → view event = false) :
    after.history.any view = before.history.any view := by
  obtain ⟨events, hevents, htransfer⟩ := h.history
  have hnone : events.any view = false :=
    List.any_eq_false.mpr fun event hevent => by simp [hview event (htransfer event hevent)]
  rw [hevents, List.any_append, hnone, Bool.or_false]

section Views

variable {sends : List Bytes} {before after : Socket} (h : before.Transfers sends after)
include h

theorem isClosed_eq : after.isClosed = before.isClosed :=
  h.any_eq fun event hevent => by cases event <;> simp_all [SocketEvent.isTransfer]

theorem isConnected_eq : after.isConnected = before.isConnected :=
  h.any_eq fun event hevent => by cases event <;> simp_all [SocketEvent.isTransfer]

theorem tlsName_eq : after.tlsName? = before.tlsName? :=
  congrArg List.getLast?
    (h.filterMap_eq fun event hevent => by cases event <;> simp_all [SocketEvent.isTransfer])

end Views

/-- A call that moves no octets out. -/
theorem of_record
    (socket : Socket) (arrivals : List Arrival) {event : SocketEvent}
    (htransfer : event.isTransfer = true) (hunsent : ∀ octets, event ≠ .send octets true) :
    socket.Transfers [] ((socket.withArrivals arrivals).record event) where
  history := ⟨[event], rfl, by simpa using htransfer⟩
  sent_eq := by
    rw [Socket.sent, record, withArrivals, List.filterMap_append]
    cases event with
    | send octets succeeded =>
        cases succeeded with
        | true => exact absurd rfl (hunsent octets)
        | false => rfl
    | setTimeout | receive | connect | wrap | close => rfl
  connectFault_eq := rfl
  wrapFault_eq := rfl
  ready := id

theorem setTimeout (socket : Socket) (seconds : Option Double) :
    socket.Transfers [] (socket.setTimeout seconds) :=
  of_record socket socket.script.arrivals rfl fun _ => SocketEvent.noConfusion

theorem receive (socket : Socket) (arrivals : List Arrival) (size : Nat) (got : Option Bytes) :
    socket.Transfers [] ((socket.withArrivals arrivals).record (.receive size got)) :=
  of_record socket arrivals rfl fun _ => SocketEvent.noConfusion

theorem unsent (socket : Socket) (octets : Bytes) :
    socket.Transfers [] (socket.record (.send octets false)) :=
  of_record socket socket.script.arrivals rfl fun _ h => by cases h

theorem send (socket : Socket) (octets : Bytes) :
    socket.Transfers [octets] (socket.record (.send octets true)) where
  history := ⟨[_], rfl, by simp [SocketEvent.isTransfer]⟩
  sent_eq := by simp [record, Socket.sent, List.filterMap_append]
  connectFault_eq := rfl
  wrapFault_eq := rfl
  ready := id

end Transfers

theorem transfers_of_send_ok
    {octets : Bytes} {socket socket' : Socket} (h : Socket.send octets socket = .ok () socket') :
    socket.Transfers [octets] socket' := by
  have hsend := Transfers.send socket octets
  unfold Socket.send at h
  split at h
  next => cases h; exact hsend
  next => cases h
  next k cause hfault =>
    cases h
    exact { hsend with ready := fun hnone => by rw [hfault] at hnone; cases hnone }

theorem transfers_of_send_error
    {octets : Bytes} {socket socket' : Socket} {failure : Failure}
    (h : Socket.send octets socket = .error failure socket') :
    socket.Transfers [] socket' ∧ socket.script.sendFault ≠ none := by
  unfold Socket.send at h
  split at h
  next => cases h
  next cause hfault =>
    cases h
    exact ⟨Transfers.unsent socket octets, by rw [hfault]; exact Option.some_ne_none _⟩
  next => cases h

end Socket

namespace Transport

theorem transfers_of_write_ok
    {octets : Bytes} {transport transport' : Transport}
    (h : transport.write octets = .ok () transport') :
    transport.socket.Transfers [octets] transport'.socket := by
  unfold write at h
  split at h
  next socket hsend =>
    cases h
    exact (Socket.Transfers.setTimeout ..).silent (Socket.transfers_of_send_ok hsend)
  next => cases h

theorem transfers_of_write_error
    {octets : Bytes} {transport transport' : Transport} {failure : Failure}
    (h : transport.write octets = .error failure transport') :
    transport.socket.Transfers [] transport'.socket ∧
      transport.socket.script.sendFault ≠ none := by
  unfold write at h
  split at h
  next => cases h
  next failure' socket hsend =>
    cases h
    obtain ⟨htransfers, hfault⟩ := Socket.transfers_of_send_error hsend
    exact ⟨(Socket.Transfers.setTimeout ..).silent htransfers, hfault⟩

theorem history_write (octets : Bytes) (transport : Transport) :
    ∃ succeeded, (Step.left (transport.write octets)).socket.history =
      transport.socket.history ++ [.setTimeout transport.writeTimeout, .send octets succeeded] := by
  unfold write Socket.send
  match hfault : (transport.socket.setTimeout transport.writeTimeout).script.sendFault with
  | none => exact ⟨true, List.append_assoc ..⟩
  | some (0, cause) => exact ⟨false, List.append_assoc ..⟩
  | some (k + 1, cause) => exact ⟨true, List.append_assoc ..⟩

theorem transfers_of_read (size : Nat) (transport : Transport) :
    transport.socket.Transfers [] (Step.left (transport.read size)).socket := by
  have hsocket : ∀ arrivals got, transport.socket.Transfers []
      (((transport.socket.setTimeout transport.readTimeout).withArrivals arrivals).record
        (.receive size got)) :=
    fun arrivals got => (Socket.Transfers.setTimeout ..).silent (.receive ..)
  unfold read Socket.receive
  cases htake : Socket.take size
      (transport.socket.setTimeout transport.readTimeout).script.arrivals with
  | mk got rest =>
      cases got with
      | ok octets => exact hsocket rest (some octets)
      | error cause =>
          simp only
          split
          next => exact hsocket rest none
          next => exact hsocket rest none

end Transport

/-- A step over readers that sends nothing and keeps the connection as it is. -/
def Silent {α : Type} (read : Step Reader α) : Prop :=
  ∀ reader : Reader,
    reader.transport.socket.Transfers [] (Step.left (read reader)).transport.socket

namespace Silent

variable {α : Type}

/-- To be a later state of a given socket, only read from in between, is a property that reading
keeps. -/
theorem invariant (start : Socket) :
    Reader.Invariant (fun reader => start.Transfers [] reader.transport.socket) fun _ => True := by
  have hread : Step.Keeps (fun transport : Transport => start.Transfers [] transport.socket)
      (fun _ => True) (Transport.read readChunkSize) := by
    apply Step.Keeps.of_left
    intro transport htransport
    exact htransport.quiet (transport.transfers_of_read readChunkSize)
  exact .of_transport hread fun _ _ => trivial

theorem of_keeps {read : Step Reader α}
    (h : ∀ start : Socket,
      Step.Keeps (fun reader => start.Transfers [] reader.transport.socket) (fun _ => True) read) :
    Silent read := by
  intro reader
  exact (h reader.transport.socket).left (.refl _)

theorem ok {read : Step Reader α} (h : Silent read) {reader after : Reader} {a : α}
    (hread : read reader = .ok a after) :
    reader.transport.socket.Transfers [] after.transport.socket := by
  have hleft := h reader
  rwa [hread] at hleft

theorem error {read : Step Reader α} (h : Silent read) {reader after : Reader}
    {failure : Failure} (hread : read reader = .error failure after) :
    reader.transport.socket.Transfers [] after.transport.socket := by
  have hleft := h reader
  rwa [hread] at hleft

theorem readHead : Silent ResponseHead.read := of_keeps fun start => (invariant start).readHead

theorem piece (cursor : Cursor) : Silent (Response.piece cursor) :=
  of_keeps fun start => (invariant start).piece cursor

end Silent

end HttpFetch
