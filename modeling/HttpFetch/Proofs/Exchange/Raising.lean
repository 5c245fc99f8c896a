import HttpFetch.Proofs.Exchange.Keeping

/-!
# Where faults come from

A fault is thrown at a request from outside: by a look-up, by the peer of a connection or by the
source of the payload.  Nothing in the program makes one up.  So when all faults that the network
and the payload hold are of a kind, no chain ends with a fault of another kind, and the connection
of its response holds only such faults as well (`Exchange.run_raises`).
-/

namespace HttpFetch

/-- Whether a failure, if it is a fault, is one of a kind. -/
def Failure.Raises (Kind : Fault → Prop) (failure : Failure) : Prop :=
  ∀ cause, failure = .fault cause → Kind cause

theorem Failure.raises_of_isOwn {Kind : Fault → Prop} {failure : Failure}
    (h : failure.isOwn = true) : failure.Raises Kind := by
  rintro _ rfl
  cases h

/-- All faults that a source may still throw. -/
def Source.faults : Source → List Fault
  | memory _ | pieces .. => []
  | script items => items.filterMap Arrival.fault?

def Payload.faults (payload : Payload) : List Fault := (payload.source.map Source.faults).getD []

theorem SocketScript.mem_faults_of_arrival {script : SocketScript} {cause : Fault}
    (h : cause ∈ script.arrivals.filterMap Arrival.fault?) : cause ∈ script.faults := by
  simp only [faults, List.append_assoc]
  exact List.mem_append_left _ h

theorem SocketScript.mem_faults_of_send {script : SocketScript} {count : Nat} {cause : Fault}
    (h : script.sendFault = some (count, cause)) : cause ∈ script.faults := by
  simp [faults, h]

/-! ## Sockets and payloads -/

/-- Taking an item leaves no fault behind that was not there, and throws only one that was. -/
theorem Socket.take_faults (size : Nat) (arrivals : List Arrival) :
    (take size arrivals).2.filterMap Arrival.fault? ⊆ arrivals.filterMap Arrival.fault? ∧
      ∀ cause, (take size arrivals).1 = .error cause →
        cause ∈ arrivals.filterMap Arrival.fault? := by
  fun_induction take size arrivals with
  | case1 => exact ⟨List.Subset.refl _, by rintro _ ⟨⟩⟩
  | case2 cause rest =>
      refine ⟨List.subset_cons_self cause _, ?_⟩
      rintro _ ⟨⟩
      exact List.mem_cons_self
  | case3 rest ih => exact ih
  | case4 octets rest hne left =>
      refine ⟨?_, by rintro _ ⟨⟩⟩
      split
      · exact List.Subset.refl _
      · exact List.Subset.refl _

section Kinds

variable {Kind : Fault → Prop}

namespace Socket

theorem receive_raises (size : Nat) :
    Step.Keeps (fun socket : Socket => ∀ cause ∈ socket.script.faults, Kind cause)
      (Failure.Raises Kind) (receive size) := by
  intro socket hsocket
  obtain ⟨hrest, hthrown⟩ := take_faults size socket.script.arrivals
  unfold receive
  cases htake : take size socket.script.arrivals with
  | mk taken rest =>
      rw [htake] at hrest hthrown
      have hleft : ∀ cause ∈ (socket.withArrivals rest).script.faults, Kind cause := by
        intro cause hcause
        apply hsocket
        simp only [SocketScript.faults, withArrivals, List.append_assoc] at hcause ⊢
        rcases List.mem_append.mp hcause with harrival | hother
        · exact List.mem_append_left _ (hrest harrival)
        · exact List.mem_append_right _ hother
      cases taken with
      | ok octets => exact hleft
      | error cause =>
          refine ⟨hleft, ?_⟩
          rintro _ ⟨⟩
          exact hsocket cause (SocketScript.mem_faults_of_arrival (hthrown cause rfl))

theorem send_raises (octets : Bytes) :
    Step.Keeps (fun socket : Socket => ∀ cause ∈ socket.script.faults, Kind cause)
      (Failure.Raises Kind) (send octets) := by
  intro socket hsocket
  unfold send
  match hfault : socket.script.sendFault with
  | none => exact hsocket
  | some (0, cause) =>
      refine ⟨hsocket, ?_⟩
      rintro _ ⟨⟩
      exact hsocket cause (SocketScript.mem_faults_of_send hfault)
  | some (k + 1, cause) =>
      intro held hheld
      apply hsocket
      simp only [SocketScript.faults, hfault] at hheld ⊢
      exact hheld

end Socket

namespace Transport

theorem read_raises (size : Nat) :
    Step.Keeps (fun transport : Transport => ∀ cause ∈ transport.socket.script.faults, Kind cause)
      (Failure.Raises Kind) (read size) := by
  intro transport htransport
  have hset : ∀ cause ∈ (transport.socket.setTimeout transport.readTimeout).script.faults,
      Kind cause := htransport
  have hreceive := @Socket.receive_raises Kind size
  unfold read
  split
  next octets socket hgot => exact hreceive.ok hset hgot
  next cause socket hfault =>
    split
    · exact (hreceive.error hset hfault).1
    · exact hreceive.error hset hfault
  next failure socket _ hfault => exact hreceive.error hset hfault

theorem write_raises (octets : Bytes) :
    Step.Keeps (fun transport : Transport => ∀ cause ∈ transport.socket.script.faults, Kind cause)
      (Failure.Raises Kind) (write octets) := by
  intro transport htransport
  have hset : ∀ cause ∈ (transport.socket.setTimeout transport.writeTimeout).script.faults,
      Kind cause := htransport
  have hsend := @Socket.send_raises Kind octets
  unfold write
  split
  next socket hsent => exact hsend.ok hset hsent
  next failure socket hfault => exact hsend.error hset hfault

end Transport

theorem Source.faults_readPieces (size : Int) (waiting : Bytes) (rest : List Bytes) :
    (readPieces size waiting rest).2.faults = [] := by
  fun_induction readPieces size waiting rest with
  | case1 => rfl
  | case2 piece rest ih => exact ih
  | case3 => rfl

theorem Source.read_raises (size : Int) :
    Step.Keeps (fun source : Source => ∀ cause ∈ source.faults, Kind cause)
      (Failure.Raises Kind) (read size) := by
  intro source hsource
  unfold read
  cases source with
  | memory octets =>
      dsimp only
      split
      · exact hsource
      · exact ⟨hsource, Failure.raises_of_isOwn rfl⟩
  | pieces waiting rest =>
      intro cause hcause
      rw [faults_readPieces] at hcause
      cases hcause
  | script items =>
      cases items with
      | nil => exact hsource
      | cons item items =>
          cases item with
          | data octets => exact hsource
          | fault cause =>
              refine ⟨fun other hother => hsource other (List.mem_cons_of_mem _ hother), ?_⟩
              rintro _ ⟨⟩
              exact hsource _ List.mem_cons_self

namespace Payload

theorem consume_raises :
    Step.Keeps (fun payload : Payload => ∀ cause ∈ payload.faults, Kind cause)
      (Failure.Raises Kind) consume := by
  intro payload hpayload
  unfold consume
  split
  · exact ⟨hpayload, Failure.raises_of_isOwn rfl⟩
  · exact hpayload

theorem read_raises (size : Int) :
    Step.Keeps (fun payload : Payload => ∀ cause ∈ payload.faults, Kind cause)
      (Failure.Raises Kind) (read size) := by
  intro payload hpayload
  unfold read
  cases hsource : payload.source with
  | none =>
      dsimp only
      split
      · exact hpayload
      · exact ⟨hpayload, Failure.raises_of_isOwn rfl⟩
  | some source =>
      have hread := @Source.read_raises Kind size
      have hheld : ∀ cause ∈ source.faults, Kind cause := by
        rwa [faults, hsource] at hpayload
      dsimp only
      split
      next octets after hgot => exact hread.ok hheld hgot
      next failure after hfault => exact hread.error hheld hfault

end Payload

end Kinds

namespace Exchange

/-- The kind of the faults that the network and the payload hold is kept by all that a chain does.
-/
theorem raises_invariant (request : Request) (Kind : Fault → Prop) :
    Invariant request (fun network => ∀ cause ∈ network.faults, Kind cause)
      (fun transport => ∀ cause ∈ transport.socket.script.faults, Kind cause)
      (fun payload => ∀ cause ∈ payload.faults, Kind cause) (Failure.Raises Kind) where
  connect_ok url network transport after hnetwork hconnect := by
    have hattempts := Network.connect_attempts request url network
    rw [hconnect] at hattempts
    cases hattempts with
    | opened hlater hcalls hscript hmade =>
        obtain ⟨rfl, -, -⟩ := hmade
        exact ⟨fun cause hcause => hnetwork cause (hlater.faults_subset hcause),
          fun cause hcause => hnetwork cause (Network.mem_faults_of_script hscript hcause)⟩
  connect_error url network failure after hnetwork hconnect := by
    obtain ⟨hthrows, hfaults⟩ := Network.connect_throws hconnect
    exact ⟨fun cause hcause => hnetwork cause (hfaults hcause),
      fun cause hcause => hnetwork cause (hthrows.held cause hcause)⟩
  note _ _ _ hnetwork := hnetwork
  retire _ _ hnetwork _ := hnetwork
  read := Transport.read_raises readChunkSize
  write := Transport.write_raises
  close _ htransport := htransport
  consume := Payload.consume_raises
  take := Payload.read_raises _
  empty := nofun
  own _ := Failure.raises_of_isOwn

/-- When all faults that the network and the payload hold are of a kind, a chain throws no other,
and neither does the connection of its response. -/
theorem run_raises {Kind : Fault → Prop} (hop : Hop) (exchange : Exchange)
    (hnetwork : ∀ cause ∈ exchange.network.faults, Kind cause)
    (hpayload : ∀ cause ∈ exchange.payload.faults, Kind cause) :
    match run hop exchange with
    | .ok response _ => ∀ cause ∈ response.reader.transport.socket.script.faults, Kind cause
    | .error failure _ => failure.Raises Kind := by
  have hrun := (raises_invariant hop.request Kind).run rfl hnetwork hpayload
  cases hresult : run hop exchange with
  | ok response after =>
      rw [hresult] at hrun
      exact hrun.2
  | error failure after =>
      rw [hresult] at hrun
      exact hrun.2

end Exchange

end HttpFetch
