import HttpFetch.Proofs.Exchange.Visits

/-!
# Connections of a chain that fails

When a chain fails, every connection that it opened has been closed, whatever the failure and at
whatever hop, except for a socket that was stranded while it was being connected.  The exception is
exact: a stranded socket is never closed.
-/

namespace HttpFetch

theorem Socket.Transfers.isStranded_eq
    {sends : List Bytes} {before after : Socket} (h : before.Transfers sends after) :
    after.isStranded = before.isStranded := by
  unfold Socket.isStranded
  rw [h.connectFault_eq, h.tlsName_eq, h.wrapFault_eq]

theorem Socket.isStranded_close (socket : Socket) :
    socket.close.isStranded = socket.isStranded := by
  simp [Socket.close, Socket.isStranded, Socket.record, Socket.tlsName?, List.filterMap_append]

theorem Visit.isStranded_socket {visit : Visit} (h : visit.begun.socket.Connected) :
    visit.socket.isStranded = false := by
  obtain ⟨sends, hsends⟩ := visit.exists_transfers
  rw [visit.view_socket Socket.isStranded_close, hsends.isStranded_eq, h.isStranded_eq]

def Hop.root (host : Text) : Hop :=
  ⟨⟨[], none, none, none⟩, "GET".toList,
    ⟨"http".toList, [], host, none, "/".toList, none, none⟩, 5, .still 0⟩

namespace Exchange

theorem connected_of_mem_visits (hop : Hop) (exchange : Exchange) :
    ∀ visit ∈ visits hop exchange, visit.begun.socket.Connected := by
  fun_induction visits hop exchange with
  | case1 => exact fun visit hvisit => absurd hvisit List.not_mem_nil
  | case2 hop exchange visit exchange' hvisit failure state hresult =>
      rw [List.forall_mem_singleton]
      exact (visit_ok hvisit).connected
  | case3 hop exchange visit exchange' hvisit head state hresult =>
      rw [List.forall_mem_singleton]
      exact (visit_ok hvisit).connected
  | case4 hop exchange visit exchange' hvisit head next state hresult ih =>
      rw [List.forall_mem_cons]
      exact ⟨(visit_ok hvisit).connected, ih⟩

theorem isClosed_of_mem_visits
    {hop : Hop} {exchange exchange' : Exchange} {failure : Failure}
    (h : run hop exchange = .error failure exchange') :
    ∀ visit ∈ visits hop exchange, visit.socket.isClosed = true := by
  fun_induction visits hop exchange with
  | case1 => exact fun visit hvisit => absurd hvisit List.not_mem_nil
  | case2 hop exchange visit exchange' hvisit failure' state hresult =>
      rw [List.forall_mem_singleton, Visit.socket, hresult]
      exact Socket.isClosed_close _
  | case3 hop exchange visit exchange' hvisit head state hresult =>
      rw [run_eq, hvisit] at h
      simp only [hresult] at h
      cases h
  | case4 hop exchange visit exchange' hvisit head next state hresult ih =>
      rw [run_eq, hvisit] at h
      simp only [hresult] at h
      rw [List.forall_mem_cons]
      refine ⟨?_, ih h⟩
      rw [Visit.socket, hresult]
      exact Socket.isClosed_close _

/-- A chain that fails keeps every socket that it opened in its network, and has closed exactly
those that were not stranded. -/
theorem run_error_closes
    {hop : Hop} {exchange exchange' : Exchange} {failure : Failure}
    (h : run hop exchange = .error failure exchange') :
    ∃ created : List Socket, exchange.network.Opens created created.length exchange'.network ∧
      ∀ socket ∈ created, (socket.isClosed = true ↔ socket.isStranded = false) := by
  -- A socket that was visited is closed and not stranded; of the others the connection tells.
  obtain ⟨unused, hopens, hunused⟩ := run_opens hop exchange
  rw [h, settled] at hopens
  refine ⟨(visits hop exchange).map Visit.socket ++ unused, ?_, ?_⟩
  · rwa [List.length_append, List.length_map]
  · intro socket hsocket
    rcases List.mem_append.mp hsocket with hvisited | hleft
    · obtain ⟨visit, hvisit, rfl⟩ := List.mem_map.mp hvisited
      have hclosed := isClosed_of_mem_visits h visit hvisit
      have hstranded := Visit.isStranded_socket (connected_of_mem_visits hop exchange visit hvisit)
      rw [hclosed, hstranded]
      exact ⟨fun _ => rfl, fun _ => rfl⟩
    · rw [(hunused socket hleft).isClosed_eq, Bool.not_eq_true']

/-- A connection that is refused is closed. -/
theorem run_error_closes_refused :
    ∃ (failure : Failure) (exchange' : Exchange),
      run (.root "h".toList) (.start (.ofScripts [] []) none .empty) = .error failure exchange' ∧
        exchange'.network.sockets.map Socket.isClosed = [true] ∧
        ∃ created : List Socket,
          (Network.ofScripts [] []).Opens created created.length exchange'.network ∧
            ∀ socket ∈ created, (socket.isClosed = true ↔ socket.isStranded = false) := by
  have hrun := (run_eq (.root "h".toList) (.start (.ofScripts [] []) none .empty)).trans rfl
  exact ⟨_, _, hrun, rfl, run_error_closes hrun⟩

/-- A fault of another family while connecting leaves the socket open. -/
theorem run_error_leaves_open :
    ∃ (failure : Failure) (exchange' : Exchange),
      run (.root "h".toList)
          (.start
            (.ofScripts
              [⟨[], none,
                some (.named "OverflowError".toList
                  [.text "connect(): port must be 0-65535.".toList]), none⟩] [])
            none .empty) = .error failure exchange' ∧
        exchange'.network.sockets.map Socket.isClosed = [false] := by
  have hrun := (run_eq (.root "h".toList)
    (.start
      (.ofScripts
        [⟨[], none,
          some (.named "OverflowError".toList
            [.text "connect(): port must be 0-65535.".toList]), none⟩] [])
      none .empty)).trans rfl
  exact ⟨_, _, hrun, rfl⟩

end Exchange

end HttpFetch
