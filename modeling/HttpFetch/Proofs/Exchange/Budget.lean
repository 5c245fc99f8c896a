import HttpFetch.Proofs.Exchange.Closing

/-!
# The budget of a chain

A chain connects to at most one host more than its budget has redirects, and each host that it
visits is where the one before sent it.  When it ends with a response it has followed every visit
but the last, whose connection stays open for the response.  When it ends because the budget is
spent, it has made all the visits that the budget allows, and each came to look at the budget.
-/

namespace HttpFetch

theorem Socket.isConnected_close (socket : Socket) :
    socket.close.isConnected = socket.isConnected := by
  simp [Socket.close, Socket.isConnected, Socket.record]

theorem ResponseHead.exists_location {head : ResponseHead} (h : head.isRedirect = true) :
    ∃ location, head.headers.value? "location".toList = some location := by
  simp only [isRedirect, Bool.and_eq_true] at h
  exact Option.isSome_iff_exists.mp h.2

namespace Visit

/-- Whether a visit comes to look at its budget. -/
def testsBudget (visit : Visit) : Bool :=
  visit.head?.any fun head => visit.hop.testsBudget visit.host head visit.begun

/-- Whether the head of one visit is a redirect to the URL of another. -/
def LeadsTo (visit next : Visit) : Prop :=
  ∃ head location, visit.head? = some head ∧ head.isRedirect = true ∧
    head.headers.value? "location".toList = some location ∧
    visit.hop.url.redirect location = .ok next.hop.url

/-- A visit fails over its budget exactly when it comes to look at it and nothing is left. -/
theorem exhausts_iff (visit : Visit) :
    (∃ state, visit.result = .error .tooManyRedirects state) ↔
      visit.testsBudget = true ∧ visit.hop.budget ≤ 0 := by
  have hperformed := visit.performed
  unfold testsBudget head?
  -- A target within the budget leaves something of it, so no other way ends with it spent.
  have hleft : ∀ {head next}, visit.hop.target head = .ok next → ¬ visit.hop.budget ≤ 0 :=
    fun htarget => Int.not_le.mpr (Hop.target_budget htarget)
  generalize visit.result = result at hperformed
  cases hperformed with
  | unsent hhead hsends hbeside =>
      rw [hhead]
      refine iff_of_false ?_ fun h => Bool.false_ne_true h.1
      rintro ⟨_, ⟨⟩⟩
      exact hbeside rfl
  | headless hprelude hhead hsends hbeside =>
      rw [hhead]
      refine iff_of_false ?_ fun h => Bool.false_ne_true h.1
      rintro ⟨_, ⟨⟩⟩
      exact hbeside rfl
  | refused hprelude hhead hrefuses hsends hbudget =>
      rw [hhead, Option.any_some, ← hbudget]
      constructor
      · rintro ⟨_, ⟨⟩⟩
        rfl
      · rintro rfl
        exact ⟨_, rfl⟩
  | interrupted hprelude hhead hrefuses hpreserves hpieces hsends hbeside =>
      rw [hhead, Option.any_some]
      refine iff_of_false ?_ ?_
      · rintro ⟨_, ⟨⟩⟩
        exact hbeside rfl
      · rintro ⟨htests, hspent⟩
        rw [Hop.testsBudget, Bool.and_eq_true] at htests
        rw [Hop.refuses_eq, htests.1, htests.2, Hop.target, if_pos hspent] at hrefuses
        cases hrefuses
  | preserved hprelude hhead hredirect hget hpayload hsends htarget =>
      refine iff_of_false ?_ fun h => hleft htarget h.2
      rintro ⟨_, ⟨⟩⟩
  | redirected hprelude hhead hrefuses hredirect hget hfailure hsends htarget =>
      refine iff_of_false ?_ fun h => hleft htarget h.2
      rintro ⟨_, ⟨⟩⟩
  | answered hprelude hhead hrefuses hredirect hfailure hsends =>
      rw [hhead, Option.any_some, Hop.testsBudget, hredirect]
      refine iff_of_false ?_ fun h => Bool.false_ne_true h.1
      rintro ⟨_, ⟨⟩⟩

/-- A visit that leads on came to look at its budget, and leads to where its head says. -/
theorem follow_leads
    {visit : Visit} {head : ResponseHead} {next : Url} {state : HopState}
    (h : visit.result = .ok (.follow head next) state) :
    ∃ location, visit.head? = some head ∧ head.isRedirect = true ∧
      head.headers.value? "location".toList = some location ∧
      visit.hop.url.redirect location = .ok next ∧ visit.testsBudget = true := by
  have hperformed := visit.performed
  have hspec : visit.head? = some head ∧ visit.hop.target head = .ok next ∧
      visit.hop.testsBudget visit.host head visit.begun = true := by
    rw [h] at hperformed
    cases hperformed with
    | preserved hprelude hhead hredirect hget hpayload hsends htarget htests =>
        exact ⟨hhead, htarget, htests⟩
    | redirected hprelude hhead hrefuses hredirect hget hfailure hsends htarget htests =>
        exact ⟨hhead, htarget, htests⟩
  obtain ⟨hhead, htarget, htests⟩ := hspec
  have hredirect := ((Bool.and_eq_true _ _).mp htests).1
  obtain ⟨location, hlocation⟩ := ResponseHead.exists_location hredirect
  rw [Hop.target, if_neg (Int.not_le.mpr (Hop.target_budget htarget)), hlocation] at htarget
  refine ⟨location, hhead, hredirect, hlocation, htarget, ?_⟩
  rw [testsBudget, hhead, Option.any_some, htests]

theorem isConnected_socket {visit : Visit} (h : visit.begun.socket.Connected) :
    visit.socket.isConnected = true := by
  obtain ⟨sends, hsends⟩ := visit.exists_transfers
  rw [visit.view_socket Socket.isConnected_close, hsends.isConnected_eq, h.isConnected_eq]

theorem isClosed_socket_of_follow
    {visit : Visit} {head : ResponseHead} {next : Url} {state : HopState}
    (h : visit.result = .ok (.follow head next) state) : visit.socket.isClosed = true := by
  rw [socket, h]
  exact Socket.isClosed_close _

theorem socket_of_final
    {visit : Visit} {head : ResponseHead} {state : HopState}
    (hconnected : visit.begun.socket.Connected)
    (h : visit.result = .ok (.final head) state) :
    visit.socket = state.socket ∧ visit.socket.isClosed = false := by
  have hsocket : visit.socket = state.socket := by rw [socket, h]
  obtain ⟨sends, hsends⟩ := visit.exists_transfers
  rw [h, Step.left_ok, ← hsocket] at hsends
  exact ⟨hsocket, hsends.isClosed_eq.trans hconnected.isClosed_eq⟩

end Visit

namespace Exchange

theorem hop_of_mem_head? {hop : Hop} {exchange : Exchange} :
    ∀ first ∈ (visits hop exchange).head?, first.hop = hop := by
  fun_cases visits hop exchange with
  | case1 => exact fun first hfirst => absurd hfirst (Option.not_mem_none first)
  | case2 visit exchange' hvisit failure state hresult =>
      rintro _ ⟨⟩
      exact (visit_ok hvisit).hop_eq
  | case3 visit exchange' hvisit head state hresult =>
      rintro _ ⟨⟩
      exact (visit_ok hvisit).hop_eq
  | case4 visit exchange' hvisit head next state hresult =>
      rintro _ ⟨⟩
      exact (visit_ok hvisit).hop_eq

/-- Each visit of a chain leads to the next. -/
theorem visits_isChain (hop : Hop) (exchange : Exchange) :
    (visits hop exchange).IsChain Visit.LeadsTo := by
  fun_induction visits hop exchange with
  | case1 => exact .nil
  | case2 => exact .singleton _
  | case3 => exact .singleton _
  | case4 hop exchange visit exchange' hvisit head next state hresult ih =>
      refine List.isChain_cons.mpr ⟨fun second hsecond => ?_, ih⟩
      obtain ⟨location, hhead, hredirect, hlocation, hnext, -⟩ := Visit.follow_leads hresult
      have hhop := hop_of_mem_head? second hsecond
      exact ⟨head, location, hhead, hredirect, hlocation, by rw [hhop, hnext, Hop.following]⟩

/-- When a chain ends with a response, every visit but the last led on, and the last was
answered. -/
theorem run_ok
    {hop : Hop} {exchange exchange' : Exchange} {response : Response}
    (h : run hop exchange = .ok response exchange') :
    ∃ (followed : List Visit) (last : Visit) (head : ResponseHead) (state : HopState),
      visits hop exchange = followed ++ [last] ∧
        (∀ visit ∈ followed, ∃ head next state, visit.result = .ok (.follow head next) state) ∧
        last.result = .ok (.final head) state ∧
        response = { Response.ofHead head (some last.hop.url) last.hop.method state.reader with
          attached := true } := by
  fun_induction visits hop exchange with
  | case1 hop exchange failure exchange'' hvisit =>
      rw [run_eq, hvisit] at h
      cases h
  | case2 hop exchange visit exchange'' hvisit failure state hresult =>
      rw [run_eq, hvisit] at h
      simp only [hresult] at h
      cases h
  | case3 hop exchange visit exchange'' hvisit head state hresult =>
      rw [run_eq, hvisit] at h
      simp only [hresult] at h
      cases h
      exact ⟨[], visit, head, state, rfl, by simp, hresult, rfl⟩
  | case4 hop exchange visit exchange'' hvisit head next state hresult ih =>
      rw [run_eq, hvisit] at h
      simp only [hresult] at h
      obtain ⟨followed, last, final, state', hvisits, hfollowed, hlast, hresponse⟩ := ih h
      refine ⟨visit :: followed, last, final, state', ?_, ?_, hlast, hresponse⟩
      · rw [hvisits, List.cons_append]
      · rw [List.forall_mem_cons]
        exact ⟨⟨head, next, state, hresult⟩, hfollowed⟩

/-- A chain fails because its budget is spent exactly when it makes all the visits that the budget
allows and each of them comes to look at it. -/
theorem run_exhausts_iff (hop : Hop) (exchange : Exchange) :
    (∃ exchange', run hop exchange = .error .tooManyRedirects exchange') ↔
      (visits hop exchange).length = hop.budget.toNat + 1 ∧
        ∀ visit ∈ visits hop exchange, visit.testsBudget = true := by
  fun_induction visits hop exchange with
  | case1 hop exchange failure exchange' hvisit =>
      refine iff_of_false ?_ fun h => Nat.succ_ne_zero _ h.1.symm
      rintro ⟨_, h⟩
      rw [run_eq, hvisit] at h
      cases h
      exact absurd (visit_failsAs hop _ _ _ hvisit) (by decide)
  | case2 hop exchange visit exchange' hvisit failure state hresult =>
      have hexhausts := visit.exhausts_iff
      rw [(visit_ok hvisit).hop_eq] at hexhausts
      rw [List.forall_mem_singleton, List.length_singleton, run_eq, hvisit]
      simp only [hresult]
      constructor
      · rintro ⟨_, ⟨⟩⟩
        obtain ⟨htests, hspent⟩ := hexhausts.mp ⟨state, hresult⟩
        exact ⟨by omega, htests⟩
      · rintro ⟨hlength, htests⟩
        obtain ⟨state', hstate⟩ := hexhausts.mpr ⟨htests, by omega⟩
        cases hresult.symm.trans hstate
        exact ⟨_, rfl⟩
  | case3 hop exchange visit exchange' hvisit head state hresult =>
      have hexhausts := visit.exhausts_iff
      rw [(visit_ok hvisit).hop_eq] at hexhausts
      rw [List.forall_mem_singleton, List.length_singleton, run_eq, hvisit]
      simp only [hresult]
      refine iff_of_false ?_ ?_
      · rintro ⟨_, ⟨⟩⟩
      · rintro ⟨hlength, htests⟩
        obtain ⟨state', hstate⟩ := hexhausts.mpr ⟨htests, by omega⟩
        cases hresult.symm.trans hstate
  | case4 hop exchange visit exchange' hvisit head next state hresult ih =>
      obtain ⟨location, -, -, -, -, htests⟩ := Visit.follow_leads hresult
      have hbudget := Hop.perform_budget hresult
      have hspent : (visit.hop.following head next).budget = hop.budget - 1 := by
        rw [Hop.following, (visit_ok hvisit).hop_eq]
      rw [(visit_ok hvisit).hop_eq] at hbudget
      rw [hspent] at ih
      rw [List.forall_mem_cons, List.length_cons, run_eq, hvisit]
      simp only [hresult, htests, true_and]
      rw [ih]
      have hlengths : ∀ n : Nat, n = (hop.budget - 1).toNat + 1 ↔ n + 1 = hop.budget.toNat + 1 := by
        omega
      rw [hlengths]

/-- How a chain goes that ends with a response: the connections that it opens are those of its
visits, in order, and the response has the last of them. -/
structure Completes (hop : Hop) (exchange exchange' : Exchange) (response : Response)
    (followed : List Visit) (last : Visit) : Prop where
  visits_eq : visits hop exchange = followed ++ [last]
  within : followed.length ≤ hop.budget.toNat
  opens : exchange.network.Opens ((followed ++ [last]).map Visit.socket) (followed.length + 1)
    (exchange'.network.retire last.socket)
  connected : ∀ visit ∈ followed ++ [last], visit.socket.isConnected = true
  closed : ∀ visit ∈ followed, visit.socket.isClosed = true
  kept_open : last.socket.isClosed = false
  attached : response.attached = true
  reads : response.reader.transport.socket = last.socket

theorem completes_of_ok
    {hop : Hop} {exchange exchange' : Exchange} {response : Response}
    (h : run hop exchange = .ok response exchange') :
    ∃ followed last, Completes hop exchange exchange' response followed last := by
  obtain ⟨followed, last, head, state, hvisits, hfollowed, hlast, rfl⟩ := run_ok h
  obtain ⟨unused, hopens, hwithin, hnone, -⟩ := run_opens_within hop exchange
  have hconnected := connected_of_mem_visits hop exchange
  rw [hnone _ _ h, h, settled, hvisits, List.append_nil, List.length_append] at hopens
  rw [hnone _ _ h, hvisits, List.length_append] at hwithin
  rw [hvisits] at hconnected
  obtain ⟨hsocket, hopen⟩ :=
    Visit.socket_of_final (hconnected last (List.mem_append_right _ List.mem_cons_self)) hlast
  refine ⟨followed, last, hvisits, Nat.le_of_succ_le_succ hwithin, ?_, ?_, ?_, hopen, rfl,
    hsocket.symm⟩
  · rw [hsocket]
    exact hopens
  · exact fun visit hvisit => Visit.isConnected_socket (hconnected visit hvisit)
  · intro visit hvisit
    obtain ⟨head, next, state, hresult⟩ := hfollowed visit hvisit
    exact Visit.isClosed_socket_of_follow hresult

/-- A chain opens at most one connection more than its budget has redirects, and each of its visits
leads to the next.  It ends with a response when all visits but the last led on, and then all
connections but the last are closed.  It ends with its budget spent exactly when it made as many
visits as the budget allows and all came to look at it, and then all connections are closed. -/
theorem run_within_budget (hop : Hop) (exchange : Exchange) :
    (∃ created : List Socket,
      exchange.network.Opens created created.length (settled (run hop exchange)) ∧
        created.length ≤ hop.budget.toNat + 1) ∧
    (∀ first ∈ (visits hop exchange).head?, first.hop = hop) ∧
    (visits hop exchange).IsChain Visit.LeadsTo ∧
    (∀ response exchange', run hop exchange = .ok response exchange' →
      ∃ followed last, Completes hop exchange exchange' response followed last) ∧
    ((∃ exchange', run hop exchange = .error .tooManyRedirects exchange') ↔
      (visits hop exchange).length = hop.budget.toNat + 1 ∧
        ∀ visit ∈ visits hop exchange, visit.testsBudget = true) ∧
    ∀ exchange', run hop exchange = .error .tooManyRedirects exchange' →
      exchange.network.Opens ((visits hop exchange).map Visit.socket) (hop.budget.toNat + 1)
          exchange'.network ∧
        ∀ visit ∈ visits hop exchange, visit.socket.isClosed = true := by
  obtain ⟨unused, hopens, hwithin, -, -⟩ := run_opens_within hop exchange
  refine ⟨⟨(visits hop exchange).map Visit.socket ++ unused, ?_, ?_⟩, hop_of_mem_head?,
    visits_isChain hop exchange, fun _ _ => completes_of_ok, run_exhausts_iff hop exchange, ?_⟩
  · rwa [List.length_append, List.length_map]
  · rwa [List.length_append, List.length_map]
  · intro exchange' h
    obtain ⟨hlength, -⟩ := (run_exhausts_iff hop exchange).mp ⟨exchange', h⟩
    have hunused : unused = [] := List.eq_nil_of_length_eq_zero (by omega)
    rw [h, settled, hunused, List.append_nil, hlength] at hopens
    exact ⟨hopens, isClosed_of_mem_visits h⟩

/-- A peer that sends its client to where it is. -/
def roundabout : SocketScript :=
  ⟨[.data (Utf8.encode "HTTP/1.1 302 Found\r\nLocation: /\r\n\r\n".toList)], none, none, none⟩

/-- With one redirect allowed, two of three such peers are met, and both connections are closed. -/
theorem run_within_budget_spent :
    ∃ exchange', run { Hop.root "h".toList with budget := 1 }
        (.start (.ofScripts [roundabout, roundabout, roundabout] []) none .empty) =
          .error .tooManyRedirects exchange' ∧
      exchange'.network.scripts = [roundabout] ∧
      exchange'.network.sockets.map Socket.isClosed = [true, true] := by
  generalize hhop : { Hop.root "h".toList with budget := 1 } = hop
  generalize hexchange :
    start (.ofScripts [roundabout, roundabout, roundabout] []) none .empty = exchange
  have hfails : Step.failure? (run hop exchange) = some .tooManyRedirects := by
    subst hhop hexchange
    decide +kernel
  have hrun := Step.eq_error_of_failure? hfails
  obtain ⟨-, -, -, -, hexhausts, hspent⟩ := run_within_budget hop exchange
  obtain ⟨hlength, -⟩ := hexhausts.mp ⟨_, hrun⟩
  obtain ⟨hopens, hclosed⟩ := hspent _ hrun
  refine ⟨_, hrun, ?_, ?_⟩
  · rw [hopens.scripts_eq, ← hhop, ← hexchange]
    rfl
  · have hnone : exchange.network.sockets = [] := by
      rw [← hexchange]
      rfl
    have htwo : (visits hop exchange).length = 2 := by
      rw [hlength, ← hhop]
      rfl
    rw [hopens.sockets_eq, hnone, List.nil_append, List.map_map]
    refine List.eq_replicate_iff.mpr ⟨(List.length_map _).trans htwo, ?_⟩
    rw [List.forall_mem_map]
    exact hclosed

end Exchange

end HttpFetch
