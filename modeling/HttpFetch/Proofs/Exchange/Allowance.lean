import HttpFetch.Proofs.Exchange.Alike
import HttpFetch.Proofs.Exchange.Budget

/-!
# Larger budgets

The budget of a chain only says when to stop.  With a larger budget a chain does the same up to
there: if it does not stop for its budget it ends in the same way, and if it does, the longer chain
begins with the same connections.  Only the notes tell the two apart, since they count the redirects
that are left; so chains are compared up to their notes.
-/

namespace HttpFetch

/-! ## Hops with another budget -/

namespace Hop

/-- A hop with another budget. -/
def allowing (budget : Int) (hop : Hop) : Hop := { hop with budget := budget }

/-- What a hop does until the cookies of its head are stored. -/
def reach (hop : Hop) (host : Text) (cookies : Headers) : Step HopState ResponseHead := do
  hop.sendPrelude cookies
  let head ← readHead
  hop.storeCookies host head
  pure head

theorem perform_eq (hop : Hop) (host : Text) (cookies : Headers) :
    hop.perform host cookies = hop.reach host cookies >>= hop.afterHead := by
  simp only [reach, bind_assoc, pure_bind]
  rfl

/-- A step with failures of a kind to which the budget does not belong. -/
theorem beside_of_failsAs {α : Type} {kind : Failure → Bool} {step : Step HopState α}
    (h : step.FailsAs kind) (hkind : kind .tooManyRedirects = false) :
    step.FailsAs (· ≠ .tooManyRedirects) := by
  intro state failure state' hfails
  rw [decide_eq_true_eq]
  rintro rfl
  rw [h _ _ _ hfails] at hkind
  cases hkind

theorem reach_beside (hop : Hop) (host : Text) (cookies : Headers) :
    (hop.reach host cookies).FailsAs (· ≠ .tooManyRedirects) :=
  .bind (beside_of_failsAs (hop.sendPrelude_failsAs cookies) rfl) fun _ =>
    .bind (beside_of_failsAs readHead_failsAs rfl) fun head =>
      .bind (beside_of_failsAs (hop.storeCookies_failsAs host head) rfl) fun _ => .pure head

theorem afterHead_beside {hop : Hop} {head : ResponseHead}
    (h : head.isRedirect = true → 0 < hop.budget) :
    (hop.afterHead head).FailsAs (· ≠ .tooManyRedirects) := by
  have hpaid := beside_of_failsAs hop.sendPayload_failsAs rfl
  unfold afterHead
  split
  next hredirect =>
    split
    next failure htarget =>
      refine .throw ?_
      simpa [target_error htarget] using h hredirect
    next next htarget =>
      dsimp only
      split
      next => exact .bind hpaid fun _ => .pure _
      next => exact .pure _
  next => exact .bind hpaid fun _ => .pure _

theorem target_allowing {hop : Hop} {budget : Int} (h : 0 < hop.budget) (hle : hop.budget ≤ budget)
    (head : ResponseHead) : (hop.allowing budget).target head = hop.target head := by
  have hbudget : ¬ (hop.allowing budget).budget ≤ 0 := by
    simp only [allowing]
    omega
  rw [target, target, if_neg (Int.not_le.mpr h), if_neg hbudget]
  rfl

theorem afterHead_allowing {hop : Hop} {budget : Int} (hle : hop.budget ≤ budget)
    {head : ResponseHead} (h : head.isRedirect = true → 0 < hop.budget) :
    (hop.allowing budget).afterHead head = hop.afterHead head := by
  by_cases hredirect : head.isRedirect = true
  · rw [afterHead, if_pos hredirect, afterHead, if_pos hredirect, target_allowing (h hredirect) hle]
    rfl
  · rw [afterHead, if_neg hredirect, afterHead, if_neg hredirect]
    rfl

/-- Up to its budget a hop does the same with a larger one.  Where it stops for its budget, it does
what precedes that. -/
theorem perform_allowing {hop : Hop} {budget : Int} (hle : hop.budget ≤ budget) (host : Text)
    (cookies : Headers) (begun : HopState) :
    ((hop.allowing budget).perform host cookies begun = hop.perform host cookies begun ∧
      ∀ state, hop.perform host cookies begun ≠ .error .tooManyRedirects state) ∨
    hop.budget ≤ 0 ∧ ∃ state, hop.perform host cookies begun = .error .tooManyRedirects state ∧
      ∃ sends, state.socket.Transfers sends
        (Step.left ((hop.allowing budget).perform host cookies begun)).socket := by
  have hreach : (hop.allowing budget).reach host cookies = hop.reach host cookies := rfl
  rw [perform_eq, perform_eq, hreach]
  simp only [bind, EStateM.bind]
  cases hreached : hop.reach host cookies begun with
  | error failure state =>
      refine Or.inl ⟨rfl, ?_⟩
      rintro state' ⟨⟩
      exact absurd (hop.reach_beside host cookies _ _ _ hreached) (by decide)
  | ok head state =>
      have hkeeps := ((hop.allowing budget).afterHead_keepsJar head state).2
      simp only
      by_cases hspent : head.isRedirect = true ∧ hop.budget ≤ 0
      · obtain ⟨hredirect, hbudget⟩ := hspent
        refine Or.inr ⟨hbudget, state, ?_, hkeeps⟩
        rw [afterHead, if_pos hredirect, target, if_pos hbudget]
        rfl
      · have hleft : head.isRedirect = true → 0 < hop.budget := fun hredirect =>
          Int.not_le.mp fun hbudget => hspent ⟨hredirect, hbudget⟩
        refine Or.inl ⟨by rw [afterHead_allowing hle hleft], fun state' hstopped => ?_⟩
        exact absurd (afterHead_beside hleft _ _ _ hstopped) (by decide)

end Hop

/-! ## Chains with another budget -/

namespace Visit

/-- The visit of a hop with another budget. -/
def allowing (budget : Int) (visit : Visit) : Visit :=
  { visit with hop := visit.hop.allowing budget }

theorem result_allowing {visit : Visit} {budget : Int} (hle : visit.hop.budget ≤ budget) :
    ((visit.allowing budget).result = visit.result ∧
      ∀ state, visit.result ≠ .error .tooManyRedirects state) ∨
    visit.hop.budget ≤ 0 ∧ ∃ state, visit.result = .error .tooManyRedirects state ∧
      ∃ sends, state.socket.Transfers sends (Step.left (visit.allowing budget).result).socket :=
  Hop.perform_allowing hle visit.host visit.cookies visit.begun

theorem history_socket (visit : Visit) :
    (Step.left visit.result).socket.history <+: visit.socket.history := by
  unfold socket
  split
  next head state hresult =>
    rw [hresult]
    exact List.prefix_rfl
  next head next state hresult =>
    rw [hresult]
    exact List.prefix_append ..
  next failure state hresult =>
    rw [hresult]
    exact List.prefix_append ..

end Visit

namespace Exchange

theorem Alike.onward {exchange other : Exchange} (h : exchange.Alike other) (visit : Visit)
    (budget : Int) (head : ResponseHead) (next : Url) (state : HopState) :
    (exchange.onward visit head next state).Alike
      (other.onward (visit.allowing budget) head next state) := by
  have hleft := ((h.absorb visit.host state).giveUp state.reader).continueAfter head
  exact ⟨hleft.network.both (.of_note ..) (.of_note ..), hleft.jar_eq, hleft.payload_eq,
    hleft.setAside_eq⟩

theorem visit_related {exchange other : Exchange} (h : exchange.Alike other) (hop : Hop)
    (budget : Int) :
    Step.Related (fun visit visit' => visit' = visit.allowing budget) Alike (exchange.visit hop)
      (other.visit (hop.allowing budget)) := by
  unfold visit Hop.allowing
  dsimp only
  generalize hop.clock.first.selecting = now
  cases hop.url.hostname with
  | error failure => exact .error h
  | ok hostname =>
      have hpurged := h.purge now
      dsimp only
      rw [hpurged.jar_eq]
      have hnoted := hpurged.noteOmissions (((exchange.purge now).jar.getD Jar.empty).omissions
        (Hop.cookieHost hostname) hop.url.decodedPath hop.url.isSecure)
      have hconnect := Network.connect_related hnoted.network hop.request hop.url
      generalize Network.connect hop.request hop.url
        (noteOmissions (exchange.purge now) _).network = result at hconnect ⊢
      generalize Network.connect hop.request hop.url
        (noteOmissions (other.purge now) _).network = result' at hconnect ⊢
      cases hconnect with
      | error hstate => exact .error ⟨hstate, hnoted.jar_eq, hnoted.payload_eq, hnoted.setAside_eq⟩
      | ok hvalue hstate =>
          subst hvalue
          refine .ok ?_ ⟨hstate, hnoted.jar_eq, hnoted.payload_eq, hnoted.setAside_eq⟩
          rw [hnoted.jar_eq, hnoted.payload_eq]
          rfl

theorem visit_allowing {exchange other after : Exchange} (h : exchange.Alike other) {hop : Hop}
    {visit : Visit} (hvisit : exchange.visit hop = .ok visit after) (budget : Int) :
    ∃ after', other.visit (hop.allowing budget) = .ok (visit.allowing budget) after' ∧
      after.Alike after' := by
  have hvisits := visit_related h hop budget
  rw [hvisit] at hvisits
  generalize other.visit (hop.allowing budget) = result at hvisits ⊢
  cases hvisits with
  | ok hvalue hstate => exact ⟨_, by rw [hvalue], hstate⟩

/-! ## Where a larger budget begins to matter -/

/-- The first connection of a chain is the first of its sockets. -/
theorem run_first_socket {hop : Hop} {exchange after : Exchange} {visit : Visit}
    (h : exchange.visit hop = .ok visit after) :
    exchange.network.sockets ++ [visit.socket] <+: (settled (run hop exchange)).sockets := by
  have hvisits : ∃ rest, visits hop exchange = visit :: rest := by
    fun_cases visits hop exchange with
    | case1 failure exchange' hvisit => cases hvisit.symm.trans h
    | case2 visit' exchange' hvisit failure state hresult =>
        cases hvisit.symm.trans h
        exact ⟨[], rfl⟩
    | case3 visit' exchange' hvisit head state hresult =>
        cases hvisit.symm.trans h
        exact ⟨[], rfl⟩
    | case4 visit' exchange' hvisit head next state hresult =>
        cases hvisit.symm.trans h
        exact ⟨_, rfl⟩
  obtain ⟨rest, hvisits⟩ := hvisits
  obtain ⟨unused, hopens, -⟩ := run_opens hop exchange
  rw [hopens.sockets_eq, hvisits]
  exact ⟨rest.map Visit.socket ++ unused, by simp⟩

/-- What a chain that stops at its budget leaves, beside a longer one: the sockets are the same but
for the last, which the longer chain has at least done the same with. -/
structure Outlasts (before stopped longer : Network) (earlier : List Socket) (last last' : Socket) :
    Prop where
  stopped_eq : stopped.sockets = before.sockets ++ earlier ++ [last]
  longer_eq : before.sockets ++ earlier ++ [last'] <+: longer.sockets
  lookups : stopped.lookups <+: longer.lookups
  connected : last.isConnected = true
  continues : ∃ events, last.history = events ++ [.close] ∧ events <+: last'.history

theorem Outlasts.cons {before between stopped longer : Network} {earlier : List Socket}
    {socket last last' : Socket} (h : Outlasts between stopped longer earlier last last')
    (hsockets : between.sockets = before.sockets ++ [socket]) :
    Outlasts before stopped longer (socket :: earlier) last last' where
  stopped_eq := by simpa [hsockets] using h.stopped_eq
  longer_eq := by simpa [hsockets] using h.longer_eq
  lookups := h.lookups
  connected := h.connected
  continues := h.continues

/-- Where a chain stops, a longer one goes on with the same connection. -/
theorem outlasts_of_visit {hop : Hop} {exchange other after after' : Exchange} {visit : Visit}
    {budget : Int} (h : exchange.Alike other) (hafter : after.Alike after')
    (hvisit : exchange.visit hop = .ok visit after)
    (hother : other.visit (hop.allowing budget) = .ok (visit.allowing budget) after')
    {failure : Failure} {state : HopState} (hresult : visit.result = .error failure state)
    {sends : List Bytes} (hsends : state.socket.Transfers sends
      (Step.left (visit.allowing budget).result).socket) :
    Outlasts exchange.network ((after.absorb visit.host state).giveUp state.reader).network
      (settled (run (hop.allowing budget) other)) [] state.socket.close
      (visit.allowing budget).socket := by
  have hbegins := visit_ok hvisit
  have habsorbed := after.absorb_alike visit.host state
  constructor
  · change (after.absorb visit.host state).network.sockets ++ [state.socket.close] = _
    rw [habsorbed.sockets_eq, hbegins.opens.sockets_eq]
  · rw [List.append_nil, ← h.network.sockets_eq]
    exact run_first_socket hother
  · have hlookups := run_lookups (hop.allowing budget) other
    rw [hother, Step.left_ok, hafter.network.lookups_eq, ← habsorbed.lookups_eq] at hlookups
    exact hlookups
  · have hconnected := Visit.isConnected_socket hbegins.connected
    rwa [Visit.socket, hresult] at hconnected
  · obtain ⟨events, hhistory, -⟩ := hsends.history
    refine ⟨state.socket.history, rfl, .trans ?_ (visit.allowing budget).history_socket⟩
    exact ⟨events, hhistory.symm⟩

theorem run_allowing_cases {hop : Hop} {exchange other : Exchange} {budget : Int}
    (hle : hop.budget ≤ budget) (h : exchange.Alike other) :
    ((∀ stopped, run hop exchange ≠ .error .tooManyRedirects stopped) ∧
      Step.Related Eq Alike (run hop exchange) (run (hop.allowing budget) other)) ∨
    ∃ stopped earlier last last', run hop exchange = .error .tooManyRedirects stopped ∧
      earlier.length = hop.budget.toNat ∧
      Outlasts exchange.network stopped.network (settled (run (hop.allowing budget) other)) earlier
        last last' := by
  fun_induction visits hop exchange generalizing other budget with
  | case1 hop exchange failure exchange' hvisit =>
      have hvisits := visit_related h hop budget
      rw [hvisit] at hvisits
      rw [run_eq, hvisit, run_eq]
      generalize other.visit (hop.allowing budget) = result at hvisits ⊢
      cases hvisits with
      | error hstate =>
          refine Or.inl ⟨?_, .error hstate⟩
          rintro stopped ⟨⟩
          exact absurd (visit_failsAs hop _ _ _ hvisit) (by decide)
  | case2 hop exchange visit exchange' hvisit failure state hresult =>
      obtain ⟨other', hother, hstate⟩ := visit_allowing h hvisit budget
      have hhop := (visit_ok hvisit).hop_eq
      rw [← hhop] at hle
      rcases visit.result_allowing hle with
        ⟨hsame, hbeside⟩ | ⟨hspent, state', hstops, sends, hsends⟩
      · left
        rw [hresult] at hsame hbeside
        rw [run_eq, run_eq, hvisit, hother]
        simp only [hresult, hsame]
        refine ⟨?_, .error ((hstate.absorb ..).giveUp _)⟩
        rintro stopped ⟨⟩
        exact hbeside _ rfl
      · right
        cases hresult.symm.trans hstops
        rw [run_eq, hvisit]
        simp only [hresult]
        refine ⟨_, [], state.socket.close, (visit.allowing budget).socket, rfl, ?_, ?_⟩
        · rw [← hhop, List.length_nil]
          omega
        · exact outlasts_of_visit h hstate hvisit hother hresult hsends
  | case3 hop exchange visit exchange' hvisit head state hresult =>
      obtain ⟨other', hother, hstate⟩ := visit_allowing h hvisit budget
      rw [← (visit_ok hvisit).hop_eq] at hle
      rcases visit.result_allowing hle with ⟨hsame, -⟩ | ⟨-, state', hstops, -⟩
      · left
        rw [hresult] at hsame
        rw [run_eq, run_eq, hvisit, hother]
        simp only [hresult, hsame]
        refine ⟨?_, .ok rfl (hstate.absorb ..)⟩
        rintro stopped ⟨⟩
      · cases hresult.symm.trans hstops
  | case4 hop exchange visit exchange' hvisit head next state hresult ih =>
      obtain ⟨other', hother, hstate⟩ := visit_allowing h hvisit budget
      have hhop := (visit_ok hvisit).hop_eq
      rw [← hhop] at hle
      rcases visit.result_allowing hle with ⟨hsame, -⟩ | ⟨-, state', hstops, -⟩
      · rw [hresult] at hsame
        have hrest := @ih (other'.onward (visit.allowing budget) head next state) (budget - 1)
          (Int.sub_le_sub_right hle 1) (hstate.onward ..)
        rw [run_eq hop, run_eq (hop.allowing budget), hvisit, hother]
        simp only [hresult, hsame]
        rcases hrest with hends | ⟨stopped, earlier, last, last', hstops, hlength, houtlasts⟩
        · exact Or.inl hends
        · refine Or.inr ⟨stopped, visit.socket :: earlier, last, last', hstops, ?_, ?_⟩
          · have hbudget := Hop.perform_budget hresult
            rw [hhop] at hbudget
            rw [Hop.following, hhop] at hlength
            rw [List.length_cons, hlength]
            simp only
            omega
          · refine houtlasts.cons ?_
            rw [(onward_opens ..).sockets_eq, (visit_ok hvisit).opens.sockets_eq, List.append_nil,
              Visit.socket, hresult]
      · cases hresult.symm.trans hstops

/-- With a larger budget a chain that does not stop for its budget ends in the same way and leaves
the same behind, but for notes.  One that does stop opens the same connections as the longer chain
does first, and does the same on all of them but the last. -/
theorem run_allowing {hop : Hop} {budget : Int} (hle : hop.budget ≤ budget) (exchange : Exchange) :
    ((∀ stopped, run hop exchange ≠ .error .tooManyRedirects stopped) →
      Step.Related Eq Alike (run hop exchange) (run (hop.allowing budget) exchange)) ∧
    ∀ stopped, run hop exchange = .error .tooManyRedirects stopped →
      ∃ earlier last last', earlier.length = hop.budget.toNat ∧
        Outlasts exchange.network stopped.network (settled (run (hop.allowing budget) exchange))
          earlier last last' := by
  rcases run_allowing_cases hle (.refl exchange) with ⟨hbeside, hrelated⟩ |
    ⟨stopped, earlier, last, last', hstops, hlength, houtlasts⟩
  · exact ⟨fun _ => hrelated, fun stopped hstopped => absurd hstopped (hbeside stopped)⟩
  · refine ⟨fun hbeside => absurd hstops (hbeside stopped), fun stopped' hstopped => ?_⟩
    cases hstops.symm.trans hstopped
    exact ⟨earlier, last, last', hlength, houtlasts⟩

/-- Without redirects a chain stops at the first peer that sends it elsewhere; with one it goes on
from there.  If then nobody answers, more of them make no difference. -/
theorem run_allowing_roundabout :
    let hop := { Hop.root "h".toList with budget := 0 }
    let exchange := start (.ofScripts [roundabout] []) none .empty
    hop.budget ≤ 1 ∧
      (∃ stopped last last', run hop exchange = .error .tooManyRedirects stopped ∧
        Outlasts exchange.network stopped.network (settled (run (hop.allowing 1) exchange)) [] last
          last') ∧
      (hop.allowing 1).budget ≤ 2 ∧
      Step.Related Eq Alike (run (hop.allowing 1) exchange)
        (run ((hop.allowing 1).allowing 2) exchange) := by
  intro hop exchange
  have hle : hop.budget ≤ 1 := by decide
  have hmore : (hop.allowing 1).budget ≤ 2 := by decide
  have hfails : Step.failure? (run hop exchange) = some .tooManyRedirects := by decide +kernel
  have hunanswered : Step.failure? (run (hop.allowing 1) exchange) ≠ some .tooManyRedirects := by
    decide +kernel
  have hrun := Step.eq_error_of_failure? hfails
  refine ⟨hle, ?_, hmore, (run_allowing hmore exchange).1 fun stopped hstopped => ?_⟩
  · obtain ⟨earlier, last, last', hlength, houtlasts⟩ := (run_allowing hle exchange).2 _ hrun
    rw [List.eq_nil_of_length_eq_zero hlength] at houtlasts
    exact ⟨_, last, last', hrun, houtlasts⟩
  · rw [hstopped] at hunanswered
    exact hunanswered rfl

end Exchange

end HttpFetch
