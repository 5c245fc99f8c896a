import HttpFetch.Proofs.Cookie.Storing
import HttpFetch.Proofs.Exchange.Visits

/-!
# The stages of a chain

A stage is a hop with the exchange that it meets, whether or not it gets a connection.  Every stage
opens some sockets, and it may change the jar.  `Exchange.stages` lists the stages of a chain; the
sockets that the chain leaves are those of its stages in order, and the jar that it leaves is what
the stages make of it one after the other.
-/

namespace HttpFetch

structure Stage where
  hop : Hop
  exchange : Exchange

namespace Stage

def visit? (stage : Stage) : Option Visit :=
  match stage.exchange.visit stage.hop with
  | .ok visit _ => some visit
  | .error _ _ => none

/-- The head that the hop parses, if it comes to that. -/
def head? (stage : Stage) : Option ResponseHead := stage.visit?.bind Visit.head?

def sockets (stage : Stage) : List Socket :=
  match stage.exchange.visit stage.hop with
  | .ok visit _ => [visit.socket]
  | .error _ after => after.network.sockets.drop stage.exchange.network.sockets.length

/-- The host that cookies are matched with, if the URL of the hop has one. -/
def host? (stage : Stage) : Option Text :=
  stage.hop.url.hostname.toOption.map Hop.cookieHost

/-- Whether every cookie field of the head can be stored. -/
def Stores (stage : Stage) : Prop :=
  ∀ host ∈ stage.host?, ∀ head ∈ stage.head?, ∀ offer ∈ stage.hop.offers head,
    ¬ Fails (SetCookie.parse offer.now host offer.value)

instance (stage : Stage) : Decidable stage.Stores :=
  inferInstanceAs (Decidable (∀ host ∈ stage.host?, ∀ head ∈ stage.head?,
    ∀ offer ∈ stage.hop.offers head, ¬ Fails (SetCookie.parse offer.now host offer.value)))

/-- What a hop makes of a jar: the cookies that have expired when it begins go, and those of its
head are set. -/
def update (stage : Stage) (jar : Jar) : Jar :=
  match stage.host? with
  | none => jar
  | some host =>
    let jar := jar.purge stage.hop.clock.first.selecting
    match stage.head? with
    | none => jar
    | some head => ((stage.hop.offers head).filterMap (Jar.Offer.built? host)).foldl Jar.set jar

variable {stage : Stage}

theorem begins_of_visit {visit : Visit} (h : stage.visit? = some visit) :
    ∃ after, Exchange.Begins stage.hop stage.exchange visit after := by
  unfold visit? at h
  split at h
  next hvisit =>
    cases h
    exact ⟨_, Exchange.visit_ok hvisit⟩
  next => cases h

theorem sockets_of_visit {visit : Visit} (h : stage.visit? = some visit) :
    stage.sockets = [visit.socket] := by
  unfold visit? at h
  unfold sockets
  split at h
  next =>
    cases h
    rfl
  next => cases h

theorem unused_of_not_visit (h : stage.visit? = none) :
    ∀ socket ∈ stage.sockets, socket.Unused := by
  unfold visit? at h
  unfold sockets
  split at h
  next => cases h
  next failure after hvisit =>
    obtain ⟨created, hopens, -, hunused⟩ := Exchange.visit_error hvisit
    rwa [hopens.sockets_eq, List.drop_left]

theorem update_of_host_none (h : stage.host? = none) (jar : Jar) : stage.update jar = jar := by
  rw [update, h]

/-- A hop without a connection leaves what it makes of the jar. -/
theorem jar_of_visit_error {failure : Failure} {after : Exchange}
    (h : stage.exchange.visit stage.hop = .error failure after) :
    after.jar = stage.exchange.jar.map stage.update := by
  have hhead : stage.head? = none := by simp [head?, visit?, h]
  unfold Exchange.visit at h
  split at h
  next hostname =>
    cases h
    have hhost : stage.host? = none := by simp [host?, hostname, Except.toOption]
    rw [funext (update_of_host_none hhost), Option.map_id']
  next hostname hhostname =>
    have hupdate : stage.update = Jar.purge stage.hop.clock.first.selecting := by
      funext jar
      simp [update, host?, hhostname, hhead, Except.toOption]
    simp only at h
    split at h
    next =>
      cases h
      rw [hupdate]
      rfl
    next => cases h

/-- A hop with a connection leaves what it makes of the jar, if all cookies can be stored. -/
theorem jar_of_visit_ok (hstores : stage.Stores) {visit : Visit} {after : Exchange}
    (h : stage.exchange.visit stage.hop = .ok visit after) :
    (Step.left visit.result).jar = stage.exchange.jar.map stage.update := by
  have hbegins := Exchange.visit_ok h
  obtain ⟨hostname, hhostname, hhost⟩ := hbegins.hostname
  have hmatched : stage.host? = some visit.host := by
    simp [host?, hhostname, hhost, Except.toOption]
  have hleft := (stage.hop.perform_left visit.host visit.cookies visit.begun).1
  have hresult : visit.result = stage.hop.perform visit.host visit.cookies visit.begun := by
    rw [Visit.result, hbegins.hop_eq]
  have hhead : stage.head? = stage.hop.head? visit.cookies visit.begun := by
    rw [← hbegins.hop_eq, head?, visit?, h]
    rfl
  have hupdate : stage.update = fun jar => match stage.head? with
      | none => jar.purge stage.hop.clock.first.selecting
      | some head => ((jar.purge stage.hop.clock.first.selecting).store visit.host
          (stage.hop.offers head)).jar := by
    funext jar
    simp only [update, hmatched]
    cases hsome : stage.head? with
    | none => rfl
    | some head =>
        exact (Jar.store_of_sound (hstores _ hmatched head hsome) _).symm
  rw [hresult, hleft, hupdate, hhead, hbegins.jar_eq]
  cases stage.hop.head? visit.cookies visit.begun with
  | none => rfl
  | some head => exact Option.map_map ..

end Stage

namespace Exchange

def stages (hop : Hop) (exchange : Exchange) : List Stage :=
  match _hvisit : exchange.visit hop with
  | .error _ _ => [⟨hop, exchange⟩]
  | .ok visit after =>
    match _hresult : visit.result with
    | .error _ _ | .ok (.final _) _ => [⟨hop, exchange⟩]
    | .ok (.follow head next) state =>
      ⟨hop, exchange⟩ ::
        stages (visit.hop.following head next) (after.onward visit head next state)
termination_by hop.budget.toNat
decreasing_by
  have hbudget := Hop.perform_budget _hresult
  have hhop := (visit_ok _hvisit).hop_eq
  rw [hhop] at hbudget ⊢
  simp only [Hop.following]
  omega

theorem stages_eq (hop : Hop) (exchange : Exchange) :
    stages hop exchange = ⟨hop, exchange⟩ ::
      match exchange.visit hop with
      | .error _ _ => []
      | .ok visit after =>
        match visit.result with
        | .error _ _ | .ok (.final _) _ => []
        | .ok (.follow head next) state =>
          stages (visit.hop.following head next) (after.onward visit head next state) := by
  fun_cases stages hop exchange with
  | case1 failure after hvisit => simp only [hvisit]
  | case2 visit after hvisit failure state hresult => simp only [hvisit, hresult]
  | case3 visit after hvisit head state hresult => simp only [hvisit, hresult]
  | case4 visit after hvisit head next state hresult => simp only [hvisit, hresult]

/-- The visits of a chain are those of its stages that get a connection. -/
theorem visits_eq_filterMap (hop : Hop) (exchange : Exchange) :
    visits hop exchange = (stages hop exchange).filterMap Stage.visit? := by
  fun_induction visits hop exchange with
  | case1 hop exchange failure after hvisit =>
      rw [stages_eq]
      simp [Stage.visit?, hvisit]
  | case2 hop exchange visit after hvisit failure state hresult =>
      rw [stages_eq]
      simp [Stage.visit?, hvisit, hresult]
  | case3 hop exchange visit after hvisit head state hresult =>
      rw [stages_eq]
      simp [Stage.visit?, hvisit, hresult]
  | case4 hop exchange visit after hvisit head next state hresult ih =>
      rw [stages_eq]
      simp [Stage.visit?, hvisit, hresult, ih]

/-- The sockets that a chain leaves are those of its stages. -/
theorem run_sockets (hop : Hop) (exchange : Exchange) :
    (settled (run hop exchange)).sockets =
      exchange.network.sockets ++ (stages hop exchange).flatMap Stage.sockets := by
  fun_induction stages hop exchange with
  | case1 hop exchange failure after hvisit =>
      -- Without a connection, those that were tried are left.
      obtain ⟨created, hopens, -⟩ := visit_error hvisit
      rw [run_eq, hvisit, List.flatMap_singleton]
      simp only [Stage.sockets, hvisit, settled, hopens.sockets_eq, List.drop_left]
  | case2 hop exchange visit after hvisit failure state hresult =>
      have hopens := (visit_ok hvisit).opens.trans ((absorb_opens after visit.host state).trans
        (.retire _ state.socket.close))
      rw [run_eq, hvisit, List.flatMap_singleton]
      simp only [hresult, settled, Stage.sockets, hvisit, Visit.socket]
      exact hopens.sockets_eq
  | case3 hop exchange visit after hvisit head state hresult =>
      have hopens := (visit_ok hvisit).opens.trans ((absorb_opens after visit.host state).trans
        (.retire _ state.socket))
      rw [run_eq, hvisit, List.flatMap_singleton]
      simp only [hresult, settled, Stage.sockets, hvisit, Visit.socket]
      exact hopens.sockets_eq
  | case4 hop exchange visit after hvisit head next state hresult ih =>
      have hopens := (visit_ok hvisit).opens.trans (onward_opens after visit head next state)
      rw [hopens.sockets_eq] at ih
      rw [run_eq, hvisit, List.flatMap_cons]
      simp only [hresult, Stage.sockets, hvisit, Visit.socket]
      rw [ih, List.append_assoc]
      rfl

theorem onward_jar (exchange : Exchange) (visit : Visit) (head : ResponseHead) (next : Url)
    (state : HopState) : (exchange.onward visit head next state).jar = state.jar := by
  unfold onward continueAfter
  split <;> rfl

/-- A chain makes of the jar what its stages make of it, one after the other. -/
theorem run_jar (hop : Hop) (exchange : Exchange)
    (hstores : ∀ stage ∈ stages hop exchange, stage.Stores) :
    (Step.left (run hop exchange)).jar = exchange.jar.map fun jar =>
      (stages hop exchange).foldl (fun jar stage => stage.update jar) jar := by
  fun_induction stages hop exchange with
  | case1 hop exchange failure after hvisit =>
      rw [run_eq, hvisit]
      have hjar : after.jar = exchange.jar.map (Stage.update ⟨hop, exchange⟩) :=
        Stage.jar_of_visit_error hvisit
      exact hjar
  | case2 hop exchange visit after hvisit failure state hresult =>
      have hjar := Stage.jar_of_visit_ok (hstores ⟨hop, exchange⟩ List.mem_cons_self) hvisit
      rw [hresult] at hjar
      rw [run_eq, hvisit]
      simp only [hresult]
      exact hjar
  | case3 hop exchange visit after hvisit head state hresult =>
      have hjar := Stage.jar_of_visit_ok (hstores ⟨hop, exchange⟩ List.mem_cons_self) hvisit
      rw [hresult] at hjar
      rw [run_eq, hvisit]
      simp only [hresult]
      exact hjar
  | case4 hop exchange visit after hvisit head next state hresult ih =>
      have hjar := Stage.jar_of_visit_ok (hstores ⟨hop, exchange⟩ List.mem_cons_self) hvisit
      rw [hresult, Step.left_ok] at hjar
      have hrest := ih fun stage hstage => hstores stage (List.mem_cons_of_mem _ hstage)
      rw [onward_jar, hjar, Option.map_map] at hrest
      rw [run_eq, hvisit]
      simp only [hresult]
      exact hrest

end Exchange

end HttpFetch
