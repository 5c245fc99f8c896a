import HttpFetch.Proofs.Exchange.Visits

/-!
# Notes make no difference

A network keeps notes on what is done with it, and nothing ever reads them.  Two networks that
differ in their notes only are told apart by no step that connects, and two exchanges by no hop.
What has been looked up is kept like the notes, and only grows.
-/

namespace HttpFetch

/-- Two results that end in the same way, with related values and related states. -/
inductive Step.Related {σ α : Type} (values : α → α → Prop) (states : σ → σ → Prop) :
    EStateM.Result Failure σ α → EStateM.Result Failure σ α → Prop
  | ok {a a' : α} {state state' : σ} (hvalue : values a a') (hstate : states state state') :
      Related values states (.ok a state) (.ok a' state')
  | error {failure : Failure} {state state' : σ} (hstate : states state state') :
      Related values states (.error failure state) (.error failure state')

/-! ## Networks up to notes -/

namespace Network

/-- Networks that differ in their notes only. -/
structure Alike (network other : Network) : Prop where
  scripts_eq : other.scripts = network.scripts
  hosts_eq : other.hosts = network.hosts
  lookups_eq : other.lookups = network.lookups
  sockets_eq : other.sockets = network.sockets

namespace Alike

variable {network other : Network}

theorem refl (network : Network) : network.Alike network := ⟨rfl, rfl, rfl, rfl⟩

theorem symm (h : network.Alike other) : other.Alike network :=
  ⟨h.scripts_eq.symm, h.hosts_eq.symm, h.lookups_eq.symm, h.sockets_eq.symm⟩

theorem trans {third : Network} (h : network.Alike other) (h' : other.Alike third) :
    network.Alike third :=
  ⟨h'.scripts_eq.trans h.scripts_eq, h'.hosts_eq.trans h.hosts_eq,
    h'.lookups_eq.trans h.lookups_eq, h'.sockets_eq.trans h.sockets_eq⟩

theorem of_note (network : Network) (source : NoteSource) (text : Text) :
    network.Alike (network.note source text) := ⟨rfl, rfl, rfl, rfl⟩

theorem of_foldl_note {α : Type} (network : Network) (source : NoteSource) (text : α → Text)
    (list : List α) :
    network.Alike (list.foldl (fun network a => network.note source (text a)) network) := by
  induction list generalizing network with
  | nil => exact refl network
  | cons a list ih => exact (of_note network source (text a)).trans (ih _)

/-- Notes on both sides make no difference. -/
theorem both {noted noted' : Network} (h : network.Alike other) (hnoted : network.Alike noted)
    (hnoted' : other.Alike noted') : noted.Alike noted' :=
  hnoted.symm.trans (h.trans hnoted')

theorem retire (h : network.Alike other) (socket : Socket) :
    (network.retire socket).Alike (other.retire socket) :=
  ⟨h.scripts_eq, h.hosts_eq, h.lookups_eq, congrArg (· ++ [socket]) h.sockets_eq⟩

theorem create (h : network.Alike other) :
    other.create.1 = network.create.1 ∧ network.create.2.Alike other.create.2 := by
  unfold Network.create
  rw [h.scripts_eq]
  exact ⟨rfl, rfl, h.hosts_eq, h.lookups_eq, h.sockets_eq⟩

end Alike

section Connecting

variable {network other : Network} (h : network.Alike other)
include h

theorem resolve_related (host : Text) (port : Int) :
    Step.Related Eq Alike (resolve host port network) (resolve host port other) := by
  have hasked : (network.ask host port).Alike (other.ask host port) :=
    ⟨h.scripts_eq, congrArg (answersAfter host) h.hosts_eq,
      congrArg (· ++ [(host, port)]) h.lookups_eq, h.sockets_eq⟩
  have hfound : (other.hosts.lookup host).getD elsewhere =
      (network.hosts.lookup host).getD elsewhere := by rw [h.hosts_eq]
  unfold resolve
  rw [hfound]
  split
  next => exact .ok rfl hasked
  next => split <;> exact .error hasked

theorem dial_related (timeout : Option Double) (address : Address) :
    Step.Related Eq Alike (dial timeout address network) (dial timeout address other) := by
  obtain ⟨hsocket, hcreated⟩ := h.create
  rw [dial_eq, dial_eq, h.scripts_eq, hsocket]
  split
  next => exact .ok rfl hcreated
  next =>
    dsimp only
    split <;> exact .error (hcreated.retire _)

theorem dialHost_related (request : Request) (host : Text) (port : Int) :
    Step.Related Eq Alike (dialHost request host port network)
      (dialHost request host port other) := by
  have hresolve := resolve_related h host port
  unfold dialHost
  generalize resolve host port network = result at hresolve ⊢
  generalize resolve host port other = result' at hresolve ⊢
  cases hresolve with
  | error hstate => exact .error hstate
  | @ok list _ state state' hvalue hstate =>
      subst hvalue
      cases list with
      | nil => exact .error hstate
      | cons first rest => exact dial_related (hstate.both (.of_note ..) (.of_note ..)) ..

theorem connectPlain_related (request : Request) (host : Text) (url : Url) :
    Step.Related Eq Alike (connectPlain request host url network)
      (connectPlain request host url other) := by
  have hdial := dialHost_related h request host (portOf url "http")
  unfold connectPlain
  generalize dialHost request host (portOf url "http") network = result at hdial ⊢
  generalize dialHost request host (portOf url "http") other = result' at hdial ⊢
  cases hdial with
  | error hstate => exact .error hstate
  | ok hvalue hstate => exact .ok (by rw [hvalue]) hstate

theorem connectTls_related (request : Request) (host : Text) (url : Url) :
    Step.Related Eq Alike (connectTls request host url network)
      (connectTls request host url other) := by
  have hdial := dialHost_related h request host (portOf url "https")
  unfold connectTls
  split
  next => exact .error h
  next =>
    generalize dialHost request host (portOf url "https") network = result at hdial ⊢
    generalize dialHost request host (portOf url "https") other = result' at hdial ⊢
    cases hdial with
    | error hstate => exact .error hstate
    | @ok socket _ state state' hvalue hstate =>
        subst hvalue
        dsimp only
        split
        next => exact .ok rfl hstate
        next =>
          split <;> exact .error (hstate.retire _)
        next => exact .error (hstate.retire _)

theorem connect_related (request : Request) (url : Url) :
    Step.Related Eq Alike (connect request url network) (connect request url other) := by
  unfold connect
  dsimp only
  split
  next =>
    split
    next => exact .error h
    next host hhost =>
      split
      next => exact connectTls_related h request host url
      next => exact connectPlain_related h request host url
  next => exact .error h

end Connecting

end Network

/-! ## Exchanges up to notes -/

namespace Exchange

/-- Exchanges that differ in the notes of their networks only. -/
structure Alike (exchange other : Exchange) : Prop where
  network : exchange.network.Alike other.network
  jar_eq : other.jar = exchange.jar
  payload_eq : other.payload = exchange.payload
  setAside_eq : other.setAside = exchange.setAside

namespace Alike

variable {exchange other : Exchange}

theorem refl (exchange : Exchange) : exchange.Alike exchange := ⟨.refl _, rfl, rfl, rfl⟩

theorem purge (h : exchange.Alike other) (now : Int) :
    (exchange.purge now).Alike (other.purge now) :=
  ⟨h.network, congrArg (Option.map (Jar.purge now)) h.jar_eq, h.payload_eq, h.setAside_eq⟩

theorem noteOmissions (h : exchange.Alike other) (omissions : List Failure) :
    (exchange.noteOmissions omissions).Alike (other.noteOmissions omissions) :=
  ⟨h.network.both (.of_foldl_note ..) (.of_foldl_note ..), h.jar_eq, h.payload_eq, h.setAside_eq⟩

theorem absorb (h : exchange.Alike other) (host : Text) (state : HopState) :
    (exchange.absorb host state).Alike (other.absorb host state) :=
  ⟨h.network.both (.of_foldl_note ..) (.of_foldl_note ..), rfl, rfl, h.setAside_eq⟩

theorem giveUp (h : exchange.Alike other) (reader : Reader) :
    (exchange.giveUp reader).Alike (other.giveUp reader) :=
  ⟨h.network.retire _, h.jar_eq, h.payload_eq, h.setAside_eq⟩

theorem continueAfter (h : exchange.Alike other) (head : ResponseHead) :
    (exchange.continueAfter head).Alike (other.continueAfter head) := by
  unfold Exchange.continueAfter
  split
  next => exact ⟨h.network, h.jar_eq, rfl, by rw [h.setAside_eq, h.payload_eq]⟩
  next => exact h

end Alike

/-! ## Lookups of a chain -/

theorem visit_lookups (hop : Hop) (exchange : Exchange) :
    (Step.left (exchange.visit hop)).network.lookups =
      exchange.network.lookups ++ Network.lookupsOf hop.url := by
  unfold visit
  generalize hop.clock.first.selecting = now
  cases hhost : hop.url.hostname with
  | error failure => simp [Network.lookupsOf, hhost]
  | ok hostname =>
      dsimp only
      generalize ((exchange.purge now).jar.getD Jar.empty).omissions _ _ _ = omissions
      have hnoted := Network.Alike.of_foldl_note exchange.network .cookies
        (fun failure => "Skipping cookie that cannot be encoded: ".toList ++ failure.message)
        omissions
      have hconnect := Network.connect_lookups
        ((exchange.purge now).noteOmissions omissions).network hop.request hop.url
      generalize Network.connect hop.request hop.url
        ((exchange.purge now).noteOmissions omissions).network = result at hconnect ⊢
      rw [← hnoted.lookups_eq]
      cases result with
      | error failure network => exact hconnect
      | ok transport network => exact hconnect

theorem absorb_alike (exchange : Exchange) (host : Text) (state : HopState) :
    exchange.network.Alike (exchange.absorb host state).network :=
  .of_foldl_note ..

theorem onward_lookups (exchange : Exchange) (visit : Visit) (head : ResponseHead) (next : Url)
    (state : HopState) :
    (exchange.onward visit head next state).network.lookups = exchange.network.lookups := by
  rw [← (exchange.absorb_alike visit.host state).lookups_eq]
  unfold onward continueAfter
  split <;> rfl

/-- A chain goes on from what its first hop has looked up. -/
theorem run_lookups (hop : Hop) (exchange : Exchange) :
    (Step.left (exchange.visit hop)).network.lookups <+:
      (settled (run hop exchange)).lookups := by
  fun_induction visits hop exchange with
  | case1 hop exchange failure exchange' hvisit =>
      rw [run_eq, hvisit]
      exact List.prefix_rfl
  | case2 hop exchange visit exchange' hvisit failure state hresult =>
      rw [run_eq, hvisit]
      simp only [hresult, Step.left_ok]
      rw [← (exchange'.absorb_alike visit.host state).lookups_eq]
      exact List.prefix_rfl
  | case3 hop exchange visit exchange' hvisit head state hresult =>
      rw [run_eq, hvisit]
      simp only [hresult, Step.left_ok]
      rw [← (exchange'.absorb_alike visit.host state).lookups_eq]
      exact List.prefix_rfl
  | case4 hop exchange visit exchange' hvisit head next state hresult ih =>
      rw [run_eq, hvisit]
      simp only [hresult, Step.left_ok]
      rw [← onward_lookups exchange' visit head next state]
      refine List.IsPrefix.trans ?_ ih
      rw [visit_lookups]
      exact List.prefix_append ..

end Exchange

end HttpFetch
