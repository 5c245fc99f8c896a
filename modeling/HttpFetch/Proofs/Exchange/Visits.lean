import HttpFetch.Proofs.Exchange.Dialling
import HttpFetch.Proofs.Exchange.Hop

/-!
# The hops of a chain

A chain visits one host after another.  A visit is a hop with its connection, about to write what
precedes the body; `Exchange.visits` lists those of a chain, and `run_sockets` says that the sockets
a chain leaves are theirs, in order, and at most one more that nothing was sent on.
-/

namespace HttpFetch

/-- A hop that is connected, before anything is sent. -/
structure Visit where
  hop : Hop
  host : Text
  cookies : Headers
  begun : HopState

namespace Visit

def result (visit : Visit) : EStateM.Result Failure HopState HopEnd :=
  visit.hop.perform visit.host visit.cookies visit.begun

def head? (visit : Visit) : Option ResponseHead := visit.hop.head? visit.cookies visit.begun

/-- The socket of the hop in the end; only that of the last response stays open. -/
def socket (visit : Visit) : Socket :=
  match visit.result with
  | .ok (.final _) state => state.socket
  | .ok (.follow _ _) state | .error _ state => state.socket.close

end Visit

namespace Exchange

/-- Connects a hop, as far as it gets. -/
def visit (hop : Hop) : Step Exchange Visit := fun exchange =>
  match hop.url.hostname with
  | .error failure => .error failure exchange
  | .ok hostname =>
    let host := Hop.cookieHost hostname
    let exchange := exchange.purge hop.clock.first.selecting
    let jar := exchange.jar.getD Jar.empty
    let cookies := jar.fields host hop.url.decodedPath hop.url.isSecure
    let exchange := exchange.noteOmissions (jar.omissions host hop.url.decodedPath hop.url.isSecure)
    match Network.connect hop.request hop.url exchange.network with
    | .error failure network => .error failure { exchange with network := network }
    | .ok transport network =>
      let begun : HopState := ⟨Reader.ofTransport transport, exchange.jar, exchange.payload, 0⟩
      .ok ⟨hop, host, cookies, begun⟩ { exchange with network := network }

/-- The exchange that a redirect leaves to the next hop. -/
def onward (exchange : Exchange) (visit : Visit) (head : ResponseHead) (next : Url)
    (state : HopState) : Exchange :=
  let exchange := ((exchange.absorb visit.host state).giveUp state.reader).continueAfter head
  { exchange with
    network := exchange.network.note .pipeline (visit.hop.followNote head next) }

/-- A chain connects a hop, performs it, and goes on where that leads. -/
theorem run_eq (hop : Hop) (exchange : Exchange) :
    run hop exchange =
      match exchange.visit hop with
      | .error failure exchange => .error failure exchange
      | .ok visit exchange =>
        match visit.result with
        | .error failure state =>
          .error failure ((exchange.absorb visit.host state).giveUp state.reader)
        | .ok (.final head) state =>
          .ok
            { Response.ofHead head (some visit.hop.url) visit.hop.method state.reader with
              attached := true }
            (exchange.absorb visit.host state)
        | .ok (.follow head next) state =>
          run (visit.hop.following head next) (exchange.onward visit head next state) := by
  rw [run]
  unfold visit
  generalize hop.clock.first.selecting = now
  cases hop.url.hostname with
  | error failure => rfl
  | ok hostname =>
      simp only
      generalize (exchange.purge now).jar.getD Jar.empty = jar
      generalize (exchange.purge now).noteOmissions
        (jar.omissions (Hop.cookieHost hostname) hop.url.decodedPath hop.url.isSecure) = noted
      cases Network.connect hop.request hop.url noted.network with
      | error failure network => rfl
      | ok transport network =>
          simp only [Visit.result]
          generalize jar.fields (Hop.cookieHost hostname) hop.url.decodedPath hop.url.isSecure =
            cookies
          cases hop.perform (Hop.cookieHost hostname) cookies
              ⟨Reader.ofTransport transport, noted.jar, noted.payload, 0⟩ with
          | error failure state => rfl
          | ok ending state =>
              cases ending with
              | final head => rfl
              | follow head next => rfl

/-- What a visit that is begun has, and what it took. -/
structure Begins (hop : Hop) (before : Exchange) (visit : Visit) (after : Exchange) : Prop where
  hop_eq : visit.hop = hop
  hostname : ∃ hostname, hop.url.hostname = .ok hostname ∧ visit.host = Hop.cookieHost hostname
  jar_eq : visit.begun.jar = before.jar.map (Jar.purge hop.clock.first.selecting)
  cookies_eq : visit.cookies =
    (visit.begun.jar.getD Jar.empty).fields visit.host hop.url.decodedPath hop.url.isSecure
  payload_eq : visit.begun.payload = before.payload
  connected : visit.begun.socket.Connected
  wrapped : visit.begun.socket.isWrapped = hop.url.isSecure
  opens : before.network.Opens [] 1 after.network
  kept : after.payload = before.payload

theorem noteOmissions_opens (exchange : Exchange) (omissions : List Failure) :
    exchange.network.Opens [] 0 (exchange.noteOmissions omissions).network :=
  .foldl (fun network _ => .note network _ _) omissions exchange.network

theorem absorb_opens (exchange : Exchange) (host : Text) (state : HopState) :
    exchange.network.Opens [] 0 (exchange.absorb host state).network :=
  .foldl (fun network _ => .note network _ _) (List.replicate state.ignored ()) exchange.network

theorem onward_opens (exchange : Exchange) (visit : Visit) (head : ResponseHead) (next : Url)
    (state : HopState) :
    exchange.network.Opens [state.socket.close] 0
      (exchange.onward visit head next state).network := by
  have hkeeps : ∀ exchange : Exchange,
      (exchange.continueAfter head).network = exchange.network := by
    intro exchange
    unfold continueAfter
    split <;> rfl
  have hnote := (Network.Opens.retire (exchange.absorb visit.host state).network
    state.socket.close).trans (.note _ .pipeline (visit.hop.followNote head next))
  unfold onward
  simp only [hkeeps]
  exact (absorb_opens exchange visit.host state).trans hnote

theorem onward_payload (exchange : Exchange) (visit : Visit) (head : ResponseHead) (next : Url)
    (state : HopState) :
    (exchange.onward visit head next state).payload =
      if Hop.becomesGet head then Payload.empty else state.payload := by
  unfold onward continueAfter
  split <;> rfl

theorem visit_ok
    {hop : Hop} {exchange exchange' : Exchange} {visit : Visit}
    (h : exchange.visit hop = .ok visit exchange') : Begins hop exchange visit exchange' := by
  unfold Exchange.visit at h
  split at h
  next => cases h
  next hostname hhostname =>
    simp only at h
    split at h
    next => cases h
    next transport network hconnect =>
      cases h
      obtain ⟨hopens, hconnected, hwrapped⟩ := Network.connect_ok hconnect
      exact ⟨rfl, ⟨hostname, hhostname, rfl⟩, rfl, rfl, rfl, hconnected, hwrapped,
        (noteOmissions_opens _ _).trans hopens, rfl⟩

theorem visit_error
    {hop : Hop} {exchange exchange' : Exchange} {failure : Failure}
    (h : exchange.visit hop = .error failure exchange') :
    exchange.network.Abandons exchange'.network := by
  unfold Exchange.visit at h
  split at h
  next =>
    cases h
    exact .of_none (.refl _)
  next hostname hhostname =>
    simp only at h
    split at h
    next failure' network hconnect =>
      cases h
      exact (Network.connect_error hconnect).of_opens (noteOmissions_opens _ _)
    next => cases h

theorem visit_failsAs (hop : Hop) : (visit hop).FailsAs Failure.ofConnecting := by
  intro exchange failure exchange' h
  unfold visit at h
  split at h
  next failure' hhostname =>
    cases h
    exact Url.hostname_failsAs _ _ hhostname
  next hostname hhostname =>
    dsimp only at h
    split at h
    next failure' network hconnect =>
      cases h
      exact (Network.connect_throws hconnect).1.ofConnecting
    next => cases h

/-- The visits of a chain, in order. -/
def visits (hop : Hop) (exchange : Exchange) : List Visit :=
  match _hvisit : exchange.visit hop with
  | .error _ _ => []
  | .ok visit exchange =>
    match _hresult : visit.result with
    | .error _ _ | .ok (.final _) _ => [visit]
    | .ok (.follow head next) state =>
      visit :: visits (visit.hop.following head next) (exchange.onward visit head next state)
termination_by hop.budget.toNat
decreasing_by
  have hbudget := Hop.perform_budget _hresult
  have hhop := (visit_ok _hvisit).hop_eq
  rw [hhop] at hbudget ⊢
  simp only [Hop.following]
  omega

/-- The network that a chain leaves, the connection of a response among its sockets. -/
def settled : EStateM.Result Failure Exchange Response → Network
  | .ok response exchange => exchange.network.retire response.reader.transport.socket
  | .error _ exchange => exchange.network

end Exchange

namespace Visit

theorem performed (visit : Visit) :
    visit.hop.Performed visit.host visit.cookies visit.begun visit.result :=
  visit.hop.perform_cases visit.host visit.cookies visit.begun

theorem exists_transfers (visit : Visit) :
    ∃ sends, visit.begun.socket.Transfers sends (Step.left visit.result).socket := by
  have hperformed := visit.performed
  generalize visit.result = result at hperformed
  cases hperformed with
  | unsent hhead hsends => exact ⟨_, hsends⟩
  | headless hprelude hhead hsends => exact ⟨_, hsends⟩
  | refused hprelude hhead hrefuses hsends => exact ⟨_, hsends⟩
  | interrupted hprelude hhead hrefuses hpreserves hpieces hsends => exact ⟨_, hsends⟩
  | preserved hprelude hhead hredirect hget hpayload hsends => exact ⟨_, hsends⟩
  | redirected hprelude hhead hrefuses hredirect hget hfailure hsends => exact ⟨_, hsends⟩
  | answered hprelude hhead hrefuses hredirect hfailure hsends => exact ⟨_, hsends⟩

/-- What closing does not change of a socket is as the hop left it. -/
theorem view_socket {β : Type} {view : Socket → β}
    (hclose : ∀ socket : Socket, view socket.close = view socket) (visit : Visit) :
    view visit.socket = view (Step.left visit.result).socket := by
  unfold socket
  split
  next head state hresult => rw [hresult, Step.left_ok]
  next head next state hresult => rw [hresult, Step.left_ok, hclose]
  next failure state hresult => rw [hresult, Step.left_error, hclose]

end Visit

namespace Exchange

/-- The sockets that a chain opens are those of its visits, and one that could not be connected; a
chain that ends with a response has none of those.  The budget bounds them together. -/
theorem run_opens_within (hop : Hop) (exchange : Exchange) :
    ∃ unused : List Socket,
      exchange.network.Opens ((visits hop exchange).map Visit.socket ++ unused)
        ((visits hop exchange).length + unused.length) (settled (run hop exchange)) ∧
      (visits hop exchange).length + unused.length ≤ hop.budget.toNat + 1 ∧
      (∀ response exchange', run hop exchange = .ok response exchange' → unused = []) ∧
      ∀ socket ∈ unused, socket.Unused := by
  fun_induction visits hop exchange with
  | case1 hop exchange failure exchange' hvisit =>
      obtain ⟨unused, hopens, hone, hunused⟩ := visit_error hvisit
      refine ⟨unused, ?_, ?_, ?_, hunused⟩
      · rw [run_eq, hvisit]
        simpa [settled] using hopens
      · rw [List.length_nil]
        omega
      · intro response after h
        rw [run_eq, hvisit] at h
        cases h
  | case2 hop exchange visit exchange' hvisit failure state hresult =>
      have hbegins := visit_ok hvisit
      refine ⟨[], ?_, by simp, fun _ _ _ => rfl, by simp⟩
      rw [run_eq, hvisit]
      simp only [hresult, settled, List.map_cons, List.map_nil, Visit.socket]
      exact hbegins.opens.trans ((absorb_opens ..).trans (.retire ..))
  | case3 hop exchange visit exchange' hvisit head state hresult =>
      have hbegins := visit_ok hvisit
      refine ⟨[], ?_, by simp, fun _ _ _ => rfl, by simp⟩
      rw [run_eq, hvisit]
      simp only [hresult, settled, List.map_cons, List.map_nil, Visit.socket]
      exact hbegins.opens.trans ((absorb_opens ..).trans (.retire ..))
  | case4 hop exchange visit exchange' hvisit head next state hresult ih =>
      have hbegins := visit_ok hvisit
      obtain ⟨unused, hopens, hwithin, hnone, hunused⟩ := ih
      refine ⟨unused, ?_, ?_, ?_, hunused⟩
      · have hall :=
          hbegins.opens.trans ((onward_opens exchange' visit head next state).trans hopens)
        rw [run_eq, hvisit]
        simp only [hresult, List.map_cons, List.length_cons, Visit.socket]
        rw [Nat.zero_add, ← Nat.add_assoc, Nat.add_comm 1] at hall
        exact hall
      · have hbudget := Hop.perform_budget hresult
        have hspent : (visit.hop.following head next).budget = hop.budget - 1 := by
          rw [Hop.following, hbegins.hop_eq]
        rw [hbegins.hop_eq] at hbudget
        rw [hspent] at hwithin
        rw [List.length_cons]
        omega
      · rw [run_eq, hvisit]
        simpa only [hresult] using hnone

/-- The sockets that a chain opens are those of its visits, and one that could not be connected. -/
theorem run_opens (hop : Hop) (exchange : Exchange) :
    ∃ unused : List Socket,
      exchange.network.Opens ((visits hop exchange).map Visit.socket ++ unused)
        ((visits hop exchange).length + unused.length) (settled (run hop exchange)) ∧
      ∀ socket ∈ unused, socket.Unused := by
  obtain ⟨unused, hopens, -, -, hunused⟩ := run_opens_within hop exchange
  exact ⟨unused, hopens, hunused⟩

end Exchange

end HttpFetch
