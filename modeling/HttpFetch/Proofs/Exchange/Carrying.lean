import HttpFetch.Proofs.Exchange.Visits

/-!
# The payload of a chain

A chain sends its payload once.  Redirects that keep the method pass it on untouched; the first hop
with any other response takes it, and the hops after that have the empty payload.  In the same way
the method is that of the caller up to the first redirect that turns it into a GET.  The two facts
are carried from hop to hop by `visits_getElem`, and `run_carries` says with them what every
connection of a chain was sent.
-/

namespace HttpFetch

namespace Visit

/-- Whether the head of a visit is a redirect that turns the request into a GET. -/
def turnsToGet (visit : Visit) : Bool :=
  visit.head?.any fun head => head.isRedirect && Hop.becomesGet head

/-- Whether the head of a visit decides over the payload, so that no later hop has it. -/
def settles (visit : Visit) : Bool := visit.head?.any fun head => !Hop.preservesBody head

/-- What a visit with a payload at hand sends after what precedes the body: nothing without a
head, over a redirect that preserves the body or when the head is refused; otherwise the payload,
or a beginning of it if the hop fails. -/
def Carries (visit : Visit) (payload : Payload) (body : List Bytes) : Prop :=
  match visit.head? with
  | none => body = []
  | some head =>
    if Hop.preservesBody head || visit.hop.refuses visit.host head visit.begun then body = []
    else
      let chunked := visit.hop.request.usesChunked payload.size
      match visit.result with
      | .ok _ _ =>
        payload.contents.failure = none ∧ body = Upload.framing chunked payload.contents.pieces
      | .error _ _ =>
        ∃ pieces, pieces <+: payload.contents.pieces ∧ body = pieces.map (Upload.framed chunked)

theorem sent_socket (visit : Visit) :
    visit.socket.sent = (Step.left visit.result).socket.sent := by
  apply visit.view_socket
  intro socket
  simp [Socket.close, Socket.sent, Socket.record, List.filterMap_append]

/-- A visit that gets no head may have sent nothing; any other sends what precedes the body and what
it carries. -/
theorem sends_of_connected {visit : Visit} (hconnected : visit.begun.socket.Connected) :
    (visit.head? = none ∧ visit.socket.sent = []) ∨ ∃ prelude body,
      visit.hop.request.prelude visit.hop.method visit.hop.url visit.cookies = .ok prelude ∧
        visit.socket.sent = prelude :: body ∧ visit.Carries visit.begun.payload body := by
  have hperformed := visit.performed
  have hsent : ∀ sends, visit.begun.socket.Transfers sends (Step.left visit.result).socket →
      visit.socket.sent = sends := by
    intro sends htransfers
    rw [sent_socket, htransfers.sent_eq, hconnected.sent_eq, List.nil_append]
  unfold Carries head?
  generalize visit.result = result at hperformed hsent
  cases hperformed with
  | unsent hhead hsends => exact Or.inl ⟨hhead, hsent _ hsends⟩
  | headless hprelude hhead hsends =>
      refine Or.inr ⟨_, [], hprelude, hsent _ hsends, ?_⟩
      rw [hhead]
  | refused hprelude hhead hrefuses hsends =>
      refine Or.inr ⟨_, [], hprelude, hsent _ hsends, ?_⟩
      rw [hhead]
      simp only [hrefuses, Bool.or_true, if_true]
  | interrupted hprelude hhead hrefuses hpreserves hpieces hsends =>
      refine Or.inr ⟨_, _, hprelude, hsent _ hsends, ?_⟩
      rw [hhead]
      simp only [hrefuses, hpreserves, Bool.or_false, Bool.false_eq_true, if_false]
      exact ⟨_, hpieces, rfl⟩
  | preserved hprelude hhead hredirect hget hpayload hsends =>
      refine Or.inr ⟨_, [], hprelude, hsent _ hsends, ?_⟩
      rw [hhead]
      simp only [Hop.preservesBody, hredirect, hget, Bool.not_false, Bool.and_true, Bool.true_or,
        if_true]
  | redirected hprelude hhead hrefuses hredirect hget hfailure hsends =>
      refine Or.inr ⟨_, _, hprelude, hsent _ hsends, ?_⟩
      rw [hhead]
      simp only [hrefuses, Hop.preservesBody, hget, Bool.not_true, Bool.and_false, Bool.or_false,
        Bool.false_eq_true, if_false]
      exact ⟨hfailure, trivial⟩
  | answered hprelude hhead hrefuses hredirect hfailure hsends =>
      refine Or.inr ⟨_, _, hprelude, hsent _ hsends, ?_⟩
      rw [hhead]
      simp only [hrefuses, Hop.preservesBody, hredirect, Bool.false_and, Bool.or_false,
        Bool.false_eq_true, if_false]
      exact ⟨hfailure, trivial⟩

/-- A visit that leads on has a redirect for a head, and its payload is still there unless the
redirect turned the request into a GET. -/
theorem follow_spec
    {visit : Visit} {head : ResponseHead} {next : Url} {state : HopState}
    (h : visit.result = .ok (.follow head next) state) :
    visit.turnsToGet = Hop.becomesGet head ∧ visit.settles = Hop.becomesGet head ∧
      (Hop.becomesGet head = false → state.payload = visit.begun.payload) := by
  have hperformed := visit.performed
  rw [h] at hperformed
  unfold turnsToGet settles head?
  cases hperformed with
  | preserved hprelude hhead hredirect hget hpayload hsends =>
      rw [hhead]
      simp only [Option.any_some, Hop.preservesBody, hredirect, hget]
      exact ⟨rfl, rfl, fun _ => hpayload⟩
  | redirected hprelude hhead hrefuses hredirect hget hfailure hsends =>
      rw [hhead]
      simp only [Option.any_some, Hop.preservesBody, hredirect, hget]
      exact ⟨rfl, rfl, fun hfalse => by cases hfalse⟩

theorem body_of_empty {visit : Visit} {body : List Bytes}
    (h : visit.Carries Payload.empty body) : body = [] ∨ body = [Chunked.terminator] := by
  unfold Carries at h
  rw [Payload.contents_empty] at h
  split at h
  next => exact Or.inl h
  next head hhead =>
    split at h
    next => exact Or.inl h
    next hkeeps =>
      simp only at h
      split at h
      next =>
        obtain ⟨-, rfl⟩ := h
        cases visit.hop.request.usesChunked Payload.empty.size with
        | false => exact Or.inl rfl
        | true => exact Or.inr rfl
      next =>
        obtain ⟨pieces, hbegins, rfl⟩ := h
        rw [List.prefix_nil.mp hbegins]
        exact Or.inl rfl

end Visit

namespace Exchange

/-- What a visit has at hand, by the visits before it. -/
structure Follows (hop : Hop) (exchange : Exchange) (before : List Visit) (visit : Visit) :
    Prop where
  request_eq : visit.hop.request = hop.request
  method_eq : visit.hop.method =
    if before.any Visit.turnsToGet then "GET".toList else hop.method
  payload_eq : visit.begun.payload =
    if before.any Visit.settles then Payload.empty else exchange.payload
  connected : visit.begun.socket.Connected

theorem Begins.follows
    {hop : Hop} {exchange exchange' : Exchange} {visit : Visit}
    (h : Begins hop exchange visit exchange') : Follows hop exchange [] visit :=
  ⟨congrArg Hop.request h.hop_eq, congrArg Hop.method h.hop_eq, h.payload_eq, h.connected⟩

theorem Begins.follows_singleton
    {hop : Hop} {exchange exchange' : Exchange} {visit : Visit}
    (h : Begins hop exchange visit exchange') (i : Nat) (hi : i < [visit].length) :
    Follows hop exchange ([visit].take i) [visit][i] := by
  have hzero : i = 0 := by simpa using hi
  subst hzero
  exact h.follows

theorem Follows.cons
    {hop : Hop} {exchange exchange' : Exchange} {first : Visit} {head : ResponseHead} {next : Url}
    {state : HopState} (hbegins : Begins hop exchange first exchange')
    (hresult : first.result = .ok (.follow head next) state) {before : List Visit} {visit : Visit}
    (h : Follows (first.hop.following head next) (exchange'.onward first head next state) before
      visit) : Follows hop exchange (first :: before) visit := by
  obtain ⟨hturns, hsettles, hpayload⟩ := Visit.follow_spec hresult
  constructor
  · rw [h.request_eq, Hop.following, hbegins.hop_eq]
  · rw [h.method_eq, List.any_cons, hturns, Hop.following, hbegins.hop_eq]
    cases Hop.becomesGet head with
    | false => rfl
    | true =>
        simp only [if_true, Bool.true_or]
        split <;> rfl
  · rw [h.payload_eq, List.any_cons, hsettles, onward_payload]
    cases hget : Hop.becomesGet head with
    | false =>
        rw [hpayload hget, hbegins.payload_eq]
        rfl
    | true =>
        simp only [if_true, Bool.true_or]
        split <;> rfl
  · exact h.connected

theorem visits_getElem (hop : Hop) (exchange : Exchange) :
    ∀ (i : Nat) (hi : i < (visits hop exchange).length),
      Follows hop exchange ((visits hop exchange).take i) (visits hop exchange)[i] := by
  fun_induction visits hop exchange with
  | case1 => exact fun i hi => absurd hi (Nat.not_lt_zero i)
  | case2 hop exchange visit exchange' hvisit failure state hresult =>
      exact (visit_ok hvisit).follows_singleton
  | case3 hop exchange visit exchange' hvisit head state hresult =>
      exact (visit_ok hvisit).follows_singleton
  | case4 hop exchange visit exchange' hvisit head next state hresult ih =>
      -- A later visit is one of the chain that the first leads to.
      intro i hi
      cases i with
      | zero => exact (visit_ok hvisit).follows
      | succ i =>
          rw [List.length_cons, Nat.add_lt_add_iff_right] at hi
          exact (ih i hi).cons (visit_ok hvisit) hresult

end Exchange

end HttpFetch
