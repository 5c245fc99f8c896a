import HttpFetch.Proofs.Exchange.Origins
import HttpFetch.Proofs.Payload.Sending

/-!
# What a hop can do

Once it is connected a hop goes one of seven ways, told apart by how far it gets.  `perform_cases`
lists them with what is sent on each, and for those that fail, whether it is for the budget;
`perform_left` tells what becomes of the jar.  Everything that is later said of hops is read off
these two, and no later argument looks into the steps of a hop.
-/

namespace HttpFetch

def HopState.socket (state : HopState) : Socket := state.reader.transport.socket

namespace Hop

/-- Whether a head is a redirect that keeps the method and leaves the payload to the next hop. -/
def preservesBody (head : ResponseHead) : Bool := head.isRedirect && !becomesGet head

/-- The head that a hop gets, if it gets one. -/
def head? (hop : Hop) (cookies : Headers) (state : HopState) : Option ResponseHead :=
  match hop.sendPrelude cookies state with
  | .error _ _ => none
  | .ok () state =>
    match readHead state with
    | .error _ _ => none
    | .ok head _ => some head

/-- Whether a hop fails over a head, because of its cookies or of where it leads. -/
def refuses (hop : Hop) (host : Text) (head : ResponseHead) (state : HopState) : Bool :=
  match hop.storeCookies host head state with
  | .error _ _ => true
  | .ok () _ =>
    head.isRedirect &&
      match hop.target head with
      | .error _ => true
      | .ok _ => false

/-- Whether the cookies of a head are stored without a failure. -/
def stores (hop : Hop) (host : Text) (head : ResponseHead) (state : HopState) : Bool :=
  match hop.storeCookies host head state with
  | .error _ _ => false
  | .ok () _ => true

/-- Whether a hop with a head comes to look at its budget: it does when the head is a redirect and
its cookies are stored. -/
def testsBudget (hop : Hop) (host : Text) (head : ResponseHead) (state : HopState) : Bool :=
  head.isRedirect && hop.stores host head state

/-! ## The steps of a hop -/

theorem sendPrelude_ok
    {hop : Hop} {cookies : Headers} {state state' : HopState}
    (h : hop.sendPrelude cookies state = .ok () state') :
    ∃ prelude, hop.request.prelude hop.method hop.url cookies = .ok prelude ∧
      state.socket.Transfers [prelude] state'.socket ∧
      state'.jar = state.jar ∧ state'.payload = state.payload := by
  unfold sendPrelude at h
  split at h
  next => cases h
  next prelude hprelude =>
    split at h
    next transport hwrite =>
      cases h
      exact ⟨prelude, hprelude, Transport.transfers_of_write_ok hwrite, rfl, rfl⟩
    next => cases h

theorem sendPrelude_error
    {hop : Hop} {cookies : Headers} {state state' : HopState} {failure : Failure}
    (h : hop.sendPrelude cookies state = .error failure state') :
    state.socket.Transfers [] state'.socket := by
  unfold sendPrelude at h
  split at h
  next =>
    cases h
    exact .refl _
  next prelude hprelude =>
    split at h
    next => cases h
    next failure' transport hwrite =>
      cases h
      exact (Transport.transfers_of_write_error hwrite).1

theorem readHead_keeps (state : HopState) :
    state.socket.Transfers [] (Step.left (readHead state)).socket ∧
      (Step.left (readHead state)).jar = state.jar ∧
      (Step.left (readHead state)).payload = state.payload := by
  have hsilent := Silent.readHead state.reader
  unfold readHead
  split
  next head reader hread =>
    rw [hread] at hsilent
    exact ⟨hsilent, rfl, rfl⟩
  next failure reader hread =>
    rw [hread] at hsilent
    exact ⟨hsilent, rfl, rfl⟩

theorem storeCookies_keeps (hop : Hop) (host : Text) (head : ResponseHead) (state : HopState) :
    (Step.left (hop.storeCookies host head state)).socket = state.socket ∧
      (Step.left (hop.storeCookies host head state)).payload = state.payload := by
  unfold storeCookies
  split
  next => exact ⟨rfl, rfl⟩
  next jar hjar =>
    simp only
    split
    next => exact ⟨rfl, rfl⟩
    next => exact ⟨rfl, rfl⟩

theorem refuses_eq (hop : Hop) (host : Text) (head : ResponseHead) (state : HopState) :
    hop.refuses host head state =
      (!hop.stores host head state ||
        (head.isRedirect && match hop.target head with | .error _ => true | .ok _ => false)) := by
  unfold refuses stores
  cases hop.storeCookies host head state with
  | error failure stored => rfl
  | ok _ stored => rfl

theorem stores_of_jar
    (hop : Hop) (host : Text) (head : ResponseHead) {state state' : HopState}
    (hjar : state'.jar = state.jar) :
    hop.stores host head state' = hop.stores host head state := by
  unfold stores storeCookies
  rw [hjar]
  cases state.jar with
  | none => rfl
  | some jar =>
      simp only
      cases (jar.store host (hop.offers head)).failure with
      | none => rfl
      | some failure => rfl

theorem sendPayload_ok
    {hop : Hop} {state state' : HopState} (h : hop.sendPayload state = .ok () state') :
    state.payload.contents.failure = none ∧
      state.socket.Transfers
        (Upload.framing (hop.request.usesChunked state.payload.size)
          state.payload.contents.pieces)
        state'.socket := by
  unfold sendPayload at h
  split at h
  next total upload hsend =>
    cases h
    obtain ⟨hfailure, -, htransfers⟩ := Upload.send_ok hsend
    exact ⟨hfailure, htransfers⟩
  next => cases h

theorem sendPayload_error
    {hop : Hop} {state state' : HopState} {failure : Failure}
    (h : hop.sendPayload state = .error failure state') :
    ∃ pieces, pieces <+: state.payload.contents.pieces ∧
      state.socket.Transfers
        (pieces.map (Upload.framed (hop.request.usesChunked state.payload.size)))
        state'.socket := by
  unfold sendPayload at h
  split at h
  next => cases h
  next failure' upload hsend =>
    cases h
    obtain ⟨pieces, hprefix, htransfers, -⟩ := Upload.send_error hsend
    exact ⟨pieces, hprefix, htransfers⟩

/-! ## The ways of a hop -/

/-- The ways in which a hop can go over its connection, what it sends on each, and whether it fails
for its budget. -/
inductive Performed (hop : Hop) (host : Text) (cookies : Headers) (begun : HopState) :
    EStateM.Result Failure HopState HopEnd → Prop
  | unsent {failure : Failure} {state : HopState}
      (hhead : hop.head? cookies begun = none)
      (hsends : begun.socket.Transfers [] state.socket)
      (hbeside : failure ≠ .tooManyRedirects) :
      Performed hop host cookies begun (.error failure state)
  | headless {failure : Failure} {state : HopState} {prelude : Bytes}
      (hprelude : hop.request.prelude hop.method hop.url cookies = .ok prelude)
      (hhead : hop.head? cookies begun = none)
      (hsends : begun.socket.Transfers [prelude] state.socket)
      (hbeside : failure ≠ .tooManyRedirects) :
      Performed hop host cookies begun (.error failure state)
  | refused {failure : Failure} {state : HopState} {prelude : Bytes} {head : ResponseHead}
      (hprelude : hop.request.prelude hop.method hop.url cookies = .ok prelude)
      (hhead : hop.head? cookies begun = some head)
      (hrefuses : hop.refuses host head begun = true)
      (hsends : begun.socket.Transfers [prelude] state.socket)
      (hbudget : failure = .tooManyRedirects ↔
        hop.testsBudget host head begun = true ∧ hop.budget ≤ 0) :
      Performed hop host cookies begun (.error failure state)
  | interrupted {failure : Failure} {state : HopState} {prelude : Bytes} {head : ResponseHead}
      {pieces : List Bytes}
      (hprelude : hop.request.prelude hop.method hop.url cookies = .ok prelude)
      (hhead : hop.head? cookies begun = some head)
      (hrefuses : hop.refuses host head begun = false)
      (hpreserves : preservesBody head = false)
      (hpieces : pieces <+: begun.payload.contents.pieces)
      (hsends : begun.socket.Transfers
        (prelude :: pieces.map (Upload.framed (hop.request.usesChunked begun.payload.size)))
        state.socket)
      (hbeside : failure ≠ .tooManyRedirects) :
      Performed hop host cookies begun (.error failure state)
  | preserved {state : HopState} {prelude : Bytes} {head : ResponseHead} {next : Url}
      (hprelude : hop.request.prelude hop.method hop.url cookies = .ok prelude)
      (hhead : hop.head? cookies begun = some head)
      (hredirect : head.isRedirect = true) (hget : becomesGet head = false)
      (hpayload : state.payload = begun.payload)
      (hsends : begun.socket.Transfers [prelude] state.socket)
      (htarget : hop.target head = .ok next)
      (htests : hop.testsBudget host head begun = true) :
      Performed hop host cookies begun (.ok (.follow head next) state)
  | redirected {state : HopState} {prelude : Bytes} {head : ResponseHead} {next : Url}
      (hprelude : hop.request.prelude hop.method hop.url cookies = .ok prelude)
      (hhead : hop.head? cookies begun = some head)
      (hrefuses : hop.refuses host head begun = false)
      (hredirect : head.isRedirect = true) (hget : becomesGet head = true)
      (hfailure : begun.payload.contents.failure = none)
      (hsends : begun.socket.Transfers
        (prelude :: Upload.framing (hop.request.usesChunked begun.payload.size)
          begun.payload.contents.pieces)
        state.socket)
      (htarget : hop.target head = .ok next)
      (htests : hop.testsBudget host head begun = true) :
      Performed hop host cookies begun (.ok (.follow head next) state)
  | answered {state : HopState} {prelude : Bytes} {head : ResponseHead}
      (hprelude : hop.request.prelude hop.method hop.url cookies = .ok prelude)
      (hhead : hop.head? cookies begun = some head)
      (hrefuses : hop.refuses host head begun = false)
      (hredirect : head.isRedirect = false)
      (hfailure : begun.payload.contents.failure = none)
      (hsends : begun.socket.Transfers
        (prelude :: Upload.framing (hop.request.usesChunked begun.payload.size)
          begun.payload.contents.pieces)
        state.socket) :
      Performed hop host cookies begun (.ok (.final head) state)

/-- What is done once the cookies of a head are stored. -/
def afterHead (hop : Hop) (head : ResponseHead) : Step HopState HopEnd :=
  if head.isRedirect then
    match hop.target head with
    | .error failure => throw failure
    | .ok next => do
      if becomesGet head then hop.sendPayload
      pure (.follow head next)
  else do
    hop.sendPayload
    pure (.final head)

theorem performed_of_stored
    {hop : Hop} {host : Text} {cookies : Headers} {begun stored : HopState} {prelude : Bytes}
    {head : ResponseHead} (hprelude : hop.request.prelude hop.method hop.url cookies = .ok prelude)
    (hhead : hop.head? cookies begun = some head)
    (hstores : hop.stores host head begun = true)
    (hsends : begun.socket.Transfers [prelude] stored.socket)
    (hpayload : stored.payload = begun.payload) :
    hop.Performed host cookies begun (hop.afterHead head stored) := by
  have hbeside : ∀ {failure state}, hop.sendPayload stored = .error failure state →
      failure ≠ .tooManyRedirects := by
    rintro _ _ hpaid rfl
    exact absurd (hop.sendPayload_failsAs _ _ _ hpaid) (by decide)
  have hrefuses := hop.refuses_eq host head begun
  rw [hstores, Bool.not_true, Bool.false_or] at hrefuses
  unfold afterHead
  by_cases hredirect : head.isRedirect = true
  · rw [if_pos hredirect]
    have htests : hop.testsBudget host head begun = true := by
      rw [testsBudget, hredirect, hstores, Bool.and_self]
    cases htarget : hop.target head with
    | error failure =>
        rw [hredirect, htarget] at hrefuses
        refine .refused hprelude hhead hrefuses hsends ?_
        rw [target_error htarget, htests, eq_self, true_and]
    | ok next =>
        rw [hredirect, htarget] at hrefuses
        by_cases hget : becomesGet head = true
        · have hpreserves : preservesBody head = false := by
            rw [preservesBody, hget, Bool.not_true, Bool.and_false]
          simp only [if_pos hget, bind, EStateM.bind]
          cases hpaid : hop.sendPayload stored with
          | error failure state =>
              obtain ⟨pieces, hprefix, hrest⟩ := sendPayload_error hpaid
              rw [hpayload] at hprefix hrest
              exact .interrupted hprelude hhead hrefuses hpreserves hprefix (hsends.trans hrest)
                (hbeside hpaid)
          | ok _ state =>
              obtain ⟨hfailure, hrest⟩ := sendPayload_ok hpaid
              rw [hpayload] at hfailure hrest
              exact .redirected hprelude hhead hrefuses hredirect hget hfailure
                (hsends.trans hrest) htarget htests
        · simp only [if_neg hget]
          rw [Bool.not_eq_true] at hget
          exact .preserved hprelude hhead hredirect hget hpayload hsends htarget htests
  · rw [if_neg hredirect]
    rw [Bool.not_eq_true] at hredirect
    rw [hredirect, Bool.false_and] at hrefuses
    have hpreserves : preservesBody head = false := by
      rw [preservesBody, hredirect, Bool.false_and]
    simp only [bind, EStateM.bind]
    cases hpaid : hop.sendPayload stored with
    | error failure state =>
        obtain ⟨pieces, hprefix, hrest⟩ := sendPayload_error hpaid
        rw [hpayload] at hprefix hrest
        exact .interrupted hprelude hhead hrefuses hpreserves hprefix (hsends.trans hrest)
          (hbeside hpaid)
    | ok _ state =>
        obtain ⟨hfailure, hrest⟩ := sendPayload_ok hpaid
        rw [hpayload] at hfailure hrest
        exact .answered hprelude hhead hrefuses hredirect hfailure (hsends.trans hrest)

/-- A hop goes one of these ways. -/
theorem perform_cases (hop : Hop) (host : Text) (cookies : Headers) (begun : HopState) :
    hop.Performed host cookies begun (hop.perform host cookies begun) := by
  -- A step that fails ends the hop; after the others the socket and the payload are known.
  simp only [perform, bind, EStateM.bind]
  cases hprelude : hop.sendPrelude cookies begun with
  | error failure state =>
      refine .unsent (by rw [head?, hprelude]) (sendPrelude_error hprelude) ?_
      rintro rfl
      exact absurd (hop.sendPrelude_failsAs cookies _ _ _ hprelude) (by decide)
  | ok _ asked =>
      obtain ⟨prelude, hwritten, hasked, hjar, hpayload⟩ := sendPrelude_ok hprelude
      have hkeeps := readHead_keeps asked
      simp only
      cases hread : readHead asked with
      | error failure state =>
          rw [hread, Step.left_error] at hkeeps
          have hhead : hop.head? cookies begun = none := by
            rw [head?, hprelude]
            simp only [hread]
          refine .headless hwritten hhead (hasked.quiet hkeeps.1) ?_
          rintro rfl
          exact absurd (readHead_failsAs _ _ _ hread) (by decide)
      | ok head answered =>
          rw [hread, Step.left_ok] at hkeeps
          have hhead : hop.head? cookies begun = some head := by
            rw [head?, hprelude]
            simp only [hread]
          have hanswered : begun.socket.Transfers [prelude] answered.socket :=
            hasked.quiet hkeeps.1
          have hstores := stores_of_jar hop host head (hkeeps.2.1.trans hjar)
          have hkept := storeCookies_keeps hop host head answered
          simp only
          cases hstore : hop.storeCookies host head answered with
          | error failure state =>
              rw [stores, hstore] at hstores
              rw [hstore] at hkept
              rw [← hkept.1] at hanswered
              refine .refused hwritten hhead ?_ hanswered (iff_of_false ?_ ?_)
              · rw [refuses_eq, ← hstores, Bool.not_false, Bool.true_or]
              · rintro rfl
                exact absurd (hop.storeCookies_failsAs host head _ _ _ hstore) (by decide)
              · rw [testsBudget, ← hstores, Bool.and_false]
                exact fun h => absurd h.1 Bool.false_ne_true
          | ok _ stored =>
              rw [stores, hstore] at hstores
              rw [hstore] at hkept
              rw [← hkept.1] at hanswered
              exact performed_of_stored hwritten hhead hstores.symm hanswered
                (hkept.2.trans (hkeeps.2.2.trans hpayload))

/-! ## What a hop leaves -/

/-- A step over the connection of a hop that does not touch the jar. -/
def KeepsJar {α : Type} (step : Step HopState α) : Prop :=
  ∀ state, (Step.left (step state)).jar = state.jar ∧
    ∃ sends, state.socket.Transfers sends (Step.left (step state)).socket

namespace KeepsJar

variable {α β : Type}

theorem pure (a : α) : KeepsJar (Pure.pure a) := fun state => ⟨rfl, [], .refl state.socket⟩

theorem throw (failure : Failure) : KeepsJar (MonadExcept.throw failure : Step HopState α) :=
  fun state => ⟨rfl, [], .refl state.socket⟩

theorem bind
    {step : Step HopState α} {next : α → Step HopState β} (hfirst : KeepsJar step)
    (hnext : ∀ a, KeepsJar (next a)) : KeepsJar (step >>= next) := by
  intro state
  obtain ⟨hjar, sends, hsends⟩ := hfirst state
  change (Step.left (EStateM.bind step next state)).jar = state.jar ∧
    ∃ sends, state.socket.Transfers sends (Step.left (EStateM.bind step next state)).socket
  unfold EStateM.bind
  cases hstep : step state with
  | error failure after =>
      rw [hstep] at hjar hsends
      exact ⟨hjar, sends, hsends⟩
  | ok a after =>
      rw [hstep] at hjar hsends
      obtain ⟨hkept, more, hmore⟩ := hnext a after
      exact ⟨hkept.trans hjar, sends ++ more, hsends.trans hmore⟩

theorem readHead : KeepsJar Hop.readHead := by
  intro state
  obtain ⟨hsilent, hjar, -⟩ := readHead_keeps state
  exact ⟨hjar, [], hsilent⟩

theorem sendPayload (hop : Hop) : KeepsJar hop.sendPayload := by
  intro state
  cases hpaid : hop.sendPayload state with
  | ok _ after =>
      have hjar : after.jar = state.jar := by
        unfold Hop.sendPayload at hpaid
        split at hpaid <;> cases hpaid
        rfl
      exact ⟨hjar, _, (sendPayload_ok hpaid).2⟩
  | error failure after =>
      have hjar : after.jar = state.jar := by
        unfold Hop.sendPayload at hpaid
        split at hpaid <;> cases hpaid
        rfl
      obtain ⟨pieces, -, hsends⟩ := sendPayload_error hpaid
      exact ⟨hjar, _, hsends⟩

end KeepsJar

theorem afterHead_keepsJar (hop : Hop) (head : ResponseHead) : KeepsJar (hop.afterHead head) := by
  unfold afterHead
  split
  next =>
    split
    next => exact .throw _
    next =>
      dsimp only
      split
      next => exact .bind (.sendPayload hop) fun _ => .pure _
      next => exact .pure _
  next => exact .bind (.sendPayload hop) fun _ => .pure _

theorem storeCookies_jar (hop : Hop) (host : Text) (head : ResponseHead) (state : HopState) :
    (Step.left (hop.storeCookies host head state)).jar =
      state.jar.map fun jar => (jar.store host (hop.offers head)).jar := by
  unfold storeCookies
  cases hjar : state.jar with
  | none => exact hjar
  | some jar =>
      simp only
      split <;> rfl

theorem sendPrelude_jar (hop : Hop) (cookies : Headers) (state : HopState) :
    (Step.left (hop.sendPrelude cookies state)).jar = state.jar := by
  unfold sendPrelude
  split
  next => rfl
  next => split <;> rfl

/-- A hop stores the cookies of its head, if it gets one.  It ends with what precedes the body if
that fails, and otherwise only reads and writes afterwards. -/
theorem perform_left (hop : Hop) (host : Text) (cookies : Headers) (begun : HopState) :
    ((Step.left (hop.perform host cookies begun)).jar =
      match hop.head? cookies begun with
      | none => begun.jar
      | some head => begun.jar.map fun jar => (jar.store host (hop.offers head)).jar) ∧
    match hop.sendPrelude cookies begun with
    | .error _ state => Step.left (hop.perform host cookies begun) = state
    | .ok () state =>
      ∃ sends,
        state.socket.Transfers sends (Step.left (hop.perform host cookies begun)).socket := by
  have hperform : hop.perform host cookies = (do
      hop.sendPrelude cookies
      let head ← readHead
      hop.storeCookies host head
      hop.afterHead head) := rfl
  have hprelude := sendPrelude_jar hop cookies begun
  rw [hperform]
  simp only [bind, EStateM.bind, head?]
  cases hsend : hop.sendPrelude cookies begun with
  | error failure state =>
      rw [hsend] at hprelude
      exact ⟨hprelude, rfl⟩
  | ok _ asked =>
      rw [hsend, Step.left_ok] at hprelude
      obtain ⟨hsilent, hjar, -⟩ := readHead_keeps asked
      simp only
      cases hread : readHead asked with
      | error failure state =>
          rw [hread] at hsilent hjar
          exact ⟨hjar.trans hprelude, [], hsilent⟩
      | ok head answered =>
          rw [hread, Step.left_ok] at hsilent hjar
          have hstored := storeCookies_jar hop host head answered
          obtain ⟨hsocket, -⟩ := storeCookies_keeps hop host head answered
          rw [hjar, hprelude] at hstored
          simp only
          cases hstore : hop.storeCookies host head answered with
          | error failure state =>
              rw [hstore, Step.left_error] at hstored hsocket
              exact ⟨hstored, [], by rwa [Step.left_error, hsocket]⟩
          | ok _ stored =>
              rw [hstore, Step.left_ok] at hstored hsocket
              obtain ⟨hkept, sends, hsends⟩ := hop.afterHead_keepsJar head stored
              rw [hsocket] at hsends
              exact ⟨hkept.trans hstored, sends, hsilent.silent hsends⟩

end Hop

end HttpFetch
