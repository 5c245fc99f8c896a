import HttpFetch.Exchange
import HttpFetch.Proofs.Exchange.Connecting

/-!
# Where failures come from

A hop resolves and connects, writes what precedes the body, reads a head, stores cookies and sends a
payload.  Each of these fails with failures of its own kind.  None of the kinds has the failure
that the budget is spent, so that one can only come from the hop itself.
-/

namespace HttpFetch

namespace Failure

def ofConnecting : Failure → Bool
  | fault _ | unknownScheme _ | unresolved _ | noAddress _ | unconnected _ | serverName _
  | unencodable .. => true
  | _ => false

def ofReading : Failure → Bool
  | fault _ | head _ | value _ => true
  | _ => false

def ofStoring : Failure → Bool
  | value _ | doubleRange | clockRange | clockYear => true
  | _ => false

def ofSending : Failure → Bool
  | fault _ | unencodable .. | indexRange | payloadConsumed => true
  | _ => false

end Failure

/-! ## Results and steps of a kind -/

/-- A result that is a failure of a kind, if it is one. -/
def FailsAs {α : Type} (kind : Failure → Bool) (result : Except Failure α) : Prop :=
  ∀ failure, result = .error failure → kind failure = true

namespace FailsAs

variable {α β : Type} {kind : Failure → Bool}

theorem ok (a : α) : FailsAs kind (.ok a) := nofun

theorem error {failure : Failure} (h : kind failure = true) :
    FailsAs kind (.error failure : Except Failure α) := by
  rintro _ ⟨⟩
  exact h

theorem map {f : α → β} {result : Except Failure α} (h : FailsAs kind result) :
    FailsAs kind (result.map f) := by
  cases result with
  | ok a => exact ok (f a)
  | error failure => exact error (h failure rfl)

theorem bind {result : Except Failure α} {next : α → Except Failure β}
    (hfirst : FailsAs kind result) (hnext : ∀ a, FailsAs kind (next a)) :
    FailsAs kind (result >>= next) := by
  cases result with
  | ok a => exact hnext a
  | error failure => exact error (hfirst failure rfl)

theorem mapM {f : α → Except Failure β} (h : ∀ a, FailsAs kind (f a)) (inputs : List α) :
    FailsAs kind (inputs.mapM f) := by
  induction inputs with
  | nil => exact ok []
  | cons a inputs ih =>
      rw [List.mapM_cons]
      exact bind (h a) fun b => bind ih fun outputs => ok (b :: outputs)

end FailsAs

/-- A step that fails only with failures of a kind. -/
def Step.FailsAs {σ α : Type} (kind : Failure → Bool) (step : Step σ α) : Prop :=
  ∀ state failure state', step state = .error failure state' → kind failure = true

namespace Step.FailsAs

variable {σ α β : Type} {kind : Failure → Bool}

theorem pure (a : α) : FailsAs kind (Pure.pure a : Step σ α) := nofun

theorem throw {failure : Failure} (h : kind failure = true) :
    FailsAs kind (MonadExcept.throw failure : Step σ α) := by
  rintro state _ _ ⟨⟩
  exact h

theorem bind {step : Step σ α} {next : α → Step σ β} (hfirst : FailsAs kind step)
    (hnext : ∀ a, FailsAs kind (next a)) : FailsAs kind (step >>= next) := by
  intro state failure state' h
  change EStateM.bind step next state = _ at h
  unfold EStateM.bind at h
  split at h
  next a between hstep => exact hnext a between failure state' h
  next failure' between hstep =>
    cases h
    exact hfirst state _ _ hstep

end Step.FailsAs

/-! ## Reading a head -/

theorem Socket.receive_failsAs (size : Nat) : (receive size).FailsAs Failure.ofReading := by
  intro socket failure socket' h
  unfold receive at h
  split at h
  next => cases h
  next => cases h; rfl

theorem Transport.read_failsAs (size : Nat) : (read size).FailsAs Failure.ofReading := by
  intro transport failure transport' h
  unfold read at h
  split at h
  next => cases h
  next cause socket hreceive =>
    split at h
    next => cases h
    next => cases h; rfl
  next failure' socket _ hreceive =>
    cases h
    exact Socket.receive_failsAs _ _ _ _ hreceive

theorem Reader.fill_failsAs : Reader.fill.FailsAs Failure.ofReading := by
  intro reader failure reader' h
  unfold Reader.fill at h
  split at h
  next => cases h
  next =>
    split at h
    next => cases h
    next => cases h
    next hread =>
      cases h
      exact Transport.read_failsAs _ _ _ _ hread

theorem Reader.readLine_failsAs (limit : Int) :
    Step.FailsAs Failure.ofReading (Reader.readLine limit) := by
  intro reader failure reader' h
  fun_induction Reader.readLine limit reader with
  | case1 => cases h
  | case2 => cases h
  | case3 reader hnone hroom more hfill ih => exact ih h
  | case4 => cases h
  | case5 reader hnone hroom failure' after hfill =>
      cases h
      exact Reader.fill_failsAs _ _ _ hfill

namespace ResponseHead

theorem readFields_failsAs (lines : Nat) (reversed : Headers) :
    (readFields lines reversed).FailsAs Failure.ofReading := by
  induction lines generalizing reversed with
  | zero => exact .throw rfl
  | succ lines ih =>
      refine .bind (Reader.readLine_failsAs _) fun octets => ?_
      dsimp only
      split
      next => exact .pure _
      next => exact ih _

theorem read_failsAs : read.FailsAs Failure.ofReading := by
  rw [read_eq]
  refine .bind (Reader.readLine_failsAs _) fun octets => ?_
  split
  next => exact .throw rfl
  next =>
    unfold readAfter
    split
    next => exact .throw rfl
    next version code reason _ =>
      refine .bind (readFields_failsAs _ _) fun headers => ?_
      split
      next => exact .pure _
      next => exact .throw rfl

end ResponseHead

/-! ## Storing cookies -/

namespace CookieDate

theorem moment_failsAs (year : Int) (month day hour minute second : Nat) :
    FailsAs Failure.ofStoring (moment year month day hour minute second) := by
  unfold moment
  split
  next =>
    split
    next => exact .error rfl
    next => exact .ok _
  next => exact .ok _

theorem Strict.time_failsAs (date : Strict) : FailsAs Failure.ofStoring date.time := by
  unfold Strict.time
  dsimp only
  split
  next => exact .error rfl
  next => exact moment_failsAs _ _ _ _ _ _

theorem Loose.currentYear_failsAs (now : Int) : FailsAs Failure.ofStoring (currentYear now) := by
  unfold currentYear
  split
  next => exact .error rfl
  next =>
    dsimp only
    split
    next => exact .error rfl
    next => exact .ok _

theorem Loose.time_failsAs (now : Int) (date : Loose) :
    FailsAs Failure.ofStoring (date.time now) := by
  unfold Loose.time
  split
  next => exact .error rfl
  next year hyear =>
    split
    next => exact .ok _
    next =>
      split
      next => exact .ok _
      next month hmonth =>
        refine .bind ?_ fun full => .bind (moment_failsAs _ _ _ _ _ _) fun found => ?_
        · unfold fullYear
          split
          next => exact (currentYear_failsAs now).map
          next => exact .ok _
        · cases found with
          | none => exact .ok _
          | some time => exact .ok _

theorem parse_failsAs (now : Int) (s : Text) : FailsAs Failure.ofStoring (parse now s) := by
  unfold parse
  split
  next => exact Strict.time_failsAs _
  next =>
    split
    next => exact Loose.time_failsAs now _
    next => exact .ok _

end CookieDate

theorem Cookie.keep_failsAs (cookie : Cookie) : FailsAs Failure.ofStoring cookie.keep := by
  have hkept : FailsAs Failure.ofStoring (keptExpiry cookie.expires) := by
    unfold keptExpiry
    split
    next => exact .ok _
    next =>
      split
      next => exact .ok _
      next => exact .error rfl
  exact hkept.map

namespace SetCookie

theorem attribute_failsAs (now : Int) (segment : Text) :
    FailsAs Failure.ofStoring (attribute? now segment) := by
  intro failure h
  unfold attribute? at h
  dsimp only at h
  split_ifs at h
  split at h
  next => cases h
  next => exact (CookieDate.parse_failsAs now _).map failure h

theorem parse_failsAs (now : Int) (host value : Text) :
    FailsAs Failure.ofStoring (parse now host value) := by
  unfold parse
  split
  next => exact .ok _
  next first others hsegments =>
    split
    next => exact .ok _
    next name value' _ =>
      refine .bind (.mapM (attribute_failsAs now) others) fun attributes => ?_
      split
      next => exact .ok _
      next => exact (Cookie.keep_failsAs _).map

end SetCookie

theorem Jar.store_failsAs {host : Text} {offers : List Jar.Offer} {jar : Jar} {failure : Failure}
    (h : (Jar.store host offers jar).failure = some failure) : failure.ofStoring = true := by
  fun_induction Jar.store host offers jar with
  | case1 => cases h
  | case2 offer offers jar failure' hparse =>
      cases h
      exact SetCookie.parse_failsAs offer.now host offer.value _ hparse
  | case3 offer offers jar hparse rest ih => exact ih h
  | case4 offer offers jar cookie hparse rest ih => exact ih h

/-! ## Sending -/

theorem Request.prelude_failsAs (request : Request) (method : Text) (url : Url)
    (cookies : Headers) : FailsAs Failure.ofSending (request.prelude method url cookies) := by
  unfold prelude
  split
  next => exact .error rfl
  next => exact .ok _

theorem Transport.write_failsAs (octets : Bytes) : (write octets).FailsAs Failure.ofSending := by
  intro transport failure transport' h
  unfold write Socket.send at h
  cases hfault : (transport.socket.setTimeout transport.writeTimeout).script.sendFault with
  | none =>
      rw [hfault] at h
      cases h
  | some fault =>
      obtain ⟨k, cause⟩ := fault
      rw [hfault] at h
      cases k with
      | zero => cases h; rfl
      | succ k => cases h

theorem Chunked.write_failsAs (octets : Bytes) :
    (Chunked.write octets).FailsAs Failure.ofSending := by
  unfold Chunked.write
  split
  next => exact .pure ()
  next => exact Transport.write_failsAs _

theorem Source.read_failsAs (size : Int) : (read size).FailsAs Failure.ofSending := by
  intro source failure source' h
  unfold read at h
  split at h
  next =>
    split at h
    next => cases h
    next => cases h; rfl
  next => cases h
  next => cases h
  next => cases h
  next => cases h; rfl

theorem Payload.read_failsAs (size : Int) : (read size).FailsAs Failure.ofSending := by
  intro payload failure payload' h
  unfold read at h
  split at h
  next =>
    split at h
    next => cases h
    next => cases h; rfl
  next source hsource =>
    split at h
    next => cases h
    next failure' source' hread =>
      cases h
      exact Source.read_failsAs _ _ _ _ hread

namespace Upload

theorem pipe_failsAs {write : Bytes → Step Transport Unit}
    (hwrite : ∀ octets, (write octets).FailsAs Failure.ofSending) (total : Nat) :
    Step.FailsAs Failure.ofSending (pipe write total) := by
  intro upload failure upload' h
  fun_induction pipe write total upload with
  | case1 total upload failure' payload hread =>
      cases h
      exact Payload.read_failsAs _ _ _ _ hread
  | case2 => cases h
  | case3 total upload b octets payload hread transport hwritten ih => exact ih h
  | case4 total upload b octets payload hread failure' transport hfailed =>
      cases h
      exact hwrite _ _ _ _ hfailed

theorem send_failsAs (request : Request) : (send request).FailsAs Failure.ofSending := by
  intro upload failure upload' h
  unfold send at h
  split at h
  next failure' payload hconsume =>
    cases h
    unfold Payload.consume at hconsume
    split at hconsume
    next => cases hconsume; rfl
    next => cases hconsume
  next size payload hconsume =>
    dsimp only at h
    split at h
    next =>
      split at h
      next failure' between hpipe =>
        cases h
        exact pipe_failsAs Chunked.write_failsAs 0 _ _ _ hpipe
      next total between hpipe =>
        split at h
        next => cases h
        next failure' transport hfinish =>
          cases h
          exact Transport.write_failsAs _ _ _ _ hfinish
    next => exact pipe_failsAs Transport.write_failsAs 0 _ _ _ h

end Upload

/-! ## Connecting -/

theorem Url.hostname_failsAs (url : Url) : FailsAs Failure.ofConnecting url.hostname := by
  unfold hostname
  split
  next => exact .ok _
  next => exact .error rfl

theorem Url.isOwn_of_hostname {url : Url} {failure : Failure} (h : url.hostname = .error failure) :
    failure.isOwn = true := by
  unfold hostname at h
  split at h <;> cases h
  rfl

/-! ## The steps of a hop -/

namespace Hop

theorem sendPrelude_failsAs (hop : Hop) (cookies : Headers) :
    (hop.sendPrelude cookies).FailsAs Failure.ofSending := by
  intro state failure state' h
  unfold sendPrelude at h
  split at h
  next failure' hprelude =>
    cases h
    exact Request.prelude_failsAs _ _ _ _ _ hprelude
  next octets hprelude =>
    split at h
    next => cases h
    next failure' transport hwrite =>
      cases h
      exact Transport.write_failsAs _ _ _ _ hwrite

theorem readHead_failsAs : readHead.FailsAs Failure.ofReading := by
  intro state failure state' h
  unfold readHead at h
  split at h
  next => cases h
  next failure' reader hread =>
    cases h
    exact ResponseHead.read_failsAs _ _ _ hread

theorem storeCookies_failsAs (hop : Hop) (host : Text) (head : ResponseHead) :
    (hop.storeCookies host head).FailsAs Failure.ofStoring := by
  intro state failure state' h
  unfold storeCookies at h
  split at h
  next => cases h
  next jar hjar =>
    dsimp only at h
    split at h
    next => cases h
    next failure' hstore =>
      cases h
      exact Jar.store_failsAs hstore

theorem sendPayload_failsAs (hop : Hop) : hop.sendPayload.FailsAs Failure.ofSending := by
  intro state failure state' h
  unfold sendPayload at h
  split at h
  next => cases h
  next failure' upload hsend =>
    cases h
    exact Upload.send_failsAs _ _ _ _ hsend

/-- A redirect that leads nowhere does so for the budget exactly when that is spent. -/
theorem target_error {hop : Hop} {head : ResponseHead} {failure : Failure}
    (h : hop.target head = .error failure) : failure = .tooManyRedirects ↔ hop.budget ≤ 0 := by
  unfold target at h
  split at h
  next hspent =>
    cases h
    exact iff_of_true rfl hspent
  next hleft =>
    refine iff_of_false ?_ hleft
    unfold Url.redirect at h
    split at h
    next => cases h
    next =>
      cases h
      exact nofun

end Hop

end HttpFetch
