import HttpFetch.Proofs.Cookie.Filing

/-!
# The last cookie of a key

A jar keeps one cookie for each domain, path and name: the last one that was stored.  Selecting
cookies for a request purges the jar of those that have expired, which changes the order of what is
stored later, but not what a later request is sent.  `Jar.run_keeps_latest` says so of any stores
and requests in any order, with any time between them.
-/

namespace HttpFetch

/-! ## Max-Age -/

namespace SetCookie

/-- The Max-Age that a value of a host gives its cookie. -/
def maxAge? (now : Int) (host value : Text) : Option Int :=
  match segments host value with
  | [] => none
  | _ :: others =>
    match others.mapM (attribute? now) with
    | .ok attributes => (collected host attributes).maxAge
    | .error _ => none

theorem expires_of_maxAge {now seconds : Int} {host value : Text} {cookie : Cookie}
    (hbuilt : built? now host value = some cookie) (hage : maxAge? now host value = some seconds) :
    ∃ time, Double.wholeInt? (now + seconds) = some time ∧ cookie.expires = some time := by
  have hparse : parse now host value = .ok (some cookie) := by
    rw [built?] at hbuilt
    split at hbuilt
    next result hresult => rw [hresult, hbuilt]
    next => cases hbuilt
  obtain ⟨first, others, hsplit⟩ := List.exists_cons_of_ne_nil (segments_ne_nil host value)
  have hnamed : (pair first).1 ≠ [] := by
    intro hnone
    cases (parse_of_unnamed hsplit hnone).symm.trans hparse
  rw [parse_of_named hsplit hnamed] at hparse
  obtain ⟨attributes, hread, hrest⟩ := ok_of_bind hparse
  rw [maxAge?, hsplit] at hage
  simp only [hread] at hage
  cases hwritten : (pair first).2 with
  | none =>
      rw [hwritten] at hrest
      cases hrest
  | some written =>
      rw [hwritten] at hrest
      have hexpires : ((collected host attributes).cookie now (pair first).1 written).expires =
          some (now + seconds) := by
        simp [Attributes.cookie, hage]
      simp only [Cookie.keep, hexpires, Cookie.keptExpiry] at hrest
      split at hrest
      next time htime =>
        cases hrest
        exact ⟨time, htime, rfl⟩
      next => cases hrest

end SetCookie

/-! ## The last cookies of a log -/

namespace Cookie

/-- Of some cookies the last of each key. -/
def latest : List Cookie → List Cookie
  | [] => []
  | cookie :: later =>
    if later.any fun next => next.key = cookie.key then latest later else cookie :: latest later

theorem mem_latest_iff {log : List Cookie} {cookie : Cookie} :
    cookie ∈ latest log ↔
      ∃ earlier later, log = earlier ++ cookie :: later ∧
        ∀ next ∈ later, next.key ≠ cookie.key := by
  induction log with
  | nil => simp [latest]
  | cons first log ih =>
      rw [latest]
      constructor
      · intro h
        by_cases hlast : cookie = first ∧ ∀ next ∈ log, next.key ≠ cookie.key
        · obtain ⟨rfl, hlast⟩ := hlast
          exact ⟨[], log, rfl, hlast⟩
        · have hmem : cookie ∈ latest log := by
            split at h
            next => exact h
            next hnone =>
              rcases List.mem_cons.mp h with rfl | hmem
              · exact absurd ⟨rfl, by simpa using hnone⟩ hlast
              · exact hmem
          obtain ⟨earlier, later, rfl, hlater⟩ := ih.mp hmem
          exact ⟨first :: earlier, later, rfl, hlater⟩
      · rintro ⟨earlier, later, hsplit, hlater⟩
        rcases List.cons_eq_append_iff.mp hsplit with ⟨rfl, heq⟩ | ⟨rest, rfl, rfl⟩
        · cases heq
          rw [if_neg (by simpa using hlater)]
          exact List.mem_cons_self
        · have hmem := ih.mpr ⟨rest, later, rfl, hlater⟩
          split
          next => exact hmem
          next => exact List.mem_cons_of_mem _ hmem

theorem keys_latest_nodup (log : List Cookie) : ((latest log).map key).Nodup := by
  induction log with
  | nil => exact List.nodup_nil
  | cons cookie later ih =>
      rw [latest]
      split
      next => exact ih
      next hnone =>
        refine List.nodup_cons.mpr ⟨?_, ih⟩
        intro hkey
        obtain ⟨next, hnext, heq⟩ := List.mem_map.mp hkey
        obtain ⟨earlier, rest, rfl, -⟩ := mem_latest_iff.mp hnext
        simp [heq] at hnone

/-- One more cookie takes the place of the last one with its key. -/
theorem latest_concat (log : List Cookie) (cookie : Cookie) :
    latest (log ++ [cookie]) =
      (latest log).filter (fun other => other.key ≠ cookie.key) ++ [cookie] := by
  induction log with
  | nil => rfl
  | cons first log ih =>
      rw [List.cons_append, latest, latest, ih, List.any_append]
      by_cases hfirst : cookie.key = first.key
      · -- The first one goes, whether or not a later one would replace it.
        rw [if_pos (by simp [hfirst])]
        split <;> simp [hfirst]
      · have hother : first.key ≠ cookie.key := Ne.symm hfirst
        by_cases hlater : log.any fun next => next.key = first.key <;>
          simp [hlater, hfirst, hother]

theorem isExpired_mono {cookie : Cookie} {now later : Int} (hle : now ≤ later)
    (h : cookie.isExpired now = true) : cookie.isExpired later = true := by
  rw [isExpired, Option.any_eq_true] at h ⊢
  obtain ⟨time, htime, hexpired⟩ := h
  exact ⟨time, htime, by simpa using (of_decide_eq_true hexpired).trans hle⟩

end Cookie

/-! ## Stores, requests and time -/

namespace Jar

/-- What is done with a jar: values of a host are stored, cookies are selected for a request, or
time passes. -/
inductive Use
  | store (host : Text) (values : List Text)
  | request (host path : Text) (overTls : Bool)
  | wait (seconds : Nat)

def Use.isRequest : Use → Bool
  | request .. => true
  | store .. | wait .. => false

/-- A value that is stored, with its host and the time. -/
structure Deposit where
  now : Int
  host : Text
  value : Text

namespace Deposit

def parse (deposit : Deposit) : Except Failure (Option Cookie) :=
  SetCookie.parse deposit.now deposit.host deposit.value

def cookie? (deposit : Deposit) : Option Cookie :=
  SetCookie.built? deposit.now deposit.host deposit.value

end Deposit

/-- The values that are stored, one after the other. -/
def deposits : Int → List Use → List Deposit
  | _, [] => []
  | now, .store host values :: uses => values.map (⟨now, host, ·⟩) ++ deposits now uses
  | now, .request .. :: uses => deposits now uses
  | now, .wait seconds :: uses => deposits (now + seconds) uses

theorem deposits_filter (now : Int) (uses : List Use) :
    deposits now (uses.filter fun use => !use.isRequest) = deposits now uses := by
  induction uses generalizing now with
  | nil => rfl
  | cons use uses ih =>
      cases use with
      | store host values => exact congrArg (_ ++ ·) (ih now)
      | request host path overTls => exact ih now
      | wait seconds => exact ih _

/-- A jar and the time. -/
structure Dated where
  jar : Jar
  now : Int

namespace Dated

/-- The cookies that a request would be sent at this time. -/
def fields (dated : Dated) (host path : Text) (overTls : Bool) : Headers :=
  (dated.jar.purge dated.now).fields host path overTls

def step (dated : Dated) : Use → Dated
  | .store host values =>
    { dated with jar := (dated.jar.store host (values.map (⟨dated.now, ·⟩))).jar }
  | .request .. => { dated with jar := dated.jar.purge dated.now }
  | .wait seconds => { dated with now := dated.now + seconds }

def run (dated : Dated) (uses : List Use) : Dated := uses.foldl step dated

/-- From now on a jar has the cookies of a log that no later one replaced, but for those that have
expired. -/
structure Represents (dated : Dated) (log : List Cookie) : Prop where
  filed : dated.jar.Filed
  same : ∀ time, dated.now ≤ time →
    (dated.jar.toList.filter fun cookie => !cookie.isExpired time).Perm
      ((Cookie.latest log).filter fun cookie => !cookie.isExpired time)

namespace Represents

variable {dated : Dated} {log : List Cookie}

theorem set (h : dated.Represents log) (cookie : Cookie) :
    Represents { dated with jar := dated.jar.set cookie } (log ++ [cookie]) where
  filed := h.filed.set cookie
  same time htime := by
    have hset := (h.filed.toList_set cookie).trans (List.perm_append_singleton cookie _).symm
    have hsame := ((h.same time htime).filter (stays cookie)).append_right
      ([cookie].filter fun cookie => !cookie.isExpired time)
    rw [List.filter_comm, ← List.filter_append, List.filter_comm, ← List.filter_append] at hsame
    rw [Cookie.latest_concat]
    exact (hset.filter _).trans hsame

theorem purge (h : dated.Represents log) :
    Represents { dated with jar := dated.jar.purge dated.now } log where
  filed := h.filed.purge dated.now
  same time htime := by
    refine .trans (.of_eq ?_) (h.same time htime)
    rw [purge_eq_filter, toList_filter, List.filter_filter]
    refine List.filter_congr fun cookie _ => ?_
    by_cases hexpired : cookie.isExpired dated.now
    · simp [Cookie.isExpired_mono htime hexpired]
    · simp [hexpired]

theorem wait (h : dated.Represents log) (seconds : Nat) :
    Represents { dated with now := dated.now + seconds } log where
  filed := h.filed
  same time htime := h.same time (by simp only at htime; omega)

theorem setAll (h : dated.Represents log) (cookies : List Cookie) :
    Represents { dated with jar := cookies.foldl Jar.set dated.jar } (log ++ cookies) := by
  induction cookies generalizing dated log with
  | nil => rwa [List.append_nil]
  | cons cookie cookies ih =>
      rw [← List.singleton_append, ← List.append_assoc]
      exact ih (h.set cookie)

theorem store (h : dated.Represents log) {host : Text} {values : List Text}
    (hsound : ∀ value ∈ values, ¬ Fails (SetCookie.parse dated.now host value)) :
    (dated.step (.store host values)).Represents
      (log ++ values.filterMap (SetCookie.built? dated.now host)) := by
  have hoffered : ∀ offer ∈ values.map fun value => Offer.mk dated.now value,
      ¬ Fails (SetCookie.parse offer.now host offer.value) := List.forall_mem_map.mpr hsound
  have hbuilt : (values.map fun value => Offer.mk dated.now value).filterMap (Offer.built? host) =
      values.filterMap (SetCookie.built? dated.now host) := by
    simp only [List.filterMap_map, Function.comp_def, Offer.built?]
  rw [step, store_of_sound hoffered, hbuilt]
  exact h.setAll _

theorem run (h : dated.Represents log) {uses : List Use}
    (hsound : ∀ deposit ∈ deposits dated.now uses, ¬ Fails deposit.parse) :
    (dated.run uses).Represents (log ++ (deposits dated.now uses).filterMap Deposit.cookie?) := by
  induction uses generalizing dated log with
  | nil => rwa [deposits, List.filterMap_nil, List.append_nil]
  | cons use uses ih =>
      cases use with
      | store host values =>
          have hcookies : (values.map (Deposit.mk dated.now host)).filterMap Deposit.cookie? =
              values.filterMap (SetCookie.built? dated.now host) := by
            simp only [List.filterMap_map, Function.comp_def, Deposit.cookie?]
          rw [deposits, List.forall_mem_append, List.forall_mem_map] at hsound
          rw [deposits, List.filterMap_append, hcookies, ← List.append_assoc]
          exact ih (h.store hsound.1) hsound.2
      | request host path overTls => exact ih h.purge hsound
      | wait seconds => exact ih (h.wait seconds) hsound

/-- What a request is sent. -/
theorem fields (h : dated.Represents log) (host path : Text) (overTls : Bool) :
    (dated.fields host path overTls).Perm
      (((Cookie.latest log).filter fun cookie =>
        !cookie.isExpired dated.now && cookie.applies host path overTls).filterMap fun cookie =>
          cookie.field.toOption) := by
  have hlive := ((h.same dated.now le_rfl).filter fun cookie => cookie.applies host path overTls)
  rw [List.filter_filter, List.filter_filter] at hlive
  rw [Dated.fields, Jar.fields, select, purge_eq_filter, toList_filter, List.filter_filter]
  simp only [Bool.and_comm] at hlive ⊢
  exact hlive.filterMap _

end Represents

theorem le_now_run (dated : Dated) (uses : List Use) : dated.now ≤ (dated.run uses).now := by
  induction uses generalizing dated with
  | nil => exact le_rfl
  | cons use uses ih =>
      have hstep : dated.now ≤ (dated.step use).now := by
        cases use with
        | store | request => exact le_rfl
        | wait seconds => exact Int.le_add_of_nonneg_right (Int.natCast_nonneg seconds)
      exact hstep.trans (ih _)

theorem deposits_le {now : Int} {uses : List Use} {deposit : Deposit}
    (h : deposit ∈ deposits now uses) (jar : Jar) : deposit.now ≤ (run ⟨jar, now⟩ uses).now := by
  induction uses generalizing now jar with
  | nil => cases h
  | cons use uses ih =>
      cases use with
      | store host values =>
          rcases List.mem_append.mp h with hhere | hlater
          · obtain ⟨value, -, rfl⟩ := List.mem_map.mp hhere
            exact le_now_run ..
          · exact ih hlater _
      | request host path overTls => exact ih h _
      | wait seconds => exact ih h _

theorem now_run_filter (now : Int) (uses : List Use) (jar jar' : Jar) :
    (run ⟨jar, now⟩ (uses.filter fun use => !use.isRequest)).now = (run ⟨jar', now⟩ uses).now := by
  induction uses generalizing now jar jar' with
  | nil => rfl
  | cons use uses ih => cases use <;> exact ih ..

end Dated

/-- A value that takes a cookie back: its Max-Age is not positive.  The time is one that a clock can
show, a double. -/
structure Deposit.Withdraws (deposit : Deposit) (cookie : Cookie) : Prop where
  builds : deposit.cookie? = some cookie
  maxAge : ∃ seconds ≤ 0,
    SetCookie.maxAge? deposit.now deposit.host deposit.value = some seconds
  held : Double.wholeInt? deposit.now = some deposit.now

theorem Deposit.Withdraws.isExpired {deposit : Deposit} {cookie : Cookie}
    (h : deposit.Withdraws cookie) : cookie.isExpired deposit.now = true := by
  obtain ⟨seconds, hseconds, hage⟩ := h.maxAge
  obtain ⟨time, htime, hexpires⟩ := SetCookie.expires_of_maxAge h.builds hage
  have hle : time ≤ deposit.now := Double.wholeInt_mono (by omega) htime h.held
  simp [Cookie.isExpired, hexpires, hle]

/-- After stores and requests in any order, a request is sent the last cookie of each key, if it has
not expired, applies to the request and can be sent.  That requests purge the jar makes no
difference, and a cookie that is taken back is away until another one has its key. -/
theorem run_keeps_latest (start : Int) (uses : List Use)
    (hsound : ∀ deposit ∈ deposits start uses, ¬ Fails deposit.parse) :
    let kept := Dated.run ⟨empty, start⟩ uses
    let unasked := Dated.run ⟨empty, start⟩ (uses.filter fun use => !use.isRequest)
    (∀ host path overTls, (kept.fields host path overTls).Perm
      (((Cookie.latest ((deposits start uses).filterMap Deposit.cookie?)).filter fun cookie =>
        !cookie.isExpired kept.now && cookie.applies host path overTls).filterMap fun cookie =>
          cookie.field.toOption)) ∧
    (unasked.now = kept.now ∧ ∀ host path overTls,
      (unasked.fields host path overTls).Perm (kept.fields host path overTls)) ∧
    ∀ earlier deposit later cookie, deposits start uses = earlier ++ deposit :: later →
      deposit.Withdraws cookie →
      (∀ next ∈ later.filterMap Deposit.cookie?, next.key ≠ cookie.key) →
      ∀ other ∈ (kept.jar.purge kept.now).toList, other.key ≠ cookie.key := by
  intro kept unasked
  have hempty : Dated.Represents ⟨empty, start⟩ [] := ⟨Filed.empty, fun _ _ => .refl _⟩
  have hkept : kept.Represents ((deposits start uses).filterMap Deposit.cookie?) :=
    hempty.run hsound
  have hunasked : unasked.Represents ((deposits start uses).filterMap Deposit.cookie?) := by
    rw [← deposits_filter start uses] at hsound ⊢
    exact hempty.run hsound
  have hnow : unasked.now = kept.now := Dated.now_run_filter start uses empty empty
  refine ⟨hkept.fields, ⟨hnow, fun host path overTls => ?_⟩, ?_⟩
  · have hfields := hunasked.fields host path overTls
    rw [hnow] at hfields
    exact hfields.trans (hkept.fields host path overTls).symm
  · intro earlier deposit later cookie hsplit hwithdraws hlater other hother hkey
    have hlast : cookie ∈ Cookie.latest ((deposits start uses).filterMap Deposit.cookie?) := by
      rw [hsplit, List.filterMap_append, List.filterMap_cons_some hwithdraws.builds]
      exact Cookie.mem_latest_iff.mpr ⟨_, _, rfl, hlater⟩
    rw [purge_eq_filter, toList_filter, (hkept.same kept.now le_rfl).mem_iff, List.mem_filter]
      at hother
    -- There is one last cookie of the key, the one that was taken back.
    have heq := List.inj_on_of_nodup_map (Cookie.keys_latest_nodup _) hother.1 hlast hkey
    have htime := Dated.deposits_le (hsplit ▸ by simp : deposit ∈ deposits start uses) empty
    have hexpired := Cookie.isExpired_mono htime hwithdraws.isExpired
    rw [heq, hexpired] at hother
    exact absurd hother.2 (by decide)

/-- A cookie that replaces one that has expired, and one that is taken back. -/
theorem run_keeps_latest_renewed :
    let host := "e.com".toList
    let uses : List Use := [
      .store host ["a=1; Max-Age=5".toList, "b=2".toList], .request host ['/'] false, .wait 9,
      .request host ['/'] false, .store host ["a=3".toList, "b=2; Max-Age=0".toList]]
    let kept := Dated.run ⟨empty, 0⟩ uses
    (∀ deposit ∈ deposits 0 uses, ¬ Fails deposit.parse) ∧
      (kept.fields host ['/'] false).Perm [⟨"Cookie".toList, "a=3".toList⟩] ∧
      ∃ cookie, Deposit.Withdraws ⟨9, host, "b=2; Max-Age=0".toList⟩ cookie ∧
        ∀ other ∈ (kept.jar.purge kept.now).toList, other.key ≠ cookie.key := by
  intro host uses kept
  have hsound : ∀ deposit ∈ deposits 0 uses, ¬ Fails deposit.parse := by decide +kernel
  obtain ⟨hfields, -, haway⟩ := run_keeps_latest 0 uses hsound
  have hwithdraws : Deposit.Withdraws ⟨9, host, "b=2; Max-Age=0".toList⟩
      ⟨['b'], ['2'], host, false, ['/'], false, false, some 9, []⟩ :=
    ⟨by decide +kernel, ⟨0, le_rfl, by decide +kernel⟩, by decide⟩
  refine ⟨hsound, (hfields host ['/'] false).trans (.of_eq ?_), _, hwithdraws, ?_⟩
  · decide +kernel
  · exact haway ((deposits 0 uses).dropLast) _ [] _ rfl hwithdraws (by simp)

end Jar

end HttpFetch
