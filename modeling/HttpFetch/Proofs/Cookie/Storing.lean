import HttpFetch.Cookie.Jar
import HttpFetch.Proofs.Cookie.Date
import HttpFetch.Proofs.Number.Range

/-!
# Cookies that fail a response

A Set-Cookie value that sets no cookie is ignored, and a cookie that cannot be sent is left out.
But a value may also fail, and then the values after it are not stored: its date fails, or its
Max-Age leads to a moment that no double holds.  `SetCookie.parse_fails_iff` says that there are no
other ways, and `Jar.store_until_refused` what is stored of a list of values.
-/

namespace HttpFetch

namespace Cookie

/-- The header field of a cookie whose name can be sent. -/
def sent (cookie : Cookie) : Field :=
  ⟨"Cookie".toList, cookie.name ++ '=' :: Percent.encode isValueChar cookie.value⟩

theorem field_eq (cookie : Cookie) :
    cookie.field =
      if isSendable cookie.name then .ok cookie.sent
      else .error (.value (.cookieName cookie.name)) := by
  unfold field encode
  split <;> rfl

theorem keptExpiry_fails_iff {expires : Option Int} :
    Fails (keptExpiry expires) ↔
      ∃ time, expires = some time ∧ Double.overflow ≤ time.natAbs := by
  cases expires with
  | none => exact iff_of_false (not_fails_ok _) (by simp)
  | some time =>
      simp only [Option.some_inj, exists_eq_left', ← Double.wholeInt_eq_none_iff]
      rw [keptExpiry]
      split
      next kept hkept =>
        rw [hkept]
        exact iff_of_false (not_fails_ok _) nofun
      next hnone => exact iff_of_true (fails_error _) hnone

end Cookie

namespace SetCookie

/-- A segment that says when a cookie expires, in a date that fails. -/
def RefusedDate (now : Int) (segment : Text) : Prop :=
  (pair segment).1.lower = "expires".toList ∧
    ∃ date, (pair segment).2 = some date ∧ CookieDate.Refused now (dropQuotes date)

theorem attribute_of_expires {now : Int} {segment : Text}
    (h : (pair segment).1.lower = "expires".toList) :
    attribute? now segment =
      match (pair segment).2 with
      | none => .ok (some (.expires none))
      | some date =>
        (CookieDate.parse now (dropQuotes date)).map fun time => some (.expires time) := by
  unfold attribute?
  generalize pair segment = written at *
  obtain ⟨name, value⟩ := written
  simp only at h ⊢
  have hne : ¬ name.isEmpty = true := by
    intro hempty
    rw [List.isEmpty_iff.mp hempty] at h
    exact absurd h (by decide)
  rw [if_neg hne, if_neg (by rw [h]; decide), if_neg (by rw [h]; decide),
    if_neg (by rw [h]; decide), if_neg (by rw [h]; decide)]
  exact if_pos h

theorem attribute_of_other {now : Int} {segment : Text}
    (h : (pair segment).1.lower ≠ "expires".toList) :
    ∃ said, attribute? now segment = .ok said ∧
      ∀ time, said ≠ some (.expires time) := by
  unfold attribute?
  simp only
  split_ifs <;> exact ⟨_, rfl, nofun⟩

theorem attribute_fails_iff {now : Int} {segment : Text} :
    Fails (attribute? now segment) ↔ RefusedDate now segment := by
  unfold RefusedDate
  by_cases hexpires : (pair segment).1.lower = "expires".toList
  · rw [attribute_of_expires hexpires]
    simp only [hexpires, true_and]
    cases (pair segment).2 with
    | none => exact iff_of_false (not_fails_ok _) (by simp)
    | some date =>
        simp only [fails_map, CookieDate.parse_fails_iff, Option.some_inj, exists_eq_left']
  · obtain ⟨said, hread, -⟩ := @attribute_of_other now segment hexpires
    rw [hread]
    exact iff_of_false (not_fails_ok _) fun h => hexpires h.1

/-- The moment of an attribute that is read is held as a double. -/
theorem attribute_bound {now time : Int} {segment : Text}
    (h : attribute? now segment = .ok (some (.expires (some time)))) : time.natAbs ≤ 10 ^ 13 := by
  by_cases hexpires : (pair segment).1.lower = "expires".toList
  · rw [attribute_of_expires hexpires] at h
    cases hvalue : (pair segment).2 with
    | none =>
        rw [hvalue] at h
        cases h
    | some date =>
        cases hparse : CookieDate.parse now (dropQuotes date) with
        | error failure =>
            simp only [hvalue, hparse] at h
            cases h
        | ok read =>
            simp only [hvalue, hparse] at h
            cases h
            exact CookieDate.parse_bound hparse
  · obtain ⟨said, hread, hother⟩ := attribute_of_other hexpires
    cases hread.symm.trans h
    exact absurd rfl (hother (some time))

/-- What some attributes of a host's cookie say. -/
def collected (host : Text) (attributes : List (Option Attribute)) : Attributes :=
  (attributes.filterMap id).foldl (Attributes.add host) ⟨host, none, false, none, none, []⟩

theorem add_expires (host : Text) (all : Attributes) (said : Attribute) :
    (all.add host said).expires = all.expires ∨
      said = .expires (all.add host said).expires := by
  cases said with
  | maxAge value =>
      rw [Attributes.add]
      split <;> exact Or.inl rfl
  | expires time => exact Or.inr rfl
  | domain | path | secure | unused | other => exact Or.inl rfl

/-- When a cookie expires by its date is what one of its attributes says. -/
theorem foldl_add_expires (host : Text) (attributes : List Attribute) (all : Attributes) :
    (attributes.foldl (Attributes.add host) all).expires = all.expires ∨
      .expires (attributes.foldl (Attributes.add host) all).expires ∈ attributes := by
  induction attributes generalizing all with
  | nil => exact Or.inl rfl
  | cons said attributes ih =>
      rw [List.foldl_cons]
      rcases ih (all.add host said) with hkept | hlater
      · rw [hkept]
        rcases add_expires host all said with hsame | hhere
        · exact Or.inl hsame
        · exact Or.inr (hhere ▸ List.mem_cons_self)
      · exact Or.inr (List.mem_cons_of_mem said hlater)

theorem collected_bound {now : Int} {host : Text} {others : List Text}
    {attributes : List (Option Attribute)} (hread : others.mapM (attribute? now) = .ok attributes)
    {time : Int} (h : (collected host attributes).expires = some time) :
    time.natAbs ≤ 10 ^ 13 := by
  rcases foldl_add_expires host (attributes.filterMap id)
    ⟨host, none, false, none, none, []⟩ with hnone | hmem
  · cases hnone.symm.trans h
  · change Attribute.expires (collected host attributes).expires ∈ _ at hmem
    rw [h, List.mem_filterMap] at hmem
    obtain ⟨said, hattribute, rfl⟩ := hmem
    obtain ⟨segment, -, hsegment⟩ := exists_of_mem_mapM hread hattribute
    exact attribute_bound hsegment

/-- Only a Max-Age leads beyond the range of doubles. -/
theorem keep_fails_iff {now : Int} {host name value : Text} {others : List Text}
    {attributes : List (Option Attribute)} (hread : others.mapM (attribute? now) = .ok attributes) :
    Fails ((collected host attributes).cookie now name value).keep ↔
      ∃ seconds, (collected host attributes).maxAge = some seconds ∧
        Double.overflow ≤ (now + seconds).natAbs := by
  rw [Cookie.keep, fails_map, Cookie.keptExpiry_fails_iff]
  change (∃ time, ((collected host attributes).maxAge.map (now + ·) <|>
    (collected host attributes).expires) = some time ∧ _) ↔ _
  cases hage : (collected host attributes).maxAge with
  | some seconds => simp
  | none =>
      refine iff_of_false ?_ (by simp)
      rintro ⟨time, hexpires, hlarge⟩
      have hbound := collected_bound hread hexpires
      have hrange : 2 ^ 54 ≤ Double.overflow :=
        (Double.two_pow_le (by norm_num)).trans Double.two_pow_le_overflow
      omega

theorem parse_of_named {now : Int} {host value first : Text} {others : List Text}
    (hsplit : segments host value = first :: others) (hnamed : (pair first).1 ≠ []) :
    parse now host value = (do
      let attributes ← others.mapM (attribute? now)
      match (pair first).2 with
      | none => pure none
      | some written =>
        some <$> ((collected host attributes).cookie now (pair first).1 written).keep) := by
  rw [parse, hsplit]
  simp only
  generalize pair first = written at *
  obtain ⟨name, value⟩ := written
  cases name with
  | nil => exact absurd rfl hnamed
  | cons c name => rfl

theorem parse_of_unnamed {now : Int} {host value first : Text} {others : List Text}
    (hsplit : segments host value = first :: others) (hpair : (pair first).1 = []) :
    parse now host value = .ok none := by
  rw [parse, hsplit]
  simp only
  generalize pair first = written at *
  obtain ⟨name, value⟩ := written
  cases hpair
  rfl

/-- A value that fails: a date of it fails, or its Max-Age leads beyond the range of doubles. -/
inductive Refused (now : Int) (host value : Text) : Prop
  | date (first : Text) (others : List Text) (segment : Text)
    (split : segments host value = first :: others) (named : (pair first).1 ≠ [])
    (mem : segment ∈ others) (refused : RefusedDate now segment)
  | maxAge (first : Text) (others : List Text) (written : Text)
    (attributes : List (Option Attribute)) (seconds : Int)
    (split : segments host value = first :: others) (named : (pair first).1 ≠ [])
    (has_value : (pair first).2 = some written)
    (read : others.mapM (attribute? now) = .ok attributes)
    (age : (collected host attributes).maxAge = some seconds)
    (late : Double.overflow ≤ (now + seconds).natAbs)

theorem segments_ne_nil (host value : Text) : segments host value ≠ [] := by
  unfold segments Text.splitOn
  exact List.cons_ne_nil _ _

theorem parse_fails_iff {now : Int} {host value : Text} :
    Fails (parse now host value) ↔ Refused now host value := by
  obtain ⟨first, others, hsplit⟩ := List.exists_cons_of_ne_nil (segments_ne_nil host value)
  by_cases hnamed : (pair first).1 = []
  · rw [parse_of_unnamed hsplit hnamed]
    refine iff_of_false (not_fails_ok _) ?_
    rintro (⟨first', others', segment, split, named⟩ |
      ⟨first', others', written, attributes, seconds, split, named⟩)
    · cases hsplit.symm.trans split
      exact named hnamed
    · cases hsplit.symm.trans split
      exact named hnamed
  · rw [parse_of_named hsplit hnamed, fails_bind, fails_mapM]
    simp only [attribute_fails_iff]
    constructor
    · rintro (⟨segment, mem, refused⟩ | ⟨attributes, hread, hrest⟩)
      · exact .date first others segment hsplit hnamed mem refused
      · cases hwritten : (pair first).2 with
        | none =>
            rw [hwritten] at hrest
            exact absurd hrest (not_fails_ok _)
        | some written =>
            rw [hwritten] at hrest
            obtain ⟨seconds, hage, hlarge⟩ := (keep_fails_iff hread).mp (fails_map.mp hrest)
            exact .maxAge first others written attributes seconds hsplit hnamed hwritten hread hage
              hlarge
    · rintro (⟨first', others', segment, split, -, mem, refused⟩ |
        ⟨first', others', written, attributes, seconds, split, -, has_value, read, age, late⟩)
      · cases hsplit.symm.trans split
        exact Or.inl ⟨segment, mem, refused⟩
      · cases hsplit.symm.trans split
        refine Or.inr ⟨attributes, read, ?_⟩
        rw [has_value]
        exact fails_map.mpr ((keep_fails_iff read).mpr ⟨seconds, age, late⟩)

/-- The cookie that a value builds, if it builds one. -/
def built? (now : Int) (host value : Text) : Option Cookie :=
  match parse now host value with
  | .ok cookie => cookie
  | .error _ => none

end SetCookie

namespace Jar

/-- The jar without some of its cookies; the others stay in their order. -/
def filter (keep : Cookie → Bool) (jar : Jar) : Jar :=
  ⟨jar.domains.map fun (domain, paths) =>
    (domain, paths.map fun (path, names) => (path, names.filter fun (_, cookie) => keep cookie))⟩

theorem purge_eq_filter (now : Int) (jar : Jar) :
    jar.purge now = jar.filter fun cookie => !cookie.isExpired now := rfl

theorem toList_filter (keep : Cookie → Bool) (jar : Jar) :
    (jar.filter keep).toList = jar.toList.filter keep := by
  simp only [toList, filter, List.flatMap_map, List.filter_flatMap, List.filter_map]
  rfl

/-- The cookies selected for a request are sent, apart from those whose name cannot be. -/
theorem fields_eq (jar : Jar) (host path : Text) (overTls : Bool) :
    jar.fields host path overTls =
      ((jar.select host path overTls).filter fun cookie => Cookie.isSendable cookie.name).map
        Cookie.sent := by
  rw [fields, ← List.filterMap_eq_map, List.filterMap_filter]
  congr 1
  funext cookie
  rw [Cookie.field_eq]
  split <;> rfl

theorem omissions_eq (jar : Jar) (host path : Text) (overTls : Bool) :
    jar.omissions host path overTls =
      ((jar.select host path overTls).filter fun cookie => !Cookie.isSendable cookie.name).map
        fun cookie => .value (.cookieName cookie.name) := by
  rw [omissions, ← List.filterMap_eq_map, List.filterMap_filter]
  congr 1
  funext cookie
  rw [Cookie.field_eq]
  cases Cookie.isSendable cookie.name <;> rfl

/-- The cookie that a value builds for a host when it is read, if it builds one. -/
def Offer.built? (host : Text) (offer : Offer) : Option Cookie :=
  SetCookie.built? offer.now host offer.value

/-- Values are stored one after the other until one of them fails. -/
theorem store_spec (host : Text) (offers : List Offer) (jar : Jar) :
    ∃ earlier later, offers = earlier ++ later ∧
      (∀ offer ∈ earlier, ¬ SetCookie.Refused offer.now host offer.value) ∧
      (∀ offer ∈ later.head?, SetCookie.Refused offer.now host offer.value) ∧
      (store host offers jar).jar = (earlier.filterMap (Offer.built? host)).foldl set jar ∧
      (store host offers jar).stored = (earlier.filterMap (Offer.built? host)).length ∧
      ((store host offers jar).failure = none ↔ later = []) := by
  induction offers generalizing jar with
  | nil => exact ⟨[], [], rfl, by simp, by simp, rfl, rfl, iff_of_true rfl rfl⟩
  | cons offer offers ih =>
      by_cases hrefused : SetCookie.Refused offer.now host offer.value
      · obtain ⟨failure, hparse⟩ := SetCookie.parse_fails_iff.mpr hrefused
        refine ⟨[], offer :: offers, rfl, by simp, ?_, ?_⟩
        · rintro offer' hoffer
          cases hoffer
          exact hrefused
        · simp [store, hparse]
      · cases hparse : SetCookie.parse offer.now host offer.value with
        | error failure => exact absurd (SetCookie.parse_fails_iff.mp ⟨failure, hparse⟩) hrefused
        | ok cookie =>
            have hbuilt : offer.built? host = cookie := by
              rw [Offer.built?, SetCookie.built?, hparse]
            obtain ⟨earlier, later, rfl, hearlier, hlater, hjar, hstored, hfailure⟩ :=
              ih (cookie.elim jar jar.set)
            refine ⟨offer :: earlier, later, rfl, ?_, hlater, ?_⟩
            · exact List.forall_mem_cons.mpr ⟨hrefused, hearlier⟩
            · cases cookie with
              | none =>
                  simp only [store, hparse, List.filterMap_cons, hbuilt]
                  exact ⟨hjar, hstored, hfailure⟩
              | some cookie =>
                  simp only [store, hparse, List.filterMap_cons, hbuilt, List.length_cons,
                    List.foldl_cons]
                  exact ⟨hjar, congrArg (· + 1) hstored, hfailure⟩

/-- Without a value that fails, every cookie that is built is set. -/
theorem store_of_sound {host : Text} {offers : List Offer}
    (hsound : ∀ offer ∈ offers, ¬ Fails (SetCookie.parse offer.now host offer.value)) (jar : Jar) :
    (store host offers jar).jar = (offers.filterMap (Offer.built? host)).foldl set jar := by
  obtain ⟨earlier, later, rfl, -, hlater, hjar, -⟩ := store_spec host offers jar
  cases later with
  | nil =>
      rw [hjar, List.append_nil]
  | cons offer later =>
      exact absurd (SetCookie.parse_fails_iff.mpr (hlater offer rfl)) (hsound offer (by simp))

/-- Values are stored until one of them fails, and no jar fails when its cookies are selected: those
that cannot be sent are left out for their names. -/
theorem store_until_refused (host : Text) (offers : List Offer) (jar : Jar) :
    ((store host offers jar).failure = none ↔
      ∀ offer ∈ offers, ¬ SetCookie.Refused offer.now host offer.value) ∧
    (∃ earlier later, offers = earlier ++ later ∧
      (∀ offer ∈ earlier, ¬ SetCookie.Refused offer.now host offer.value) ∧
      (∀ offer ∈ later.head?, SetCookie.Refused offer.now host offer.value) ∧
      (store host offers jar).jar = (earlier.filterMap (Offer.built? host)).foldl set jar ∧
      (store host offers jar).stored = (earlier.filterMap (Offer.built? host)).length) ∧
    ∀ (clock : Int) (domain path : Text) (overTls : Bool),
      let filled := (store host offers jar).jar.purge clock
      filled.fields domain path overTls =
        ((filled.select domain path overTls).filter fun cookie =>
          Cookie.isSendable cookie.name).map Cookie.sent ∧
      filled.omissions domain path overTls =
        ((filled.select domain path overTls).filter fun cookie =>
          !Cookie.isSendable cookie.name).map fun cookie => .value (.cookieName cookie.name) := by
  obtain ⟨earlier, later, hoffers, hearlier, hlater, hjar, hstored, hfailure⟩ :=
    store_spec host offers jar
  refine ⟨?_, ⟨earlier, later, hoffers, hearlier, hlater, hjar, hstored⟩,
    fun clock domain path overTls => ⟨fields_eq .., omissions_eq ..⟩⟩
  rw [hfailure, hoffers]
  constructor
  · rintro rfl
    rwa [List.append_nil]
  · intro hall
    cases later with
    | nil => rfl
    | cons offer later => exact absurd (hlater offer rfl) (hall offer (by simp))

/-- A month that is none fails the values after it as well. -/
theorem store_refuses_month :
    let stored := store "e.com".toList
      [⟨0, "a=1; Expires=Mon, 01 Jxx 2030 00:00:00 GMT".toList⟩, ⟨0, "b=2".toList⟩] empty
    stored.failure = some (.value (.month "jxx".toList)) ∧ stored.stored = 0 ∧
      stored.jar = empty ∧ (store "e.com".toList [⟨0, "b=2".toList⟩] empty).stored = 1 := by
  decide +kernel

end Jar

end HttpFetch
