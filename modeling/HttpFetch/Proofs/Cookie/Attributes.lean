import HttpFetch.Proofs.Cookie.Segments

/-!
# The order of attributes

A cookie does not depend on the order of its attributes as long as their names differ: each of them
sets something else, and only one can fail.  Attributes that are not known set nothing but
themselves, wherever they stand.  Neither is plain from the text, since the host is added at its end
as a domain unless `domain=` occurs in it anywhere.  But then the domain is the host in any case
(`SetCookie.parse_join`).
-/

namespace HttpFetch

/-! ## Results that agree -/

/-- Results that fail with one failure, or have values that are related. -/
inductive SameOutcome {α β : Type} (related : α → β → Prop) :
    Except Failure α → Except Failure β → Prop
  | error (failure : Failure) : SameOutcome related (.error failure) (.error failure)
  | ok {a : α} {b : β} (h : related a b) : SameOutcome related (.ok a) (.ok b)

namespace SameOutcome

variable {α β α' β' : Type} {related : α → β → Prop} {related' : α' → β' → Prop}
  {result : Except Failure α} {other : Except Failure β}

theorem bind (h : SameOutcome related result other) {next : α → Except Failure α'}
    {next' : β → Except Failure β'}
    (hnext : ∀ a b, related a b → SameOutcome related' (next a) (next' b)) :
    SameOutcome related' (result >>= next) (other >>= next') := by
  cases h with
  | error failure => exact .error failure
  | ok h => exact hnext _ _ h

theorem map (h : SameOutcome related result other) {f : α → α'} {g : β → β'}
    (hmap : ∀ a b, related a b → related' (f a) (g b)) :
    SameOutcome related' (result.map f) (other.map g) := by
  cases h with
  | error failure => exact .error failure
  | ok h => exact .ok (hmap _ _ h)

theorem mono (h : SameOutcome related result other) {weaker : α → β → Prop}
    (hweaker : ∀ a b, related a b → weaker a b) : SameOutcome weaker result other := by
  cases h with
  | error failure => exact .error failure
  | ok h => exact .ok (hweaker _ _ h)

theorem refl {related : α → α → Prop} (hrefl : ∀ a, related a a) (result : Except Failure α) :
    SameOutcome related result result := by
  cases result with
  | error failure => exact .error failure
  | ok a => exact .ok (hrefl a)

theorem trans {related : α → α → Prop} {first second third : Except Failure α}
    (htrans : ∀ a b c, related a b → related b c → related a c)
    (h : SameOutcome related first second) (h' : SameOutcome related second third) :
    SameOutcome related first third := by
  cases h with
  | error failure => exact h'
  | ok h =>
      cases h' with
      | ok h' => exact .ok (htrans _ _ _ h h')

end SameOutcome

namespace Cookie

/-- Cookies that differ at most in what they keep of attributes that are not known. -/
def SameButRest (cookie other : Cookie) : Prop :=
  { cookie with rest := [] } = { other with rest := [] }

theorem keep_same {cookie other : Cookie} (h : cookie.SameButRest other) :
    SameOutcome
      (fun kept kept' => kept.SameButRest kept' ∧ kept.rest = cookie.rest ∧ kept'.rest = other.rest)
      cookie.keep other.keep := by
  unfold SameButRest at h
  simp only [Cookie.mk.injEq] at h
  have hexpires : keptExpiry cookie.expires = keptExpiry other.expires := by rw [h.2.2.2.2.2.2.2.1]
  unfold keep
  rw [hexpires]
  apply (SameOutcome.refl (fun _ => rfl) (keptExpiry other.expires)).map
  rintro expires _ rfl
  simp [SameButRest, h]

end Cookie

namespace SetCookie

/-! ## Segments on their own -/

variable {now : Int} {host first : Text} {others : List Text}

theorem collected_append (host : Text) (attributes : List (Option Attribute)) (said : Attribute) :
    collected host (attributes ++ [some said]) = (collected host attributes).add host said := by
  simp [collected]

/-- The host as a last domain changes nothing when the domain is the host without it. -/
theorem readSegments_append_host (hhost : host.IsDomain) (hdomain : domainOf host others = host) :
    readSegments now host first (others ++ [" Domain=".toList ++ host]) =
      readSegments now host first others := by
  unfold readSegments
  split
  · rfl
  · rw [List.mapM_append, List.mapM_cons, attribute_domain now hhost]
    cases hread : others.mapM (attribute? now) with
    | error failure => rfl
    | ok attributes =>
        have hsame : collected host (attributes ++ [some (.domain (some host))]) =
            collected host attributes := by
          have hhere : (collected host attributes).domain = host :=
            (collected_domain host hread).trans hdomain
          rw [collected_append, Attributes.add, nonempty_some hhost.nonempty, Option.getD_some]
          generalize collected host attributes = all at hhere
          rw [← hhere]
        change cookieOf now host first (attributes ++ [some (Attribute.domain (some host))]) =
          cookieOf now host first attributes
        rw [cookieOf, hsame, ← cookieOf]

theorem domainOf_of_not_saysDomain {value : Text} (hstated : ¬ SaysDomain value)
    (hwithin : ∀ segment ∈ others, segment <:+: value)
    (htight : ∀ segment ∈ others, lowerName segment = "domain".toList → IsTight segment) :
    domainOf host others = host := by
  rw [domainOf, lastDomain_of_not_saysDomain hstated hwithin htight]
  rfl

/-- What a text of segments reads as does not depend on where `domain=` occurs in it. -/
theorem parse_join (now : Int) (hhost : host.IsDomain) (hfirst : ';' ∉ first)
    (hothers : ∀ segment ∈ others, ';' ∉ segment)
    (htight : ∀ segment ∈ others, lowerName segment = "domain".toList → IsTight segment) :
    parse now host ([';'].intercalate (first :: others)) = readSegments now host first others := by
  have hsplit : Text.splitOn (· == ';') ([';'].intercalate (first :: others)) =
      first :: others := by
    rw [Text.splitOn_eq_splitOn]
    exact List.splitOn_intercalate ';' (List.forall_mem_cons.mpr ⟨hfirst, hothers⟩)
      (List.cons_ne_nil first others)
  have hwithin : ∀ segment ∈ others, segment <:+: [';'].intercalate (first :: others) :=
    fun segment hsegment => Text.infix_intercalate (List.mem_cons_of_mem first hsegment)
  by_cases hstated : SaysDomain ([';'].intercalate (first :: others))
  · exact parse_of_segments ((segments_of_saysDomain hstated).trans hsplit)
  · have hsegments : segments host ([';'].intercalate (first :: others)) =
        first :: (others ++ [" Domain=".toList ++ host]) := by
      rw [segments_of_not_saysDomain hhost hstated, hsplit, List.cons_append]
    rw [parse_of_segments hsegments,
      readSegments_append_host hhost (domainOf_of_not_saysDomain hstated hwithin htight)]

/-! ## Attributes in another order -/

/-- What an attribute can set. -/
inductive Slot
  | domain
  | path
  | secure
  | maxAge
  | expires
  | rest (name : Text)
  deriving DecidableEq

/-- The name of what is set, in lower case. -/
def Slot.name : Slot → Text
  | domain => "domain".toList
  | path => "path".toList
  | secure => "secure".toList
  | maxAge => "max-age".toList
  | expires => "expires".toList
  | rest name => name.lower

/-- What an attribute sets; a Max-Age that is no number sets nothing. -/
def Attribute.slot? : Attribute → Option Slot
  | domain _ => some .domain
  | path _ => some .path
  | secure => some .secure
  | maxAge value => if (Integer.parse (value.getD [])).toOption.isSome then some .maxAge else none
  | expires _ => some .expires
  | unused => none
  | other name _ => some (.rest name)

theorem Means.slot_name {segment : Text} {said : Attribute} (h : Means segment (some said)) :
    ∀ slot ∈ said.slot?, slot.name = lowerName segment := by
  intro slot hslot
  cases h with
  | unused hname => cases hslot
  | other hname =>
      cases hslot
      rfl
  | maxAge hname =>
      simp only [Attribute.slot?] at hslot
      split at hslot
      · cases hslot
        exact hname.symm
      · cases hslot
  | domain hname | path hname | secure hname | expires hname =>
      cases hslot
      exact hname.symm

/-- The last attributes of their slots. -/
abbrev Setting := Slot → Option Attribute

namespace Setting

def write (setting : Setting) (said : Attribute) : Setting :=
  match said.slot? with
  | none => setting
  | some slot => Function.update setting slot (some said)

theorem write_comm (setting : Setting) {said other : Attribute}
    (h : ∀ slot ∈ said.slot?, slot ∉ other.slot?) :
    (setting.write said).write other = (setting.write other).write said := by
  unfold write
  cases hsaid : said.slot? with
  | none => rfl
  | some slot =>
      cases hother : other.slot? with
      | none => rfl
      | some slot' =>
          have hne : slot ≠ slot' := by
            rintro rfl
            exact h slot hsaid hother
          exact Function.update_comm hne ..

end Setting

/-- What attributes say is what the last ones of their slots set. -/
structure Reflects (host : Text) (setting : Setting) (all : Attributes) : Prop where
  domain : all.domain = match setting .domain with
    | some (.domain value) => (nonempty value).getD host
    | _ => host
  path : all.path = match setting .path with
    | some (.path value) => nonempty value
    | _ => none
  secure : all.secure = (setting .secure).isSome
  maxAge : all.maxAge = match setting .maxAge with
    | some (.maxAge value) => (Integer.parse (value.getD [])).toOption
    | _ => none
  expires : all.expires = match setting .expires with
    | some (.expires time) => time
    | _ => none
  rest : ∀ name, OrderedMap.find? all.rest name = match setting (.rest name) with
    | some (.other _ value) => some value
    | _ => none

theorem Reflects.add {setting : Setting} {all : Attributes} (h : Reflects host setting all)
    (said : Attribute) : Reflects host (setting.write said) (all.add host said) := by
  obtain ⟨hdomain, hpath, hsecure, hage, hexpires, hrest⟩ := h
  cases said with
  | domain | path | secure | expires =>
      constructor <;> simp [Setting.write, Attribute.slot?, Attributes.add, *]
  | maxAge value =>
      cases hparse : Integer.parse (value.getD []) with
      | ok seconds =>
          constructor <;> simp [Setting.write, Attribute.slot?, Attributes.add, Except.toOption, *]
      | error defect =>
          constructor <;> simp [Setting.write, Attribute.slot?, Attributes.add, Except.toOption, *]
  | unused => exact ⟨hdomain, hpath, hsecure, hage, hexpires, hrest⟩
  | other name value =>
      constructor
      case rest =>
        intro key
        by_cases hkey : key = name
        · simp [Setting.write, Attribute.slot?, Attributes.add, hkey]
        · simp [Setting.write, Attribute.slot?, Attributes.add, hkey, hrest]
      all_goals simp [Setting.write, Attribute.slot?, Attributes.add, *]

theorem Reflects.foldl {setting : Setting} {all : Attributes} (h : Reflects host setting all)
    (attributes : List Attribute) :
    Reflects host (attributes.foldl Setting.write setting)
      (attributes.foldl (Attributes.add host) all) := by
  induction attributes generalizing setting all with
  | nil => exact h
  | cons said attributes ih => exact ih (h.add said)

theorem collected_reflects (host : Text) (attributes : List (Option Attribute)) :
    Reflects host ((attributes.filterMap id).foldl Setting.write fun _ => none)
      (collected host attributes) := by
  apply Reflects.foldl
  constructor <;> simp [OrderedMap.find?]

def Attributes.bare (all : Attributes) : Attributes := { all with rest := [] }

theorem Reflects.unique {setting : Setting} {all other : Attributes}
    (h : Reflects host setting all) (h' : Reflects host setting other) :
    all.bare = other.bare ∧
      ∀ name, OrderedMap.find? all.rest name = OrderedMap.find? other.rest name := by
  constructor
  · simp only [Attributes.bare, h.domain, h.path, h.secure, h.maxAge, h.expires, h'.domain, h'.path,
      h'.secure, h'.maxAge, h'.expires]
  · intro name
    rw [h.rest, h'.rest]

/-- Of two segments with different names at most one fails. -/
theorem attribute_ok_or (now : Int) {segment other : Text}
    (h : lowerName segment ≠ lowerName other) :
    (∃ said, attribute? now segment = .ok said) ∨ ∃ said, attribute? now other = .ok said := by
  by_cases hexpires : lowerName segment = "expires".toList
  · right
    obtain ⟨said, hsaid, -⟩ := @attribute_of_other now other fun hother =>
      h (hexpires.trans hother.symm)
    exact ⟨said, hsaid⟩
  · left
    obtain ⟨said, hsaid, -⟩ := @attribute_of_other now segment hexpires
    exact ⟨said, hsaid⟩

theorem mapM_perm (now : Int) {others' : List Text} (h : others.Perm others')
    (hnames : (others.map lowerName).Nodup) :
    SameOutcome List.Perm (others.mapM (attribute? now)) (others'.mapM (attribute? now)) := by
  induction h with
  | nil => exact .ok .nil
  | cons segment h ih =>
      rw [List.mapM_cons, List.mapM_cons]
      rw [List.map_cons, List.nodup_cons] at hnames
      apply (SameOutcome.refl (fun _ => rfl) (attribute? now segment)).bind
      rintro said _ rfl
      apply (ih hnames.2).bind
      exact fun attributes attributes' hperm => .ok (hperm.cons said)
  | swap segment other rest =>
      simp only [List.map_cons, List.nodup_cons, List.mem_cons, not_or] at hnames
      simp only [List.mapM_cons]
      -- Only one of the two can fail, so that both orders meet the same failure.
      cases hsaid : attribute? now segment with
      | ok said =>
          cases hother : attribute? now other with
          | ok said' =>
              cases rest.mapM (attribute? now) with
              | ok attributes => exact .ok (.swap said said' attributes)
              | error failure => exact .error failure
          | error failure => exact .error failure
      | error failure =>
          obtain ⟨said, hother⟩ | ⟨said, hother⟩ := attribute_ok_or now hnames.1.1
          · rw [hother]
            exact .error failure
          · cases hsaid.symm.trans hother
  | trans h h' ih ih' =>
      exact (ih hnames).trans (fun _ _ _ => List.Perm.trans)
        (ih' ((h.map lowerName).nodup_iff.mp hnames))

theorem slots_disjoint {attributes : List (Option Attribute)}
    (hread : others.mapM (attribute? now) = .ok attributes)
    (hnames : (others.map lowerName).Nodup) {said other : Attribute}
    (hsaid : some said ∈ attributes) (hother : some other ∈ attributes) (hne : said ≠ other) :
    ∀ slot ∈ said.slot?, slot ∉ other.slot? := by
  -- A slot tells the name of the segment, and no two segments have one name.
  obtain ⟨segment, hsegment, hmeans⟩ := exists_of_mem_mapM hread hsaid
  obtain ⟨segment', hsegment', hmeans'⟩ := exists_of_mem_mapM hread hother
  intro slot hslot hslot'
  have hname := (attribute_means hmeans).slot_name slot hslot
  rw [(attribute_means hmeans').slot_name slot hslot'] at hname
  cases List.inj_on_of_nodup_map hnames hsegment' hsegment hname
  cases hmeans.symm.trans hmeans'
  exact hne rfl

theorem collected_perm {attributes attributes' : List (Option Attribute)}
    (hread : others.mapM (attribute? now) = .ok attributes)
    (hnames : (others.map lowerName).Nodup) (h : attributes.Perm attributes') (host : Text) :
    (collected host attributes).bare = (collected host attributes').bare ∧
      ∀ name, OrderedMap.find? (collected host attributes).rest name =
        OrderedMap.find? (collected host attributes').rest name := by
  have hsetting : (attributes.filterMap id).foldl Setting.write (fun _ => none) =
      (attributes'.filterMap id).foldl Setting.write fun _ => none := by
    apply (h.filterMap id).foldl_eq'
    intro said hsaid other hother setting
    by_cases hne : said = other
    · rw [hne]
    · apply Setting.write_comm
      exact slots_disjoint hread hnames (by simpa using hsaid) (by simpa using hother) hne
  have hreflects := collected_reflects host attributes
  rw [hsetting] at hreflects
  exact hreflects.unique (collected_reflects host attributes')

/-- Attributes that say the same give the same cookie, but for what is not known. -/
theorem cookieOf_same (now : Int) (first : Text)
    (relates : OrderedMap Text (Option Text) → OrderedMap Text (Option Text) → Prop)
    {attributes attributes' : List (Option Attribute)}
    (hbare : (collected host attributes).bare = (collected host attributes').bare)
    (hrest : relates (collected host attributes).rest (collected host attributes').rest) :
    SameOutcome
      (Option.Rel fun cookie cookie' =>
        cookie.SameButRest cookie' ∧ relates cookie.rest cookie'.rest)
      (cookieOf now host first attributes) (cookieOf now host first attributes') := by
  unfold cookieOf
  cases (pair first).2 with
  | none => exact .ok .none
  | some written =>
      generalize collected host attributes = all at hbare hrest ⊢
      generalize collected host attributes' = other at hbare hrest ⊢
      have hsame : (all.cookie now (pair first).1 written).SameButRest
          (other.cookie now (pair first).1 written) := by
        unfold Attributes.bare at hbare
        simp only [Attributes.mk.injEq] at hbare
        simp [Cookie.SameButRest, Attributes.cookie, hbare]
      apply (Cookie.keep_same hsame).map
      rintro kept kept' ⟨hkept, hfirst, hsecond⟩
      apply Option.Rel.some
      rw [hfirst, hsecond]
      exact ⟨hkept, hrest⟩

theorem readSegments_perm {others' : List Text} (h : others.Perm others')
    (hnames : (others.map lowerName).Nodup) (now : Int) (host first : Text) :
    SameOutcome
      (Option.Rel fun cookie cookie' => cookie.SameButRest cookie' ∧
        ∀ name, OrderedMap.find? cookie.rest name = OrderedMap.find? cookie'.rest name)
      (readSegments now host first others) (readSegments now host first others') := by
  unfold readSegments
  split
  · exact .ok .none
  · have hperm := mapM_perm now h hnames
    cases hread : others.mapM (attribute? now) with
    | error failure =>
        rw [hread] at hperm
        generalize others'.mapM (attribute? now) = result at hperm ⊢
        cases hperm
        exact .error failure
    | ok attributes =>
        rw [hread] at hperm
        generalize others'.mapM (attribute? now) = result at hperm ⊢
        cases hperm with
        | ok hperm =>
            have hsame := collected_perm hread hnames hperm host
            exact cookieOf_same now first
              (fun rest rest' => ∀ name, OrderedMap.find? rest name = OrderedMap.find? rest' name)
              hsame.1 hsame.2

/-! ## Attributes that are not known -/

/-- A list with more elements of a kind, anywhere. -/
inductive Padded {α : Type} (inert : α → Prop) : List α → List α → Prop
  | nil : Padded inert [] []
  | keep (a : α) {list list' : List α} (h : Padded inert list list') :
      Padded inert (a :: list) (a :: list')
  | insert {a : α} (ha : inert a) {list list' : List α} (h : Padded inert list list') :
      Padded inert list (a :: list')

theorem Padded.forall_mem {α : Type} {inert P : α → Prop} {list list' : List α}
    (h : Padded inert list list') (hlist : ∀ a ∈ list, P a) (hinert : ∀ a, inert a → P a) :
    ∀ a ∈ list', P a := by
  induction h with
  | nil => exact hlist
  | keep a h ih =>
      rw [List.forall_mem_cons] at hlist ⊢
      exact ⟨hlist.1, ih hlist.2⟩
  | insert ha h ih =>
      rw [List.forall_mem_cons]
      exact ⟨hinert _ ha, ih hlist⟩

/-- The names of attributes that a cookie is made of. -/
def settingNames : List Text :=
  ["domain", "path", "secure", "max-age", "expires"].map String.toList

/-- A segment that sets nothing that a cookie is made of. -/
def IsInert (segment : Text) : Prop := ';' ∉ segment ∧ lowerName segment ∉ settingNames

/-- An attribute that is not there or is kept beside the others. -/
def IsBeside : Option Attribute → Prop
  | none | some .unused | some (.other ..) => True
  | _ => False

theorem attribute_of_inert (now : Int) {segment : Text} (h : IsInert segment) :
    ∃ said, attribute? now segment = .ok said ∧ IsBeside said := by
  have hname : ∀ name ∈ settingNames, lowerName segment ≠ name := by
    rintro _ hname rfl
    exact h.2 hname
  obtain ⟨said, hsaid, -⟩ := @attribute_of_other now segment (hname _ (by decide))
  refine ⟨said, hsaid, ?_⟩
  cases attribute_means hsaid with
  | nameless | unused | other => trivial
  | domain hdomain => exact absurd hdomain (hname _ (by decide))
  | path hpath => exact absurd hpath (hname _ (by decide))
  | secure hsecure => exact absurd hsecure (hname _ (by decide))
  | maxAge hage => exact absurd hage (hname _ (by decide))
  | expires hexpires => exact absurd hexpires (hname _ (by decide))

theorem mapM_padded {others' : List Text} (h : Padded IsInert others others') :
    SameOutcome (Padded IsBeside)
      (others.mapM (attribute? now)) (others'.mapM (attribute? now)) := by
  induction h with
  | nil => exact .ok .nil
  | keep segment h ih =>
      rw [List.mapM_cons, List.mapM_cons]
      apply (SameOutcome.refl (fun _ => rfl) (attribute? now segment)).bind
      rintro said _ rfl
      apply ih.bind
      exact fun attributes attributes' hpadded => .ok (.keep said hpadded)
  | insert hinert h ih =>
      obtain ⟨said, hsaid, hbeside⟩ := attribute_of_inert now hinert
      rw [List.mapM_cons, hsaid]
      generalize List.mapM (attribute? now) _ = result at ih ⊢
      generalize List.mapM (attribute? now) _ = result' at ih ⊢
      cases ih with
      | error failure => exact .error failure
      | ok hpadded => exact .ok (.insert hbeside hpadded)

theorem Attributes.add_bare {all other : Attributes} (h : all.bare = other.bare) (host : Text)
    (said : Attribute) : (all.add host said).bare = (other.add host said).bare := by
  unfold bare at h ⊢
  simp only [Attributes.mk.injEq] at h
  cases said with
  | maxAge value =>
      simp only [add]
      split
      · simp [h]
      · simp [h]
  | domain | path | secure | expires | unused | other => simp [add, h]

theorem Attributes.add_beside (all : Attributes) (host : Text) {said : Attribute}
    (h : IsBeside (some said)) : (all.add host said).bare = all.bare := by
  cases said with
  | unused | other => rfl
  | domain | path | secure | maxAge | expires => cases h

theorem foldl_padded {attributes attributes' : List (Option Attribute)}
    (h : Padded IsBeside attributes attributes') {all other : Attributes}
    (hbare : all.bare = other.bare) :
    ((attributes.filterMap id).foldl (Attributes.add host) all).bare =
      ((attributes'.filterMap id).foldl (Attributes.add host) other).bare := by
  induction h generalizing all other with
  | nil => exact hbare
  | keep said h ih =>
      cases said with
      | none => exact ih hbare
      | some said => exact ih (Attributes.add_bare hbare host said)
  | @insert said hbeside attributes attributes' h ih =>
      cases said with
      | none => exact ih hbare
      | some said => exact ih (hbare.trans (other.add_beside host hbeside).symm)

theorem readSegments_padded {others' : List Text} (h : Padded IsInert others others') (now : Int)
    (host first : Text) :
    SameOutcome (Option.Rel Cookie.SameButRest)
      (readSegments now host first others) (readSegments now host first others') := by
  unfold readSegments
  split
  · exact .ok .none
  · apply (mapM_padded h).bind
    intro attributes attributes' hpadded
    have hbare : (collected host attributes).bare = (collected host attributes').bare :=
      foldl_padded hpadded rfl
    apply (cookieOf_same now first (fun _ _ => True) hbare trivial).mono
    rintro _ _ (h | h)
    · exact .some h.1
    · exact .none

/-- A cookie has the same attributes in any order, if their names differ, and with any others among
them that are not known. -/
theorem attributes_commute (now : Int) (hhost : host.IsDomain) (hfirst : ';' ∉ first)
    (hothers : ∀ segment ∈ others, ';' ∉ segment)
    (htight : ∀ segment ∈ others, lowerName segment = "domain".toList → IsTight segment) :
    ((others.map lowerName).Nodup → ∀ others', others.Perm others' →
      SameOutcome
        (Option.Rel fun cookie cookie' => cookie.SameButRest cookie' ∧
          ∀ name, OrderedMap.find? cookie.rest name = OrderedMap.find? cookie'.rest name)
        (parse now host ([';'].intercalate (first :: others)))
        (parse now host ([';'].intercalate (first :: others')))) ∧
    ∀ others', Padded IsInert others others' →
      SameOutcome (Option.Rel Cookie.SameButRest)
        (parse now host ([';'].intercalate (first :: others)))
        (parse now host ([';'].intercalate (first :: others'))) := by
  rw [parse_join now hhost hfirst hothers htight]
  constructor
  · intro hnames others' hperm
    have hmem : ∀ segment, segment ∈ others' → segment ∈ others := fun _ => hperm.mem_iff.mpr
    rw [parse_join now hhost hfirst (fun segment h => hothers segment (hmem segment h))
      fun segment h => htight segment (hmem segment h)]
    exact readSegments_perm hperm hnames now host first
  · intro others' hpadded
    have hothers' := hpadded.forall_mem hothers fun _ hinert => hinert.1
    have htight' := hpadded.forall_mem htight fun segment hinert hdomain =>
      absurd (show lowerName segment ∈ settingNames by rw [hdomain]; decide) hinert.2
    rw [parse_join now hhost hfirst hothers' htight']
    exact readSegments_padded hpadded now host first

/-- Max-Age goes before the date on either side of it, and `domain=` in another attribute does not
keep the host from being the domain. -/
theorem attributes_commute_maxAge :
    let cookie : Cookie :=
      ⟨"a".toList, "1".toList, "e.com".toList, false, ['/'], false, false, some 5, []⟩
    let age := "Max-Age=5".toList
    let date := "Expires=Thu, 01 Jan 1970 00:00:09 GMT".toList
    parse 0 "e.com".toList ([';'].intercalate ["a=1".toList, age, date]) = .ok (some cookie) ∧
      (∃ other, parse 0 "e.com".toList ([';'].intercalate ["a=1".toList, date, age]) =
        .ok (some other) ∧ cookie.SameButRest other) ∧
      ∃ other, parse 0 "e.com".toList
        ([';'].intercalate ["a=1".toList, age, "X=domain=y".toList, date]) =
          .ok (some other) ∧ cookie.SameButRest other := by
  intro cookie age date
  have hhost : Text.IsDomain "e.com".toList := ⟨by decide, by decide, by decide, by decide⟩
  have htight : ∀ segment ∈ [age, date], lowerName segment = "domain".toList → IsTight segment := by
    simp only [List.forall_mem_cons]
    refine ⟨fun h => absurd h ?_, fun h => absurd h ?_, by simp⟩ <;> decide +kernel
  have hread : parse 0 "e.com".toList ([';'].intercalate ["a=1".toList, age, date]) =
      .ok (some cookie) := by decide +kernel
  have hfirst : ';' ∉ "a=1".toList := by decide
  have hothers : ∀ segment ∈ [age, date], ';' ∉ segment := by decide
  obtain ⟨hperm, hpadded⟩ := attributes_commute 0 hhost hfirst hothers htight
  have hswapped := hperm (by decide +kernel) [date, age] (.swap ..)
  have hinert : IsInert "X=domain=y".toList := ⟨by decide, by decide +kernel⟩
  have hmore := hpadded [age, "X=domain=y".toList, date] (.keep _ (.insert hinert (.keep _ .nil)))
  rw [hread] at hswapped hmore
  refine ⟨hread, ?_, ?_⟩
  · generalize parse 0 _ _ = result at hswapped ⊢
    cases hswapped with
    | ok h =>
        cases h with
        | some hsame => exact ⟨_, rfl, hsame.1⟩
  · generalize parse 0 _ _ = result at hmore ⊢
    cases hmore with
    | ok h =>
        cases h with
        | some hsame => exact ⟨_, rfl, hsame⟩

end SetCookie

end HttpFetch
