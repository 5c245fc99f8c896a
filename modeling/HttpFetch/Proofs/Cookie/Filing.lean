import HttpFetch.Proofs.Cookie.Storing

/-!
# Where cookies stand in a jar

A jar is a map of maps of maps.  As long as cookies are only set and purged, the keys at each level
are distinct and every cookie stands where its domain, its path and its name say.  Then setting a
cookie replaces the one with the same key and no other, up to the order of the cookies.
-/

namespace HttpFetch

/-! ## Maps with distinct keys -/

namespace OrderedMap

variable {κ α β : Type}

/-- A map with distinct keys, all of whose entries have a property. -/
structure Holds (P : κ → α → Prop) (map : OrderedMap κ α) : Prop where
  distinct : (map.map (·.1)).Nodup
  entry : ∀ entry ∈ map, P entry.1 entry.2

namespace Holds

variable {P : κ → α → Prop} {map : OrderedMap κ α}

theorem nil : Holds P [] := ⟨List.nodup_nil, by simp⟩

theorem cons_iff {key : κ} {value : α} :
    Holds P ((key, value) :: map) ↔ key ∉ map.map (·.1) ∧ P key value ∧ Holds P map := by
  constructor
  · rintro ⟨distinct, entry⟩
    obtain ⟨hnew, hrest⟩ := List.nodup_cons.mp distinct
    obtain ⟨hhead, htail⟩ := List.forall_mem_cons.mp entry
    exact ⟨hnew, hhead, hrest, htail⟩
  · rintro ⟨hnew, hhead, hrest, htail⟩
    exact ⟨List.nodup_cons.mpr ⟨hnew, hrest⟩, List.forall_mem_cons.mpr ⟨hhead, htail⟩⟩

theorem mapValues {Q : κ → β → Prop} (h : Holds P map) {change : α → β}
    (hchange : ∀ key value, P key value → Q key (change value)) :
    Holds Q (map.map fun (key, value) => (key, change value)) := by
  constructor
  · rw [List.map_map]
    exact h.distinct
  · intro entry hentry
    obtain ⟨old, hold, rfl⟩ := List.mem_map.mp hentry
    exact hchange old.1 old.2 (h.entry old hold)

theorem filter (h : Holds P map) (keep : κ × α → Bool) : Holds P (map.filter keep) where
  distinct := h.distinct.sublist (List.filter_sublist.map _)
  entry entry hentry := h.entry entry (List.mem_of_mem_filter hentry)

theorem getD {value? : Option (OrderedMap κ α)} (h : ∀ value ∈ value?, Holds P value) :
    Holds P (value?.getD []) := by
  cases value? with
  | none => exact nil
  | some value => exact h value rfl

variable [DecidableEq κ] {key : κ} {make : Option α → α}

theorem alter (h : Holds P map)
    (hmake : ∀ value? : Option α, (∀ value ∈ value?, P key value) → P key (make value?)) :
    Holds P (OrderedMap.alter key make map) := by
  constructor
  · rw [keys_alter]
    split
    next hold => exact h.distinct
    next hnew => exact List.nodup_append.mpr ⟨h.distinct, by simp, by grind⟩
  · have hentry := h.entry
    clear h
    induction map with
    | nil => simpa [OrderedMap.alter] using hmake none (by simp)
    | cons head rest ih =>
        obtain ⟨k, value⟩ := head
        obtain ⟨hhead, htail⟩ := List.forall_mem_cons.mp hentry
        by_cases hkey : k = key
        · subst hkey
          simp only [OrderedMap.alter, if_true]
          refine List.forall_mem_cons.mpr ⟨hmake (some value) ?_, htail⟩
          rintro _ ⟨⟩
          exact hhead
        · simp only [OrderedMap.alter, hkey, if_false]
          exact List.forall_mem_cons.mpr ⟨hhead, ih htail⟩

/-- If one value brings a new part and leaves out what it replaces, so does the whole map. -/
theorem flatMap_alter (h : Holds P map) (parts : α → List β) {keep : β → Bool} {new : β}
    (hother : ∀ k value, P k value → k ≠ key → ∀ part ∈ parts value, keep part = true)
    (hmake : ∀ value? : Option α, (∀ value ∈ value?, P key value) →
      (parts (make value?)).Perm (new :: (value?.toList.flatMap parts).filter keep)) :
    ((OrderedMap.alter key make map).flatMap fun entry => parts entry.2).Perm
      (new :: (map.flatMap fun entry => parts entry.2).filter keep) := by
  induction map with
  | nil => simpa [OrderedMap.alter] using hmake none (by simp)
  | cons head rest ih =>
      obtain ⟨k, value⟩ := head
      obtain ⟨hnew, hhead, hrest⟩ := cons_iff.mp h
      rw [List.flatMap_cons, List.filter_append]
      by_cases hkey : k = key
      · subst hkey
        -- The other entries are those of other keys.
        have hkept : (rest.flatMap fun entry => parts entry.2).filter keep =
            rest.flatMap fun entry => parts entry.2 := by
          refine List.filter_eq_self.mpr fun part hpart => ?_
          obtain ⟨entry, hentry, hpart⟩ := List.mem_flatMap.mp hpart
          refine hother entry.1 entry.2 (hrest.entry entry hentry) ?_ part hpart
          rintro rfl
          exact hnew (List.mem_map_of_mem hentry)
        have hvalue := hmake (some value) (by rintro _ ⟨⟩; exact hhead)
        rw [Option.toList_some, List.flatMap_singleton] at hvalue
        simp only [OrderedMap.alter, if_true, List.flatMap_cons, hkept]
        exact hvalue.append_right _
      · have hkept : (parts value).filter keep = parts value :=
          List.filter_eq_self.mpr (hother k value hhead hkey)
        simp only [OrderedMap.alter, hkey, if_false, List.flatMap_cons, hkept]
        exact ((ih hrest).append_left _).trans List.perm_middle

end Holds

end OrderedMap

/-! ## Jars -/

/-- The key of a cookie in a jar. -/
def Cookie.key (cookie : Cookie) : Text × Text × Text :=
  (cookie.domain, cookie.path, cookie.name)

namespace Jar

/-- The cookies of a path stand under their names. -/
abbrev Names (domain path : Text) : OrderedMap Text Cookie → Prop :=
  OrderedMap.Holds fun name cookie => cookie.key = (domain, path, name)

/-- The cookies of a domain stand under their paths and names. -/
abbrev Paths (domain : Text) : OrderedMap Text (OrderedMap Text Cookie) → Prop :=
  OrderedMap.Holds fun path => Names domain path

/-- The cookies stand under their domains, paths and names. -/
def Filed (jar : Jar) : Prop := OrderedMap.Holds Paths jar.domains

def pathCookies (names : OrderedMap Text Cookie) : List Cookie := names.map fun entry => entry.2

def domainCookies (paths : OrderedMap Text (OrderedMap Text Cookie)) : List Cookie :=
  paths.flatMap fun entry => pathCookies entry.2

theorem Names.key_of_mem {domain path : Text} {names : OrderedMap Text Cookie}
    (h : Names domain path names) {cookie : Cookie} (hmem : cookie ∈ pathCookies names) :
    cookie.domain = domain ∧ cookie.path = path := by
  obtain ⟨entry, hentry, rfl⟩ := List.mem_map.mp hmem
  have hkey := h.entry entry hentry
  exact ⟨congrArg (·.1) hkey, congrArg (·.2.1) hkey⟩

theorem Paths.domain_of_mem {domain : Text} {paths : OrderedMap Text (OrderedMap Text Cookie)}
    (h : Paths domain paths) {cookie : Cookie} (hmem : cookie ∈ domainCookies paths) :
    cookie.domain = domain := by
  obtain ⟨entry, hentry, hmem⟩ := List.mem_flatMap.mp hmem
  exact (Names.key_of_mem (h.entry entry hentry) hmem).1

section Setting

variable (cookie : Cookie)

/-- Whether a cookie stays when another one is set. -/
def stays (other : Cookie) : Bool := other.key ≠ cookie.key

theorem stays_of_ne {other : Cookie} (h : other.domain ≠ cookie.domain ∨
    other.path ≠ cookie.path ∨ other.name ≠ cookie.name) : stays cookie other = true := by
  simp only [stays, Cookie.key, decide_eq_true_eq, ne_eq, Prod.mk.injEq]
  tauto

theorem pathCookies_insert {names : OrderedMap Text Cookie}
    (h : Names cookie.domain cookie.path names) :
    (pathCookies (OrderedMap.insert names cookie.name cookie)).Perm
      (cookie :: (pathCookies names).filter (stays cookie)) := by
  have hparts : ∀ names, pathCookies names = names.flatMap fun entry => [entry.2] :=
    fun names => List.map_eq_flatMap
  simp only [hparts]
  refine h.flatMap_alter (fun cookie => [cookie]) (fun name other hkey hname => ?_)
    fun other? hother => ?_
  · have hname' : other.name = name := congrArg (·.2.2) hkey
    simpa using stays_of_ne cookie (Or.inr (Or.inr (hname' ▸ hname)))
  · cases other? with
    | none => simp
    | some other =>
        have hkey : other.key = cookie.key := hother other rfl
        simp [stays, hkey]

theorem domainCookies_alter {paths : OrderedMap Text (OrderedMap Text Cookie)}
    (h : Paths cookie.domain paths) :
    (domainCookies (OrderedMap.alter cookie.path (fun names =>
      OrderedMap.insert (names.getD []) cookie.name cookie) paths)).Perm
      (cookie :: (domainCookies paths).filter (stays cookie)) := by
  refine h.flatMap_alter pathCookies (fun path names hnames hpath other hother => ?_)
    fun names? hnames => ?_
  · have hpath' := (hnames.key_of_mem hother).2
    exact stays_of_ne cookie (Or.inr (Or.inl (hpath' ▸ hpath)))
  · refine (pathCookies_insert cookie (.getD hnames)).trans (.of_eq ?_)
    cases names? <;> simp [pathCookies]

end Setting

namespace Filed

variable {jar : Jar}

theorem empty : Jar.empty.Filed := .nil

theorem set (h : jar.Filed) (cookie : Cookie) : (jar.set cookie).Filed :=
  h.alter fun _ hpaths => (OrderedMap.Holds.getD hpaths).alter fun _ hnames =>
    (OrderedMap.Holds.getD hnames).alter fun _ _ => rfl

theorem purge (h : jar.Filed) (now : Int) : (jar.purge now).Filed :=
  h.mapValues fun _ _ hpaths => hpaths.mapValues fun _ _ hnames => hnames.filter _

/-- A cookie that is set takes the place of the one with its key. -/
theorem toList_set (h : jar.Filed) (cookie : Cookie) :
    (jar.set cookie).toList.Perm (cookie :: jar.toList.filter (stays cookie)) := by
  refine OrderedMap.Holds.flatMap_alter h domainCookies
    (fun domain paths hpaths hdomain other hother => ?_) fun paths? hpaths => ?_
  · have hdomain' := hpaths.domain_of_mem hother
    exact stays_of_ne cookie (Or.inl (hdomain' ▸ hdomain))
  · refine (domainCookies_alter cookie (.getD hpaths)).trans (.of_eq ?_)
    cases paths? <;> simp [domainCookies]

end Filed

end Jar

end HttpFetch
