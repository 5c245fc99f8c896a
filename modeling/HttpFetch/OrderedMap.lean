/-!
# Ordered maps

Entries with distinct keys, in the order in which the keys were first set: a new value for a key
keeps the key's place.
-/

namespace HttpFetch

/-- Entries in the order in which their keys were first set. -/
abbrev OrderedMap (κ α : Type) := List (κ × α)

namespace OrderedMap

variable {κ α : Type} [DecidableEq κ]

/-- The map with a key's value made from the one it had, if it had one. -/
def alter (key : κ) (make : Option α → α) : OrderedMap κ α → OrderedMap κ α
  | [] => [(key, make none)]
  | (k, a) :: rest => if k = key then (k, make (some a)) :: rest else (k, a) :: alter key make rest

/-- The map with a value set for a key. -/
def insert (map : OrderedMap κ α) (key : κ) (value : α) : OrderedMap κ α :=
  alter key (fun _ => value) map

/-- The value of a key. -/
def find? (map : OrderedMap κ α) (key : κ) : Option α :=
  match map with
  | [] => none
  | (k, a) :: rest => if k = key then some a else find? rest key

/-- Setting a key keeps the others and their order. -/
theorem keys_alter (map : OrderedMap κ α) (key : κ) (make : Option α → α) :
    (alter key make map).map (·.1)
      = if key ∈ map.map (·.1) then map.map (·.1) else map.map (·.1) ++ [key] := by
  induction map with
  | nil => simp [alter]
  | cons entry rest ih =>
    obtain ⟨k, a⟩ := entry
    by_cases h : k = key
    · simp [alter, h]
    · have h' : ¬ key = k := fun e => h e.symm
      simp only [alter, h, if_false, List.map_cons, ih, List.mem_cons, h', false_or]
      split <;> simp

@[simp] theorem find?_insert (map : OrderedMap κ α) (key other : κ) (value : α) :
    find? (insert map key value) other = if other = key then some value else find? map other := by
  unfold insert
  induction map with
  | nil => simp [alter, find?, eq_comm]
  | cons entry rest ih =>
    obtain ⟨first, held⟩ := entry
    by_cases hfirst : first = key
    · by_cases hother : other = key
      · simp [alter, find?, hfirst, hother]
      · simp [alter, find?, hfirst, hother, Ne.symm hother]
    · by_cases hother : first = other
      · simp [alter, find?, hother, hother ▸ hfirst]
      · simp [alter, find?, hfirst, hother, ih]

end OrderedMap

end HttpFetch
