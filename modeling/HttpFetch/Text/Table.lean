import HttpFetch.Text.Basic

/-!
# Character tables

A table is written as rows of hexadecimal numbers, rows apart by blanks and the numbers of a row
by commas. Sets of characters are unions of runs, a run being every code point from a first to a
last in equal steps; maps shift a run as a whole.
-/

namespace HttpFetch.Text

/-- A table as it is read: its rows and what has been read of the last one. -/
structure TableReading where
  rows : List (List Nat)
  row : List Nat
  number : Option Nat

namespace TableReading

def endNumber (t : TableReading) : TableReading :=
  match t.number with
  | none => t
  | some n => { t with row := n :: t.row, number := none }

def endRow (t : TableReading) : TableReading :=
  let t := t.endNumber
  if t.row.isEmpty then t else { t with rows := t.row.reverse :: t.rows, row := [] }

def read (t : TableReading) (c : Char) : TableReading :=
  if '0' ≤ c && c ≤ '9' then { t with number := some (16 * t.number.getD 0 + (c.toNat - 48)) }
  else if 'a' ≤ c && c ≤ 'f' then { t with number := some (16 * t.number.getD 0 + (c.toNat - 87)) }
  else if c = ',' then t.endNumber
  else t.endRow

end TableReading

/-- The rows of a written table. -/
def tableRows (written : String) : List (List Nat) :=
  (written.toList.foldl TableReading.read ⟨[], [], none⟩).endRow.rows.reverse

/-- The code points `first`, `first + step`, … up to `last`. -/
structure Run where
  first : Nat
  last : Nat
  step : Nat

namespace Run

def contains (run : Run) (n : Nat) : Bool :=
  run.first ≤ n && n ≤ run.last && (n - run.first) % run.step == 0

def ofRow? : List Nat → Option Run
  | [first] => some ⟨first, first, 1⟩
  | [first, last] => some ⟨first, last, 1⟩
  | [first, last, step] => some ⟨first, last, step⟩
  | _ => none

end Run

/-- A set of characters as a union of runs. -/
structure CharSet where
  runs : List Run

namespace CharSet

def ofRows (rows : List (List Nat)) : CharSet := ⟨rows.filterMap Run.ofRow?⟩

def ofTable (written : String) : CharSet := ofRows (tableRows written)

def contains (set : CharSet) (c : Char) : Bool := set.runs.any (·.contains c.toNat)

end CharSet

/-- A partial map from characters to texts: runs that are shifted, and single characters that
become a text each. -/
structure CharMap where
  shifts : List (Run × Nat)
  expansions : List (Nat × Text)

namespace CharMap

def shiftOfRow? : List Nat → Option (Run × Nat)
  | [first, last, step, image] => some (⟨first, last, step⟩, image)
  | _ => none

def expansionOfRow? : List Nat → Option (Nat × Text)
  | [] => none
  | c :: images => some (c, images.map Char.ofNat)

def ofRows (shifts expansions : List (List Nat)) : CharMap :=
  ⟨shifts.filterMap shiftOfRow?, expansions.filterMap expansionOfRow?⟩

def ofTables (shifts expansions : String) : CharMap :=
  ofRows (tableRows shifts) (tableRows expansions)

/-- What the map makes of a character, if it has it. -/
def find? (map : CharMap) (c : Char) : Option Text :=
  match map.shifts.find? (·.1.contains c.toNat) with
  | some (run, image) => some [Char.ofNat (image + (c.toNat - run.first))]
  | none => (map.expansions.find? (·.1 == c.toNat)).map (·.2)

end CharMap

end HttpFetch.Text
