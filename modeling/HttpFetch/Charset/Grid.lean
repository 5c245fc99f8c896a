import HttpFetch.Text.Utf8

/-!
# Grids of characters

Sets of many characters lie in grids. Two octets are the numbers of a row and of a column, counted
on scales that may have gaps.
-/

namespace HttpFetch

/-- Octets in order, as runs from a first to a last one. -/
abbrev Scale := List (Nat × Nat)

namespace Scale

/-- How many octets a scale has. -/
def size : Scale → Nat
  | [] => 0
  | (first, last) :: rest => (last + 1 - first) + size rest

/-- The place of an octet on a scale. -/
def place? : Scale → Nat → Option Nat
  | [], _ => none
  | (first, last) :: rest, octet =>
    if first ≤ octet ∧ octet ≤ last then some (octet - first)
    else (place? rest octet).map (last + 1 - first + ·)

/-- The octet at a place of a scale. -/
def octet? : Scale → Nat → Option Nat
  | [], _ => none
  | (first, last) :: rest, place =>
    let count := last + 1 - first
    if place < count then some (first + place) else octet? rest (place - count)

end Scale

/-- Characters in rows and columns, some cells being empty. -/
structure Grid where
  rows : Scale
  columns : Scale
  cells : Array (Option Char)

namespace Grid

/-- Cells as they are written, and the number that is being read. -/
structure Reading where
  cells : Array (Option Char)
  gap : Option Nat

namespace Reading

def endGap (r : Reading) : Reading :=
  match r.gap with
  | none => r
  | some gap => ⟨r.cells ++ Array.replicate gap none, none⟩

def read (r : Reading) (c : Char) : Reading :=
  if c.isDigit then { r with gap := some (10 * r.gap.getD 0 + (c.toNat - 48)) }
  else if c = ' ' || c = '\n' then r
  else ⟨r.endGap.cells.push (some c), none⟩

end Reading

/-- The grid of a text that has its characters in order and numbers for that many empty cells. -/
def ofText (rows columns : Scale) (written : String) : Grid :=
  ⟨rows, columns, (written.toList.foldl Reading.read ⟨#[], none⟩).cells⟩

/-- The character in the row and column that two octets name. -/
def char? (grid : Grid) (row column : UInt8) : Option Char := do
  let x ← grid.rows.place? row.toNat
  let y ← grid.columns.place? column.toNat
  (grid.cells[x * grid.columns.size + y]?).join

/-- The octets of the first cell that has a character. -/
def code? (grid : Grid) (c : Char) : Option (List UInt8) := do
  let place ← grid.cells.idxOf? (some c)
  let row ← grid.rows.octet? (place / grid.columns.size)
  let column ← grid.columns.octet? (place % grid.columns.size)
  some [UInt8.ofNat row, UInt8.ofNat column]

end Grid

end HttpFetch
