import HttpFetch.Charset.Grid
import HttpFetch.Text.Table

/-!
# Codebooks

A codebook relates characters, and a few pairs of them, to octets. Books combine, the first one
having its say before the second. A wide code is a book together with a rule that tells from the
first two octets how long a code is.
-/

namespace HttpFetch

/-- The characters of some codes and the codes of some characters; and the codes of some texts,
which are preferred to those of their characters. -/
structure Codebook where
  char? : Bytes → Option Char
  code? : Char → Option Bytes
  pairs : List (Text × Bytes) := []

namespace Codebook

/-- The text that a code stands for. -/
def text? (book : Codebook) (code : Bytes) : Option Text :=
  ((book.char? code).map ([·])).or ((book.pairs.find? (·.2 == code)).map (·.1))

/-- The code of a pair that begins a text, and how many characters after the first one it covers. -/
def pair? (book : Codebook) (c : Char) (rest : Text) : Option (Bytes × Nat) :=
  (book.pairs.find? fun pair => pair.1.isPrefixOf (c :: rest)).map fun (text, code) =>
    (code, text.length - 1)

/-- The code for the beginning of a text, and how many characters after the first one it covers. -/
def begin? (book : Codebook) (c : Char) (rest : Text) : Option (Bytes × Nat) :=
  (book.pair? c rest).or ((book.code? c).map (·, 0))

/-- The codes of a text. -/
def encode? (book : Codebook) : Text → Option Bytes
  | [] => some []
  | c :: rest => do
    let (code, more) ← book.begin? c rest
    let others ← encode? book (rest.drop more)
    some (code ++ others)
termination_by s => s.length
decreasing_by
  simp only [List.length_drop, List.length_cons]
  omega

/-- The book without codes. -/
def empty : Codebook := ⟨fun _ => none, fun _ => none, []⟩

/-- What either book has, the first one before the second. -/
def orElse (one other : Codebook) : Codebook where
  char? code := (one.char? code).or (other.char? code)
  code? c := (one.code? c).or (other.code? c)
  pairs := one.pairs ++ other.pairs

/-- The book for reading alone. -/
def reading (book : Codebook) : Codebook := ⟨book.char?, fun _ => none, []⟩

/-- The book for writing alone. -/
def writing (book : Codebook) : Codebook := ⟨fun _ => none, book.code?, []⟩

/-- The book that does not write some characters. -/
def withoutWriting (chars : List Char) (book : Codebook) : Codebook :=
  { book with code? := fun c => if chars.elem c then none else book.code? c }

/-- The book with other codes, which are taken back to its own for reading. -/
def recode (back out : Bytes → Option Bytes) (book : Codebook) : Codebook where
  char? code := (back code).bind book.char?
  code? c := (book.code? c).bind out
  pairs := book.pairs.filterMap fun (text, code) => (out code).map (text, ·)

/-- The codes of a book with octets before them. -/
def after (opening : Bytes) : Codebook → Codebook :=
  recode (fun code => if opening.isPrefixOf code then some (code.drop opening.length) else none)
    (fun code => some (opening ++ code))

/-- The book with every octet moved to the upper half or out of it. -/
def turned : Codebook → Codebook :=
  recode (fun code => some (code.map (· ^^^ 0x80))) (fun code => some (code.map (· ^^^ 0x80)))

/-- The book with every two of its rows of 94 cells made one of 188. The rows of the book are those
of a scale, and the new rows and their cells those of others. -/
def folded (rows newRows newCells : Scale) : Codebook → Codebook :=
  recode
    (fun
      | [newRow, newCell] => do
        let x ← newRows.place? newRow.toNat
        let y ← newCells.place? newCell.toNat
        let place := 188 * x + y
        let row ← rows.octet? (place / 94)
        some [UInt8.ofNat row, UInt8.ofNat (0x21 + place % 94)]
      | _ => none)
    (fun
      | [row, cell] => do
        let x ← rows.place? row.toNat
        let place := 94 * x + (cell.toNat - 0x21)
        let newRow ← newRows.octet? (place / 188)
        let newCell ← newCells.octet? (place % 188)
        some [UInt8.ofNat newRow, UInt8.ofNat newCell]
      | _ => none)

/-- Octets in a row for characters in a row. -/
def ofRun (first last : UInt8) (char : Nat) : Codebook where
  char?
    | [b] => if first ≤ b ∧ b ≤ last then some (Char.ofNat (char + (b.toNat - first.toNat))) else none
    | _ => none
  code? c :=
    if char ≤ c.toNat ∧ c.toNat - char ≤ last.toNat - first.toNat then
      some [UInt8.ofNat (first.toNat + (c.toNat - char))]
    else none

/-- The octets of ASCII. -/
def ascii : Codebook := ofRun 0x00 0x7f 0

/-- Codes one by one. -/
def ofList (codes : List (Char × Bytes)) : Codebook where
  char? code := (codes.find? (·.2 == code)).map (·.1)
  code? c := (codes.find? (·.1 == c)).map (·.2)

/-- Codes of pairs of characters. -/
def ofPairs (pairs : List (String × Bytes)) : Codebook :=
  { empty with pairs := pairs.map fun (text, code) => (text.toList, code) }

/-- Codes of two octets from rows of a table: a first octet, the first and the last of a run of
second octets, and the first of their characters. -/
def ofTable (written : String) : Codebook :=
  let codesOf : List Nat → List (Char × Bytes)
    | [lead, first, last, char] => (List.range (last + 1 - first)).map fun n =>
      (Char.ofNat (char + n), [UInt8.ofNat lead, UInt8.ofNat (first + n)])
    | _ => []
  ofList ((Text.tableRows written).flatMap codesOf)

/-- The codes of a grid. -/
def ofGrid (grid : Grid) : Codebook where
  char?
    | [row, column] => grid.char? row column
    | _ => none
  code? := grid.code?

end Codebook

/-- Codes of one octet or more. The octets of a code after the first one are as many as the first
and the second one tell. -/
structure WideCode extends Codebook where
  more : UInt8 → Option UInt8 → Nat

namespace WideCode

/-- The text of octets. An octet that begins no code is replaced, and so is all that remains when a
code stops short. -/
def decode (code : WideCode) : Bytes → Text
  | [] => []
  | b :: rest =>
    let more := code.more b rest.head?
    let others := rest.take more
    if others.length < more then [Utf8.replacement]
    else
      match code.text? (b :: others) with
      | some text => text ++ decode code (rest.drop more)
      | none => Utf8.replacement :: decode code rest
termination_by data => data.length
decreasing_by
  · simp only [List.length_drop, List.length_cons]
    omega
  · simp

/-- The rule for codes of two octets that begin in the upper half. -/
def upperPairs (b : UInt8) (_ : Option UInt8) : Nat := if b < 0x80 then 0 else 1

end WideCode

end HttpFetch
