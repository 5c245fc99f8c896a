import HttpFetch.OrderedMap
import HttpFetch.Number.Integer
import HttpFetch.Text.Blank
import HttpFetch.Text.Case

/-!
# Header fields

Fields are kept in order and as often as they occur; names are compared without regard to case.
A look-up of one value takes the first field of the name and trims it.
-/

namespace HttpFetch

/-- A header field. -/
structure Field where
  name : Text
  value : Text
  deriving DecidableEq, Repr, Inhabited

abbrev Headers := List Field

namespace Field

/-- Whether a field has a name, in any case. -/
def isNamed (name : Text) (field : Field) : Bool := Text.sameLower field.name name

/-- The field that a line `Name: value` holds. A line without a colon or a name holds none. -/
def ofLine? (line : Text) : Option Field :=
  match Text.cut ':' line with
  | (_, none) => none
  | (name, some value) =>
    if name.trim.isEmpty then none else some ⟨name.trim, value.trim⟩

/-- The line of a field, without its end. -/
def line (field : Field) : Text := field.name ++ ": ".toList ++ field.value

end Field

namespace Headers

/-- All values of a name, in order. -/
def values (headers : Headers) (name : Text) : List Text :=
  (headers.filter (Field.isNamed name)).map (·.value)

/-- The trimmed value of the first field of a name. -/
def value? (headers : Headers) (name : Text) : Option Text :=
  (headers.find? (Field.isNamed name)).map (·.value.trim)

/-- Whether a name occurs. -/
def has (headers : Headers) (name : Text) : Bool := (headers.value? name).isSome

end Headers

/-- A name or value as callers hand it over: text, a number, or nothing. -/
inductive Loose
  | missing
  | number (n : Int)
  | text (s : Text)
  deriving DecidableEq, Repr

namespace Loose

/-- The text of a name or value. -/
def text? : Loose → Option Text
  | missing => none
  | number n => some (Text.ofInt n)
  | text s => some s

end Loose

/-- Headers as callers hand them over: pairs in order, or a mapping in which a key stands once. -/
inductive LooseHeaders
  | pairs (fields : List (Loose × Loose))
  | mapping (fields : List (Loose × Loose))

namespace LooseHeaders

def fields : LooseHeaders → List (Loose × Loose)
  | pairs fields => fields
  | mapping fields => fields.foldl (fun seen (key, value) => OrderedMap.insert seen key value) []

/-- The header field of a pair, unless its name is missing or blank. -/
def field? (pair : Loose × Loose) : Option Field :=
  match pair.1.text? with
  | none => none
  | some name =>
    if name.trim.isEmpty then none else some ⟨name.trim, pair.2.text?.getD []⟩

/-- The header fields of what a caller hands over. -/
def normalize (headers : LooseHeaders) : Headers := headers.fields.filterMap field?

end LooseHeaders

end HttpFetch
