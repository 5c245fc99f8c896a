import HttpFetch.Chunked
import HttpFetch.Header

/-!
# Response heads

A head is a status line and header lines up to a blank one. A line that starts with a blank
continues the field before it; a line that is no field is passed over. All text is Latin-1.
-/

namespace HttpFetch

structure ResponseHead where
  status : Int
  reason : Text
  version : Text
  headers : Headers
  deriving DecidableEq, Repr

/-- The parts of a status line, the status not yet read as a number. -/
structure StatusLine where
  version : Text
  code : Text
  reason : Text
  deriving DecidableEq, Repr

namespace StatusLine

/-- The characters below U+0100 that count as digits, superscripts among them. -/
def isDigit (c : Char) : Bool :=
  ('0' ≤ c && c ≤ '9') || c.toNat = 0xb2 || c.toNat = 0xb3 || c.toNat = 0xb9

/-- Whether a text has digits and nothing else. -/
def areDigits (s : Text) : Bool := !s.isEmpty && s.all isDigit

/-- The status line that a line is: a version, a code of three digits, and a reason. -/
def ofLine? (line : Text) : Option StatusLine :=
  match Text.cut ' ' line with
  | (_, none) => none
  | (version, some rest) =>
    let (code, reason) := Text.cut ' ' rest
    if "HTTP/".toList.isPrefixOf version && code.length = 3 && areDigits code then
      some ⟨version, code, reason.getD []⟩
    else none

end StatusLine

namespace ResponseHead

/-- How many lines may follow the status line, the blank one included. -/
def maxLines : Nat := 256

/-- A line as text without its end. -/
def lineText (line : Bytes) : Text :=
  Text.trimRight (fun c => c = '\r' || c = '\n') (Latin.decode line)

/-- Whether a line continues the field before it. -/
def isContinuation (line : Text) : Bool := line.head? = some ' ' || line.head? = some '\t'

/-- The fields with one more line, both in reverse. -/
def addLine (reversed : Headers) (line : Text) : Headers :=
  match reversed with
  | field :: before =>
    if isContinuation line then
      { field with value := field.value ++ ' ' :: line.trim } :: before
    else (Field.ofLine? line).toList ++ reversed
  | [] => (Field.ofLine? line).toList

/-- The fields up to the blank line, which has to be among the next `lines` lines. -/
def readFields : Nat → Headers → Step Reader Headers
  | 0, _ => throw (.head .tooManyLines)
  | lines + 1, reversed => do
    let line := lineText (← Reader.readLine Chunked.lineLimit)
    if line.isEmpty then pure reversed.reverse else readFields lines (addLine reversed line)

/-- The head that a reader has next. -/
def read : Step Reader ResponseHead := do
  let octets ← Reader.readLine Chunked.lineLimit
  if octets.isEmpty then throw (.head .empty)
  let line := lineText octets
  match StatusLine.ofLine? line with
  | none => throw (.head (.statusLine line))
  | some ⟨version, code, reason⟩ =>
    let headers ← readFields maxLines []
    match Integer.parse code with
    | .ok status => pure ⟨status, reason, version, headers⟩
    | .error defect => throw (.value (.integer code defect))

/-- Whether a response leads elsewhere. -/
def isRedirect (head : ResponseHead) : Bool :=
  300 ≤ head.status && head.status ≤ 399 && head.headers.has "location".toList

end ResponseHead

/-- How the end of a body is told. -/
inductive Framing
  | none
  | chunked
  | length (octets : Nat)
  | badLength (written : Text) (defect : Integer.Defect)
  | untilEnd
  deriving DecidableEq, Repr

namespace Framing

/-- Whether a response to a method has a body. -/
def hasBody (status : Int) (method : Text) : Bool :=
  method.upper != "HEAD".toList
    && !((100 ≤ status && status < 200) || status = 204 || status = 304)

/-- The framing that a head declares for a response to a method. -/
def ofHead (head : ResponseHead) (method : Text) : Framing :=
  if !hasBody head.status method then none
  else if Text.occursIn "chunked".toList
      ((head.headers.value? "transfer-encoding".toList).getD []).lower then chunked
  else
    match head.headers.value? "content-length".toList with
    | .none => untilEnd
    | some written =>
      if StatusLine.areDigits written then
        match Integer.parse written with
        | .ok n => length n.toNat
        | .error defect => badLength written defect
      else untilEnd

end Framing

end HttpFetch
