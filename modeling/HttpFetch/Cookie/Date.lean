import HttpFetch.Calendar
import HttpFetch.Failure

/-!
# Dates of cookies

When a cookie expires is written as a date. The form that standards ask for is read first; it is
refused as a failure when its month has no such name. Otherwise the loose form is tried: an
optional weekday, then day, month and year, and optionally a clock, a zone and a comment. A year
below 1000 is the one nearest to the current year with the same last digits; a date before 1970
or with a field out of range is no date.
-/

namespace HttpFetch.CookieDate

def isSpace (c : Char) : Bool := (9 ≤ c.toNat && c.toNat ≤ 13) || c = ' '

def isDigit (c : Char) : Bool := '0' ≤ c && c ≤ '9'

/-- Letters, digits and the underscore. -/
def isWord (c : Char) : Bool := c.isAlphanum || c = '_'

def number (digits : Text) : Nat := Digit.value 10 (digits.filterMap Digit.decimal?)

/-- The months by their names in lower case. -/
def monthNames : List String :=
  ["jan", "feb", "mar", "apr", "may", "jun", "jul", "aug", "sep", "oct", "nov", "dec"]

/-- The number of a month by its name in lower case. -/
def monthOfName? (name : Text) : Option Nat :=
  (monthNames.findIdx? (·.toList == name)).map (· + 1)

/-- The moment with the given fields, if they are in range and the year is not before 1970. -/
def moment (year : Int) (month day hour minute second : Nat) : Except Failure (Option Int) :=
  if 1970 ≤ year ∧ 1 ≤ month ∧ month ≤ 12 ∧ 1 ≤ day ∧ day ≤ 31 ∧ hour ≤ 24 ∧ minute ≤ 59
      ∧ second ≤ 61 then
    if 9999 < year then .error (.value (.year year))
    else .ok (some (Calendar.seconds year month day hour minute second))
  else .ok none

/-! ## The strict form -/

/-- Exactly `count` digits, and the rest. -/
def digits? (count : Nat) (s : Text) : Option (Nat × Text) :=
  let digits := s.take count
  if digits.length = count && digits.all isDigit then some (number digits, s.drop count) else none

/-- The rest of a text after a given one. -/
def after? (start : String) (s : Text) : Option Text :=
  if start.toList.isPrefixOf s then some (s.drop start.toList.length) else none

/-- A capital letter of a set with two small letters, and the rest. -/
def name? (capitals : String) (s : Text) : Option (Text × Text) :=
  match s with
  | a :: b :: c :: rest =>
    if capitals.toList.elem a && b.isLower && c.isLower then some ([a, b, c], rest) else none
  | _ => none

/-- The fields of a date in the strict form. -/
structure Strict where
  day : Nat
  month : Text
  year : Nat
  hour : Nat
  minute : Nat
  second : Nat

/-- Reads `Sun, 06 Nov 1994 08:49:37 GMT`; a line feed may follow. -/
def Strict.ofText? (s : Text) : Option Strict := do
  let (_, s) ← name? "SMTWF" s
  let (day, s) ← digits? 2 (← after? ", " s)
  let (month, s) ← name? "JFMASOND" (← after? " " s)
  let (year, s) ← digits? 4 (← after? " " s)
  let (hour, s) ← digits? 2 (← after? " " s)
  let (minute, s) ← digits? 2 (← after? ":" s)
  let (second, s) ← digits? 2 (← after? ":" s)
  let s ← after? " GMT" s
  if s = [] ∨ s = ['\n'] then some ⟨day, month, year, hour, minute, second⟩ else none

def Strict.time (date : Strict) : Except Failure (Option Int) :=
  let name := date.month.map Char.toLower
  match monthOfName? name with
  | none => .error (.value (.month name))
  | some month => moment date.year month date.day date.hour date.minute date.second

/-! ## The loose form -/

/-- The time of day, the seconds of which may be missing. -/
structure Clock where
  hour : Nat
  minute : Nat
  second : Nat

/-- The fields of a date in the loose form. -/
structure Loose where
  day : Nat
  month : Text
  year : Text
  clock : Clock
  zone : Option Text

namespace Loose

def weekdays : List String := ["sun", "mon", "tue", "wed", "thu", "fri", "sat"]

/-- A text without a weekday at its start. -/
def dropWeekday (s : Text) : Text :=
  if weekdays.any (·.toList == (s.take 3).map Char.toLower) then
    let s := (s.drop 3).dropWhile Char.isAlpha
    let s := if s.head? = some ',' then s.tail else s
    s.dropWhile isSpace
  else s

/-- A run of characters that is not empty, and the rest. -/
def run? (inRun : Char → Bool) (s : Text) : Option (Text × Text) :=
  let run := s.takeWhile inRun
  if run.isEmpty then none else some (run, s.dropWhile inRun)

/-- A run of digits of a length between two bounds, and the rest. -/
def digitRun? (least most : Nat) (s : Text) : Option (Text × Text) := do
  let (run, rest) ← run? isDigit s
  if least ≤ run.length ∧ run.length ≤ most then some (run, rest) else none

/-- The rest of a text after spaces or one of the given signs. -/
def separated? (signs : String) (s : Text) : Option Text :=
  match s with
  | [] => none
  | c :: rest =>
    if isSpace c then some (rest.dropWhile isSpace)
    else if signs.toList.elem c then some rest
    else none

/-- Seconds after a colon, and the rest. -/
def seconds? (s : Text) : Option (Nat × Text) := do digits? 2 (← after? ":" s)

/-- A time of day after a separator, and the rest. -/
def clock? (s : Text) : Option (Clock × Text) := do
  let (hour, s) ← digitRun? 1 2 (← separated? ":" s)
  let (minute, s) ← digits? 2 (← after? ":" s)
  let (second, s) := (seconds? s).getD (0, s)
  some (⟨number hour, minute, second⟩, s)

/-- Whether a text starts with a mark of the half of the day. -/
def isHalfDay (s : Text) : Bool :=
  match s with
  | a :: m :: rest =>
    "APap".toList.elem a && "Mm".toList.elem m && !rest.head?.any isWord
  | _ => false

/-- A zone, as an offset or a name, and the rest. -/
def zone? (s : Text) : Option (Text × Text) :=
  match s with
  | [] => none
  | c :: rest =>
    if c = '+' ∨ c = '-' then (digitRun? 2 4 rest).map fun (run, rest) => (c :: run, rest)
    else if isDigit c then digitRun? 2 4 s
    else if isHalfDay s then none
    else run? Char.isAlpha s

/-- The rest of a text after a word in parentheses. -/
def comment? (s : Text) : Option Text := do
  let (_, s) ← run? isWord (← after? "(" s)
  after? ")" s

def ofText? (s : Text) : Option Loose := do
  let (day, s) ← digitRun? 1 2 s
  let (month, s) ← run? isWord (← separated? "-/" s)
  let (year, s) ← run? isDigit (← separated? "-/" s)
  let (clock, s) := (clock? s).getD (⟨0, 0, 0⟩, s)
  let s := s.dropWhile isSpace
  let (zone, s) := match zone? s with
    | some (zone, s) => (some zone, s.dropWhile isSpace)
    | none => (none, s)
  let s := ((comment? s).map (·.dropWhile isSpace)).getD s
  if s.isEmpty then some ⟨number day, month, year, clock, zone⟩ else none

/-- The number of a month by its name in any case, or by its number. -/
def month? (month : Text) : Option Nat :=
  match monthOfName? (month.map Char.toLower) with
  | some number => some number
  | none =>
    match Integer.parse month with
    | .ok n => if 1 ≤ n ∧ n ≤ 12 then some n.toNat else none
    | .error _ => none

/-- The year of a moment that a clock shows, if it can be told. -/
def currentYear (now : Int) : Except Failure Int :=
  if now < -Calendar.clockRange ∨ Calendar.clockRange ≤ now then .error .clockRange
  else
    let year := Calendar.yearAt now
    if year < Calendar.firstYear ∨ Calendar.lastYear < year then .error .clockYear
    else .ok year

/-- The year meant by a year of at most three digits: the one within fifty years of the current
one that ends like it. -/
def fullYear (now : Int) (year : Int) : Except Failure Int :=
  if year < 1000 then
    (currentYear now).map fun current =>
      let ending := current % 100
      let near := year + current - ending
      let apart := ending - year
      if apart.natAbs > 50 then if apart > 0 then near + 100 else near - 100 else near
  else .ok year

/-- The seconds that a zone is ahead; some names have none. -/
def offset? (zone : Text) : Option Int :=
  let zone := zone.map Char.toUpper
  if ["GMT", "UTC", "UT", "Z"].any (·.toList == zone) then some 0
  else
    let (negative, digits) := Integer.sign zone
    if digits.all isDigit then
      let hours := if digits.length % 2 = 0 then 2 else 1
      let ahead := 3600 * number (digits.take hours) + 60 * number (digits.drop hours)
      some (Integer.withSign negative ahead)
    else none

def time (now : Int) (date : Loose) : Except Failure (Option Int) :=
  match Integer.parse date.year with
  | .error defect => .error (.value (.integer date.year defect))
  | .ok year =>
    if 9999 < year then .ok none
    else
      match month? date.month with
      | none => .ok none
      | some month => do
        let clock := date.clock
        let year ← fullYear now year
        match ← moment year month date.day clock.hour clock.minute clock.second with
        | none => pure none
        | some t => pure ((offset? (date.zone.getD "UTC".toList)).map (t - ·))

end Loose

/-- The moment that a date denotes, if it denotes one, in seconds from the epoch. -/
def parse (now : Int) (s : Text) : Except Failure (Option Int) :=
  match Strict.ofText? s with
  | some date => date.time
  | none =>
    match Loose.ofText? (Loose.dropWeekday (s.dropWhile Text.isBlank)) with
    | some date => date.time now
    | none => .ok none

end HttpFetch.CookieDate
