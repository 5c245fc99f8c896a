/-!
# Calendar

Days and years of the Gregorian calendar, counted from the first of January 1970.
-/

namespace HttpFetch.Calendar

/-- Days from the first of March of the year zero to the epoch. -/
def epochShift : Int := 719468

/-- The number of days from the epoch to the first day of a month. The year is taken to begin in
March, so that a leap day is the last day of a year. -/
def daysToMonth (year : Int) (month : Nat) : Int :=
  let year := if month ≤ 2 then year - 1 else year
  let place := (month + 9) % 12
  365 * year + year.fdiv 4 - year.fdiv 100 + year.fdiv 400 + ((153 * place + 2) / 5 : Nat)
    - epochShift

/-- Seconds from the epoch to a moment. Day, hour, minute and second may exceed their bounds and
then count on. -/
def seconds (year : Int) (month day hour minute second : Nat) : Int :=
  (((daysToMonth year month + day - 1) * 24 + hour) * 60 + minute) * 60 + second

/-- The year of a moment given in seconds from the epoch. -/
def yearAt (time : Int) : Int :=
  let day := time.fdiv 86400 + epochShift
  let era := day.fdiv 146097
  let ofEra := day - era * 146097
  let yearOfEra := (ofEra - ofEra / 1460 + ofEra / 36524 - ofEra / 146096) / 365
  let ofYear := ofEra - (365 * yearOfEra + yearOfEra / 4 - yearOfEra / 100)
  yearOfEra + era * 400 + (if 306 ≤ ofYear then 1 else 0)

/-- The seconds that a clock can count, in both directions. -/
def clockRange : Int := 9223372036854775808

/-- The first and the last year that can be told. -/
def firstYear : Int := -2147481748
def lastYear : Int := 2147485547

end HttpFetch.Calendar
