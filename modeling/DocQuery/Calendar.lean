/-!
# Calendar dates

The date and time of day of an instant counted in milliseconds from the start of 1970, in the
Gregorian calendar continued to all years, and its text.
-/

namespace DocQuery.Calendar

/-- A day of the calendar. -/
structure Day where
  year : Int
  month : Nat
  day : Nat
  deriving DecidableEq

/-- The day that many days after the first of January 1970. Years are counted from March, so that
the leap day ends a year, in eras of four hundred years. -/
def dayOf (days : Int) : Day :=
  let shifted := days + 719468
  let era := shifted / 146097
  let dayOfEra := (shifted % 146097).toNat
  let yearOfEra := (dayOfEra - dayOfEra / 1460 + dayOfEra / 36524 - dayOfEra / 146096) / 365
  let dayOfYear := dayOfEra - (365 * yearOfEra + yearOfEra / 4 - yearOfEra / 100)
  let monthFromMarch := (5 * dayOfYear + 2) / 153
  let day := dayOfYear - (153 * monthFromMarch + 2) / 5 + 1
  let month := if monthFromMarch < 10 then monthFromMarch + 3 else monthFromMarch - 9
  let year := era * 400 + yearOfEra
  { year := if month ≤ 2 then year + 1 else year, month, day }

/-- A number with zeros in front up to a width. -/
def padded (width n : Nat) : List Char :=
  let digits := Nat.toDigits 10 n
  List.replicate (width - digits.length) '0' ++ digits

/-- The text of a year: four digits at least, a minus sign for a year before year zero, and a plus
sign for a year that needs more than four digits. -/
def yearText (year : Int) : List Char :=
  let sign := if year < 0 then ['-'] else if 9999 < year then ['+'] else []
  sign ++ padded 4 year.natAbs

/-- The text of a day: year, month and day of the month. -/
def Day.text (d : Day) : List Char :=
  yearText d.year ++ '-' :: padded 2 d.month ++ '-' :: padded 2 d.day

/-- The digits of a fraction of a second: no zeros at the end, but one digit at least. -/
def fraction (millis : Nat) : List Char :=
  let digits := ((padded 3 millis).reverse.dropWhile (· == '0')).reverse
  if digits.isEmpty then ['0'] else digits

/-- The text of a time of day, given in milliseconds after midnight. The hour has no zero in
front. -/
def clockText (millis : Nat) : List Char :=
  Nat.toDigits 10 (millis / 3600000) ++ ':' :: padded 2 (millis / 60000 % 60)
    ++ ':' :: padded 2 (millis / 1000 % 60) ++ '.' :: fraction (millis % 1000)

/-- The last year that has a text; the first one is as far before year zero. -/
def lastYear : Nat := 999999

/-- The text of an instant: its day, its time of day, and the offset from universal time, which is
none. An instant in a year out of range has no text. -/
def instantText? (millis : Int) : Option String :=
  let day := dayOf (millis / 86400000)
  if lastYear < day.year.natAbs then none
  else
    some <| String.ofList <|
      day.text ++ ' ' :: clockText (millis % 86400000).toNat ++ " +00:00:00".toList

end DocQuery.Calendar
