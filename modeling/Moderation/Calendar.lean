/-!
# Calendar

A moment, given in milliseconds since 1970, as a date and a time of day in the Gregorian calendar.
Days are counted in eras of four hundred years that begin on the first of March, so that a leap day
is the last day of its year.  Years are written with four digits at least, and with a sign outside
of 0 to 9999.
-/

namespace Moderation.Calendar

/-- A day. -/
structure Date where
  year : Int
  month : Nat
  day : Nat
  deriving DecidableEq, Repr

/-- The date of the day with a number, day zero being the first of January 1970. -/
def dateOfDay (n : Int) : Date :=
  let shifted := n + 719468
  let era := shifted.fdiv 146097
  let dayOfEra := (shifted.fmod 146097).toNat
  let yearOfEra := (dayOfEra - dayOfEra / 1460 + dayOfEra / 36524 - dayOfEra / 146096) / 365
  let dayOfYear := dayOfEra - (365 * yearOfEra + yearOfEra / 4 - yearOfEra / 100)
  let marchMonth := (5 * dayOfYear + 2) / 153
  let day := dayOfYear - (153 * marchMonth + 2) / 5 + 1
  let month := if marchMonth < 10 then marchMonth + 3 else marchMonth - 9
  { year := yearOfEra + era * 400 + (if month ≤ 2 then 1 else 0), month, day }

/-- A number with two digits. -/
def twoDigits (n : Nat) : String :=
  String.ofList [Nat.digitChar (n / 10 % 10), Nat.digitChar (n % 10)]

/-- A number with four digits at least. -/
def fourDigits (n : Nat) : String :=
  let ds := Nat.toDigits 10 n
  String.ofList (List.replicate (4 - ds.length) '0' ++ ds)

/-- A year. -/
def yearText (y : Int) : String :=
  if y < 0 then "-" ++ fourDigits y.natAbs
  else if 9999 < y then "+" ++ fourDigits y.natAbs
  else fourDigits y.natAbs

/-- The first and the last moment that have a date. -/
def range : Int × Int := (-8334601228800000, 8210266876799999)

/-- A moment as a date and a time of day, or as its number if it is too far away to have a date. -/
def momentText (milliseconds : Int64) : String :=
  let ms := milliseconds.toInt
  if range.1 ≤ ms && ms ≤ range.2 then
    let seconds := ms.fdiv 1000
    let date := dateOfDay (seconds.fdiv 86400)
    let time := (seconds.fmod 86400).toNat
    yearText date.year ++ "-" ++ twoDigits date.month ++ "-" ++ twoDigits date.day ++ " " ++
      twoDigits (time / 3600) ++ ":" ++ twoDigits (time / 60 % 60) ++ ":" ++
        twoDigits (time % 60) ++ " UTC"
  else toString ms

end Moderation.Calendar
