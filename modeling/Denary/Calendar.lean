import Denary.Decimal.Rounding

-- Dates: seconds since the start of 1970 as a day and time of the Gregorian calendar, which is
-- carried on to all years, without leap seconds.

namespace Denary.Calendar

structure Date where
  year : Int
  month : Nat
  day : Nat
  deriving DecidableEq, Repr, Inhabited

-- The date of a day counted from the start of 1970. Years are counted from March, so that the leap
-- day is the last one of its year, and eras have 400 years or 146097 days.
def dateOfDay (days : Int) : Date :=
  let z := days + 719468
  let era := z.fdiv 146097
  let dayOfEra := (z - era * 146097).toNat
  let yearOfEra := (dayOfEra - dayOfEra / 1460 + dayOfEra / 36524 - dayOfEra / 146096) / 365
  let dayOfYear := dayOfEra - (365 * yearOfEra + yearOfEra / 4 - yearOfEra / 100)
  let shifted := (5 * dayOfYear + 2) / 153
  let day := dayOfYear - (153 * shifted + 2) / 5 + 1
  let month := if shifted < 10 then shifted + 3 else shifted - 9
  let year := (yearOfEra : Int) + era * 400
  ⟨if month ≤ 2 then year + 1 else year, month, day⟩

def yearText (y : Int) : Bytes :=
  let digits := if y.natAbs < 10000 then Decimal.padded 4 y.natAbs else Decimal.natural y.natAbs
  if y < 0 then 0x2D :: digits else digits

-- The first moment of the calendar, the start of 1 March in the year -292277022400, in seconds
-- since the start of 1970.
def firstMoment : Int := -9223372028741760000

-- Seconds as the calendar counts them: 64 bits from its first moment on, so that earlier moments
-- come out at the far end.
def counted (seconds : Int) : Int :=
  if seconds < firstMoment then seconds + 0x10000000000000000 else seconds

def stamp (seconds : Int) : Bytes :=
  let seconds := counted seconds
  let date := dateOfDay (seconds.fdiv 86400)
  let second := (seconds.fmod 86400).toNat
  let two := Decimal.padded 2
  yearText date.year ++ ascii "-" ++ two date.month ++ ascii "-" ++ two date.day ++ ascii " "
    ++ two (second / 3600) ++ ascii ":" ++ two (second / 60 % 60) ++ ascii ":" ++ two (second % 60)

end Denary.Calendar
