import Swarmkeeper.Text.Numeral

/-!
Moments of universal time, counted in milliseconds from the start of 1970, and their written form with
date, time and the letter Z. A fraction of three digits is written only if it is not zero.
-/

namespace Swarmkeeper.Service

open Swarmkeeper.Text

/-- A date of the Gregorian calendar. -/
structure Date where
  year : Int
  month : Nat
  day : Nat
deriving DecidableEq, Repr

/-- The date that lies this many days after 1 January 1970. Years are counted from March, so that the
day that leap years add is the last one of a year. -/
def Date.ofDays (days : Int) : Date :=
  let z := days + 719468
  let era := Int.fdiv z 146097
  let dayOfEra := (Int.fmod z 146097).toNat
  let yearOfEra := (dayOfEra - dayOfEra / 1460 + dayOfEra / 36524 - dayOfEra / 146096) / 365
  let dayOfYear := dayOfEra - (365 * yearOfEra + yearOfEra / 4 - yearOfEra / 100)
  let shifted := (5 * dayOfYear + 2) / 153
  let month := if shifted < 10 then shifted + 3 else shifted - 9
  let year : Int := yearOfEra + era * 400
  { year := if month ≤ 2 then year + 1 else year
    month := month
    day := dayOfYear - (153 * shifted + 2) / 5 + 1 }

/-- A number with at least two digits. -/
def twoDigits (n : Nat) : List Char := padZeros 2 (decimal n)

/-- A year with at least four digits; one outside these has a sign. -/
def yearText (year : Int) : List Char :=
  let digits := padZeros 4 (decimal year.natAbs)
  if year < 0 then '-' :: digits else if 9999 < year then '+' :: digits else digits

/-- A moment as text. -/
def timestampText (millis : Int) : String :=
  let seconds := Int.fdiv millis 1000
  let fraction := (Int.fmod millis 1000).toNat
  let date := Date.ofDays (Int.fdiv seconds 86400)
  let time := (Int.fmod seconds 86400).toNat
  String.ofList
    (yearText date.year ++ '-' :: twoDigits date.month ++ '-' :: twoDigits date.day ++
      'T' :: twoDigits (time / 3600) ++ ':' :: twoDigits (time / 60 % 60) ++
      ':' :: twoDigits (time % 60) ++
      (if fraction = 0 then [] else '.' :: padZeros 3 (decimal fraction)) ++ ['Z'])

end Swarmkeeper.Service
