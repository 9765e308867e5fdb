/-
# Instant -- moments of time and their texts

A moment counts seconds and nanoseconds since the beginning of 1970, by the
proleptic Gregorian calendar in universal time.  `Instant.secondsText` is its date and
time to the second, `Instant.text` with the fraction in as many groups of three digits
as it needs.
-/

namespace Cqrs

set_option autoImplicit false

structure Instant where
  seconds : Int
  nanos : Nat
  nanos_lt : nanos < 1000000000
deriving DecidableEq

structure CivilDate where
  year : Int
  month : Nat
  day : Nat
deriving DecidableEq, Repr

namespace CivilDate

/-- The day a number of days after the first of January 1970.  Years are counted from
March, in eras of 400 years or 146097 days. -/
def ofDays (days : Int) : CivilDate :=
  let shifted := days + 719468
  let era := shifted.fdiv 146097
  let dayOfEra := (shifted.fmod 146097).toNat
  let yearOfEra :=
    (dayOfEra + dayOfEra / 36524 - dayOfEra / 1460 - dayOfEra / 146096) / 365
  let dayOfYear := dayOfEra + yearOfEra / 100 - (365 * yearOfEra + yearOfEra / 4)
  let monthFromMarch := (5 * dayOfYear + 2) / 153
  let day := dayOfYear + 1 - (153 * monthFromMarch + 2) / 5
  let month := if monthFromMarch < 10 then monthFromMarch + 3 else monthFromMarch - 9
  let year : Int := era * 400 + yearOfEra
  ⟨if month ≤ 2 then year + 1 else year, month, day⟩

end CivilDate

/-- The decimal digits of a number, with zeros in front up to a width. -/
def paddedDigits (width n : Nat) : List Char :=
  let digits := Nat.toDigits 10 n
  List.replicate (width - digits.length) '0' ++ digits

/-- A year in at least four digits, with a sign when it lies outside 0 to 9999. -/
def yearText (year : Int) : List Char :=
  if 0 ≤ year ∧ year ≤ 9999 then paddedDigits 4 year.toNat
  else (if year < 0 then '-' else '+') :: paddedDigits 4 year.natAbs

namespace Instant

/-- The beginning of 1970. -/
def epoch : Instant := ⟨0, 0, by decide⟩

def isAfter (a b : Instant) : Bool :=
  b.seconds < a.seconds || (b.seconds == a.seconds && b.nanos < a.nanos)

def localText (instant : Instant) : List Char :=
  let date := CivilDate.ofDays (instant.seconds.fdiv 86400)
  let second := (instant.seconds.fmod 86400).toNat
  yearText date.year ++ '-' :: paddedDigits 2 date.month ++ '-' :: paddedDigits 2 date.day ++
    'T' :: paddedDigits 2 (second / 3600) ++ ':' :: paddedDigits 2 (second / 60 % 60) ++
    ':' :: paddedDigits 2 (second % 60)

/-- The fraction of the second: nothing, or a point and three, six or nine digits. -/
def fractionText (instant : Instant) : List Char :=
  if instant.nanos = 0 then []
  else if instant.nanos % 1000000 = 0 then '.' :: paddedDigits 3 (instant.nanos / 1000000)
  else if instant.nanos % 1000 = 0 then '.' :: paddedDigits 6 (instant.nanos / 1000)
  else '.' :: paddedDigits 9 instant.nanos

/-- Date and time to the second, with the offset from universal time. -/
def secondsText (instant : Instant) : String :=
  String.ofList (instant.localText ++ ['+', '0', '0', ':', '0', '0'])

/-- Date and time with the whole fraction, in universal time. -/
def text (instant : Instant) : String :=
  String.ofList (instant.localText ++ instant.fractionText ++ ['Z'])

end Instant

end Cqrs
