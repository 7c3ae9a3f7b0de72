/-!
# Instants and their written form

An instant is a count of seconds since the start of 1970 in universal time and a count of
nanoseconds within the second. A leap second is written as the sixty-first second of its minute and
is held as a second with a billion nanoseconds or more.
-/

namespace ScriptBridge

/-- A point in universal time. -/
structure Instant where
  /-- Whole seconds since the start of 1970. -/
  seconds : Int
  /-- Nanoseconds within the second; from a billion on, they lie in the leap second after it. -/
  nanos : Nat
  deriving DecidableEq, Repr, Inhabited

/-- A day of the proleptic Gregorian calendar. -/
structure CivilDay where
  year : Int
  month : Nat
  day : Nat
  deriving DecidableEq, Repr

/-- The day that many days after the first of January 1970. Years are counted from March, so that
the leap day ends a year, and in eras of four centuries. -/
def CivilDay.ofDays (days : Int) : CivilDay :=
  let shifted := days + 719468
  let era := Int.fdiv shifted 146097
  let dayOfEra := (shifted - era * 146097).toNat
  let yearOfEra := (dayOfEra - dayOfEra / 1460 + dayOfEra / 36524 - dayOfEra / 146096) / 365
  let dayOfYear := dayOfEra - (365 * yearOfEra + yearOfEra / 4 - yearOfEra / 100)
  let monthFromMarch := (5 * dayOfYear + 2) / 153
  let day := dayOfYear - (153 * monthFromMarch + 2) / 5 + 1
  let month := if monthFromMarch < 10 then monthFromMarch + 3 else monthFromMarch - 9
  let year := (yearOfEra : Int) + era * 400
  ⟨if month ≤ 2 then year + 1 else year, month, day⟩

namespace Instant

/-- The start of 1970. -/
def epoch : Instant := ⟨0, 0⟩

/-- A number with leading zeros up to a width. -/
def padded (width n : Nat) : String :=
  let digits := Nat.toDigits 10 n
  String.ofList (List.replicate (width - digits.length) '0' ++ digits)

/-- A year: four digits, and a sign where that many do not hold it. -/
def printYear (year : Int) : String :=
  if 0 ≤ year ∧ year ≤ 9999 then padded 4 year.toNat
  else (if year < 0 then "-" else "+") ++ padded 4 year.natAbs

/-- How many nanoseconds a second has. -/
def nanosPerSecond : Nat := 1000000000

/-- Nanoseconds within the written second. -/
def subsecond (t : Instant) : Nat :=
  if nanosPerSecond ≤ t.nanos then t.nanos - nanosPerSecond else t.nanos

/-- The date and the time of day, to the second. -/
def printSeconds (t : Instant) : String :=
  let day := CivilDay.ofDays (Int.fdiv t.seconds 86400)
  let second := (Int.fmod t.seconds 86400).toNat
  let leap := if nanosPerSecond ≤ t.nanos then 1 else 0
  printYear day.year ++ "-" ++ padded 2 day.month ++ "-" ++ padded 2 day.day ++ "T" ++
    padded 2 (second / 3600) ++ ":" ++ padded 2 (second / 60 % 60) ++ ":" ++
    padded 2 (second % 60 + leap)

/-- The instant with milliseconds, the rest of the second cut off. -/
def printMillis (t : Instant) : String :=
  t.printSeconds ++ "." ++ padded 3 (t.subsecond / 1000000) ++ "Z"

/-- The instant with as many thousands of a second's fraction as it needs. -/
def printShown (t : Instant) : String :=
  let n := t.subsecond
  let fraction :=
    if n = 0 then ""
    else if n % 1000000 = 0 then "." ++ padded 3 (n / 1000000)
    else if n % 1000 = 0 then "." ++ padded 6 (n / 1000)
    else "." ++ padded 9 n
  t.printSeconds ++ fraction ++ "Z"

end Instant

end ScriptBridge
