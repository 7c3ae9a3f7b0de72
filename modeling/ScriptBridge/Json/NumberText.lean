import ScriptBridge.Json.Basic

/-!
# Numbers in data text

Reading a number has two halves. `NumberText.scan?` is the grammar: an optional minus, digits
without a leading zero, an optional fraction and an optional exponent. `NumberText.value?` is the
meaning: digits fill an unsigned 64-bit word and those beyond it only move the decimal point; a
whole number that fits a word is that integer; any other is the word, as a double, times or divided
by a power of ten in double arithmetic. A number too large for a double has no value.
-/

namespace ScriptBridge.Json

/-- A number by its parts. -/
structure NumberText where
  negative : Bool
  /-- The digits before the point, at least one. -/
  whole : List Nat
  /-- The digits after the point, at least one. -/
  fraction : Option (List Nat)
  /-- Whether the exponent is negative, and its digits. -/
  exponent : Option (Bool × List Nat)

namespace NumberText

/-- The value of a decimal digit. -/
def digit? (c : Char) : Option Nat :=
  if '0' ≤ c ∧ c ≤ '9' then some (c.toNat - '0'.toNat) else none

/-- Leading digits and what follows them. -/
def digits : List Char → List Nat × List Char
  | [] => ([], [])
  | c :: rest =>
    match digit? c with
    | none => ([], c :: rest)
    | some d =>
      let (more, rest) := digits rest
      (d :: more, rest)

/-- Digits, of which there must be one. -/
def someDigits? (text : List Char) : Option (List Nat × List Char) :=
  match digits text with
  | ([], _) => none
  | read => some read

/-- The digits before the point: a zero stands alone. -/
def scanWhole? (text : List Char) : Option (List Nat × List Char) :=
  match someDigits? text with
  | some (0 :: _ :: _, _) => none
  | read => read

/-- The point and the digits after it, if there is a point. -/
def scanFraction? : List Char → Option (Option (List Nat) × List Char)
  | '.' :: rest => (someDigits? rest).map fun (ds, rest) => (some ds, rest)
  | rest => some (none, rest)

/-- The exponent, if there is one. -/
def scanExponent? : List Char → Option (Option (Bool × List Nat) × List Char)
  | c :: rest =>
    if c = 'e' ∨ c = 'E' then
      let (negative, rest) := match rest with
        | '-' :: rest => (true, rest)
        | '+' :: rest => (false, rest)
        | rest => (false, rest)
      (someDigits? rest).map fun (ds, rest) => (some (negative, ds), rest)
    else some (none, c :: rest)
  | [] => some (none, [])

/-- Reads a number and gives what follows it. -/
def scan? (text : List Char) : Option (NumberText × List Char) := do
  let (negative, text) := match text with
    | '-' :: rest => (true, rest)
    | text => (false, text)
  let (whole, text) ← scanWhole? text
  let (fraction, text) ← scanFraction? text
  let (exponent, text) ← scanExponent? text
  return ({ negative, whole, fraction, exponent }, text)

/-! ## Meaning -/

/-- The greatest unsigned 64-bit word. -/
def greatestUnsigned : Nat := 0xFFFFFFFFFFFFFFFF

/-- Appends digits to a word as long as they fit; gives the word and how many digits were used. -/
def fill (word : Nat) : List Nat → Nat × Nat
  | [] => (word, 0)
  | d :: ds =>
    if word * 10 + d ≤ greatestUnsigned then
      let (filled, used) := fill (word * 10 + d) ds
      (filled, used + 1)
    else (word, 0)

/-- The number that digits write. -/
def ofDigits (ds : List Nat) : Nat := ds.foldl (fun n d => n * 10 + d) 0

/-- A power of ten as a double. -/
def tenTo (n : Nat) : Float := Float.ofScientific 1 false n

/-- The greatest power of ten used as one factor. -/
def greatestPower : Nat := 308

/-- Divides by the greatest power of ten a number of times, stopping at zero. -/
def shrink : Nat → Float → Float
  | 0, f => f
  | n + 1, f => if f == 0 then f else shrink n (f / tenTo greatestPower)

/-- A word times a power of ten in double arithmetic, unless it is too large. -/
def scale? (word : Nat) (power : Int) : Option Float :=
  let f := word.toUInt64.toFloat
  let n := power.natAbs
  if power ≥ 0 then
    if n ≤ greatestPower then
      let scaled := f * tenTo n
      if scaled.isInf then none else some scaled
    else if f == 0 then some f
    else none
  else
    let blocks := (n - 1) / greatestPower
    some (shrink blocks f / tenTo (n - blocks * greatestPower))

/-- Exponents beyond this overflow. -/
def greatestExponent : Nat := 0x7FFFFFFF

/-- The double that a number with a fraction, an exponent or surplus digits denotes. -/
def float? (number : NumberText) : Option Float := do
  let (word, used) := fill 0 number.whole
  let surplus : Int := ((number.whole.length - used : Nat) : Int)
  let (word, places) := match number.fraction with
    | none => (word, 0)
    | some ds => fill word ds
  let power : Int := surplus - (places : Int)
  let magnitude ← match number.exponent with
    | none => scale? word power
    | some (negative, ds) =>
      let n := ofDigits ds
      if greatestExponent < n then
        if word ≠ 0 ∧ ¬ negative then none else some 0
      else scale? word (if negative then power - (n : Int) else power + (n : Int))
  return if number.negative then -magnitude else magnitude

/-- The value of a number. A negative zero and a negative number below the least word are
doubles. -/
def value? (number : NumberText) : Option Json :=
  let n := ofDigits number.whole
  if number.fraction.isNone ∧ number.exponent.isNone ∧ n ≤ greatestUnsigned then
    if ¬ number.negative then some (.int (n : Int))
    else if 0 < n ∧ leastWord ≤ -n then some (.int (-(n : Int)))
    else some (.float (-n.toUInt64.toFloat))
  else number.float?.map .float

end NumberText

end ScriptBridge.Json
