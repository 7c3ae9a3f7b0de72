import ScriptBridge.Number.Binary64

/-!
# Shortest decimals

The shortest decimal that reads back as a given double: on the coarsest decimal grid with a point
in the interval of numbers that round to the double, the point nearest to it. Two rules are left to
the printers: how a number half way between two grid points is settled, and whether the nearest
point of a grid is the only one that counts.

Everything is computed on fractions of natural numbers. The double is `num / den`; the interval
that rounds to it reaches half the distance to each neighbour, and contains its ends exactly when
the significand is even.
-/

namespace ScriptBridge

/-- A positive decimal: `digits * 10 ^ exponent`. -/
structure Decimal where
  /-- The digits, as one number. -/
  digits : Nat
  /-- The power of ten that the last digit counts. -/
  exponent : Int
  deriving DecidableEq, Repr

/-- How a number half way between two grid points is settled. -/
inductive Tie where
  | up
  | toEven
  deriving DecidableEq, Repr

/-- Which points of a grid may stand for a number. The two differ only where a neighbour of the
number on one side is nearer than that on the other, which is at the powers of two. -/
inductive GridChoice where
  /-- Only the point nearest to the number, and only if it reads back as the number. -/
  | nearest
  /-- The nearest of the points that read back as the number. -/
  | nearestWithin
  deriving DecidableEq, Repr

/-- A power of ten. -/
abbrev tenPower (power : Nat) : Nat := Nat.pow 10 power

namespace Decimal

/-- The power of ten that the first digit counts. -/
def magnitude (d : Decimal) : Int := d.exponent + ((Nat.toDigits 10 d.digits).length - 1 : Nat)

/-- Drops trailing zeros. The count bounds how many there can be. -/
def trim : Nat → Decimal → Decimal
  | 0, d => d
  | n + 1, d =>
    if d.digits ≠ 0 ∧ d.digits % 10 = 0 then trim n ⟨d.digits / 10, d.exponent + 1⟩ else d

end Decimal

namespace Shortest

/-- A double's value and the reach of the numbers that round to it, over one denominator:
`value / den`, from `(value - below) / den` to `(value + above) / den`. -/
structure Span where
  value : Nat
  below : Nat
  above : Nat
  den : Nat
  /-- Whether the ends round to the double too. -/
  closed : Bool

/-- The span of `significand * 2 ^ exponent`. Below the least significand of a binade the
neighbour is only half as far. -/
def span (significand : Nat) (exponent : Int) : Span :=
  let (num, den) := Binary64.magnitude significand exponent
  let unit := num / significand
  let narrow := significand = Binary64.twoTo 52 ∧ exponent ≠ -1074
  { value := 4 * num, below := if narrow then unit else 2 * unit, above := 2 * unit,
    den := 4 * den, closed := significand % 2 == 0 }

/-- Whether `point / scale` lies in the span. -/
def Span.holds (s : Span) (point scale : Nat) : Bool :=
  let low := (s.value - s.below) * scale
  let high := (s.value + s.above) * scale
  let at_ := point * s.den
  if s.closed then low ≤ at_ && at_ ≤ high else low < at_ && at_ < high

/-- Whether a power of ten is at most a fraction. -/
def powerLe (power : Int) (num den : Nat) : Bool :=
  if 0 ≤ power then den * tenPower power.toNat ≤ num else den ≤ num * tenPower (-power).toNat

/-- The greatest power of ten at most `num / den`. The binary logarithms give it up to one. -/
def leadingPower (num den : Nat) : Int :=
  let guess := ((Nat.log2 num : Int) - (Nat.log2 den : Int)) * 30103 / 100000
  if powerLe (guess + 1) num den then guess + 1
  else if powerLe guess num den then guess
  else guess - 1

/-- The grid point with `count` digits that stands for the span's value, if there is one. The nearer
of the two neighbours of the value comes first; the other one only where it may. -/
def onGrid? (s : Span) (tie : Tie) (choice : GridChoice) (lead : Int) (count : Nat) :
    Option Decimal :=
  let exponent := lead - count + 1
  -- the value in units of the grid is `num / den`, and a grid point `d` is `d * up / down`
  let up := if 0 ≤ exponent then tenPower exponent.toNat else 1
  let down := if 0 ≤ exponent then 1 else tenPower (-exponent).toNat
  let num := s.value * down
  let den := s.den * up
  let low := num / den
  let rest := num % den
  let lowIsNearer := 2 * rest < den || (2 * rest == den && tie == .toEven && low % 2 == 0)
  let nearer := if lowIsNearer then low else low + 1
  let other := if lowIsNearer then low + 1 else low
  if rest = 0 ∨ s.holds (nearer * up) down then some ⟨nearer, exponent⟩
  else
    match choice with
    | .nearest => none
    | .nearestWithin => if s.holds (other * up) down then some ⟨other, exponent⟩ else none

/-- Tries grids from coarse to fine. Seventeen digits always suffice. -/
def search (s : Span) (tie : Tie) (choice : GridChoice) (lead : Int) : Nat → Nat → Decimal
  | 0, count => ⟨s.value * tenPower (count - lead).toNat / s.den, lead - count⟩
  | left + 1, count =>
    match onGrid? s tie choice lead count with
    | some d => d
    | none => search s tie choice lead left (count + 1)

end Shortest

/-- The shortest decimal that denotes a positive double. -/
def Decimal.shortest (tie : Tie) (choice : GridChoice) (significand : Nat) (exponent : Int) :
    Decimal :=
  let s := Shortest.span significand exponent
  (Shortest.search s tie choice (Shortest.leadingPower s.value s.den) 17 1).trim 18

end ScriptBridge
