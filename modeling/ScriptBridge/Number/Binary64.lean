/-!
# Binary64 numbers taken apart

A finite double is a sign, a natural significand and a power of two; `Binary64.ofFloat` reads them
off the bits. Everything that has to be exact about doubles (whether one is whole, which integer it
is, which decimals denote it) is then a matter of natural numbers.
-/

namespace ScriptBridge

/-- A double by what it denotes. A finite one is `± significand * 2 ^ exponent`. -/
inductive Binary64 where
  | nan
  | infinite (negative : Bool)
  | finite (negative : Bool) (significand : Nat) (exponent : Int)
  deriving DecidableEq, Repr

namespace Binary64

/-- A power of two. -/
abbrev twoTo (power : Nat) : Nat := Nat.pow 2 power

/-- The parts held by 64 bits. -/
def ofBits (bits : UInt64) : Binary64 :=
  let n := bits.toNat
  let negative := n / twoTo 63 == 1
  let biased : Nat := n / twoTo 52 % twoTo 11
  let fraction : Nat := n % twoTo 52
  if biased = 2047 then
    if fraction = 0 then .infinite negative else .nan
  else if biased = 0 then .finite negative fraction (-1074)
  else .finite negative (twoTo 52 + fraction) ((biased : Int) - 1075)

/-- The parts of a double. -/
def ofFloat (f : Float) : Binary64 := ofBits f.toBits

/-- The integer a double is, if it is one. -/
def whole? : Binary64 → Option Int
  | .nan => none
  | .infinite _ => none
  | .finite negative significand exponent =>
    let magnitude? : Option Nat :=
      if 0 ≤ exponent then some (significand * twoTo exponent.toNat)
      else if significand % twoTo (-exponent).toNat = 0 then
        some (significand / twoTo (-exponent).toNat)
      else none
    magnitude?.map fun magnitude => if negative then -(magnitude : Int) else magnitude

/-- A fraction of naturals equal to the magnitude of a finite double. -/
def magnitude (significand : Nat) (exponent : Int) : Nat × Nat :=
  if 0 ≤ exponent then (significand * twoTo exponent.toNat, 1)
  else (significand, twoTo (-exponent).toNat)

end Binary64

/-! ## Words -/

/-- The least signed 64-bit integer. -/
def leastWord : Int := -0x8000000000000000

/-- The greatest signed 64-bit integer. -/
def greatestWord : Int := 0x7FFFFFFFFFFFFFFF

/-- Whether an integer fits a signed 64-bit word. -/
def fitsWord (n : Int) : Bool := leastWord ≤ n && n ≤ greatestWord

theorem fitsWord_iff_between {n : Int} : fitsWord n = true ↔ leastWord ≤ n ∧ n ≤ greatestWord := by
  rw [fitsWord, Bool.and_eq_true, decide_eq_true_iff, decide_eq_true_iff]

/-- The signed word nearest to an integer. -/
def nearestWord (n : Int) : Int64 := Int64.ofInt (max leastWord (min greatestWord n))

end ScriptBridge
