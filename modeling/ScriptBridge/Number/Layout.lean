import ScriptBridge.Number.Shortest

/-!
# How numbers are laid out

A decimal is printed positionally or with an exponent. What the printers of this library disagree
on (where positional notation ends, whether a whole number shows its fraction, how the exponent is
signed, the words for what is not finite) is one record each.
-/

namespace ScriptBridge

/-- The choices a printer of doubles makes. -/
structure NumberLayout where
  /-- Whether a number whose first digit counts this power of ten is printed positionally. -/
  positional : Int → Bool
  /-- What follows a whole number printed positionally. -/
  wholeTail : String
  /-- What stands before a non-negative exponent. -/
  exponentSign : String
  /-- How ties between shortest decimals are settled. -/
  tie : Tie
  /-- Which decimals of a length are taken into account. -/
  choice : GridChoice := .nearestWithin
  /-- The word for what is not a number. -/
  nan : String
  /-- The word for infinity. -/
  infinity : String
  /-- The word for negative infinity. -/
  negativeInfinity : String

namespace NumberLayout

/-- A double as a literal of the script language: always positional, whole numbers bare. -/
def literal : NumberLayout where
  positional _ := true
  wholeTail := ""
  exponentSign := ""
  tie := .up
  nan := "NaN"
  infinity := "Infinity"
  negativeInfinity := "-Infinity"

/-- A double in the data format: positional from a hundred-thousandth up to ten to the sixteenth.
The format has no words for what is not finite and writes `null`. -/
def data : NumberLayout where
  positional power := -5 ≤ power && power < 16
  wholeTail := ".0"
  exponentSign := "+"
  tie := .toEven
  nan := "null"
  infinity := "null"
  negativeInfinity := "null"

/-- A double in a diagnosis: positional from a ten-thousandth up to ten to the sixteenth. -/
def shown : NumberLayout where
  positional power := -4 ≤ power && power < 16
  wholeTail := ".0"
  exponentSign := ""
  tie := .up
  nan := "NaN"
  infinity := "inf"
  negativeInfinity := "-inf"

/-- A double as scripts write it in data: positional from a millionth up to ten to the
twenty-first, with as many digits as it takes for the rounded decimal to read back. -/
def script : NumberLayout where
  positional power := -6 ≤ power && power < 21
  wholeTail := ""
  exponentSign := "+"
  tie := .toEven
  choice := .nearest
  nan := "null"
  infinity := "null"
  negativeInfinity := "null"

/-- As many zeros. -/
def zeros (n : Nat) : List Char := List.replicate n '0'

/-- The digits with a point where it belongs, filled up with zeros. -/
def printPositional (layout : NumberLayout) (digits : List Char) (exponent : Int) : List Char :=
  if 0 ≤ exponent then digits ++ zeros exponent.toNat ++ layout.wholeTail.toList
  else
    let places := (-exponent).toNat
    if places < digits.length then
      digits.take (digits.length - places) ++ '.' :: digits.drop (digits.length - places)
    else '0' :: '.' :: zeros (places - digits.length) ++ digits

/-- The first digit, the others after a point, and the exponent. -/
def printExponent (layout : NumberLayout) (digits : List Char) (power : Int) : List Char :=
  let head := digits.take 1
  let tail := digits.drop 1
  let fraction := if tail.isEmpty then [] else '.' :: tail
  let sign := if 0 ≤ power then layout.exponentSign.toList else ['-']
  head ++ fraction ++ 'e' :: sign ++ Nat.toDigits 10 power.natAbs

/-- A positive decimal. -/
def printDecimal (layout : NumberLayout) (d : Decimal) : List Char :=
  let digits := Nat.toDigits 10 d.digits
  if layout.positional d.magnitude then layout.printPositional digits d.exponent
  else layout.printExponent digits d.magnitude

/-- A double as this layout prints it. Zero keeps its sign. -/
def print (layout : NumberLayout) (f : Float) : String :=
  match Binary64.ofFloat f with
  | .nan => layout.nan
  | .infinite negative => if negative then layout.negativeInfinity else layout.infinity
  | .finite negative significand exponent =>
    let text :=
      if significand = 0 then '0' :: layout.wholeTail.toList
      else layout.printDecimal (Decimal.shortest layout.tie layout.choice significand exponent)
    String.ofList (if negative then '-' :: text else text)

end NumberLayout

end ScriptBridge
