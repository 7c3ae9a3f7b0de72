import ScriptBridge.Json.NumberText
import ScriptBridge.Number.Layout
import ScriptBridge.Script.Text

/-!
# Numbers of scripts

Numbers are doubles. A numeral denotes the double nearest to what it says; the text of a number is
the shortest one that denotes it. Reading is used for numerals in scripts and for texts that stand
where a number is wanted, which may also be empty, signed or surrounded by blanks.
-/

namespace ScriptBridge.Script

namespace Numeral

/-! ## Blanks -/

/-- The characters that end a line. -/
def isLineEnd (c : Char) : Bool :=
  c = '\n' || c = '\r' || c.toNat = 0x2028 || c.toNat = 0x2029

/-- The other blanks. -/
def isBlank (c : Char) : Bool :=
  let n := c.toNat
  n = 0x09 || n = 0x0B || n = 0x0C || n = 0x20 || n = 0xA0 || n = 0x1680 ||
    (0x2000 ≤ n && n ≤ 0x200A) || n = 0x202F || n = 0x205F || n = 0x3000 || n = 0xFEFF

/-- A text without the blanks and line ends around it. -/
def trim (text : List Char) : List Char :=
  let blank (c : Char) : Bool := isBlank c || isLineEnd c
  ((text.dropWhile blank).reverse.dropWhile blank).reverse

/-! ## Reading -/

/-- What is not a number. -/
def notANumber : Float := 0.0 / 0.0

/-- Infinity. -/
def infinity : Float := 1.0 / 0.0

/-- The double nearest to a decimal, of which the digits are given; a decimal beyond all doubles is
infinite. -/
def nearest (digits : List Nat) (power : Int) : Float :=
  let number := Json.NumberText.ofDigits digits
  let size := power + (digits.length : Int)
  if number = 0 ∨ size < -400 then 0
  else if 400 < power then infinity
  else Float.ofScientific number (power < 0) power.natAbs

/-- Reads the exponent of a decimal. -/
def exponent? : List Char → Option (Int × List Char)
  | c :: rest =>
    if c = 'e' ∨ c = 'E' then
      let (negative, rest) := match rest with
        | '-' :: rest => (true, rest)
        | '+' :: rest => (false, rest)
        | rest => (false, rest)
      (Json.NumberText.someDigits? rest).map fun (ds, rest) =>
        let n : Int := Json.NumberText.ofDigits ds
        (if negative then -n else n, rest)
    else some (0, c :: rest)
  | [] => some (0, [])

/-- Reads a decimal, which may lack the digits on one side of its point. -/
def decimal? (text : List Char) : Option (Float × List Char) := do
  let (whole, rest) := Json.NumberText.digits text
  let (fraction, rest) := match rest with
    | '.' :: more => Json.NumberText.digits more
    | rest => ([], rest)
  if whole.isEmpty ∧ fraction.isEmpty then none
  else
    let (power, rest) ← exponent? rest
    return (nearest (whole ++ fraction) (power - fraction.length), rest)

/-- The value of leading digits of a base, how many there are, and what follows them. -/
def inBase (base : Nat) : Nat → Nat → List Char → Nat × Nat × List Char
  | value, count, c :: rest =>
    match Quoted.hexValue? c with
    | some d =>
      if d < base then inBase base (value * base + d) (count + 1) rest
      else (value, count, c :: rest)
    | none => (value, count, c :: rest)
  | value, count, [] => (value, count, [])

/-- The base that a letter after a zero announces. -/
def base? (c : Char) : Option Nat :=
  if c = 'x' ∨ c = 'X' then some 16
  else if c = 'o' ∨ c = 'O' then some 8
  else if c = 'b' ∨ c = 'B' then some 2
  else none

/-- Reads a numeral without a sign. -/
def read? : List Char → Option (Float × List Char)
  | '0' :: c :: rest =>
    match base? c with
    | some base =>
      let (value, count, rest) := inBase base 0 0 rest
      if count = 0 then none else some (Float.ofNat value, rest)
    | none => decimal? ('0' :: c :: rest)
  | text => decimal? text

/-- The number that a text stands for. -/
def ofText (text : Text) : Float :=
  match text with
  | .broken _ => notANumber
  | .whole s =>
    let sized (text : List Char) : Option Float :=
      if text = "Infinity".toList then some infinity
      else
        match read? text with
        | some (f, []) => some f
        | _ => none
    let unsigned (text : List Char) : Option Float :=
      match text with
      | '0' :: c :: _ => if (base? c).isSome then none else sized text
      | text => sized text
    match trim s.toList with
    | [] => 0
    | '-' :: rest => ((unsigned rest).map fun f => -f).getD notANumber
    | '+' :: rest => (unsigned rest).getD notANumber
    | text => (sized text).getD notANumber

/-! ## Writing -/

/-- How numbers are written as texts. -/
def layout : NumberLayout := { NumberLayout.script with
  nan := "NaN"
  infinity := "Infinity"
  negativeInfinity := "-Infinity" }

/-- The text of a number. -/
def print (f : Float) : String := layout.print (if f == 0 then 0 else f)

/-! ## Whole numbers -/

/-- A number without its fraction, as an integer; 0 for what is not finite. -/
def wholePart (f : Float) : Int :=
  match Binary64.ofFloat f with
  | .nan | .infinite _ => 0
  | .finite negative significand exponent =>
    let (num, den) := Binary64.magnitude significand exponent
    let size : Int := (num / den : Nat)
    if negative then -size else size

/-- The octet of a number: its whole part, of which the higher bits are lost. -/
def octet (f : Float) : UInt8 := UInt8.ofNat (wholePart f % 256).toNat

/-- The signed 32-bit integer of a number. -/
def signed32 (f : Float) : Int := Int.bmod (wholePart f) 0x100000000

/-- The unsigned 32-bit integer of a number. -/
def unsigned32 (f : Float) : Int := wholePart f % 0x100000000

/-- The remainder of a division, with the sign of the number that is divided. -/
def remainder (a b : Float) : Float :=
  match Binary64.ofFloat a, Binary64.ofFloat b with
  | .finite negative s e, .finite _ t f =>
    if t = 0 then notANumber
    else if s = 0 then a
    else
      let (num, den) := Binary64.magnitude s e
      let (num', den') := Binary64.magnitude t f
      let rest := (num * den') % (num' * den)
      let low := min e f
      -- the rest is a multiple of the smaller unit of the two
      let scale := if low < 0 then Binary64.twoTo (-low).toNat else 1
      let units := rest * scale / (den * den')
      let size := (Float.ofNat units).scaleB (min low 0)
      if negative then -size else size
  | .finite _ _ _, .infinite _ => a
  | _, _ => notANumber

end Numeral

end ScriptBridge.Script
