import ScriptBridge.Text.Quoted

/-!
# Texts of scripts

A text of the script side is a sequence of 16-bit units. Nearly always these are the units of
characters, and the text is kept as those; a text with half of a surrogate pair in it, which no
characters have, is kept as its units. `Text.ofUnits` chooses between the two, so that equal texts
are kept equally.

Lengths and positions count units.
-/

namespace ScriptBridge.Script

/-- A text of the script side. -/
inductive Text where
  | whole (s : String)
  /-- Units that are not those of characters. -/
  | broken (units : List Nat)
  deriving DecidableEq, Repr, Inhabited

namespace Text

instance : Coe String Text := ⟨.whole⟩

/-- The units of a character. -/
def unitsOf (c : Char) : List Nat :=
  let n := c.toNat
  if n < 0x10000 then [n]
  else [0xD800 + (n - 0x10000) / 0x400, 0xDC00 + (n - 0x10000) % 0x400]

/-- The units of a text. -/
def units : Text → List Nat
  | .whole s => s.toList.flatMap unitsOf
  | .broken units => units

/-- The characters whose units these are, if there are such. -/
def characters? : List Nat → Option (List Char)
  | [] => some []
  | [n] =>
    if Quoted.isHighSurrogate n || Quoted.isLowSurrogate n then none else some [Char.ofNat n]
  | n :: m :: rest =>
    if Quoted.isHighSurrogate n then
      if Quoted.isLowSurrogate m then (characters? rest).map (Quoted.pairChar n m :: ·) else none
    else if Quoted.isLowSurrogate n then none
    else (characters? (m :: rest)).map (Char.ofNat n :: ·)

/-- The text of some units. -/
def ofUnits (units : List Nat) : Text :=
  match characters? units with
  | some chars => .whole (String.ofList chars)
  | none => .broken units

/-- The characters of a text, if it has only such. -/
def whole? : Text → Option String
  | .whole s => some s
  | .broken _ => none

/-- A text after another one. Halves of a pair that meet become a character. -/
def append : Text → Text → Text
  | .whole s, .whole t => .whole (s ++ t)
  | s, t => ofUnits (s.units ++ t.units)

instance : Append Text := ⟨append⟩

/-- Whether a text has no units. -/
def isEmpty : Text → Bool
  | .whole s => s.isEmpty
  | .broken units => units.isEmpty

/-- Puts texts together, with another one between each two. -/
def join (between : Text) : List Text → Text
  | [] => .whole ""
  | [text] => text
  | text :: rest => text ++ between ++ join between rest

/-! ## Quoting -/

/-- A unit that is no character, as it is written between marks. -/
def escapeUnit (n : Nat) : List Char :=
  ['\\', 'u', Quoted.hexDigit (n / 0x1000), Quoted.hexDigit (n / 0x100 % 16),
    Quoted.hexDigit (n / 16 % 16), Quoted.hexDigit (n % 16)]

/-- Units as they are written between marks. -/
def encodeUnits : List Nat → List Char
  | [] => []
  | [n] => encodeUnit n
  | n :: m :: rest =>
    if Quoted.isHighSurrogate n && Quoted.isLowSurrogate m then
      Quoted.pairChar n m :: encodeUnits rest
    else encodeUnit n ++ encodeUnits (m :: rest)
where
  /-- One unit as it is written between marks. -/
  encodeUnit (n : Nat) : List Char :=
    if Quoted.isHighSurrogate n || Quoted.isLowSurrogate n then escapeUnit n
    else Quoted.escape (Char.ofNat n)

/-- The text between marks, in data. -/
def quoted : Text → String
  | .whole s => quote s
  | .broken units => String.ofList ('"' :: encodeUnits units ++ ['"'])

/-! ## Looking for parts -/

/-- Whether some units start with others. -/
def startsWith : List Nat → List Nat → Bool
  | _, [] => true
  | [], _ => false
  | n :: units, m :: part => n = m && startsWith units part

/-- The first position at which a part stands, counting from a given number. -/
def positionFrom? (part : List Nat) : Nat → List Nat → Option Nat
  | i, [] => if part.isEmpty then some i else none
  | i, n :: units =>
    if startsWith (n :: units) part then some i else positionFrom? part (i + 1) units

/-- The last position at which a part stands, counting from a given number. -/
def lastPositionFrom? (part : List Nat) : Nat → List Nat → Option Nat
  | i, [] => if part.isEmpty then some i else none
  | i, n :: units =>
    match lastPositionFrom? part (i + 1) units with
    | some found => some found
    | none => if startsWith (n :: units) part then some i else none

/-- The units from one position up to another one. -/
def slice (text : Text) (start stop : Nat) : Text :=
  ofUnits ((text.units.drop start).take (stop - start))

/-- The pieces between the places where units stand, which are not empty. What was read of the
current piece is given in reverse. -/
def splitUnits (part : List Nat) : Nat → List Nat → List Nat → List (List Nat)
  | 0, read, units => [read.reverse ++ units]
  | _, read, [] => [read.reverse]
  | steps + 1, read, n :: units =>
    if startsWith (n :: units) part then
      read.reverse :: splitUnits part steps [] ((n :: units).drop part.length)
    else splitUnits part steps (n :: read) units

/-- The pieces of a text between the places where a part stands. An empty part stands between any
two units. -/
def splitAt (text part : Text) : List Text :=
  let units := text.units
  if part.isEmpty then units.map fun n => ofUnits [n]
  else (splitUnits part.units (units.length + 1) [] units).map ofUnits

/-- Whether some units come before others, in the order of the first difference. -/
def comesBefore : List Nat → List Nat → Bool
  | _, [] => false
  | [], _ :: _ => true
  | n :: ns, m :: ms => n < m || (n = m && comesBefore ns ms)

end Text

end ScriptBridge.Script
