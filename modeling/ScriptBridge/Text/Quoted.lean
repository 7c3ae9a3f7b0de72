/-!
# Quoted text

The form in which text stands inside data and scripts: between quotation marks, with the mark, the
backslash and the control characters below U+0020 escaped and everything else as it is. The short
escapes are used where the format has one, and four lower-case hexadecimal digits otherwise.

`Quoted.encode` and `Quoted.decode?` work on lists of characters and know nothing of the
surrounding marks; `quote` adds them. The main statement is `decode?_encode_append`: what was
encoded and closed by a mark reads back, whatever follows.
-/

namespace ScriptBridge

namespace Quoted

/-- The digit for a number below sixteen. -/
def hexDigit (n : Nat) : Char :=
  if n < 10 then Char.ofNat ('0'.toNat + n) else Char.ofNat ('a'.toNat + (n - 10))

/-- The number a hexadecimal digit of either case stands for. -/
def hexValue? (c : Char) : Option Nat :=
  if '0' ≤ c ∧ c ≤ '9' then some (c.toNat - '0'.toNat)
  else if 'a' ≤ c ∧ c ≤ 'f' then some (c.toNat - 'a'.toNat + 10)
  else if 'A' ≤ c ∧ c ≤ 'F' then some (c.toNat - 'A'.toNat + 10)
  else none

/-- How one character is written between the marks. -/
def escape (c : Char) : List Char :=
  if c = '"' then ['\\', '"']
  else if c = '\\' then ['\\', '\\']
  else if c.toNat = 8 then ['\\', 'b']
  else if c.toNat = 9 then ['\\', 't']
  else if c.toNat = 10 then ['\\', 'n']
  else if c.toNat = 12 then ['\\', 'f']
  else if c.toNat = 13 then ['\\', 'r']
  else if c.toNat < 32 then
    ['\\', 'u', '0', '0', hexDigit (c.toNat / 16), hexDigit (c.toNat % 16)]
  else [c]

/-- Text as it is written between the marks. -/
def encode (text : List Char) : List Char := text.flatMap escape

/-- Four hexadecimal digits as a number. -/
def hex4? (a b c d : Char) : Option Nat := do
  let a ← hexValue? a
  let b ← hexValue? b
  let c ← hexValue? c
  let d ← hexValue? d
  return ((a * 16 + b) * 16 + c) * 16 + d

/-- The character of a short escape. -/
def shortEscape? : Char → Option Char
  | '"' => some '"'
  | '\\' => some '\\'
  | '/' => some '/'
  | 'b' => some (Char.ofNat 8)
  | 'f' => some (Char.ofNat 12)
  | 'n' => some (Char.ofNat 10)
  | 'r' => some (Char.ofNat 13)
  | 't' => some (Char.ofNat 9)
  | _ => none

/-- A number in the upper half of the surrogates starts a pair. -/
def isHighSurrogate (n : Nat) : Bool := 0xD800 ≤ n && n < 0xDC00

/-- A number in the lower half of the surrogates ends a pair. -/
def isLowSurrogate (n : Nat) : Bool := 0xDC00 ≤ n && n < 0xE000

/-- The character that a pair of surrogates stands for. -/
def pairChar (high low : Nat) : Char :=
  Char.ofNat ((high - 0xD800) * 0x400 + (low - 0xDC00) + 0x10000)

/-- Reads text up to the closing mark, and gives what follows the mark. Control characters, unknown
escapes and surrogates without a partner are refused. -/
def decode? : List Char → Option (List Char × List Char)
  | [] => none
  | '"' :: rest => some ([], rest)
  | '\\' :: 'u' :: a :: b :: c :: d :: rest => do
    let n ← hex4? a b c d
    if isLowSurrogate n then none
    else if isHighSurrogate n then
      match rest with
      | '\\' :: 'u' :: e :: f :: g :: h :: rest => do
        let m ← hex4? e f g h
        if isLowSurrogate m then
          let (text, rest) ← decode? rest
          return (pairChar n m :: text, rest)
        else none
      | _ => none
    else
      let (text, rest) ← decode? rest
      return (Char.ofNat n :: text, rest)
  | '\\' :: c :: rest => do
    let plain ← shortEscape? c
    let (text, rest) ← decode? rest
    return (plain :: text, rest)
  | c :: rest => do
    if c = '\\' ∨ c.toNat < 32 then none
    else
      let (text, rest) ← decode? rest
      return (c :: text, rest)

/-- Passes over text up to the closing mark: the escapes must be well formed, but what they stand
for is not looked at. -/
def skip? : List Char → Option (List Char)
  | [] => none
  | '"' :: rest => some rest
  | '\\' :: 'u' :: a :: b :: c :: d :: rest => do
    let _ ← hex4? a b c d
    skip? rest
  | '\\' :: c :: rest => do
    let _ ← shortEscape? c
    skip? rest
  | c :: rest => if c = '\\' ∨ c.toNat < 32 then none else skip? rest

theorem hex4?_control : ∀ n, n < 32 →
    hex4? '0' '0' (hexDigit (n / 16)) (hexDigit (n % 16)) = some n := by decide

/-- Reading undoes the writing of one character. -/
theorem decode?_escape_append (c : Char) (rest : List Char) :
    decode? (escape c ++ rest) = (decode? rest).map fun read => (c :: read.1, read.2) := by
  have named (n : Nat) (h : c.toNat = n) : c = Char.ofNat n := by
    rw [← h, Char.ofNat_toNat]
  unfold escape
  split
  · next h => subst h; cases h : decode? rest <;> simp [decode?, shortEscape?, h]
  split
  · next h => subst h; cases h : decode? rest <;> simp [decode?, shortEscape?, h]
  split
  · next h => rw [named _ h]; cases h : decode? rest <;> simp [decode?, shortEscape?, h]
  split
  · next h => rw [named _ h]; cases h : decode? rest <;> simp [decode?, shortEscape?, h]
  split
  · next h => rw [named _ h]; cases h : decode? rest <;> simp [decode?, shortEscape?, h]
  split
  · next h => rw [named _ h]; cases h : decode? rest <;> simp [decode?, shortEscape?, h]
  split
  · next h => rw [named _ h]; cases h : decode? rest <;> simp [decode?, shortEscape?, h]
  split
  · next h =>
    have low : isLowSurrogate c.toNat = false := by simp [isLowSurrogate]; omega
    have high : isHighSurrogate c.toNat = false := by simp [isHighSurrogate]; omega
    cases h' : decode? rest <;>
      simp [decode?, hex4?_control c.toNat h, low, high, h', Char.ofNat_toNat]
  · next _ backslash _ _ _ _ _ control =>
    cases h' : decode? rest <;> simp [decode?, backslash, control, h']

/-- Text that was encoded and closed by a mark reads back, whatever follows the mark. -/
theorem decode?_encode_append (text rest : List Char) :
    decode? (encode text ++ '"' :: rest) = some (text, rest) := by
  induction text with
  | nil => simp [encode, decode?]
  | cons c text ih =>
    have : encode (c :: text) = escape c ++ encode text := rfl
    rw [this, List.append_assoc, decode?_escape_append, ih]
    rfl

end Quoted

/-- Text between quotation marks. -/
def quote (text : String) : String :=
  String.ofList ('"' :: Quoted.encode text.toList ++ ['"'])

end ScriptBridge
