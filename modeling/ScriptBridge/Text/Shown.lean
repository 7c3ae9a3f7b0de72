import ScriptBridge.Text.Shapeless

/-!
# Text shown for diagnosis

The form of text in diagnostic descriptions: between quotation marks, with the mark and the
backslash escaped, short escapes for NUL and the usual blanks, and every character without a shape
of its own written by its number.
-/

namespace ScriptBridge

namespace Shown

/-- The lower-case hexadecimal digits of a number, without leading zeros. -/
def hex (n : Nat) : List Char := Nat.toDigits 16 n

/-- How one character is shown. -/
def escape (c : Char) : List Char :=
  if c = '"' then ['\\', '"']
  else if c = '\\' then ['\\', '\\']
  else if c.toNat = 0 then ['\\', '0']
  else if c.toNat = 9 then ['\\', 't']
  else if c.toNat = 10 then ['\\', 'n']
  else if c.toNat = 13 then ['\\', 'r']
  else if isShapeless c then ['\\', 'u', '\x7b'] ++ hex c.toNat ++ ['\x7d']
  else [c]

end Shown

/-- Text between quotation marks, as a diagnosis shows it. -/
def shown (text : String) : String :=
  String.ofList ('"' :: text.toList.flatMap Shown.escape ++ ['"'])

end ScriptBridge
