/-!
# Octets of text

Text is written as UTF-8. Reading splits octets into characters and *malformed parts*: a malformed
part is a longest run of octets that begins a well-formed character and does not complete it, or a
single octet that begins none. Strict reading refuses malformed parts; lenient reading puts one
replacement character in the place of each.
-/

namespace ScriptBridge.Utf8

/-- A character of which some octets have been read. -/
structure Pending where
  /-- How many octets are missing. -/
  missing : Nat
  /-- The bits read so far. -/
  bits : Nat
  /-- The least octet that may come next. -/
  least : Nat
  /-- The greatest octet that may come next. -/
  greatest : Nat

/-- What an octet amounts to: a whole character, a part of one, or nothing that text can hold. -/
inductive Reading where
  | whole (c : Char)
  | part (pending : Pending)
  | malformed

/-- How a character may begin. The narrowed ranges keep out long forms, surrogates and numbers
beyond the last character. -/
def begin (octet : UInt8) : Reading :=
  let n := octet.toNat
  if n < 0x80 then .whole (Char.ofNat n)
  else if n < 0xC2 then .malformed
  else if n < 0xE0 then .part ⟨1, n - 0xC0, 0x80, 0xBF⟩
  else if n = 0xE0 then .part ⟨2, 0, 0xA0, 0xBF⟩
  else if n = 0xED then .part ⟨2, 0xD, 0x80, 0x9F⟩
  else if n < 0xF0 then .part ⟨2, n - 0xE0, 0x80, 0xBF⟩
  else if n = 0xF0 then .part ⟨3, 0, 0x90, 0xBF⟩
  else if n < 0xF4 then .part ⟨3, n - 0xF0, 0x80, 0xBF⟩
  else if n = 0xF4 then .part ⟨3, 4, 0x80, 0x8F⟩
  else .malformed

/-- Adds an octet to a character that is under way. -/
def Pending.extend (pending : Pending) (octet : UInt8) : Reading :=
  let n := octet.toNat
  if n < pending.least ∨ pending.greatest < n then .malformed
  else
    let bits := pending.bits * 64 + (n - 0x80)
    if pending.missing ≤ 1 then .whole (Char.ofNat bits)
    else .part ⟨pending.missing - 1, bits, 0x80, 0xBF⟩

/-- The characters of octets, with `none` for each malformed part. An octet that does not extend
the character under way is read again as a beginning. -/
def scan : Option Pending → List UInt8 → List (Option Char)
  | none, [] => []
  | some _, [] => [none]
  | none, octet :: rest =>
    match begin octet with
    | .whole c => some c :: scan none rest
    | .part pending => scan (some pending) rest
    | .malformed => none :: scan none rest
  | some pending, octet :: rest =>
    match pending.extend octet with
    | .whole c => some c :: scan none rest
    | .part pending => scan (some pending) rest
    | .malformed =>
      match begin octet with
      | .whole c => none :: some c :: scan none rest
      | .part pending => none :: scan (some pending) rest
      | .malformed => none :: none :: scan none rest

/-- Text of octets, a replacement character standing for each malformed part. -/
def decodeLossy (octets : List UInt8) : String :=
  String.ofList ((scan none octets).map (·.getD '\uFFFD'))

/-- Text of octets, if no part of them is malformed. -/
def decode? (octets : List UInt8) : Option String :=
  ((scan none octets).mapM id).map String.ofList

/-- The octets of text. -/
def encode (text : String) : List UInt8 := text.toList.flatMap String.utf8EncodeChar

end ScriptBridge.Utf8
