import ScriptBridge.Proofs.Data.Texts

/-!
# Values that are passed over

A value whose meaning is not wanted is passed over without a tree being made of it.
-/

namespace ScriptBridge.Json

open NumberText (Ends)
open Reader (isBlank dropBlanks skipIn?)
open Reader.skipIn? (key? close?)

namespace Reader

variable {calls : Nat} {stack : List Open} {text rest : List Char}

theorem length_dropBlanks {c : Char} (h : dropBlanks text = c :: rest) :
    rest.length + 1 ≤ text.length := by
  have hle : (dropBlanks text).length ≤ text.length := (List.dropWhile_sublist _).length_le
  rwa [h] at hle

theorem skipIn?_numeric {c : Char} (hc : Numeric c) (calls : Nat) (stack : List Open)
    (text : List Char) : skipIn? (calls + 1) stack (c :: text) = (do
      let (_, rest) ← NumberText.scan? (c :: text)
      close? calls stack rest) := by
  rw [skipIn?, dropBlanks_numeric hc]
  split
  case h_7 => rfl
  all_goals
    next heq =>
    obtain ⟨rfl, -⟩ := List.cons.inj heq
    exact absurd hc (by unfold Numeric; decide)

theorem skipIn?_bracket {c : Char} (htext : dropBlanks text = c :: rest) (hc : c ≠ ']')
    (calls : Nat) (stack : List Open) :
    skipIn? (calls + 1) stack ('[' :: text) = skipIn? calls (.array :: stack) text := by
  have hmark : dropBlanks ('[' :: text) = '[' :: text := rfl
  rw [skipIn?, hmark, ← skipIn?_dropBlanks calls _ text]
  simp only [htext]
  split
  · next heq => exact absurd (List.cons.inj heq).1 hc
  · rfl

theorem skipIn?_brace {c : Char} (htext : dropBlanks text = c :: rest) (hc : c ≠ '\x7d')
    (calls : Nat) (stack : List Open) :
    skipIn? (calls + 1) stack ('\x7b' :: text) =
      (key? text).bind (skipIn? calls (.object :: stack)) := by
  have hmark : dropBlanks ('\x7b' :: text) = '\x7b' :: text := rfl
  rw [skipIn?, hmark, ← key?_dropBlanks text]
  simp only [htext]
  split
  · next heq => exact absurd (List.cons.inj heq).1 hc
  · rfl

theorem key?_body {key between : List Char} (hkey : Quoted.IsBody key)
    (hcolon : dropBlanks between = ':' :: text) :
    key? ('"' :: (key ++ '"' :: between)) = some text := by
  have hmark : dropBlanks ('"' :: (key ++ '"' :: between)) = '"' :: (key ++ '"' :: between) := rfl
  rw [key?, hmark]
  simp only [hkey.skip?_append between, Option.bind_eq_bind, Option.bind_some, hcolon]

theorem close?_array (hclose : dropBlanks text = ']' :: rest) (calls : Nat)
    (stack : List Open) : close? (calls + 1) (.array :: stack) text = close? calls stack rest := by
  simp only [close?, hclose]

theorem close?_item (hnext : dropBlanks text = ',' :: rest) (calls : Nat) (stack : List Open) :
    close? (calls + 1) (.array :: stack) text = skipIn? calls (.array :: stack) rest := by
  simp only [close?, hnext]

theorem close?_object (hclose : dropBlanks text = '\x7d' :: rest) (calls : Nat)
    (stack : List Open) : close? (calls + 1) (.object :: stack) text = close? calls stack rest := by
  simp only [close?, hclose]

theorem close?_member (hnext : dropBlanks text = ',' :: rest) (calls : Nat) (stack : List Open) :
    close? (calls + 1) (.object :: stack) text =
      (key? rest).bind (skipIn? calls (.object :: stack)) := by
  simp only [close?, hnext]
  rfl

end Reader

open Reader

/-- Passes over a stretch of text, of which the opening mark is behind the reader. -/
def Part.pass : Part → Nat → List Open → List Char → Option (List Char)
  | .value, calls, stack, text => skipIn? calls stack text
  | .items, calls, stack, text => skipIn? calls (.array :: stack) text
  | .members, calls, stack, text => (key? text).bind (skipIn? calls (.object :: stack))

/-- A stretch of text is passed over, in no more calls than it has characters. -/
def Passes (part : Part) (text rest : List Char) : Prop :=
  ∃ calls, calls + rest.length ≤ text.length ∧ ∀ more stack,
    part.pass (more + calls) stack text = close? more stack rest

namespace Passes

variable {text after more rest : List Char}

/-- What takes one call. -/
theorem of_one (hlength : rest.length + 1 ≤ text.length)
    (h : ∀ calls stack, skipIn? (calls + 1) stack text = close? calls stack rest) :
    Passes .value text rest :=
  ⟨1, by omega, h⟩

theorem number (h : NumberText.IsNumeral text) (hrest : Ends rest) :
    Passes .value (text ++ rest) rest := by
  obtain ⟨number, hscan⟩ := NumberText.scan?_append h
  have hscan := hscan hrest
  obtain ⟨c, digits, rfl, hc⟩ := h.head
  rw [List.cons_append] at hscan ⊢
  refine of_one ?_ fun calls stack ↦ ?_
  · rw [List.length_cons, List.length_append]
    omega
  · rw [skipIn?_numeric hc, hscan]
    rfl

theorem string {body : List Char} (h : Quoted.IsBody body) :
    Passes .value ('"' :: (body ++ '"' :: rest)) rest := by
  refine of_one ?_ fun calls stack ↦ ?_
  · simp only [List.length_cons, List.length_append]
    omega
  · change (Quoted.skip? (body ++ '"' :: rest)).bind (close? calls stack) = _
    rw [h.skip?_append]
    rfl

theorem noItems (h : dropBlanks text = ']' :: rest) : Passes .value ('[' :: text) rest := by
  have hlength := length_dropBlanks h
  have hmark : dropBlanks ('[' :: text) = '[' :: text := rfl
  refine of_one (by rw [List.length_cons]; omega) fun calls stack ↦ ?_
  simp only [skipIn?, hmark, h]

theorem noMembers (h : dropBlanks text = '\x7d' :: rest) :
    Passes .value ('\x7b' :: text) rest := by
  have hlength := length_dropBlanks h
  have hmark : dropBlanks ('\x7b' :: text) = '\x7b' :: text := rfl
  refine of_one (by rw [List.length_cons]; omega) fun calls stack ↦ ?_
  simp only [skipIn?, hmark, h]

theorem array {c : Char} (hhead : dropBlanks text = c :: after) (hc : c ≠ ']')
    (h : Passes .items text rest) : Passes .value ('[' :: text) rest := by
  obtain ⟨calls, hlength, hpass⟩ := h
  refine ⟨calls + 1, by rw [List.length_cons]; omega, fun more stack ↦ ?_⟩
  exact (skipIn?_bracket hhead hc _ stack).trans (hpass more stack)

theorem object {c : Char} (hhead : dropBlanks text = c :: after) (hc : c ≠ '\x7d')
    (h : Passes .members text rest) : Passes .value ('\x7b' :: text) rest := by
  obtain ⟨calls, hlength, hpass⟩ := h
  refine ⟨calls + 1, by rw [List.length_cons]; omega, fun more stack ↦ ?_⟩
  exact (skipIn?_brace hhead hc _ stack).trans (hpass more stack)

theorem lastItem (h : Passes .value text after) (hclose : dropBlanks after = ']' :: rest) :
    Passes .items text rest := by
  obtain ⟨calls, hlength, hpass⟩ := h
  have hafter := length_dropBlanks hclose
  refine ⟨1 + calls, by omega, fun more stack ↦ ?_⟩
  rw [← Nat.add_assoc]
  exact (hpass (more + 1) (.array :: stack)).trans (close?_array hclose more stack)

theorem item (h : Passes .value text after) (hnext : dropBlanks after = ',' :: more)
    (hmore : Passes .items more rest) : Passes .items text rest := by
  obtain ⟨calls, hlength, hpass⟩ := h
  obtain ⟨calls', hlength', hpass'⟩ := hmore
  have hafter := length_dropBlanks hnext
  refine ⟨calls' + 1 + calls, by omega, fun left stack ↦ ?_⟩
  rw [← Nat.add_assoc, ← Nat.add_assoc]
  calc skipIn? (left + calls' + 1 + calls) (.array :: stack) text
    _ = close? (left + calls' + 1) (.array :: stack) after := hpass _ _
    _ = skipIn? (left + calls') (.array :: stack) more := close?_item hnext _ _
    _ = close? left stack rest := hpass' left stack

section

variable {key between : List Char}

theorem lastMember (hkey : Quoted.IsBody key) (hcolon : dropBlanks between = ':' :: text)
    (h : Passes .value text after) (hclose : dropBlanks after = '\x7d' :: rest) :
    Passes .members ('"' :: (key ++ '"' :: between)) rest := by
  obtain ⟨calls, hlength, hpass⟩ := h
  have hafter := length_dropBlanks hclose
  have hbetween := length_dropBlanks hcolon
  refine ⟨1 + calls, ?_, fun more stack ↦ ?_⟩
  · simp only [List.length_cons, List.length_append]
    omega
  · rw [← Nat.add_assoc, Part.pass, key?_body hkey hcolon, Option.bind_some]
    exact (hpass (more + 1) (.object :: stack)).trans (close?_object hclose more stack)

theorem member (hkey : Quoted.IsBody key) (hcolon : dropBlanks between = ':' :: text)
    (h : Passes .value text after) (hnext : dropBlanks after = ',' :: more)
    (hmore : Passes .members more rest) :
    Passes .members ('"' :: (key ++ '"' :: between)) rest := by
  obtain ⟨calls, hlength, hpass⟩ := h
  obtain ⟨calls', hlength', hpass'⟩ := hmore
  have hafter := length_dropBlanks hnext
  have hbetween := length_dropBlanks hcolon
  refine ⟨calls' + 1 + calls, ?_, fun left stack ↦ ?_⟩
  · simp only [List.length_cons, List.length_append]
    omega
  · rw [← Nat.add_assoc, ← Nat.add_assoc, Part.pass, key?_body hkey hcolon, Option.bind_some]
    calc skipIn? (left + calls' + 1 + calls) (.object :: stack) text
      _ = close? (left + calls' + 1) (.object :: stack) after := hpass _ _
      _ = (key? more).bind (skipIn? (left + calls') (.object :: stack)) := close?_member hnext _ _
      _ = close? left stack rest := hpass' left stack

end

theorem blank {part : Part} {c : Char} (hc : isBlank c = true) (h : Passes part text rest) :
    Passes part (c :: text) rest := by
  obtain ⟨calls, hlength, hpass⟩ := h
  refine ⟨calls, by rw [List.length_cons]; omega, fun more stack ↦ ?_⟩
  rw [← hpass more stack]
  cases part with
  | value => rw [Part.pass, ← skipIn?_dropBlanks, dropBlanks_blank hc, skipIn?_dropBlanks]; rfl
  | items => rw [Part.pass, ← skipIn?_dropBlanks, dropBlanks_blank hc, skipIn?_dropBlanks]; rfl
  | members => rw [Part.pass, ← key?_dropBlanks, dropBlanks_blank hc, key?_dropBlanks]; rfl

end Passes

/-- **What the text begins with is passed over**, in no more calls than it has characters. -/
theorem Begins.passed {part : Part} {text rest : List Char} (h : Begins part text rest) :
    Passes part text rest := by
  induction h with
  | null | true | false =>
    refine .of_one ?_ fun _ _ ↦ rfl
    simp only [List.length_cons]
    omega
  | number h hrest => exact .number h hrest
  | string h => exact .string h
  | noItems h => exact .noItems h
  | array h ih =>
    obtain ⟨c, after, hhead, hc, -⟩ := h.head
    exact .array hhead hc ih
  | noMembers h => exact .noMembers h
  | object h ih =>
    obtain ⟨c, after, hhead, -, hc⟩ := h.head
    exact .object hhead hc ih
  | lastItem _ hclose ih => exact .lastItem ih hclose
  | item _ hnext _ ih ihmore => exact .item ih hnext ihmore
  | lastMember hkey hcolon _ hclose ih => exact .lastMember hkey hcolon ih hclose
  | member hkey hcolon _ hnext _ ih ihmore => exact .member hkey hcolon ih hnext ihmore
  | blank hc _ ih => exact .blank hc ih

theorem Begins.length_le {part : Part} {text rest : List Char} (h : Begins part text rest) :
    rest.length ≤ text.length := by
  obtain ⟨calls, hlength, -⟩ := h.passed
  omega

/-- **A value is passed over**, whatever it is. -/
theorem Begins.skip? {text rest : List Char} (h : Begins .value text rest) :
    Reader.skip? text = some rest := by
  obtain ⟨calls, hlength, hpass⟩ := h.passed
  obtain ⟨more, hmore⟩ : ∃ more, callsFor text = more + 1 + calls :=
    ⟨callsFor text - 1 - calls, by unfold callsFor; omega⟩
  rw [Reader.skip?, hmore]
  exact hpass (more + 1) []

end ScriptBridge.Json
