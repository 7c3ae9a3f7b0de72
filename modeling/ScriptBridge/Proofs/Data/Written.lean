import ScriptBridge.Json.Reader
import ScriptBridge.Proofs.Data.Numerals

/-!
# Texts that are read

`Written` is a grammar of data texts: which text stands for which data, and how deep it nests. It
leaves open where blanks stand, since writers differ in that, and has no numbers but whole ones,
since for others the writer decides on the digits. The reader reads whatever the grammar derives, as
far as its limit on nesting goes (`Written.reads`, `Written.parseWithin?`), so a writer whose texts
are derived by the grammar is read back without a further look at the reader.

## How it is proved

The reader has three entries, for a value, for the items of an array and for the fields of an
object, and so a stretch of text has three kinds of meaning (`Phrase`). One induction over the
derivation covers them together. Each call of the reader takes a character, so the calls last as
long as there are more of them than characters in the stretch; a number is only known to be at its
end by what follows, so what follows must end it.
-/

namespace ScriptBridge.Json

open NumberText (IsWord Ends)
open Reader (isBlank dropBlanks)

/-- What a stretch of data text stands for. -/
inductive Phrase where
  | value (json : Json)
  /-- Items, of which there is one, and the closing bracket. -/
  | items (items : List Json)
  /-- Fields, of which there is one, and the closing brace. -/
  | fields (fields : List (String × Json))

/-- The texts that stand for data of limited depth. -/
inductive Written : Nat → Phrase → List Char → Prop where
  | null {depth : Nat} : Written depth (.value .null) ['n', 'u', 'l', 'l']
  | true {depth : Nat} : Written depth (.value (.bool true)) ['t', 'r', 'u', 'e']
  | false {depth : Nat} : Written depth (.value (.bool false)) ['f', 'a', 'l', 's', 'e']
  | int {depth : Nat} {n : Int} (h : IsWord n) :
    Written depth (.value (.int n)) (toString n).toList
  | string {depth : Nat} (s : String) : Written depth (.value (.string s)) (quote s).toList
  | noItems {depth : Nat} : Written (depth + 1) (.value (.array [])) ['[', ']']
  | array {depth : Nat} {items : List Json} {text : List Char}
    (h : Written depth (.items items) text) :
    Written (depth + 1) (.value (.array items)) ('[' :: text)
  | noFields {depth : Nat} : Written (depth + 1) (.value (.object [])) ['\x7b', '\x7d']
  | object {depth : Nat} {fields : List (String × Json)} {text : List Char}
    (h : Written depth (.fields fields) text) :
    Written (depth + 1) (.value (ofFields fields)) ('\x7b' :: text)
  | lastItem {depth : Nat} {item : Json} {text : List Char} (h : Written depth (.value item) text) :
    Written depth (.items [item]) (text ++ [']'])
  | item {depth : Nat} {item : Json} {items : List Json} {text more : List Char}
    (h : Written depth (.value item) text) (hmore : Written depth (.items items) more) :
    Written depth (.items (item :: items)) (text ++ ',' :: more)
  | lastField {depth : Nat} {value : Json} {text : List Char} (key : String)
    (h : Written depth (.value value) text) :
    Written depth (.fields [(key, value)]) ((quote key).toList ++ ':' :: (text ++ ['\x7d']))
  | field {depth : Nat} {value : Json} {fields : List (String × Json)} {text more : List Char}
    (key : String) (h : Written depth (.value value) text)
    (hmore : Written depth (.fields fields) more) :
    Written depth (.fields ((key, value) :: fields))
      ((quote key).toList ++ ':' :: (text ++ ',' :: more))
  | blank {depth : Nat} {phrase : Phrase} {c : Char} {text : List Char} (hc : isBlank c = true)
    (h : Written depth phrase text) : Written depth phrase (c :: text)

namespace Reader

/-! ## Blanks -/

theorem dropBlanks_append {c : Char} {text rest : List Char} (h : dropBlanks text = c :: rest)
    (more : List Char) : dropBlanks (text ++ more) = c :: (rest ++ more) := by
  unfold dropBlanks at h ⊢
  rw [List.dropWhile_append, h]
  rfl

/-! ## Where values begin -/

/-- The first character of a numeral. -/
def Numeric (c : Char) : Prop := c = '-' ∨ c.isDigit = true

theorem dropBlanks_numeric {c : Char} (hc : Numeric c) (text : List Char) :
    dropBlanks (c :: text) = c :: text := by
  refine List.dropWhile_cons_of_neg fun hblank ↦ ?_
  have hcases : c = ' ' ∨ c = '\n' ∨ c = '\t' ∨ c = '\r' := of_decide_eq_true hblank
  rcases hcases with rfl | rfl | rfl | rfl <;> exact absurd hc (by unfold Numeric; decide)

/-- A number is read where a numeral begins. -/
theorem value?_numeric {c : Char} (hc : Numeric c) (calls depth : Nat) (text : List Char) :
    value? (calls + 1) depth (c :: text) = (do
      let (number, rest) ← NumberText.scan? (c :: text)
      let value ← number.value?
      return (value, rest)) := by
  rw [value?, dropBlanks_numeric hc]
  split
  case h_7 => rfl
  all_goals
    next heq =>
    obtain ⟨rfl, -⟩ := List.cons.inj heq
    exact absurd hc (by unfold Numeric; decide)

/-- A string is read between its marks. -/
theorem decode?_quote (s : String) (rest : List Char) :
    ∃ text, (quote s).toList ++ rest = '"' :: text ∧
      Quoted.decode? text = some (s.toList, rest) := by
  refine ⟨Quoted.encode s.toList ++ '"' :: rest, ?_, Quoted.decode?_encode_append s.toList rest⟩
  rw [quote, String.toList_ofList]
  simp only [List.cons_append, List.append_assoc, List.nil_append]

/-- Behind an opening bracket there are items, unless the closing one follows. -/
theorem value?_bracket {c : Char} {text rest : List Char} (htext : dropBlanks text = c :: rest)
    (hc : c ≠ ']') (calls depth : Nat) :
    value? (calls + 1) (depth + 1) ('[' :: text) =
      (items? calls depth text).map fun (items, rest) => (.array items, rest) := by
  have hmark : dropBlanks ('[' :: text) = '[' :: text := rfl
  rw [value?, hmark, ← items?_dropBlanks calls depth text]
  simp only [htext]
  split
  · next heq => exact absurd (List.cons.inj heq).1 hc
  · rfl

/-- Behind an opening brace there are fields, unless the closing one follows. -/
theorem value?_brace {c : Char} {text rest : List Char} (htext : dropBlanks text = c :: rest)
    (hc : c ≠ '\x7d') (calls depth : Nat) :
    value? (calls + 1) (depth + 1) ('\x7b' :: text) =
      (fields? calls depth text).map fun (fields, rest) => (ofFields fields, rest) := by
  have hmark : dropBlanks ('\x7b' :: text) = '\x7b' :: text := rfl
  rw [value?, hmark, ← fields?_dropBlanks calls depth text]
  simp only [htext]
  split
  · next heq => exact absurd (List.cons.inj heq).1 hc
  · rfl

variable {calls depth : Nat} {text text' rest : List Char}

theorem items?_last {item : Json} (hitem : value? calls depth text = some (item, ']' :: rest)) :
    items? (calls + 1) depth text = some ([item], rest) := by
  rw [items?, hitem]
  rfl

theorem items?_next {item : Json} {items : List Json}
    (hitem : value? calls depth text = some (item, ',' :: text'))
    (hitems : items? calls depth text' = some (items, rest)) :
    items? (calls + 1) depth text = some (item :: items, rest) := by
  have hnext : items? (calls + 1) depth text = (do
      let (items, rest) ← items? calls depth text'
      return (item :: items, rest)) := by
    rw [items?, hitem]
    rfl
  rw [hnext, hitems]
  rfl

/-- Behind a key and a colon there is a value, and what its end is followed by is looked at. -/
theorem fields?_key (key : String) :
    fields? (calls + 1) depth ((quote key).toList ++ ':' :: text) = (do
      let (value, rest) ← value? calls depth text
      match dropBlanks rest with
      | '\x7d' :: rest => some ([(key, value)], rest)
      | ',' :: rest =>
        let (fields, rest) ← fields? calls depth rest
        return ((key, value) :: fields, rest)
      | _ => none) := by
  obtain ⟨name, rfl⟩ : ∃ name, key = String.ofList name := ⟨_, String.ofList_toList.symm⟩
  obtain ⟨inside, hquote, hkey⟩ := decode?_quote (String.ofList name) (':' :: text)
  rw [String.toList_ofList] at hkey
  have hmark : dropBlanks ('"' :: inside) = '"' :: inside := rfl
  rw [hquote, fields?, hmark]
  change (Quoted.decode? inside).bind _ = _
  rw [hkey]
  rfl

theorem fields?_last {key : String} {value : Json}
    (hvalue : value? calls depth text = some (value, '\x7d' :: rest)) :
    fields? (calls + 1) depth ((quote key).toList ++ ':' :: text) =
      some ([(key, value)], rest) := by
  rw [fields?_key, hvalue]
  rfl

theorem fields?_next {key : String} {value : Json} {fields : List (String × Json)}
    (hvalue : value? calls depth text = some (value, ',' :: text'))
    (hfields : fields? calls depth text' = some (fields, rest)) :
    fields? (calls + 1) depth ((quote key).toList ++ ':' :: text) =
      some ((key, value) :: fields, rest) := by
  have hnext : fields? (calls + 1) depth ((quote key).toList ++ ':' :: text) = (do
      let (fields, rest) ← fields? calls depth text'
      return ((key, value) :: fields, rest)) := by
    rw [fields?_key, hvalue]
    rfl
  rw [hnext, hfields]
  rfl

end Reader

open Reader

/-- Nothing that stands for data begins with a closing mark. -/
theorem Written.head {depth : Nat} {phrase : Phrase} {text : List Char}
    (h : Written depth phrase text) :
    ∃ c rest, dropBlanks text = c :: rest ∧ c ≠ ']' ∧ c ≠ '\x7d' := by
  induction h with
  | null | true | false | noItems | noFields => exact ⟨_, _, rfl, by decide, by decide⟩
  | int h =>
    obtain ⟨c, text, htext, hc⟩ := NumberText.head_toString _
    refine ⟨c, text, by rw [htext, dropBlanks_numeric hc], ?_, ?_⟩
    all_goals
      rintro rfl
      exact absurd hc (by decide)
  | string s =>
    obtain ⟨text, htext, -⟩ := decode?_quote s []
    rw [List.append_nil] at htext
    exact ⟨'"', text, by rw [htext]; rfl, by decide, by decide⟩
  | array | object => exact ⟨_, _, rfl, by decide, by decide⟩
  | lastItem _ ih | item _ _ ih _ =>
    obtain ⟨c, rest, hrest, hc⟩ := ih
    exact ⟨c, _, dropBlanks_append hrest _, hc⟩
  | lastField key | field key =>
    obtain ⟨text, htext, -⟩ := decode?_quote key _
    exact ⟨'"', text, by rw [htext]; rfl, by decide, by decide⟩
  | blank hc _ ih =>
    rw [dropBlanks_blank hc]
    exact ih

/-! ## Reading -/

/-- The entry of the reader for a phrase reads it off the front of a text. -/
def Phrase.Reads (calls depth : Nat) (text rest : List Char) : Phrase → Prop
  | .value json => value? calls depth text = some (json, rest)
  | .items list => items? calls depth text = some (list, rest)
  | .fields list => Reader.fields? calls depth text = some (list, rest)

theorem Phrase.reads_blank {calls depth : Nat} {c : Char} {text rest : List Char} {phrase : Phrase}
    (hc : isBlank c = true) (h : phrase.Reads calls depth text rest) :
    phrase.Reads calls depth (c :: text) rest := by
  cases phrase with
  | value json =>
    rw [Reads, ← value?_dropBlanks, dropBlanks_blank hc, value?_dropBlanks]
    exact h
  | items list =>
    rw [Reads, ← items?_dropBlanks, dropBlanks_blank hc, items?_dropBlanks]
    exact h
  | fields list =>
    rw [Reads, ← fields?_dropBlanks, dropBlanks_blank hc, fields?_dropBlanks]
    exact h

/-- What ends a number: a comma or a closing mark. -/
theorem ends_mark {c : Char} (hc : c = ',' ∨ c = ']' ∨ c = '\x7d') (rest : List Char) :
    Ends (c :: rest) := by
  rcases hc with rfl | rfl | rfl <;>
    exact NumberText.ends_cons rfl (by decide) (by decide) (by decide)

/-- **The reader reads what is written**, whatever follows, unless a number is to be read with which
that goes on. -/
theorem Written.reads {depth : Nat} {phrase : Phrase} {text : List Char}
    (h : Written depth phrase text) {calls : Nat} (hcalls : text.length ≤ calls)
    {rest : List Char} (hrest : Ends rest) :
    phrase.Reads (calls + 1) depth (text ++ rest) rest := by
  induction h generalizing calls rest with
  | null | true | false | noItems | noFields => rfl
  | @int depth n h =>
    obtain ⟨c, text, htext, hc⟩ := NumberText.head_toString n
    have hscan := NumberText.scan?_toString n hrest
    change value? (calls + 1) depth ((toString n).toList ++ rest) = some (.int n, rest)
    rw [htext, List.cons_append] at hscan ⊢
    rw [value?_numeric hc, hscan]
    simp only [Option.bind_eq_bind, Option.bind_some, NumberText.value?_ofInt h, Option.pure_def]
  | @string depth s =>
    obtain ⟨text, htext, hdecode⟩ := decode?_quote s rest
    have hvalue : value? (calls + 1) depth ('"' :: text) =
      (Quoted.decode? text).map fun read => (.string (String.ofList read.1), read.2) := rfl
    change value? (calls + 1) depth ((quote s).toList ++ rest) = some (.string s, rest)
    rw [htext, hvalue, hdecode, Option.map_some]
    simp only [String.ofList_toList]
  | @array depth items text h ih =>
    obtain ⟨c, more, hmore, hc, -⟩ := h.head
    rw [List.length_cons] at hcalls
    obtain ⟨calls, rfl⟩ : ∃ k, calls = k + 1 := ⟨calls - 1, by omega⟩
    have hitems : items? (calls + 1) depth (text ++ rest) = some (items, rest) :=
      ih (by omega) hrest
    change value? (calls + 1 + 1) (depth + 1) ('[' :: (text ++ rest)) = some (.array items, rest)
    rw [value?_bracket (dropBlanks_append hmore rest) hc, hitems]
    rfl
  | @object depth fields text h ih =>
    obtain ⟨c, more, hmore, -, hc⟩ := h.head
    rw [List.length_cons] at hcalls
    obtain ⟨calls, rfl⟩ : ∃ k, calls = k + 1 := ⟨calls - 1, by omega⟩
    have hfields : Reader.fields? (calls + 1) depth (text ++ rest) = some (fields, rest) :=
      ih (by omega) hrest
    change value? (calls + 1 + 1) (depth + 1) ('\x7b' :: (text ++ rest)) =
      some (ofFields fields, rest)
    rw [value?_brace (dropBlanks_append hmore rest) hc, hfields]
    rfl
  | @lastItem depth item text h ih =>
    rw [List.length_append, List.length_singleton] at hcalls
    obtain ⟨calls, rfl⟩ : ∃ k, calls = k + 1 := ⟨calls - 1, by omega⟩
    have hitem : value? (calls + 1) depth (text ++ ']' :: rest) = some (item, ']' :: rest) :=
      ih (by omega) (ends_mark (.inr (.inl rfl)) rest)
    rw [List.append_assoc]
    exact items?_last hitem
  | @item depth item items text more h hmore ih ihmore =>
    rw [List.length_append, List.length_cons] at hcalls
    obtain ⟨calls, rfl⟩ : ∃ k, calls = k + 1 := ⟨calls - 1, by omega⟩
    have hitem : value? (calls + 1) depth (text ++ ',' :: (more ++ rest)) =
        some (item, ',' :: (more ++ rest)) := ih (by omega) (ends_mark (.inl rfl) _)
    have hitems : items? (calls + 1) depth (more ++ rest) = some (items, rest) :=
      ihmore (by omega) hrest
    rw [List.append_assoc]
    exact items?_next hitem hitems
  | @lastField depth value text key h ih =>
    simp only [List.length_append, List.length_cons, List.length_nil] at hcalls
    obtain ⟨calls, rfl⟩ : ∃ k, calls = k + 1 := ⟨calls - 1, by omega⟩
    have hvalue : value? (calls + 1) depth (text ++ '\x7d' :: rest) =
        some (value, '\x7d' :: rest) := ih (by omega) (ends_mark (.inr (.inr rfl)) rest)
    simp only [List.append_assoc, List.cons_append]
    exact fields?_last hvalue
  | @field depth value fields text more key h hmore ih ihmore =>
    simp only [List.length_append, List.length_cons] at hcalls
    obtain ⟨calls, rfl⟩ : ∃ k, calls = k + 1 := ⟨calls - 1, by omega⟩
    have hvalue : value? (calls + 1) depth (text ++ ',' :: (more ++ rest)) =
        some (value, ',' :: (more ++ rest)) := ih (by omega) (ends_mark (.inl rfl) _)
    have hfields : Reader.fields? (calls + 1) depth (more ++ rest) = some (fields, rest) :=
      ihmore (by omega) hrest
    simp only [List.append_assoc, List.cons_append]
    exact fields?_next hvalue hfields
  | blank hc _ ih =>
    rw [List.length_cons] at hcalls
    exact Phrase.reads_blank hc (ih (by omega) hrest)

/-- A text that stands for data is read as them. -/
theorem Written.parseWithin? {depth : Nat} {json : Json} {text : String}
    (h : Written depth (.value json) text.toList) : parseWithin? depth text = some json := by
  have hread : value? (callsFor text.toList) depth text.toList = some (json, []) := by
    have hreads : value? (2 * text.toList.length + 1 + 1) depth (text.toList ++ []) =
      some (json, []) := h.reads (by omega) NumberText.ends_nil
    rwa [List.append_nil] at hreads
  rw [Json.parseWithin?, hread]
  rfl

end ScriptBridge.Json
