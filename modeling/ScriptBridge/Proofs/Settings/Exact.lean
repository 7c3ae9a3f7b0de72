import ScriptBridge.Proofs.Data.Passed
import ScriptBridge.Settings.Reader

/-!
# Where a setting ends

A setting is read off the front of a text that goes on. It takes the value that stands there whole
or not at all, and what follows has no say in that; so the settings of a record can be looked at
one by one, each as if nothing followed it. That a setting admits only its own form of value does
not matter here: of a value in another form it takes nothing.
-/

namespace ScriptBridge.Settings

open Json
open Json.NumberText (Ends)
open Json.Reader (isBlank dropBlanks dropBlanks_dropBlanks dropBlanks_append dropBlanks_numeric
  Numeric length_dropBlanks skip?)

variable {α β γ : Type}

/-- Of a value, all is read or nothing, whatever follows. -/
def Exact (read? : List Char → Option (β × List Char)) : Prop :=
  ∀ ⦃text rest : List Char⦄, Begins .value text rest → ∃ value? : Option β,
    ∀ {more : List Char}, (rest = [] → Ends more) →
      read? (text ++ more) = value?.map fun value ↦ (value, rest ++ more)

/-- A value that ends where its text ends is read as if nothing followed it. -/
theorem Exact.append {read? : List Char → Option (β × List Char)} (h : Exact read?)
    {text more : List Char} (htext : IsText text) (hmore : Ends more) :
    read? (text ++ more) = (read? text).map fun read ↦ (read.1, more) := by
  obtain ⟨value?, hvalue⟩ := h htext
  have hwhole := hvalue fun _ ↦ NumberText.ends_nil
  rw [List.append_nil] at hwhole
  rw [hvalue fun _ ↦ hmore, hwhole, Option.map_map]
  rfl

theorem Exact.map {read? : List Char → Option (β × List Char)} (h : Exact read?) (f : β → γ) :
    Exact fun text ↦ (read? text).map fun read ↦ (f read.1, read.2) := by
  intro text rest hbegins
  obtain ⟨value?, hvalue⟩ := h hbegins
  refine ⟨value?.map f, fun hmore ↦ ?_⟩
  simp only [hvalue hmore, Option.map_map]
  rfl

theorem exact_skip? : Exact fun text ↦ (skip? text).map fun rest ↦ ((), rest) := by
  intro text rest hbegins
  refine ⟨some (), fun hmore ↦ ?_⟩
  simp only [(hbegins.append hmore).skip?, Option.map_some]

/-- A reader that leaves out blanks need only be looked at where there are none. -/
theorem exact_of_unblanked {read? : List Char → Option (β × List Char)}
    (hread : ∀ text, read? (dropBlanks text) = read? text)
    (h : ∀ ⦃text rest : List Char⦄, Begins .value text rest → dropBlanks text = text →
      ∃ value? : Option β, ∀ {more : List Char}, (rest = [] → Ends more) →
        read? (text ++ more) = value?.map fun value ↦ (value, rest ++ more)) :
    Exact read? := by
  intro text rest hbegins
  obtain ⟨c, tail, hhead, -⟩ := hbegins.head
  obtain ⟨value?, hvalue⟩ := h hbegins.unblanked (dropBlanks_dropBlanks text)
  refine ⟨value?, fun {more} hmore ↦ ?_⟩
  rw [← hread, dropBlanks_append hhead, ← hvalue hmore, hhead]
  rfl

theorem not_blank_of_dropBlanks {c : Char} {text : List Char}
    (h : dropBlanks (c :: text) = c :: text) : isBlank c ≠ true := by
  intro hc
  rw [Reader.dropBlanks_blank hc] at h
  exact absurd (length_dropBlanks h) (Nat.not_succ_le_self _)

/-! ## The kinds of setting -/

theorem text?_dropBlanks (text : List Char) : text? (dropBlanks text) = text? text := by
  rw [text?, text?, dropBlanks_dropBlanks]

theorem flag?_dropBlanks (text : List Char) : flag? (dropBlanks text) = flag? text := by
  rw [flag?, flag?, dropBlanks_dropBlanks]

theorem limit?_dropBlanks (text : List Char) : limit? (dropBlanks text) = limit? text := by
  rw [limit?, limit?, dropBlanks_dropBlanks]

theorem text?_numeric {c : Char} (hc : Numeric c) (text : List Char) :
    text? (c :: text) = none := by
  rw [text?, dropBlanks_numeric hc]
  split
  · next heq =>
    obtain ⟨rfl, -⟩ := List.cons.inj heq
    exact absurd hc (by unfold Numeric; decide)
  · rfl

theorem flag?_numeric {c : Char} (hc : Numeric c) (text : List Char) :
    flag? (c :: text) = none := by
  rw [flag?, dropBlanks_numeric hc]
  split
  case h_3 => rfl
  all_goals
    next heq =>
    obtain ⟨rfl, -⟩ := List.cons.inj heq
    exact absurd hc (by unfold Numeric; decide)

theorem limit?_numeric {c : Char} (hc : Numeric c) (text : List Char) :
    limit? (c :: text) = (do
      let (number, rest) ← NumberText.scan? (c :: text)
      let n ← plainNatural? number
      return (some n, rest)) := by
  rw [limit?, dropBlanks_numeric hc]
  split
  · next heq =>
    obtain ⟨rfl, -⟩ := List.cons.inj heq
    exact absurd hc (by unfold Numeric; decide)
  · rfl

theorem exact_text? : Exact text? := by
  refine exact_of_unblanked text?_dropBlanks ?_
  intro text rest h hdropped
  cases h with
  | null | true | false | noItems | array | noMembers | object => exact ⟨none, fun _ ↦ rfl⟩
  | number h _ =>
    obtain ⟨c, more, rfl, hc⟩ := h.head
    exact ⟨none, fun _ ↦ text?_numeric hc _⟩
  | @string body _ h =>
    obtain ⟨read?, hread⟩ := h.decode?_append
    refine ⟨read?.map String.ofList, fun {more} _ ↦ ?_⟩
    change (Quoted.decode? ((body ++ '"' :: rest) ++ more)).map _ = _
    rw [List.append_assoc, List.cons_append, hread, Option.map_map, Option.map_map]
    rfl
  | blank hc => exact absurd hc (not_blank_of_dropBlanks hdropped)

theorem exact_flag? : Exact flag? := by
  refine exact_of_unblanked flag?_dropBlanks ?_
  intro text rest h hdropped
  cases h with
  | true => exact ⟨some true, fun _ ↦ rfl⟩
  | false => exact ⟨some false, fun _ ↦ rfl⟩
  | null | string | noItems | array | noMembers | object => exact ⟨none, fun _ ↦ rfl⟩
  | number h _ =>
    obtain ⟨c, more, rfl, hc⟩ := h.head
    exact ⟨none, fun _ ↦ flag?_numeric hc _⟩
  | blank hc => exact absurd hc (not_blank_of_dropBlanks hdropped)

theorem exact_limit? : Exact limit? := by
  refine exact_of_unblanked limit?_dropBlanks ?_
  intro text rest h hdropped
  cases h with
  | null => exact ⟨some none, fun _ ↦ rfl⟩
  | true | false | string | noItems | array | noMembers | object => exact ⟨none, fun _ ↦ rfl⟩
  | number h hrest =>
    obtain ⟨number, hscan⟩ := NumberText.scan?_append h
    refine ⟨(plainNatural? number).map some, fun {more} hmore ↦ ?_⟩
    have hscan := hscan (Ends.append hrest hmore)
    obtain ⟨c, digits, rfl, hc⟩ := h.head
    rw [List.append_assoc, List.cons_append, limit?_numeric hc, ← List.cons_append, hscan]
    simp only [Option.bind_eq_bind, Option.bind_some]
    cases plainNatural? number <;> rfl
  | blank hc => exact absurd hc (not_blank_of_dropBlanks hdropped)

/-! ## Records -/

/-- Takes the value behind a key into a record, given the known keys so far. -/
def taken? (fields : List (String × Field α)) (key : String) (seen : List String) (record : α)
    (text : List Char) : Option ((α × List String) × List Char) :=
  match fields.find? fun field ↦ field.1 = key with
  | some field =>
    if seen.contains key then none
    else (field.2 record text).map fun read ↦ ((read.1, key :: seen), read.2)
  | none => (skip? text).map fun rest ↦ ((record, seen), rest)

/-- Goes on behind a value that was taken. -/
def goOn? (fields : List (String × Field α)) (calls : Nat)
    (taken : (α × List String) × List Char) : Option (α × List Char) :=
  match dropBlanks taken.2 with
  | '\x7d' :: rest => some (taken.1.1, rest)
  | ',' :: rest => members? fields calls taken.1.2 taken.1.1 rest
  | _ => none

variable {fields : List (String × Field α)} {key : String} {seen : List String} {record : α}

theorem exact_taken? (hfields : ∀ field ∈ fields, ∀ record, Exact (field.2 record)) :
    Exact (taken? fields key seen record) := by
  cases hfind : fields.find? fun field ↦ field.1 = key with
  | none =>
    have hskip := exact_skip?.map fun _ ↦ (record, seen)
    simp only [Option.map_map] at hskip
    unfold taken?
    simp only [hfind]
    exact hskip
  | some field =>
    have hfield := (hfields field (List.mem_of_find?_eq_some hfind) record).map
      fun record ↦ (record, key :: seen)
    unfold taken?
    simp only [hfind]
    split
    · exact fun _ _ _ ↦ ⟨none, fun _ ↦ rfl⟩
    · exact hfield

variable {calls : Nat} {text after rest : List Char}

theorem members?_eq {chars between : List Char} (hkey : text? chars = some (key, between))
    (hcolon : dropBlanks between = ':' :: text) :
    members? fields (calls + 1) seen record chars =
      (taken? fields key seen record text).bind (goOn? fields calls) := by
  simp only [members?, hkey, hcolon, Option.bind_eq_bind, Option.bind_some, taken?]
  cases fields.find? fun field ↦ field.1 = key with
  | none => cases skip? text <;> rfl
  | some field =>
    by_cases hseen : seen.contains key = true
    · simp only [hseen, if_true]
      rfl
    · simp only [hseen, Bool.false_eq_true, if_false]
      cases field.2 record text <;> rfl

theorem members?_dropBlanks (calls : Nat) (seen : List String) (record : α) (chars : List Char) :
    members? fields calls seen record (dropBlanks chars) =
      members? fields calls seen record chars := by
  cases calls with
  | zero => rfl
  | succ calls => rw [members?, members?, text?_dropBlanks]

theorem goOn?_close (hclose : dropBlanks after = '\x7d' :: rest) (taken : α × List String) :
    goOn? fields calls (taken, after) = some (taken.1, rest) := by
  simp only [goOn?, hclose]

theorem goOn?_next (hnext : dropBlanks after = ',' :: rest) (taken : α × List String) :
    goOn? fields calls (taken, after) = members? fields calls taken.2 taken.1 rest := by
  simp only [goOn?, hnext]

section

variable (hfields : ∀ field ∈ fields, ∀ record, Exact (field.2 record))
include hfields

theorem members?_member {key between : List Char} (hkey : Quoted.IsBody key)
    (hcolon : dropBlanks between = ':' :: text) (h : Begins .value text after)
    (hafter : after ≠ []) (seen : List String) (record : α) :
    ∃ taken? : Option (α × List String), ∀ {more : List Char} {calls : Nat},
      members? fields (calls + 1) seen record ('"' :: (key ++ '"' :: between) ++ more) =
        taken?.bind fun taken ↦ goOn? fields calls (taken, after ++ more) := by
  -- the marks of a key may hold what is no text; then no member is read, whatever follows
  obtain ⟨read?, hread⟩ := hkey.decode?_append
  have htext : ∀ more, text? ('"' :: (key ++ '"' :: between) ++ more) =
      read?.map fun read ↦ (String.ofList read, between ++ more) := by
    intro more
    change (Quoted.decode? ((key ++ '"' :: between) ++ more)).map _ = _
    rw [List.append_assoc, List.cons_append, hread, Option.map_map]
    rfl
  cases read? with
  | none =>
    refine ⟨none, fun {more calls} ↦ ?_⟩
    simp only [members?, htext more]
    rfl
  | some read =>
    have htake : Exact (taken? fields (String.ofList read) seen record) := exact_taken? hfields
    obtain ⟨taken?, htaken⟩ := htake h
    refine ⟨taken?, fun {more calls} ↦ ?_⟩
    rw [members?_eq (htext more) (dropBlanks_append hcolon more),
      htaken fun hnil ↦ absurd hnil hafter]
    cases taken? <;> rfl

/-- Members are read or not, whatever follows the brace. How many calls are left does not matter
either, while there is one for each character. -/
theorem members?_append (h : Begins .members text rest) (seen : List String) (record : α) :
    ∃ value? : Option α, ∀ {more : List Char} {calls : Nat}, text.length ≤ calls →
      members? fields calls seen record (text ++ more) =
        value?.map fun value ↦ (value, rest ++ more) := by
  generalize hpart : Part.members = part at h
  induction h generalizing seen record with
  | null | true | false | number | string | noItems | array | noMembers | object | lastItem
  | item => cases hpart
  | lastMember hkey hcolon h hclose _ =>
    obtain ⟨taken?, htaken⟩ :=
      members?_member hfields hkey hcolon h (ne_nil_of_dropBlanks hclose) seen record
    refine ⟨taken?.map Prod.fst, fun {more calls} hcalls ↦ ?_⟩
    obtain ⟨calls, rfl⟩ := Nat.exists_eq_succ_of_ne_zero (Nat.ne_zero_of_lt hcalls)
    rw [htaken]
    cases taken? with
    | none => rfl
    | some taken => exact goOn?_close (dropBlanks_append hclose more) taken
  | member hkey hcolon h hnext hmore _ ih =>
    obtain ⟨taken?, htaken⟩ :=
      members?_member hfields hkey hcolon h (ne_nil_of_dropBlanks hnext) seen record
    cases taken? with
    | none =>
      refine ⟨none, fun {more calls} hcalls ↦ ?_⟩
      obtain ⟨calls, rfl⟩ := Nat.exists_eq_succ_of_ne_zero (Nat.ne_zero_of_lt hcalls)
      exact htaken
    | some taken =>
      obtain ⟨value?, hvalue⟩ := ih taken.2 taken.1 rfl
      refine ⟨value?, fun {more calls} hcalls ↦ ?_⟩
      obtain ⟨calls, rfl⟩ := Nat.exists_eq_succ_of_ne_zero (Nat.ne_zero_of_lt hcalls)
      rw [htaken, Option.bind_some, goOn?_next (dropBlanks_append hnext more)]
      refine hvalue ?_
      have hbetween := length_dropBlanks hcolon
      have hvalueText := h.length_le
      have hafter := length_dropBlanks hnext
      simp only [List.length_cons, List.length_append] at hcalls
      omega
  | @blank part c text rest hc h ih =>
    obtain ⟨value?, hvalue⟩ := ih seen record hpart
    refine ⟨value?, fun {more calls} hcalls ↦ ?_⟩
    rw [List.cons_append, ← members?_dropBlanks, Reader.dropBlanks_blank hc, members?_dropBlanks]
    exact hvalue (Nat.le_of_succ_le hcalls)

end

/-- The first item is a value. -/
theorem exists_first_item (h : Begins .items text rest) :
    ∃ after, Begins .value text after ∧ (dropBlanks after = ']' :: rest ∨
      ∃ more, dropBlanks after = ',' :: more ∧ Begins .items more rest) := by
  generalize hpart : Part.items = part at h
  induction h with
  | null | true | false | number | string | noItems | array | noMembers | object | lastMember
  | member => cases hpart
  | lastItem h hclose _ => exact ⟨_, h, .inl hclose⟩
  | item h hnext hmore _ _ => exact ⟨_, h, .inr ⟨_, hnext, hmore⟩⟩
  | blank hc _ ih =>
    subst hpart
    obtain ⟨after, h, hafter⟩ := ih rfl
    exact ⟨after, .blank hc h, hafter⟩

/-- Items are read or not, whatever follows the bracket. -/
theorem items?_append (hfields : ∀ field ∈ fields, ∀ record, Exact (field.2 record))
    (h : Begins .items text rest) (record : α) :
    ∃ value? : Option α, ∀ {more : List Char},
      items? fields record (text ++ more) = value?.map fun value ↦ (value, rest ++ more) := by
  -- on the fields, which may outlast the items
  induction fields generalizing text record with
  | nil => exact ⟨none, rfl⟩
  | cons field fields ih =>
    obtain ⟨hfield, hfields⟩ := List.forall_mem_cons.mp hfields
    obtain ⟨after, hvalue, hafter⟩ := exists_first_item h
    obtain ⟨value?, hread⟩ := hfield record hvalue
    have hne : after ≠ [] := by
      rcases hafter with hclose | ⟨more, hnext, -⟩
      · exact ne_nil_of_dropBlanks hclose
      · exact ne_nil_of_dropBlanks hnext
    have hread : ∀ more, field.2 record (text ++ more) =
      value?.map fun value ↦ (value, after ++ more) := fun _ ↦ hread fun hnil ↦ absurd hnil hne
    cases value? with
    | none =>
      refine ⟨none, fun {more} ↦ ?_⟩
      simp only [items?, hread more]
      rfl
    | some value =>
      rcases hafter with hclose | ⟨next, hnext, hitems⟩
      · refine ⟨some value, fun {more} ↦ ?_⟩
        simp only [items?, hread more, Option.map_some, Option.bind_eq_bind, Option.bind_some,
          dropBlanks_append hclose more]
      · obtain ⟨value?, hrest⟩ := ih hfields hitems value
        refine ⟨value?, fun {more} ↦ ?_⟩
        simp only [items?, hread more, Option.map_some, Option.bind_eq_bind, Option.bind_some,
          dropBlanks_append hnext more, hrest]

theorem record?_noItems (defaults : α) (hclose : dropBlanks text = ']' :: rest) :
    record? fields defaults ('[' :: text) = some (defaults, rest) := by
  have hmark : dropBlanks ('[' :: text) = '[' :: text := rfl
  simp only [record?, hmark, hclose]

theorem record?_noMembers (defaults : α) (hclose : dropBlanks text = '\x7d' :: rest) :
    record? fields defaults ('\x7b' :: text) = some (defaults, rest) := by
  have hmark : dropBlanks ('\x7b' :: text) = '\x7b' :: text := rfl
  simp only [record?, hmark, hclose]

theorem record?_bracket {c : Char} (defaults : α) (htext : dropBlanks text = c :: rest)
    (hc : c ≠ ']') :
    record? fields defaults ('[' :: text) = items? fields defaults (dropBlanks text) := by
  have hmark : dropBlanks ('[' :: text) = '[' :: text := rfl
  rw [record?, hmark]
  simp only [htext]
  split
  · next heq => exact absurd (List.cons.inj heq).1 hc
  · rfl

theorem record?_brace {c : Char} (defaults : α) (htext : dropBlanks text = c :: rest)
    (hc : c ≠ '\x7d') :
    record? fields defaults ('\x7b' :: text) =
      members? fields ((dropBlanks text).length + 1) [] defaults (dropBlanks text) := by
  have hmark : dropBlanks ('\x7b' :: text) = '\x7b' :: text := rfl
  rw [record?, hmark]
  simp only [htext]
  split
  · next heq => exact absurd (List.cons.inj heq).1 hc
  · rfl

theorem record?_dropBlanks (defaults : α) (text : List Char) :
    record? fields defaults (dropBlanks text) = record? fields defaults text := by
  rw [record?, record?, dropBlanks_dropBlanks]

theorem record?_numeric {c : Char} (hc : Numeric c) (defaults : α) (text : List Char) :
    record? fields defaults (c :: text) = none := by
  rw [record?, dropBlanks_numeric hc]
  split
  case h_3 => rfl
  all_goals
    next heq =>
    obtain ⟨rfl, -⟩ := List.cons.inj heq
    exact absurd hc (by unfold Numeric; decide)

/-- **A record ends where its text ends**, if that holds of its fields. -/
theorem exact_record? (hfields : ∀ field ∈ fields, ∀ record, Exact (field.2 record))
    (defaults : α) : Exact (record? fields defaults) := by
  refine exact_of_unblanked (record?_dropBlanks defaults) ?_
  intro text rest h hdropped
  cases h with
  | null | true | false | string => exact ⟨none, fun _ ↦ rfl⟩
  | number h _ =>
    obtain ⟨c, more, rfl, hc⟩ := h.head
    exact ⟨none, fun _ ↦ record?_numeric hc _ _⟩
  | noItems h =>
    refine ⟨some defaults, fun {more} _ ↦ ?_⟩
    rw [List.cons_append, record?_noItems defaults (dropBlanks_append h more)]
    rfl
  | array h =>
    obtain ⟨c, tail, hhead, hc, -⟩ := h.head
    obtain ⟨value?, hvalue⟩ := items?_append hfields h.unblanked defaults
    refine ⟨value?, fun {more} _ ↦ ?_⟩
    rw [List.cons_append, record?_bracket defaults (dropBlanks_append hhead more) hc,
      dropBlanks_append hhead, ← hvalue, hhead]
    rfl
  | noMembers h =>
    refine ⟨some defaults, fun {more} _ ↦ ?_⟩
    rw [List.cons_append, record?_noMembers defaults (dropBlanks_append h more)]
    rfl
  | object h =>
    obtain ⟨c, tail, hhead, -, hc⟩ := h.head
    obtain ⟨value?, hvalue⟩ := members?_append hfields h.unblanked [] defaults
    refine ⟨value?, fun {more} _ ↦ ?_⟩
    rw [List.cons_append, record?_brace defaults (dropBlanks_append hhead more) hc]
    rw [hhead] at hvalue
    rw [dropBlanks_append hhead]
    refine hvalue ?_
    simp only [List.length_cons, List.length_append]
    omega
  | blank hc => exact absurd hc (not_blank_of_dropBlanks hdropped)

end ScriptBridge.Settings
