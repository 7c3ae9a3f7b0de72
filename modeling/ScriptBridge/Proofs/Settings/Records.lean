import ScriptBridge.Proofs.Data.Objects
import ScriptBridge.Proofs.Settings.Exact

/-!
# Records from objects

Reading a record off an object comes to taking its members one after another, whatever blanks stand
between them and however their keys are spelled. What is left to say about a record is then said
about lists of members: a key that is not known changes nothing, a known one is taken once, and
each part of a record is looked for under its own key.
-/

namespace ScriptBridge.Settings

open Json
open Json.Reader (dropBlanks)

variable {α β : Type}

/-- Takes a member into a record, which comes with the known keys so far. -/
def takeMember? (fields : List (String × Field α)) (taken : α × List String)
    (member : MemberText) : Option (α × List String) :=
  (taken? fields member.key taken.2 taken.1 member.value).map Prod.fst

/-- The record that an object gives. -/
def given? (fields : List (String × Field α)) (defaults : α) (object : ObjectText) : Option α :=
  (object.members.foldlM (takeMember? fields) (defaults, [])).map Prod.fst

variable {fields : List (String × Field α)}

/-! ## From the text to its members -/

theorem text?_member (member : MemberText) (more : List Char) :
    text? (member.text ++ more) =
      some (member.key, member.between ++ ':' :: (member.value ++ (member.after ++ more))) := by
  rw [MemberText.text_append, text?, Reader.dropBlanks_blank_append member.blank_before]
  change (Quoted.decode? (member.spelled ++ '"' :: _)).map _ = _
  rw [member.spells.decode?_append, Option.map_some]
  simp only [String.ofList_toList]

section

variable (hfields : ∀ field ∈ fields, ∀ record, Exact (field.2 record))
include hfields

/-- Members are taken one after another. -/
theorem members?_texts (member : MemberText) (members : List MemberText) {calls : Nat}
    (hcalls : members.length < calls) (record : α) (seen : List String) (rest : List Char) :
    members? fields calls seen record (member.text ++ (MemberText.texts members ++ rest)) =
      ((member :: members).foldlM (takeMember? fields) (record, seen)).map
        fun taken ↦ (taken.1, rest) := by
  induction members generalizing member calls record seen with
  | nil =>
    obtain ⟨calls, rfl⟩ := Nat.exists_eq_succ_of_ne_zero (Nat.ne_zero_of_lt hcalls)
    rw [members?_eq (text?_member member _) (member.dropBlanks_between _),
      (exact_taken? hfields).append member.isText (member.ends_after []), List.foldlM_cons,
      takeMember?]
    cases taken? fields member.key seen record member.value with
    | none => rfl
    | some taken => exact goOn?_close (member.dropBlanks_last rest) taken.1
  | cons next members ih =>
    obtain ⟨calls, rfl⟩ := Nat.exists_eq_succ_of_ne_zero (Nat.ne_zero_of_lt hcalls)
    rw [members?_eq (text?_member member _) (member.dropBlanks_between _),
      (exact_taken? hfields).append member.isText (member.ends_after _), List.foldlM_cons,
      takeMember?]
    cases taken? fields member.key seen record member.value with
    | none => rfl
    | some taken =>
      exact (goOn?_next (member.dropBlanks_next members next rest) taken.1).trans
        (ih next (Nat.lt_of_succ_lt_succ hcalls) taken.1.1 taken.1.2)

/-- **An object gives the record that its members give**, and its text is read to the end. -/
theorem record?_object (defaults : α) (object : ObjectText) (rest : List Char) :
    record? fields defaults (object.text ++ rest) =
      (given? fields defaults object).map fun record ↦ (record, rest) := by
  cases hmembers : object.members with
  | nil =>
    have hclose := Reader.dropBlanks_blank_append object.blank_inside ('\x7d' :: rest)
    rw [object.text_append_of_nil hmembers, record?_noMembers defaults hclose, given?, hmembers]
    rfl
  | cons member members =>
    rw [object.text_append_of_cons hmembers]
    obtain ⟨tail, hhead, hlength⟩ : ∃ tail, dropBlanks (member.text ++
        (MemberText.texts members ++ rest)) = '"' :: tail ∧ members.length ≤ tail.length := by
      rw [MemberText.text_append, Reader.dropBlanks_blank_append member.blank_before]
      refine ⟨_, rfl, ?_⟩
      have htexts := MemberText.length_le_texts members
      simp only [List.length_append, List.length_cons]
      omega
    rw [record?_brace defaults hhead (by decide), members?_dropBlanks,
      members?_texts hfields member members, given?, hmembers, Option.map_map]
    · rfl
    · rw [hhead, List.length_cons]
      omega

end

/-! ## Which keys there are -/

section

variable {key : String} {member : MemberText} {members : List MemberText}
  {taken taken' : α × List String}

/-- What it is to take a member. -/
theorem takeMember?_cases (h : takeMember? fields taken member = some taken') :
    (member.key ∉ fields.map Prod.fst ∧ taken' = taken) ∨
      ∃ field ∈ fields, field.1 = member.key ∧ member.key ∉ taken.2 ∧
        ∃ rest, field.2 taken.1 member.value = some (taken'.1, rest) ∧
          taken'.2 = member.key :: taken.2 := by
  unfold takeMember? taken? at h
  cases hfind : fields.find? fun field ↦ field.1 = member.key with
  | none =>
    simp only [hfind, member.isText.skip?, Option.map_some, Option.some.injEq] at h
    refine .inl ⟨fun hmem ↦ ?_, h.symm⟩
    obtain ⟨field, hfield, hkey⟩ := List.mem_map.mp hmem
    exact List.find?_eq_none.mp hfind field hfield (decide_eq_true hkey)
  | some field =>
    simp only [hfind, List.contains_iff_mem] at h
    split at h
    · cases h
    next hnew =>
    cases hread : field.2 taken.1 member.value with
    | none =>
      rw [hread] at h
      cases h
    | some read =>
      rw [hread] at h
      cases h
      exact .inr ⟨field, List.mem_of_find?_eq_some hfind,
        of_decide_eq_true (List.find?_some hfind :), hnew, _, hread, rfl⟩

/-- A member is taken if its key is not known, or new with a value that is read. -/
theorem takeMember?_isSome (hnew : member.key ∈ fields.map Prod.fst → member.key ∉ taken.2)
    (hread : ∀ field ∈ fields, field.1 = member.key →
      (field.2 taken.1 member.value).isSome = true) :
    (takeMember? fields taken member).isSome = true := by
  unfold takeMember? taken?
  cases hfind : fields.find? fun field ↦ field.1 = member.key with
  | none => simp only [member.isText.skip?, Option.map_some, Option.isSome_some]
  | some field =>
    have hfield := List.mem_of_find?_eq_some hfind
    have hkey : field.1 = member.key := of_decide_eq_true (List.find?_some hfind :)
    have hnew := hnew (List.mem_map.mpr ⟨field, hfield, hkey⟩)
    simp only [List.contains_iff_mem, hnew, if_false, Option.isSome_map]
    exact hread field hfield hkey

/-- A known key that has been taken is not taken again. -/
theorem foldlM_takeMember?_of_seen (hknown : key ∈ fields.map Prod.fst) (hseen : key ∈ taken.2)
    (hkeys : key ∈ members.map (·.key)) : members.foldlM (takeMember? fields) taken = none := by
  induction members generalizing taken with
  | nil => cases hkeys
  | cons member members ih =>
    rw [List.foldlM_cons]
    cases htake : takeMember? fields taken member with
    | none => rfl
    | some taken' =>
      rcases takeMember?_cases htake with ⟨hother, rfl⟩ | ⟨_, _, _, hnew, _, _, hseen'⟩
      · have hne : key ≠ member.key := fun heq ↦ hother (heq ▸ hknown)
        exact ih hseen ((List.mem_cons.mp hkeys).resolve_left hne)
      · have hne : key ≠ member.key := fun heq ↦ hnew (heq ▸ hseen)
        exact ih (hseen' ▸ List.mem_cons_of_mem _ hseen)
          ((List.mem_cons.mp hkeys).resolve_left hne)

/-- A known key that stands twice stops the members from being taken. -/
theorem foldlM_takeMember?_of_count (hknown : key ∈ fields.map Prod.fst)
    (hcount : 1 < (members.map (·.key)).count key) :
    members.foldlM (takeMember? fields) taken = none := by
  induction members generalizing taken with
  | nil => cases hcount
  | cons member members ih =>
    rw [List.foldlM_cons]
    cases htake : takeMember? fields taken member with
    | none => rfl
    | some taken' =>
      rw [List.map_cons] at hcount
      by_cases hkey : member.key = key
      · rw [hkey, List.count_cons_self] at hcount
        rcases takeMember?_cases htake with ⟨hother, -⟩ | ⟨_, _, _, _, _, _, hseen⟩
        · exact absurd (hkey ▸ hknown) hother
        · exact foldlM_takeMember?_of_seen hknown (hseen ▸ hkey ▸ List.mem_cons_self)
            (List.count_pos_iff.mp (Nat.lt_of_succ_lt_succ hcount))
      · rw [List.count_cons_of_ne hkey] at hcount
        exact ih hcount

/-- A member that is never taken stops the others from being taken. -/
theorem foldlM_takeMember?_of_mem (hnever : ∀ taken, takeMember? fields taken member = none)
    (hmember : member ∈ members) : members.foldlM (takeMember? fields) taken = none := by
  induction members generalizing taken with
  | nil => cases hmember
  | cons next members ih =>
    rw [List.foldlM_cons]
    rcases List.mem_cons.mp hmember with rfl | hmember
    · rw [hnever]
      rfl
    · cases takeMember? fields taken next with
      | none => rfl
      | some taken' => exact ih hmember

end

/-- **A known key that is there twice makes the record fail.** -/
theorem given?_eq_none_of_count {key : String} (hknown : key ∈ fields.map Prod.fst)
    {object : ObjectText} (hcount : 1 < object.keys.count key) (defaults : α) :
    given? fields defaults object = none := by
  rw [given?, foldlM_takeMember?_of_count hknown hcount, Option.map_none]

/-- A value that no field of its key reads makes the record fail. -/
theorem given?_eq_none_of_mem {object : ObjectText} {member : MemberText}
    (hmember : member ∈ object.members) (hknown : member.key ∈ fields.map Prod.fst)
    (hrefused : ∀ field ∈ fields, field.1 = member.key → ∀ record,
      field.2 record member.value = none) (defaults : α) :
    given? fields defaults object = none := by
  have hnever : ∀ taken, takeMember? fields taken member = none := by
    refine fun taken ↦ Option.eq_none_iff_forall_ne_some.mpr fun taken' htake ↦ ?_
    rcases takeMember?_cases htake with ⟨hother, -⟩ | ⟨field, hfield, hkey, -, rest, hread, -⟩
    · exact hother hknown
    · rw [hrefused field hfield hkey] at hread
      cases hread
  rw [given?, foldlM_takeMember?_of_mem hnever hmember, Option.map_none]

/-! ## What is read -/

/-- The key is there at most once, and any value that is there for it is read. -/
structure Readable (fields : List (String × Field α)) (members : List MemberText) (key : String) :
    Prop where
  once : (members.map (·.key)).count key ≤ 1
  read : ∀ member ∈ members, member.key = key → ∀ field ∈ fields, field.1 = key → ∀ record,
    (field.2 record member.value).isSome = true

/-- Members are taken to the last if the known keys among them are readable and new. -/
theorem foldlM_takeMember?_isSome {members : List MemberText} {taken : α × List String}
    (h : ∀ key ∈ fields.map Prod.fst, Readable fields members key ∧
      (key ∈ taken.2 → key ∉ members.map (·.key))) :
    (members.foldlM (takeMember? fields) taken).isSome = true := by
  induction members generalizing taken with
  | nil => rfl
  | cons member members ih =>
    have htake : (takeMember? fields taken member).isSome = true := by
      refine takeMember?_isSome (fun hknown hseen ↦ ?_) fun field hfield hkey ↦ ?_
      · exact (h _ hknown).2 hseen List.mem_cons_self
      · exact (h _ (List.mem_map.mpr ⟨field, hfield, hkey⟩)).1.read member List.mem_cons_self rfl
          field hfield hkey taken.1
    obtain ⟨taken', htake⟩ := Option.isSome_iff_exists.mp htake
    rw [List.foldlM_cons, htake]
    refine ih fun key hknown ↦ ?_
    -- the key of this member is seen now, and stands nowhere else
    obtain ⟨⟨honce, hread⟩, hnew⟩ := h key hknown
    rw [List.map_cons] at honce hnew
    refine ⟨⟨?_, fun next hnext ↦ hread next (List.mem_cons_of_mem _ hnext)⟩, ?_⟩
    · exact Nat.le_trans List.count_le_count_cons honce
    · intro hseen hkeys
      rcases takeMember?_cases htake with ⟨_, rfl⟩ | ⟨_, _, _, _, _, _, hseen'⟩
      · exact hnew hseen (List.mem_cons_of_mem _ hkeys)
      · rcases List.mem_cons.mp (hseen' ▸ hseen) with rfl | hseen
        · rw [List.count_cons_self] at honce
          have hcount := List.count_pos_iff.mpr hkeys
          omega
        · exact hnew hseen (List.mem_cons_of_mem _ hkeys)

/-- How a field bears on a part of the record: either it reads that part, or it leaves it alone. -/
inductive Bears (key : String) (read? : List Char → Option (β × List Char)) (part : α → β) :
    String × Field α → Prop where
  | here {field : Field α} (h : ∀ record text,
      (field record text).map (fun read ↦ part read.1) = (read? text).map Prod.fst) :
    Bears key read? part (key, field)
  | elsewhere {other : String} {field : Field α} (hkey : other ≠ key)
    (h : ∀ record text, ∀ read ∈ field record text, part read.1 = part record) :
    Bears key read? part (other, field)

/-- A part of the record is read from the values of a key, and from nothing else. -/
structure Governs (fields : List (String × Field α)) (key : String)
    (read? : List Char → Option (β × List Char)) (part : α → β) : Prop where
  known : key ∈ fields.map Prod.fst
  bears : ∀ field ∈ fields, Bears key read? part field

section

variable {key : String} {read? : List Char → Option (β × List Char)} {part : α → β}

section

variable {members : List MemberText} {taken taken' : α × List String}

/-- Only the values of its key bear on a part of the record. -/
theorem Governs.part_of_not_mem (h : Governs fields key read? part)
    (htaken : members.foldlM (takeMember? fields) taken = some taken')
    (hkeys : key ∉ members.map (·.key)) : part taken'.1 = part taken.1 := by
  induction members generalizing taken with
  | nil =>
    cases htaken
    rfl
  | cons member members ih =>
    rw [List.map_cons, List.mem_cons, not_or] at hkeys
    rw [List.foldlM_cons] at htaken
    obtain ⟨next, htake, hrest⟩ := Option.bind_eq_some_iff.mp htaken
    refine (ih hrest hkeys.2).trans ?_
    rcases takeMember?_cases htake with ⟨-, rfl⟩ | ⟨field, hfield, hkey, -, rest, hread, -⟩
    · rfl
    · cases h.bears field hfield with
      | here => exact absurd hkey hkeys.1
      | elsewhere _ hpart => exact hpart _ _ _ hread

/-- A part of the record is read from the value of its key, if there is one. -/
theorem Governs.part_of_mem (h : Governs fields key read? part)
    (htaken : members.foldlM (takeMember? fields) taken = some taken') {member : MemberText}
    (hmember : member ∈ members) (hkey : member.key = key) :
    (read? member.value).map Prod.fst = some (part taken'.1) := by
  induction members generalizing taken with
  | nil => cases hmember
  | cons first members ih =>
    rw [List.foldlM_cons] at htaken
    obtain ⟨next, htake, hrest⟩ := Option.bind_eq_some_iff.mp htaken
    rcases List.mem_cons.mp hmember with rfl | hmember
    · rcases takeMember?_cases htake with ⟨hother, -⟩ | ⟨field, hfield, hfieldKey, -, rest, hread,
        hseen⟩
      · exact absurd (hkey ▸ h.known) hother
      · -- read here, and left alone from here on, the key being seen
        have hseen : key ∈ next.2 := by
          rw [hseen, hkey]
          exact List.mem_cons_self
        have hkeys : key ∉ members.map (·.key) := by
          intro hkeys
          rw [foldlM_takeMember?_of_seen h.known hseen hkeys] at hrest
          cases hrest
        cases h.bears field hfield with
        | @here field hpart =>
          have hread : field taken.1 member.value = some (next.1, rest) := hread
          rw [h.part_of_not_mem hrest hkeys, ← hpart taken.1, hread]
          rfl
        | elsewhere hne => exact absurd (hfieldKey.trans hkey) hne
    · exact ih hrest hmember

end

/-- What an object gives for a key: the value of its one member with the key, or else what holds by
default. -/
structure Gives (object : ObjectText) (key : String) (Writes : List Char → β → Prop)
    (default value : β) : Prop where
  once : object.keys.count key ≤ 1
  here : ∀ member ∈ object.members, member.key = key → Writes member.value value
  omitted : key ∉ object.keys → value = default

variable {Writes : List Char → β → Prop} {object : ObjectText} {default value : β}

theorem Governs.readable (h : Governs fields key read? part)
    (hgives : Gives object key Writes default value)
    (hwrites : ∀ text value, Writes text value → ∃ rest, read? text = some (value, rest)) :
    Readable fields object.members key := by
  refine ⟨hgives.once, fun member hmember hkey field hfield hfieldKey record ↦ ?_⟩
  obtain ⟨rest, hread⟩ := hwrites _ _ (hgives.here member hmember hkey)
  cases h.bears field hfield with
  | here hpart =>
    have hsome := hpart record member.value
    rw [hread] at hsome
    obtain ⟨read, hread, -⟩ := Option.map_eq_some_iff.mp hsome
    exact Option.isSome_iff_exists.mpr ⟨read, hread⟩
  | elsewhere hne => exact absurd hfieldKey hne

/-- **Each part of a record is what the object gives for its key.** -/
theorem Governs.part_eq (h : Governs fields key read? part)
    (hgives : Gives object key Writes default value)
    (hwrites : ∀ text value, Writes text value → ∃ rest, read? text = some (value, rest))
    {defaults record : α} (hdefault : part defaults = default)
    (hrecord : given? fields defaults object = some record) : part record = value := by
  obtain ⟨taken, htaken, rfl⟩ := Option.map_eq_some_iff.mp hrecord
  by_cases hkeys : key ∈ object.keys
  · obtain ⟨member, hmember, hkey⟩ := List.mem_map.mp hkeys
    obtain ⟨rest, hread⟩ := hwrites _ _ (hgives.here member hmember hkey)
    have hpart := h.part_of_mem htaken hmember hkey
    rw [hread] at hpart
    exact (Option.some.inj hpart).symm
  · rw [h.part_of_not_mem htaken hkeys, hdefault, hgives.omitted hkeys]

end

/-- An object in which every known key is readable gives a record. -/
theorem given?_isSome {object : ObjectText}
    (h : ∀ key ∈ fields.map Prod.fst, Readable fields object.members key) (defaults : α) :
    ∃ record, given? fields defaults object = some record := by
  have hsome : (object.members.foldlM (takeMember? fields) (defaults, [])).isSome = true :=
    foldlM_takeMember?_isSome fun key hknown ↦ ⟨h key hknown, fun hseen ↦ by cases hseen⟩
  obtain ⟨taken, htaken⟩ := Option.isSome_iff_exists.mp hsome
  exact ⟨taken.1, by rw [given?, htaken, Option.map_some]⟩

end ScriptBridge.Settings
