import Mathlib.Data.List.Nodup
import ScriptBridge.Json.Printer
import ScriptBridge.Proofs.Data.ReadBack

/-!
# Data that are read back from their print

The compact print of data whose numbers are whole is data text, and reading that text gives the data
back (`Json.Integral.parse?_print`). Numbers that are not whole are left out: of those the printer
chooses the digits, and the reader rounds.

A printed object has its fields in the order in which it is kept. Other writers put them in other
orders, and the reader sorts them, so what is shown of an object is shown for every order of its
fields (`Json.parse?_print_fields`).
-/

namespace ScriptBridge

/-! ## Entries in any order -/

namespace Entries

variable {α β : Type} [LT α] [DecidableLT α] [KeyOrder α] [DecidableEq α]

/-- Where no key is there twice, all that is put in is found again. -/
theorem find?_foldl_insert_eq_some_iff {acc entries : List (α × β)} (hacc : Ordered acc)
    (hkeys : (entries.map Prod.fst).Nodup) (key : α) (value : β) :
    find? key (entries.foldl (fun acc entry ↦ insert entry.1 entry.2 acc) acc) = some value ↔
      (key, value) ∈ entries ∨ key ∉ entries.map Prod.fst ∧ find? key acc = some value := by
  induction entries generalizing acc with
  | nil => simp
  | cons entry entries ih =>
    obtain ⟨hfresh, hrest⟩ := List.nodup_cons.mp hkeys
    rw [List.foldl_cons, ih (hacc.insert entry.1 entry.2) hrest, find?_insert hacc]
    by_cases hkey : key = entry.1
    · subst hkey
      have hout : (entry.1, value) ∉ entries :=
        fun hmem ↦ hfresh (List.mem_map.mpr ⟨_, hmem, rfl⟩)
      obtain ⟨key, first⟩ := entry
      have hmem : (key, value) ∈ (key, first) :: entries ↔ value = first := by
        rw [List.mem_cons, Prod.mk.injEq, or_iff_left hout, and_iff_right rfl]
      rw [or_iff_right hout, and_iff_right hfresh, if_pos rfl, hmem, Option.some.injEq, eq_comm,
        or_iff_left fun h ↦ h.1 List.mem_cons_self]
    · have hmem : (key, value) ∈ entry :: entries ↔ (key, value) ∈ entries := by
        rw [List.mem_cons, or_iff_right fun h ↦ hkey (congrArg Prod.fst h)]
      rw [if_neg hkey, hmem, List.map_cons, List.mem_cons, or_iff_right hkey]

theorem find?_ofList_eq_some_iff {entries : List (α × β)} (hkeys : (entries.map Prod.fst).Nodup)
    (key : α) (value : β) : find? key (ofList entries) = some value ↔ (key, value) ∈ entries := by
  have hempty : find? key ([] : List (α × β)) ≠ some value := (Option.some_ne_none value).symm
  rw [ofList, find?_foldl_insert_eq_some_iff List.Pairwise.nil hkeys,
    or_iff_left fun h ↦ hempty h.2]

end Entries

namespace Json

open NumberText (IsWord)

/-! ## Data of whole numbers -/

/-- Data of limited depth whose numbers are words, signed or unsigned. The fields of an object are
in the order of their keys, each of them once. -/
inductive Integral : Nat → Json → Prop where
  | null {depth : Nat} : Integral depth .null
  | bool {depth : Nat} (b : Bool) : Integral depth (.bool b)
  | int {depth : Nat} {n : Int} (h : IsWord n) : Integral depth (.int n)
  | string {depth : Nat} (s : String) : Integral depth (.string s)
  | array {depth : Nat} {items : List Json} (h : ∀ item ∈ items, Integral depth item) :
    Integral (depth + 1) (.array items)
  | object {depth : Nat} {fields : List (String × Json)} (hordered : Entries.Ordered fields)
    (h : ∀ field ∈ fields, Integral depth field.2) : Integral (depth + 1) (.object fields)

/-! ## What is printed of them -/

variable {depth : Nat}

/-- The print of items, behind the opening bracket. -/
theorem written_printItems {item : Json} {items : List Json}
    (h : ∀ json ∈ item :: items, Written depth (.value json) json.print.toList) :
    Written depth (.items (item :: items))
      (item.print.toList ++ (printItems .data items).toList) := by
  have hitem := h item List.mem_cons_self
  induction items generalizing item with
  | nil => exact .lastItem hitem
  | cons next items ih =>
    have hrest := fun json hjson ↦ h json (List.mem_cons_of_mem item hjson)
    have htext : (printItems .data (next :: items)).toList =
        ',' :: (next.print.toList ++ (printItems .data items).toList) := by
      rw [printItems, String.toList_append, String.toList_append, List.append_assoc]
      rfl
    rw [htext]
    exact .item hitem (ih hrest (hrest next List.mem_cons_self))

/-- The print of fields, behind the opening brace. -/
theorem written_printFields {key : String} {value : Json} {fields : List (String × Json)}
    (h : ∀ field ∈ (key, value) :: fields, Written depth (.value field.2) field.2.print.toList) :
    Written depth (.fields ((key, value) :: fields))
      ((quote key).toList ++ ':' :: (value.print.toList ++ (printFields .data fields).toList)) := by
  have hvalue := h (key, value) List.mem_cons_self
  induction fields generalizing key value with
  | nil => exact .lastField key hvalue
  | cons next fields ih =>
    obtain ⟨nextKey, next⟩ := next
    have hrest := fun field hfield ↦ h field (List.mem_cons_of_mem (key, value) hfield)
    have htext : (printFields .data ((nextKey, next) :: fields)).toList =
        ',' :: ((quote nextKey).toList ++
          ':' :: (next.print.toList ++ (printFields .data fields).toList)) := by
      simp only [printFields, String.toList_append, List.append_assoc]
      rfl
    rw [htext]
    exact .field key hvalue (ih hrest (hrest (nextKey, next) List.mem_cons_self))

/-- An object that is printed with its fields in some order stands for that object. -/
theorem written_print_fields {fields : List (String × Json)}
    (h : ∀ field ∈ fields, Written depth (.value field.2) field.2.print.toList) :
    Written (depth + 1) (.value (ofFields fields)) (Json.object fields).print.toList := by
  match fields with
  | [] => exact .noFields
  | (key, value) :: fields =>
    have htext : (Json.object ((key, value) :: fields)).print.toList =
        '\x7b' :: ((quote key).toList ++
          ':' :: (value.print.toList ++ (printFields .data fields).toList)) := by
      simp only [print, printWith, String.toList_append, List.append_assoc]
      rfl
    rw [htext]
    exact .object (written_printFields h)

/-- **The print of whole numbers and what is built from them stands for these data.** -/
theorem Integral.written_print {json : Json} (h : json.Integral depth) :
    Written depth (.value json) json.print.toList := by
  induction h with
  | null => exact .null
  | bool b =>
    cases b with
    | true => exact .true
    | false => exact .false
  | int h => exact .int h
  | string s => exact .string s
  | @array depth items _ ih =>
    match items with
    | [] => exact .noItems
    | item :: items =>
      have htext : (Json.array (item :: items)).print.toList =
          '[' :: (item.print.toList ++ (printItems .data items).toList) := by
        simp only [print, printWith, String.toList_append, List.append_assoc]
        rfl
      rw [htext]
      exact .array (written_printItems ih)
  | @object depth fields hordered _ ih =>
    have hkept : ofFields fields = .object fields :=
      congrArg Json.object (Entries.ofList_of_ordered hordered)
    have hwritten := written_print_fields ih
    rwa [hkept] at hwritten

/-! ## Reading it -/

/-- Printed data are read back. -/
theorem Integral.parse?_print {json : Json} (h : json.Integral depthLimit) :
    parse? json.print = some json := h.written_print.parseWithin?

/-- A printed object is read back, in whatever order its fields were printed. -/
theorem parse?_print_fields {fields : List (String × Json)}
    (h : ∀ field ∈ fields, field.2.Integral (depthLimit - 1)) :
    parse? (Json.object fields).print = some (ofFields fields) :=
  (written_print_fields fun field hfield ↦ (h field hfield).written_print).parseWithin?

end Json

end ScriptBridge
