/-!
# Finite tables in key order

A `Table α β` is a finite map kept as a list of entries with strictly increasing keys. Two tables
with the same entries are *equal*, not merely equivalent, so "the table is exactly as it was" is an
equation. Objects of the data format, the members of a surface, the handlers of a context and the
instances of a channel are all tables.

The raw layer (`Entries`) works on lists of entries and serves where the list is part of an
inductive type; the bundled layer carries the order. The main statements are `get?_insert` and
`get?_erase`, which say that the operations are those of a function with finite support, and
`ext_get?`, which says that such a function determines the table.
-/

namespace ScriptBridge

universe u v

/-! ## Keys -/

/-- Keys are strictly and totally ordered. -/
class KeyOrder (α : Type u) [LT α] : Prop where
  irrefl : ∀ a : α, ¬ a < a
  trans : ∀ {a b c : α}, a < b → b < c → a < c
  trichotomy : ∀ a b : α, a < b ∨ a = b ∨ b < a

namespace KeyOrder

/-- Where every two elements can be compared, the strict part of the comparison orders keys. -/
theorem ofLinear {α : Type u} [LT α] [LE α] [Std.IsLinearOrder α] [Std.LawfulOrderLT α] :
    KeyOrder α where
  irrefl _ := Std.lt_irrefl
  trans := Std.lt_trans
  trichotomy := Std.lt_trichotomy

instance : KeyOrder Nat := ofLinear

instance : KeyOrder Int := ofLinear

instance : KeyOrder String := ofLinear

instance : KeyOrder (List String) := ofLinear

/-- A key is not both below and above another one. -/
theorem not_lt_of_gt {α : Type u} [LT α] [KeyOrder α] {a b : α} (h : b < a) : ¬ a < b :=
  fun h' => irrefl a (trans h' h)

end KeyOrder

/-! ## Entry lists -/

namespace Entries

variable {α : Type u} {β : Type v} [LT α] [DecidableLT α]

/-- Keys strictly increase along the list. -/
def Ordered (entries : List (α × β)) : Prop := entries.Pairwise fun a b => a.1 < b.1

/-- Puts a binding in its place, replacing the one for the same key. -/
def insert (key : α) (value : β) : List (α × β) → List (α × β)
  | [] => [(key, value)]
  | (k, v) :: rest =>
    if key < k then (key, value) :: (k, v) :: rest
    else if k < key then (k, v) :: insert key value rest
    else (key, value) :: rest

theorem mem_insert {key : α} {value : β} {entries : List (α × β)} {e : α × β}
    (h : e ∈ insert key value entries) : e = (key, value) ∨ e ∈ entries := by
  induction entries with
  | nil => simpa [insert] using h
  | cons head rest ih =>
    obtain ⟨k, v⟩ := head
    simp only [insert] at h
    split at h
    · simpa using h
    · split at h
      · rcases List.mem_cons.1 h with h | h
        · exact .inr (by simp [h])
        · exact (ih h).imp id (List.mem_cons_of_mem _)
      · rcases List.mem_cons.1 h with h | h
        · exact .inl h
        · exact .inr (List.mem_cons_of_mem _ h)

/-- Takes the binding of a key away. -/
def erase (key : α) : List (α × β) → List (α × β)
  | [] => []
  | (k, v) :: rest =>
    if key < k then (k, v) :: rest
    else if k < key then (k, v) :: erase key rest
    else rest

theorem mem_of_mem_erase {key : α} {entries : List (α × β)} {e : α × β}
    (h : e ∈ erase key entries) : e ∈ entries := by
  induction entries with
  | nil => simp [erase] at h
  | cons head rest ih =>
    obtain ⟨k, v⟩ := head
    simp only [erase] at h
    split at h
    · exact h
    · split at h
      · rcases List.mem_cons.1 h with h | h
        · simp [h]
        · exact List.mem_cons_of_mem _ (ih h)
      · exact List.mem_cons_of_mem _ h

/-- The value bound to a key. -/
def find? (key : α) : List (α × β) → Option β
  | [] => none
  | (k, v) :: rest =>
    if key < k then none
    else if k < key then find? key rest
    else some v

theorem find?_eq_none_of_lt {key : α} {entries : List (α × β)} (h : ∀ e ∈ entries, key < e.1) :
    find? key entries = none := by
  cases entries with
  | nil => rfl
  | cons head rest =>
    have lt : key < head.1 := h head (by simp)
    simp [find?, lt]

/-- Entries in key order, a later binding of a key replacing an earlier one. -/
def ofList (entries : List (α × β)) : List (α × β) :=
  entries.foldl (fun acc entry => insert entry.1 entry.2 acc) []

theorem Ordered.erase {entries : List (α × β)} (h : Ordered entries) (key : α) :
    Ordered (erase key entries) := by
  induction entries with
  | nil => simp [Entries.erase, Ordered]
  | cons head rest ih =>
    obtain ⟨k, v⟩ := head
    have hrest := List.pairwise_cons.1 h
    simp only [Entries.erase]
    split
    · exact h
    · split
      · exact List.pairwise_cons.2 ⟨fun e he => hrest.1 e (mem_of_mem_erase he), ih hrest.2⟩
      · exact hrest.2

section Order

variable [KeyOrder α]

theorem Ordered.insert {entries : List (α × β)} (h : Ordered entries) (key : α) (value : β) :
    Ordered (insert key value entries) := by
  induction entries with
  | nil => simp [Entries.insert, Ordered]
  | cons head rest ih =>
    obtain ⟨k, v⟩ := head
    have hrest := List.pairwise_cons.1 h
    simp only [Entries.insert]
    split
    · next lt =>
      refine List.pairwise_cons.2 ⟨fun e he => ?_, h⟩
      rcases List.mem_cons.1 he with he | he
      · simpa [he] using lt
      · exact KeyOrder.trans lt (hrest.1 e he)
    · split
      · next gt =>
        refine List.pairwise_cons.2 ⟨fun e he => ?_, ih hrest.2⟩
        rcases mem_insert he with he | he
        · simpa [he] using gt
        · exact hrest.1 e he
      · next notLt notGt =>
        have same : key = k := by
          rcases KeyOrder.trichotomy key k with lt | eq | gt
          · exact absurd lt notLt
          · exact eq
          · exact absurd gt notGt
        subst same
        exact List.pairwise_cons.2 ⟨hrest.1, hrest.2⟩

theorem ordered_foldl_insert (entries : List (α × β)) :
    ∀ {acc : List (α × β)}, Ordered acc →
      Ordered (entries.foldl (fun acc entry => Entries.insert entry.1 entry.2 acc) acc) := by
  induction entries with
  | nil => exact fun h => h
  | cons entry rest ih => exact fun h => ih (h.insert entry.1 entry.2)

theorem ordered_ofList (entries : List (α × β)) : Ordered (ofList entries) :=
  ordered_foldl_insert entries (by simp [Ordered])

variable [DecidableEq α]

theorem find?_cons (key k : α) (v : β) (rest : List (α × β)) (h : Ordered ((k, v) :: rest)) :
    find? key ((k, v) :: rest) = if k = key then some v else find? key rest := by
  have below : ∀ e ∈ rest, k < e.1 := (List.pairwise_cons.1 h).1
  simp only [find?]
  rcases KeyOrder.trichotomy key k with lt | eq | gt
  · have ne : k ≠ key := fun e => KeyOrder.irrefl _ (e ▸ lt)
    simp only [lt, if_true, ne, if_false]
    cases rest with
    | nil => rfl
    | cons next rest =>
      have lt' : key < next.1 := KeyOrder.trans lt (below next (by simp))
      simp [find?, lt']
  · subst eq
    simp [KeyOrder.irrefl]
  · have ne : k ≠ key := fun e => KeyOrder.irrefl _ (e ▸ gt)
    simp [KeyOrder.not_lt_of_gt gt, gt, ne]

theorem find?_eq_some_iff {key : α} {value : β} {entries : List (α × β)} (h : Ordered entries) :
    find? key entries = some value ↔ (key, value) ∈ entries := by
  induction entries with
  | nil => simp [find?]
  | cons head rest ih =>
    obtain ⟨k, v⟩ := head
    have hrest := List.pairwise_cons.1 h
    rw [find?_cons key k v rest h]
    split
    · next eq =>
      subst eq
      refine ⟨fun e => by simp_all, fun e => ?_⟩
      rcases List.mem_cons.1 e with e | e
      · simp_all
      · exact absurd (hrest.1 _ e) (KeyOrder.irrefl _)
    · next ne =>
      rw [ih hrest.2]
      simp [Ne.symm ne]

theorem find?_insert {entries : List (α × β)} (h : Ordered entries) (key k : α) (value : β) :
    find? k (insert key value entries) = if k = key then some value else find? k entries := by
  induction entries with
  | nil =>
    rw [insert, find?_cons _ _ _ _ (by simp [Ordered])]
    simp [eq_comm]
  | cons head rest ih =>
    obtain ⟨k', v⟩ := head
    have hrest := List.pairwise_cons.1 h
    have ins := h.insert key value
    simp only [insert] at ins ⊢
    split
    · next lt =>
      simp only [lt, if_true] at ins
      rw [find?_cons _ _ _ _ ins]
      simp [eq_comm]
    · next notLt =>
      split
      · next gt =>
        simp only [notLt, if_false, gt, if_true] at ins
        rw [find?_cons _ _ _ _ ins, find?_cons _ _ _ _ h, ih hrest.2]
        by_cases e : k' = k
        · subst e
          have : k' ≠ key := fun e => KeyOrder.irrefl _ (e ▸ gt)
          simp [this]
        · simp [e]
      · next notGt =>
        have same : key = k' := by
          rcases KeyOrder.trichotomy key k' with lt | eq | gt
          · exact absurd lt notLt
          · exact eq
          · exact absurd gt notGt
        subst same
        simp only [KeyOrder.irrefl, if_false] at ins
        rw [find?_cons _ _ _ _ ins, find?_cons _ _ _ _ h]
        by_cases e : key = k <;> simp [e, eq_comm]

theorem find?_erase {entries : List (α × β)} (h : Ordered entries) (key k : α) :
    find? k (erase key entries) = if k = key then none else find? k entries := by
  induction entries with
  | nil => simp [erase, find?]
  | cons head rest ih =>
    obtain ⟨k', v⟩ := head
    have hrest := List.pairwise_cons.1 h
    have kept := h.erase key
    simp only [erase] at kept ⊢
    rcases KeyOrder.trichotomy key k' with lt | eq | gt
    · simp only [lt, if_true]
      by_cases e : k = key
      · subst e
        simp [find?, lt]
      · simp [e]
    · subst eq
      simp only [KeyOrder.irrefl, if_false]
      rw [find?_cons _ _ _ _ h]
      by_cases e : k = key
      · subst e
        simpa using find?_eq_none_of_lt hrest.1
      · simp [e, Ne.symm e]
    · simp only [KeyOrder.not_lt_of_gt gt, if_false, gt, if_true] at kept ⊢
      rw [find?_cons _ _ _ _ kept, find?_cons _ _ _ _ h, ih hrest.2]
      by_cases e : k' = k
      · subst e
        have : k' ≠ key := fun e => KeyOrder.irrefl _ (e ▸ gt)
        simp [this]
      · simp [e]

/-- Entries are determined by what they bind. -/
theorem Ordered.ext {a b : List (α × β)} (ha : Ordered a) (hb : Ordered b)
    (h : ∀ key, find? key a = find? key b) : a = b := by
  induction a generalizing b with
  | nil =>
    cases b with
    | nil => rfl
    | cons head rest =>
      have := h head.1
      simp [find?, KeyOrder.irrefl] at this
  | cons head rest ih =>
    obtain ⟨k, v⟩ := head
    have hrest := List.pairwise_cons.1 ha
    cases b with
    | nil =>
      have := h k
      simp [find?, KeyOrder.irrefl] at this
    | cons head' rest' =>
      obtain ⟨k', v'⟩ := head'
      have hrest' := List.pairwise_cons.1 hb
      have atK : (k, v) ∈ (k', v') :: rest' :=
        (find?_eq_some_iff hb).1 ((h k).symm.trans ((find?_eq_some_iff ha).2 (by simp)))
      have atK' : (k', v') ∈ (k, v) :: rest :=
        (find?_eq_some_iff ha).1 ((h k').trans ((find?_eq_some_iff hb).2 (by simp)))
      have same : (k, v) = (k', v') := by
        rcases List.mem_cons.1 atK with e | e
        · exact e
        · rcases List.mem_cons.1 atK' with e' | e'
          · exact e'.symm
          · exact absurd (KeyOrder.trans (hrest.1 _ e') (hrest'.1 _ e)) (KeyOrder.irrefl _)
      obtain ⟨rfl, rfl⟩ := Prod.mk.inj same
      congr 1
      refine ih hrest.2 hrest'.2 fun key => ?_
      have := h key
      rw [find?_cons _ _ _ _ ha, find?_cons _ _ _ _ hb] at this
      by_cases e : k = key
      · subst e
        rw [find?_eq_none_of_lt hrest.1, find?_eq_none_of_lt hrest'.1]
      · simpa [e] using this

end Order

end Entries

/-! ## Tables -/

/-- A finite map: entries with strictly increasing keys. -/
structure Table (α : Type u) (β : Type v) [LT α] where
  /-- The bindings, in key order. -/
  entries : List (α × β)
  /-- The keys strictly increase. -/
  ordered : Entries.Ordered entries

namespace Table

variable {α : Type u} {β : Type v} [LT α]

instance [DecidableEq α] [DecidableEq β] : DecidableEq (Table α β) := fun a b =>
  if h : a.entries = b.entries then
    isTrue (by obtain ⟨_, _⟩ := a; obtain ⟨_, _⟩ := b; simpa using h)
  else
    isFalse fun e => h (e ▸ rfl)

/-- No bindings. -/
def empty : Table α β := ⟨[], List.Pairwise.nil⟩

instance : EmptyCollection (Table α β) := ⟨empty⟩

instance : Inhabited (Table α β) := ⟨empty⟩

/-- The keys, ascending. -/
def keys (table : Table α β) : List α := table.entries.map (·.1)

/-- How many keys are bound. -/
def size (table : Table α β) : Nat := table.entries.length

/-- Whether nothing is bound. -/
def isEmpty (table : Table α β) : Bool := table.entries.isEmpty

variable [DecidableLT α]

/-- The value bound to a key. -/
def get? (table : Table α β) (key : α) : Option β := Entries.find? key table.entries

/-- Whether a key is bound. -/
def contains (table : Table α β) (key : α) : Bool := (table.get? key).isSome

variable [KeyOrder α]

/-- Binds a key, replacing what it was bound to. -/
def insert (table : Table α β) (key : α) (value : β) : Table α β :=
  ⟨Entries.insert key value table.entries, table.ordered.insert key value⟩

/-- Unbinds a key. -/
def erase (table : Table α β) (key : α) : Table α β :=
  ⟨Entries.erase key table.entries, table.ordered.erase key⟩

/-- The table of some bindings, the last one of a key counting. -/
def ofList (entries : List (α × β)) : Table α β :=
  ⟨Entries.ofList entries, Entries.ordered_ofList entries⟩

omit [KeyOrder α] in
@[simp] theorem get?_empty (key : α) : (empty : Table α β).get? key = none := rfl

variable [DecidableEq α]

theorem get?_insert (table : Table α β) (key k : α) (value : β) :
    (table.insert key value).get? k = if k = key then some value else table.get? k :=
  Entries.find?_insert table.ordered key k value

theorem get?_erase (table : Table α β) (key k : α) :
    (table.erase key).get? k = if k = key then none else table.get? k :=
  Entries.find?_erase table.ordered key k

theorem get?_eq_some_iff {table : Table α β} {key : α} {value : β} :
    table.get? key = some value ↔ (key, value) ∈ table.entries :=
  Entries.find?_eq_some_iff table.ordered

/-- A table is determined by its look-ups. -/
theorem ext_get? {a b : Table α β} (h : ∀ key, a.get? key = b.get? key) : a = b := by
  have := Entries.Ordered.ext a.ordered b.ordered h
  obtain ⟨_, _⟩ := a
  obtain ⟨_, _⟩ := b
  simpa using this

end Table

end ScriptBridge
