import ScriptBridge.Proofs.Tables.Queue

/-!
# Tables that only grow

Referring to objects adds entries to the tables of a channel and changes none. `Bound.grown` says
what the tables are after a list of entries was added, and `Bound.referAll_grown` that this is all
that literals do, with the entries those of the objects that had no id.

What is written of a value depends on the tables only through the places of its objects, and places
do not change while tables grow. So a value that is written again, under tables that have grown
since, gives the same text and adds nothing (`Bound.literal_again`).
-/

namespace ScriptBridge

/-! ## Entries put into a table one after another -/

section Insertions

variable {α β γ : Type} [LT α] [DecidableLT α] [KeyOrder α] (key : γ → α) (value : γ → β)

/-- A table after entries were put in, in order. -/
def Table.insertAll (xs : List γ) (table : Table α β) : Table α β :=
  xs.foldl (fun table x ↦ table.insert (key x) (value x)) table

theorem Table.get?_insertAll_of_notMem [DecidableEq α] {xs : List γ} {k : α}
    (h : ∀ x ∈ xs, key x ≠ k) (table : Table α β) :
    (table.insertAll key value xs).get? k = table.get? k := by
  induction xs generalizing table with
  | nil => rfl
  | cons x xs ih =>
    have hx : k ≠ key x := (h x List.mem_cons_self).symm
    refine (ih (fun y hy ↦ h y (List.mem_cons_of_mem _ hy)) _).trans ?_
    simp [Table.get?_insert, hx]

theorem Table.get?_insertAll_of_mem [DecidableEq α] {xs : List γ} (hdistinct : (xs.map key).Nodup)
    {x : γ} (hx : x ∈ xs) (table : Table α β) :
    (table.insertAll key value xs).get? (key x) = some (value x) := by
  induction xs generalizing table with
  | nil => cases hx
  | cons y xs ih =>
    obtain ⟨hfirst, hrest⟩ := List.nodup_cons.mp hdistinct
    rcases List.mem_cons.mp hx with rfl | hx
    · have hne : ∀ z ∈ xs, key z ≠ key x := by
        intro z hz heq
        exact hfirst (heq ▸ List.mem_map_of_mem hz)
      -- no later entry has the same key:
      refine (Table.get?_insertAll_of_notMem key value hne _).trans ?_
      simp [Table.get?_insert]
    · exact ih hrest hx _

end Insertions

/-- The identity of the object of an entry. -/
abbrev Pending.identity (entry : Pending) : Nat := entry.binding.object.identity

namespace Bound

/-! ## Growth -/

/-- The entry under which an object without an id would join the queue. -/
def entryFor (bound : Bound) (object : ObjectRef) : Pending :=
  ⟨bound.nextReference, bound.place, ⟨bound.placeOf bound.nextReference, object⟩⟩

/-- The tables after entries were added to them. -/
def grown (bound : Bound) (new : List Pending) : Bound :=
  { bound with
    instances := bound.instances.insertAll Pending.id Pending.binding new
    references := bound.references.insertAll Pending.identity Pending.id new
    nextReference := bound.nextReference - new.length
    pending := bound.pending ++ new }

@[simp] theorem grown_nil (bound : Bound) : bound.grown [] = bound := by
  simp [grown, Table.insertAll]

theorem grown_append (bound : Bound) (a b : List Pending) :
    bound.grown (a ++ b) = (bound.grown a).grown b := by
  have hnext : bound.nextReference - (a ++ b).length =
      bound.nextReference - a.length - b.length := by
    rw [List.length_append]
    omega
  simp only [grown, Table.insertAll, List.foldl_append, List.append_assoc, hnext]

theorem allocate_eq_grown (bound : Bound) (object : ObjectRef) :
    bound.allocate object = bound.grown [bound.entryFor object] := rfl

/-- The queue plays no part in the growth of the other tables. -/
theorem grown_withPending (bound : Bound) (queue new : List Pending) :
    (bound.withPending queue).grown new = (bound.grown new).withPending (queue ++ new) := rfl

/-- The entries are such as tables can get by growing: numbered, at their places, of objects that
had no id, each object once. -/
structure Admits (bound : Bound) (new : List Pending) : Prop where
  numbered : Pending.Numbered bound.nextReference new
  stands : ∀ entry ∈ new, entry.owner = bound.place ∧
    entry.binding.place = bound.placeOf entry.id
  unknown : ∀ entry ∈ new, bound.references.get? entry.identity = none
  distinct : (new.map Pending.identity).Nodup

variable {bound bound' bound'' : Bound} {new more : List Pending} {object : ObjectRef}

theorem admits_withPending_iff {queue : List Pending} :
    (bound.withPending queue).Admits new ↔ bound.Admits new :=
  ⟨fun h ↦ ⟨h.numbered, h.stands, h.unknown, h.distinct⟩,
    fun h ↦ ⟨h.numbered, h.stands, h.unknown, h.distinct⟩⟩

theorem admits_nil (bound : Bound) : bound.Admits [] :=
  ⟨trivial, by simp, by simp, List.nodup_nil⟩

theorem references_grown_of_notMem {i : Nat}
    (h : ∀ entry ∈ new, entry.identity ≠ i) :
    (bound.grown new).references.get? i = bound.references.get? i :=
  Table.get?_insertAll_of_notMem _ _ h _

/-- Who has an id after the growth. -/
theorem references_grown_eq_none_iff {i : Nat} (h : bound.Admits new) :
    (bound.grown new).references.get? i = none ↔
      bound.references.get? i = none ∧ ∀ entry ∈ new, entry.identity ≠ i := by
  by_cases hmem : ∃ entry ∈ new, entry.identity = i
  · obtain ⟨entry, hentry, rfl⟩ := hmem
    have hsome : (bound.grown new).references.get? entry.identity =
        some entry.id :=
      Table.get?_insertAll_of_mem Pending.identity Pending.id h.distinct hentry _
    refine ⟨fun hnone ↦ ?_, fun hnot ↦ absurd rfl (hnot.2 entry hentry)⟩
    rw [hsome] at hnone
    cases hnone
  · have hne : ∀ entry ∈ new, entry.identity ≠ i :=
      fun entry hentry heq ↦ hmem ⟨entry, hentry, heq⟩
    rw [references_grown_of_notMem hne]
    exact ⟨fun hnone ↦ ⟨hnone, hne⟩, And.left⟩

/-- A new entry stands in both tables. -/
theorem Admits.get?_of_mem (h : bound.Admits new) {entry : Pending} (hentry : entry ∈ new) :
    (bound.grown new).instances.get? entry.id = some entry.binding ∧
      (bound.grown new).references.get? entry.identity = some entry.id :=
  ⟨Table.get?_insertAll_of_mem Pending.id Pending.binding h.numbered.ids_nodup hentry _,
    Table.get?_insertAll_of_mem Pending.identity Pending.id h.distinct hentry _⟩

/-- Instances under other ids are the old ones. -/
theorem instances_grown_of_notMem {k : Int} (h : ∀ entry ∈ new, entry.id ≠ k) :
    (bound.grown new).instances.get? k = bound.instances.get? k :=
  Table.get?_insertAll_of_notMem _ _ h _

theorem Admits.append (h : bound.Admits new) (h' : (bound.grown new).Admits more) :
    bound.Admits (new ++ more) where
  numbered := Pending.numbered_append.mpr ⟨h.numbered, h'.numbered⟩
  stands entry hentry := by
    rcases List.mem_append.mp hentry with hentry | hentry
    · exact h.stands entry hentry
    · exact h'.stands entry hentry
  unknown entry hentry := by
    rcases List.mem_append.mp hentry with hentry | hentry
    · exact h.unknown entry hentry
    · exact ((references_grown_eq_none_iff h).mp (h'.unknown entry hentry)).1
  distinct := by
    rw [List.map_append]
    refine List.nodup_append.mpr ⟨h.distinct, h'.distinct, ?_⟩
    intro i hi j hj heq
    obtain ⟨entry, hentry, rfl⟩ := List.mem_map.mp hi
    obtain ⟨entry', hentry', rfl⟩ := List.mem_map.mp hj
    exact ((references_grown_eq_none_iff h).mp (h'.unknown entry' hentry')).2 entry hentry heq

/-- Referring to one object adds its entry if it had no id, and nothing otherwise. -/
theorem resolve_grown (h : bound.Coherent) (object : ObjectRef) :
    ∃ new, (resolve object bound).2 = bound.grown new ∧ bound.Admits new ∧
      (∀ entry ∈ new, entry.binding.object = object) ∧
        (bound.grown new).references.get? object.identity ≠ none := by
  unfold resolve
  split
  · next binding hbinding =>
    refine ⟨[], (grown_nil bound).symm, admits_nil bound, by simp, ?_⟩
    rw [grown_nil]
    intro hnone
    rw [h.bindingOf?_eq_none_iff.mpr hnone] at hbinding
    cases hbinding
  · next hnone =>
    have hunknown := h.bindingOf?_eq_none_iff.mp hnone
    have hadmits : bound.Admits [bound.entryFor object] :=
      ⟨⟨rfl, trivial⟩, by simp [entryFor], by simpa [entryFor] using hunknown, by simp⟩
    refine ⟨[bound.entryFor object], allocate_eq_grown bound object, hadmits,
      by simp [entryFor], ?_⟩
    have hget := (hadmits.get?_of_mem List.mem_cons_self).2
    intro hsome
    exact absurd (hget.symm.trans hsome) (by simp)

/-- **Referring to objects makes the tables grow** by entries of those that had no id, and in the
end all of them have one. -/
theorem referAll_grown (h : bound.Coherent) (objects : List ObjectRef) :
    ∃ new, referAll objects bound = bound.grown new ∧ bound.Admits new ∧
      (referAll objects bound).Coherent ∧ (∀ entry ∈ new, entry.binding.object ∈ objects) ∧
        ∀ object ∈ objects, (bound.grown new).references.get? object.identity ≠ none := by
  induction objects generalizing bound with
  | nil => exact ⟨[], (grown_nil bound).symm, admits_nil bound, h, by simp, by simp⟩
  | cons object objects ih =>
    obtain ⟨first, hfirst, hadmits, hobjects, hknown⟩ := resolve_grown h object
    obtain ⟨rest, hrest, hadmits', hcoherent, hobjects', hknown'⟩ := ih (h.resolve object)
    rw [hfirst] at hrest hadmits' hknown'
    have hall : bound.Admits (first ++ rest) := hadmits.append hadmits'
    refine ⟨first ++ rest, ?_, hall, hcoherent, ?_, ?_⟩
    · rw [grown_append, ← hrest, ← hfirst]
      rfl
    · intro entry hentry
      rcases List.mem_append.mp hentry with hentry | hentry
      · exact List.mem_cons.mpr (.inl (hobjects entry hentry))
      · exact List.mem_cons_of_mem _ (hobjects' entry hentry)
    · intro other hother
      rw [grown_append]
      rcases List.mem_cons.mp hother with rfl | hother
      · exact fun hnone ↦ hknown ((references_grown_eq_none_iff hadmits').mp hnone).1
      · exact hknown' other hother

/-! ## Writing a value again -/

/-- Every object that has an id keeps its binding. -/
def Extends (bound bound' : Bound) : Prop :=
  ∀ object binding, bound.bindingOf? object = some binding → bound'.bindingOf? object = some binding

theorem Extends.trans (h : bound.Extends bound') (h' : bound'.Extends bound'') :
    bound.Extends bound'' :=
  fun object binding hbinding ↦ h' object binding (h object binding hbinding)

/-- Tables keep all bindings when they grow: the new entries are for other objects, under free
ids. -/
theorem grown_extends (h : bound.Coherent) (hadmits : bound.Admits new) :
    bound.Extends (bound.grown new) := by
  intro object binding hbinding
  obtain ⟨k, hk, hinstance⟩ := Option.bind_eq_some_iff.mp hbinding
  have hidentity : ∀ entry ∈ new, entry.identity ≠ object.identity := by
    intro entry hentry heq
    have hnone := hadmits.unknown entry hentry
    rw [heq, hk] at hnone
    cases hnone
  have hid : ∀ entry ∈ new, entry.id ≠ k := by
    intro entry hentry heq
    -- the new ids lie below all negative ids in use:
    have hle := hadmits.numbered.le entry hentry
    have hneg := h.next_neg
    have hfree := h.free k binding (by omega) hinstance
    omega
  rw [bindingOf?, references_grown_of_notMem hidentity, hk]
  exact (instances_grown_of_notMem hid).trans hinstance

theorem referAll_extends (h : bound.Coherent) (objects : List ObjectRef) :
    bound.Extends (referAll objects bound) := by
  obtain ⟨new, hgrown, hadmits, -⟩ := referAll_grown h objects
  rw [hgrown]
  exact grown_extends h hadmits

theorem Coherent.referAll (h : bound.Coherent) (objects : List ObjectRef) :
    (referAll objects bound).Coherent := by
  obtain ⟨_, _, _, hcoherent, _⟩ := referAll_grown h objects
  exact hcoherent

/-- What an object is referred to by is the place of its binding from then on. -/
theorem resolve_bindingOf? (object : ObjectRef) (bound : Bound) :
    ∃ binding, (resolve object bound).2.bindingOf? object = some binding ∧
      binding.place = (resolve object bound).1 := by
  unfold resolve
  split
  · next binding hbinding => exact ⟨binding, hbinding, rfl⟩
  · refine ⟨⟨bound.placeOf bound.nextReference, object⟩, ?_, rfl⟩
    simp [bindingOf?, allocate, Table.get?_insert]

end Bound

namespace Value

variable {σ : Type} {resolve : Resolver σ} {good : σ → Prop} {le : σ → σ → Prop}

/-- A resolver that goes upwards from good states, and above an answer gives the same answer. -/
structure Steady (resolve : Resolver σ) (good : σ → Prop) (le : σ → σ → Prop) : Prop where
  keeps : ∀ object s, good s → good (resolve object s).2
  upwards : ∀ object s t, good s → le (resolve object s).2 t → le s t
  again : ∀ object s t, le (resolve object s).2 t → resolve object t = ((resolve object s).1, t)

/-- Being asked leads from good states to good ones, and upwards. -/
private theorem Steady.askAll (h : Steady resolve good le) (objects : List ObjectRef) (s : σ)
    (hs : good s) :
    good (askAll resolve objects s) ∧ ∀ t, le (Value.askAll resolve objects s) t → le s t := by
  induction objects generalizing s with
  | nil => exact ⟨hs, fun _ h ↦ h⟩
  | cons object objects ih =>
    obtain ⟨hgood, hle⟩ := ih (resolve object s).2 (h.keeps object s hs)
    exact ⟨hgood, fun t ht ↦ h.upwards object s t hs (hle t ht)⟩

/-- What holds no others is written in the same way in every state. -/
private theorem plain_again (claimed : Option String) (text : String) (s t : σ) :
    (match claimed with
      | some text => pure text
      | none => pure text : StateM σ String) t =
        (((match claimed with
          | some text => pure text
          | none => pure text : StateM σ String) s).1, t) := by
  cases claimed <;> rfl

variable (engine : EngineLiterals) (h : Steady resolve good le)
include h

mutual

/-- **A value that is written again is written in the same way**, if its objects are referred to in
the same way. -/
theorem literalWith_again : ∀ (value : Value) (s t : σ), good s →
    le (literalWith engine resolve value s).2 t →
      literalWith engine resolve value t = ((literalWith engine resolve value s).1, t)
  | .array items, s, t, hs, ht => by
    simp only [literalWith] at ht ⊢
    cases hclaimed : engine (.array items) with
    | some text => rfl
    | none =>
      simp only [hclaimed] at ht ⊢
      have hitems := itemLiterals_again items s t hs ht
      simp only [bind, StateT.bind, hitems]
      rfl
  | .object fields, s, t, hs, ht => by
    simp only [literalWith] at ht ⊢
    cases hclaimed : engine (.object fields) with
    | some text => rfl
    | none =>
      simp only [hclaimed] at ht ⊢
      have hfields := fieldLiterals_again fields s t hs ht
      simp only [bind, StateT.bind, hfields]
      rfl
  | .native ref, s, t, hs, ht => by
    simp only [literalWith] at ht ⊢
    cases hclaimed : engine (.native ref) with
    | some text => rfl
    | none =>
      simp only [hclaimed] at ht ⊢
      exact h.again ref s t ht
  | .undefined, s, t, _, _ | .null, s, t, _, _ | .bool _, s, t, _, _ | .int _, s, t, _, _
  | .float _, s, t, _, _ | .string _, s, t, _, _ | .date _, s, t, _, _ | .bytes _, s, t, _, _
  | .callback _, s, t, _, _ | .described _, s, t, _, _ => by
    simp only [literalWith]
    exact plain_again _ _ s t

theorem itemLiterals_again : ∀ (items : List Value) (s t : σ), good s →
    le (itemLiterals engine resolve items s).2 t →
      itemLiterals engine resolve items t = ((itemLiterals engine resolve items s).1, t)
  | [], _, _, _, _ => rfl
  | item :: items, s, t, hs, ht => by
    have hmiddle := h.askAll (item.referred engine) s hs
    rw [← literalWith_state] at hmiddle
    have hend := h.askAll (itemsReferred engine items) _ hmiddle.1
    rw [← itemLiterals_state] at hend
    have hfirst := literalWith_again item s t hs (hend.2 t ht)
    have hrest := itemLiterals_again items _ t hmiddle.1 ht
    simp only [itemLiterals, bind, StateT.bind, hfirst, hrest]
    rfl

theorem fieldLiterals_again : ∀ (fields : List (String × Value)) (s t : σ), good s →
    le (fieldLiterals engine resolve fields s).2 t →
      fieldLiterals engine resolve fields t = ((fieldLiterals engine resolve fields s).1, t)
  | [], _, _, _, _ => rfl
  | (_, value) :: fields, s, t, hs, ht => by
    have hmiddle := h.askAll (value.referred engine) s hs
    rw [← literalWith_state] at hmiddle
    have hend := h.askAll (fieldsReferred engine fields) _ hmiddle.1
    rw [← fieldLiterals_state] at hend
    have hfirst := literalWith_again value s t hs (hend.2 t ht)
    have hrest := fieldLiterals_again fields _ t hmiddle.1 ht
    simp only [fieldLiterals, bind, StateT.bind, hfirst, hrest]
    rfl

end

end Value

end ScriptBridge
