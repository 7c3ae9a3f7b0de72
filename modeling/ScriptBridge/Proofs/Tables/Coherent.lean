import ScriptBridge.Bridge.References

/-!
# Coherent tables

The two tables of a bound channel say the same thing from two sides: which object stands under an
id, and which id an object has. `Bound.Coherent` is this agreement, together with the places of the
instances and the range of the ids that have been given away.

## Which operations keep it

Starting a binding, referring to an object and taking an instance out keep the tables coherent
unconditionally. Putting an instance in does so only for an object that has no id yet: the reference
of the newcomer is written before the one of the replaced instance is erased, and an object that
already stood under another id would go on standing there.
-/

namespace ScriptBridge

namespace Bound

/-- The instances and the references of a bound channel agree. -/
structure Coherent (bound : Bound) : Prop where
  /-- The principal stands at the place of the binding. -/
  principal : ∃ object, bound.instances.get? 0 = some ⟨bound.place, object⟩
  /-- Every other instance stands at its numbered place. -/
  placed : ∀ k binding, k ≠ 0 → bound.instances.get? k = some binding →
    binding.place = bound.placeOf k
  /-- An object that stands under an id is referred to by that id. -/
  owned : ∀ k binding, bound.instances.get? k = some binding →
    bound.references.get? binding.object.identity = some k
  /-- A reference leads to an instance that holds its object. -/
  live : ∀ i k, bound.references.get? i = some k →
    ∃ binding, bound.instances.get? k = some binding ∧ binding.object.identity = i
  /-- The ids from `nextReference` downwards are free. -/
  free : ∀ k binding, k < 0 → bound.instances.get? k = some binding → bound.nextReference < k
  /-- The next id is negative. -/
  next_neg : bound.nextReference < 0

variable {bound : Bound} {object : ObjectRef}

/-- The tables invert each other. -/
theorem Coherent.inverse (h : bound.Coherent) (i : Nat) (k : Int) :
    bound.references.get? i = some k ↔
      ∃ binding, bound.instances.get? k = some binding ∧ binding.object.identity = i := by
  refine ⟨h.live i k, ?_⟩
  rintro ⟨binding, hk, rfl⟩
  exact h.owned k binding hk

/-- Under coherent tables an object has no binding exactly when it has no reference. -/
theorem Coherent.bindingOf?_eq_none_iff (h : bound.Coherent) :
    bound.bindingOf? object = none ↔ bound.references.get? object.identity = none := by
  rw [bindingOf?]
  cases href : bound.references.get? object.identity with
  | none => simp
  | some k =>
    obtain ⟨binding, hk, -⟩ := h.live _ _ href
    simp [hk]

theorem Coherent.instances_next (h : bound.Coherent) :
    bound.instances.get? bound.nextReference = none := by
  cases hk : bound.instances.get? bound.nextReference with
  | none => rfl
  | some binding => exact absurd (h.free _ _ h.next_neg hk) (Int.lt_irrefl _)

/-! ## The operations -/

attribute [local grind =] Table.get?_insert Table.get?_erase Table.get?_empty

theorem coherent_start (identifier place : String) (principal : ObjectRef) :
    (start identifier place principal).Coherent where
  principal := ⟨principal, by simp [start, Table.get?_insert]⟩
  placed k binding hk h := by
    simp only [start] at h
    grind
  owned k binding h := by
    simp only [start] at h ⊢
    grind
  live i k h := by
    simp only [start] at h
    obtain ⟨rfl, rfl⟩ : i = principal.identity ∧ k = 0 := by grind
    exact ⟨⟨place, principal⟩, by simp [start, Table.get?_insert]⟩
  free k binding hk h := by
    simp only [start] at h
    grind
  next_neg := by simp [start]

/-- The next id is free, so nothing is replaced when an object gets it. -/
theorem Coherent.allocate (h : bound.Coherent) (hnew : bound.bindingOf? object = none) :
    (bound.allocate object).Coherent := by
  obtain ⟨⟨principal, hprincipal⟩, hplaced, howned, hlive, hfree, hneg⟩ := id h
  have hnext := h.instances_next
  rw [h.bindingOf?_eq_none_iff] at hnew
  refine ⟨⟨principal, ?_⟩, ?_, ?_, ?_, ?_, ?_⟩
  · have hne : (0 : Int) ≠ bound.nextReference := by omega
    simpa [Bound.allocate, Table.get?_insert, hne] using hprincipal
  · intro k binding hk hget
    simp only [Bound.allocate, Table.get?_insert] at hget
    grind [placeOf, Bound.allocate]
  · intro k binding hget
    simp only [Bound.allocate, Table.get?_insert] at hget ⊢
    grind
  · intro i k hget
    simp only [Bound.allocate, Table.get?_insert] at hget ⊢
    grind
  · intro k binding hk hget
    simp only [Bound.allocate, Table.get?_insert] at hget ⊢
    grind
  · simp only [Bound.allocate]
    omega

theorem Coherent.resolve (h : bound.Coherent) (object : ObjectRef) :
    (Bound.resolve object bound).2.Coherent := by
  unfold Bound.resolve
  split
  · exact h
  · next hnew => exact h.allocate hnew

theorem Coherent.put (h : bound.Coherent) {target : Int} (htarget : 0 < target)
    (hnew : bound.references.get? object.identity = none) :
    (bound.put target ⟨bound.placeOf target, object⟩).1.Coherent := by
  obtain ⟨⟨principal, hprincipal⟩, hplaced, howned, hlive, hfree, hneg⟩ := h
  refine ⟨⟨principal, ?_⟩, ?_, ?_, ?_, ?_, hneg⟩
  · have hne : (0 : Int) ≠ target := by omega
    simpa [Bound.put, Table.get?_insert, hne] using hprincipal
  · intro k binding hk hget
    simp only [Bound.put, Table.get?_insert] at hget
    grind [placeOf, Bound.put]
  · intro k binding hget
    simp only [Bound.put, Table.get?_insert] at hget ⊢
    grind
  · -- an instance replaced at `target` takes its own reference with it, and no other one:
    intro i k hget
    simp only [Bound.put, Table.get?_insert] at hget ⊢
    grind
  · intro k binding hk hget
    simp only [Bound.put, Table.get?_insert] at hget ⊢
    grind

theorem Coherent.remove (h : bound.Coherent) {target : Int} {binding : Binding}
    (htarget : target ≠ 0) (hbinding : bound.instances.get? target = some binding) :
    (bound.remove target binding).Coherent := by
  obtain ⟨⟨principal, hprincipal⟩, hplaced, howned, hlive, hfree, hneg⟩ := h
  refine ⟨⟨principal, ?_⟩, ?_, ?_, ?_, ?_, hneg⟩
  · simpa [Bound.remove, Table.get?_erase, htarget.symm] using hprincipal
  · intro k other hk hget
    simp only [Bound.remove, Table.get?_erase] at hget
    grind [placeOf, Bound.remove]
  · -- two instances cannot share an object, so the erased reference was the one of `target`:
    intro k other hget
    simp only [Bound.remove, Table.get?_erase] at hget ⊢
    grind
  · intro i k hget
    simp only [Bound.remove, Table.get?_erase] at hget ⊢
    grind
  · intro k other hk hget
    simp only [Bound.remove, Table.get?_erase] at hget ⊢
    grind

/-- The tables with another queue. -/
def withPending (bound : Bound) (pending : List Pending) : Bound := { bound with pending }

/-- Coherence is about the ids, not about the stubs that are still to be made. -/
theorem Coherent.withPending (h : bound.Coherent) (pending : List Pending) :
    (bound.withPending pending).Coherent :=
  ⟨h.principal, h.placed, h.owned, h.live, h.free, h.next_neg⟩

end Bound

end ScriptBridge
