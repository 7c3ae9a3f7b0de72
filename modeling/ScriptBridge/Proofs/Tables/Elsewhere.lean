import ScriptBridge.Proofs.Tables.Growth

/-!
# What happens under other ids

Each change of a channel's tables concerns one id, or ids that were free. `Bound.SameAt` says that
the tables are the same under the ids of some kind, from both sides: the same instances stand under
them, and the same objects are referred to by them. Putting an instance in and taking one out leave
the tables the same at all ids but one, referring to objects leaves them the same at all ids but the
vacant ones.

That this is so from the side of the references, too, rests on the coherence of the tables. The two
tables have different keys, and the reference that goes with an instance is found by the identity of
its object.
-/

namespace ScriptBridge.Bound

/-- Under the ids of a kind the tables say the same. -/
structure SameAt (ids : Int → Prop) (bound bound' : Bound) : Prop where
  instances : ∀ k, ids k → bound'.instances.get? k = bound.instances.get? k
  references : ∀ i k, ids k →
    (bound'.references.get? i = some k ↔ bound.references.get? i = some k)

/-- The ids that may be given to objects when they are referred to. -/
def Vacant (bound : Bound) (k : Int) : Prop := k < 0 ∧ bound.instances.get? k = none

variable {ids ids' : Int → Prop} {bound bound' bound'' : Bound} {object : ObjectRef} {target : Int}

namespace SameAt

theorem refl (bound : Bound) : bound.SameAt ids bound where
  instances _ _ := rfl
  references _ _ _ := Iff.rfl

theorem trans (h : bound.SameAt ids bound') (h' : bound'.SameAt ids bound'') :
    bound.SameAt ids bound'' where
  instances k hk := (h'.instances k hk).trans (h.instances k hk)
  references i k hk := (h'.references i k hk).trans (h.references i k hk)

theorem mono (h : bound.SameAt ids bound') (hle : ∀ k, ids' k → ids k) :
    bound.SameAt ids' bound' where
  instances k hk := h.instances k (hle k hk)
  references i k hk := h.references i k (hle k hk)

/-- The ids that are vacant when tables are the same elsewhere were vacant before. -/
theorem vacant (h : bound.SameAt (¬ bound.Vacant ·) bound') {k : Int} (hk : bound'.Vacant k) :
    bound.Vacant k := by
  refine Classical.byContradiction fun hnot ↦ hnot ⟨hk.1, ?_⟩
  exact (h.instances k hnot).symm.trans hk.2

end SameAt

/-! ## One id -/

/-- Whoever stands at the id loses the reference, and nobody else does. -/
theorem Coherent.put_sameAt (h : bound.Coherent) (place : String)
    (hnew : bound.references.get? object.identity = none) :
    bound.SameAt (· ≠ target) (bound.put target ⟨place, object⟩).1 where
  instances k hk := by
    rw [Bound.put, Table.get?_insert, if_neg hk]
  references i k hk := by
    have hinserted : (bound.references.insert object.identity target).get? i = some k ↔
        bound.references.get? i = some k := by
      rw [Table.get?_insert]
      by_cases hi : i = object.identity
      · rw [if_pos hi, hi, hnew]
        simp [hk.symm]
      · rw [if_neg hi]
    unfold Bound.put
    cases hprevious : bound.instances.get? target with
    | none => exact hinserted
    | some previous =>
      rw [Table.get?_erase]
      by_cases hi : i = previous.object.identity
      · rw [if_pos hi, hi, h.owned target previous hprevious]
        simp [hk.symm]
      · rw [if_neg hi]
        exact hinserted

/-- What is taken out takes its own reference with it. -/
theorem Coherent.remove_sameAt (h : bound.Coherent) {binding : Binding}
    (hbinding : bound.instances.get? target = some binding) :
    bound.SameAt (· ≠ target) (bound.remove target binding) where
  instances k hk := by
    rw [Bound.remove, Table.get?_erase, if_neg hk]
  references i k hk := by
    rw [Bound.remove, Table.get?_erase]
    by_cases hi : i = binding.object.identity
    · rw [if_pos hi, hi, h.owned target binding hbinding]
      simp [hk.symm]
    · rw [if_neg hi]

/-- What has been put in at a free id is taken out without a trace. -/
theorem remove_put (binding : Binding) (hfree : bound.instances.get? target = none)
    (hnew : bound.references.get? binding.object.identity = none) :
    (bound.put target binding).1.remove target binding = bound := by
  have hinstances : (bound.instances.insert target binding).erase target = bound.instances := by
    refine Table.ext_get? fun k ↦ ?_
    rw [Table.get?_erase, Table.get?_insert]
    by_cases hk : k = target
    · rw [if_pos hk, hk, hfree]
    · rw [if_neg hk, if_neg hk]
  have hreferences : (bound.references.insert binding.object.identity target).erase
      binding.object.identity = bound.references := by
    refine Table.ext_get? fun i ↦ ?_
    rw [Table.get?_erase, Table.get?_insert]
    by_cases hi : i = binding.object.identity
    · rw [if_pos hi, hi, hnew]
    · rw [if_neg hi, if_neg hi]
  simp only [put, remove, hfree, hinstances, hreferences]

/-! ## Vacant ids -/

theorem Coherent.resolve_sameAt (h : bound.Coherent) (object : ObjectRef) :
    bound.SameAt (¬ bound.Vacant ·) (Bound.resolve object bound).2 := by
  unfold Bound.resolve
  split
  · exact .refl bound
  · next hnone =>
    have hvacant : bound.Vacant bound.nextReference := ⟨h.next_neg, h.instances_next⟩
    have hnew := h.bindingOf?_eq_none_iff.mp hnone
    constructor
    · intro k hk
      have hne : k ≠ bound.nextReference := fun heq ↦ hk (heq ▸ hvacant)
      rw [Bound.allocate, Table.get?_insert, if_neg hne]
    · intro i k hk
      have hne : bound.nextReference ≠ k := fun heq ↦ hk (heq ▸ hvacant)
      rw [Bound.allocate, Table.get?_insert]
      by_cases hi : i = object.identity
      · rw [if_pos hi, hi, hnew]
        simp [hne]
      · rw [if_neg hi]

/-- Tables to which ids were only added, one set of them after the other. -/
theorem SameAt.trans_vacant (h : bound.SameAt (¬ bound.Vacant ·) bound')
    (h' : bound'.SameAt (¬ bound'.Vacant ·) bound'') :
    bound.SameAt (¬ bound.Vacant ·) bound'' :=
  h.trans (h'.mono fun _ hk hvacant ↦ hk (h.vacant hvacant))

/-- **Referring to objects fills vacant ids** and touches no others. -/
theorem Coherent.referAll_sameAt (h : bound.Coherent) (objects : List ObjectRef) :
    bound.SameAt (¬ bound.Vacant ·) (Bound.referAll objects bound) := by
  induction objects generalizing bound with
  | nil => exact .refl bound
  | cons object objects ih =>
    exact (h.resolve_sameAt object).trans_vacant (ih (h.resolve object))

end ScriptBridge.Bound
