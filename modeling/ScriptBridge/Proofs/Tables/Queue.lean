import ScriptBridge.Proofs.Tables.Changes

/-!
# The queue of stubs to come

Ids are given away from `nextReference` downwards, and every object that is given one joins the end
of the queue; entries leave the queue at its front. So the queue is conserved: what was in it and
what joined, in this order, is what left and what is in it now.

Conservation is what a whole run says about the queue (`Bound.Passes`), and it is all that is needed
to follow one entry from the literal that created it to the stub that announces it, whoever takes
entries in the meantime.
-/

namespace ScriptBridge

namespace Pending

/-- The entries carry the ids from `next` downwards. -/
def Numbered : Int → List Pending → Prop
  | _, [] => True
  | next, entry :: entries => entry.id = next ∧ Numbered (next - 1) entries

theorem numbered_append {next : Int} {a b : List Pending} :
    Numbered next (a ++ b) ↔ Numbered next a ∧ Numbered (next - a.length) b := by
  induction a generalizing next with
  | nil => simp [Numbered]
  | cons entry a ih =>
    have hlength : next - 1 - (a.length : Int) = next - (a.length + 1 : Nat) := by omega
    simp only [List.cons_append, Numbered, ih, hlength, List.length_cons]
    exact and_assoc.symm

theorem Numbered.le {next : Int} {entries : List Pending} (h : Numbered next entries) :
    ∀ entry ∈ entries, entry.id ≤ next := by
  induction entries generalizing next with
  | nil => simp
  | cons first entries ih =>
    intro entry hentry
    rcases List.mem_cons.mp hentry with rfl | hentry
    · exact Int.le_of_eq h.1
    · have hle := ih h.2 entry hentry
      omega

/-- No id comes twice. -/
theorem Numbered.ids_nodup {next : Int} {entries : List Pending} (h : Numbered next entries) :
    (entries.map Pending.id).Nodup := by
  induction entries generalizing next with
  | nil => exact List.nodup_nil
  | cons first entries ih =>
    refine List.nodup_cons.mpr ⟨?_, ih h.2⟩
    intro hmem
    obtain ⟨entry, hentry, heq⟩ := List.mem_map.mp hmem
    have hle := h.2.le entry hentry
    have hfirst := h.1
    omega

theorem Numbered.nodup {next : Int} {entries : List Pending} (h : Numbered next entries) :
    entries.Nodup :=
  List.Pairwise.of_map Pending.id (fun _ _ hne heq ↦ hne (congrArg _ heq)) h.ids_nodup

end Pending

open Pending (Numbered)

namespace Bound

/-- Between two states of the tables, `taken` left the front of the queue and `new` joined its end,
under the next ids. -/
structure Passes (bound : Bound) (taken new : List Pending) (bound' : Bound) : Prop where
  queue : bound.pending ++ new = taken ++ bound'.pending
  numbered : Numbered bound.nextReference new
  next : bound'.nextReference = bound.nextReference - new.length

namespace Passes

variable {bound bound' bound'' : Bound} {taken taken' new new' : List Pending}

/-- A change that leaves the queue and the next id alone. -/
theorem of_eq (hqueue : bound'.pending = bound.pending)
    (hnext : bound'.nextReference = bound.nextReference) : Passes bound [] [] bound' :=
  ⟨by simp [hqueue], trivial, by simp [hnext]⟩

theorem refl (bound : Bound) : Passes bound [] [] bound := of_eq rfl rfl

theorem trans (h : Passes bound taken new bound') (h' : Passes bound' taken' new' bound'') :
    Passes bound (taken ++ taken') (new ++ new') bound'' where
  queue := by
    calc bound.pending ++ (new ++ new') = taken ++ bound'.pending ++ new' := by
          rw [← List.append_assoc, h.queue]
      _ = taken ++ (taken' ++ bound''.pending) := by rw [List.append_assoc, h'.queue]
      _ = taken ++ taken' ++ bound''.pending := by rw [List.append_assoc]
  numbered := Pending.numbered_append.mpr ⟨h.numbered, h.next ▸ h'.numbered⟩
  next := by
    have hnext := h.next
    have hnext' := h'.next
    rw [List.length_append]
    omega

end Passes

/-! ## Single changes -/

/-- Referring to an object lets it join the queue if it has no id yet. -/
theorem resolve_passes (object : ObjectRef) (bound : Bound) :
    ∃ new, Passes bound [] new (resolve object bound).2 := by
  unfold resolve
  split
  · exact ⟨[], .refl bound⟩
  · refine ⟨[⟨bound.nextReference, bound.place, ⟨bound.placeOf bound.nextReference, object⟩⟩], ?_⟩
    refine ⟨rfl, ⟨rfl, trivial⟩, rfl⟩

theorem referAll_passes (objects : List ObjectRef) (bound : Bound) :
    ∃ new, Passes bound [] new (referAll objects bound) := by
  induction objects generalizing bound with
  | nil => exact ⟨[], .refl bound⟩
  | cons object objects ih =>
    obtain ⟨new, hfirst⟩ := resolve_passes object bound
    obtain ⟨more, hrest⟩ := ih (resolve object bound).2
    exact ⟨new ++ more, hfirst.trans hrest⟩

theorem take_passes {bound : Bound} {next : Pending} {rest : List Pending}
    (h : bound.pending = next :: rest) : Passes bound [next] [] { bound with pending := rest } :=
  ⟨by simp [h], trivial, by simp⟩

end Bound

variable {σ : Type} {known : σ → Nat → Prop}

theorem Change.passes {s s' : σ} {bound bound' : Bound} {taken : List Pending}
    (h : Change known (s, some bound) taken (s', some bound')) :
    ∃ new, bound.Passes taken new bound' := by
  cases h with
  | native t hmono => exact ⟨[], .refl bound⟩
  | refer bound hobject => exact Bound.resolve_passes _ bound
  | take s hpending => exact ⟨[], Bound.take_passes hpending⟩
  | put htarget hknown hnew => exact ⟨[], .of_eq rfl rfl⟩
  | remove s htarget hbinding => exact ⟨[], .of_eq rfl rfl⟩

/-- **The queue is conserved**, as long as the binding lasts. -/
theorem Changes.passes {u v : Scene σ} {taken : List Pending} (h : Changes known u taken v)
    {bound bound' : Bound} (hu : u.2 = some bound) (hv : v.2 = some bound') :
    ∃ new, bound.Passes taken new bound' := by
  induction h generalizing bound' with
  | refl =>
    obtain rfl := Option.some.inj (hu.symm.trans hv)
    exact ⟨[], .refl bound⟩
  | @tail v w _ _ _ hlast ih =>
    obtain ⟨s, t⟩ := v
    obtain ⟨s', t'⟩ := w
    obtain rfl : t' = some bound' := hv
    -- no change starts a binding, so the channel was bound before the last one:
    obtain ⟨middle, hmiddle, -⟩ := (Changes.single hlast).same_binding rfl
    obtain rfl : t = some middle := hmiddle
    obtain ⟨new, hfirst⟩ := ih rfl
    obtain ⟨new', hsecond⟩ := hlast.passes
    exact ⟨new ++ new', hfirst.trans hsecond⟩

end ScriptBridge
