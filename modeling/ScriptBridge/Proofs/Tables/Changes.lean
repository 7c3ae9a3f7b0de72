import ScriptBridge.Proofs.Tables.References

/-!
# Changes of one channel's tables

Everything that happens to the tables of a channel between a successful binding and the end of that
binding is a sequence of a few small changes: an object is referred to, the queue of stubs to come
loses its head, an instance is put in or taken out, the binding ends. `Change` lists them once, each
with the side conditions under which the bridge makes it, and what the tables keep through a whole
run is proved from the list.

## Native objects

Tables hold identities, and what an identity means depends on the objects there are. `known` says
which identities belong to objects that exist in a native state. The native state may change between
two changes of the tables, as long as no object goes out of existence.

## Labels

A change carries the entries it removes from the queue. Nobody but a computation of stubs takes
entries one by one; the end of a binding drops all that are left.
-/

namespace ScriptBridge

/-- What is seen of one channel: the native state, and the channel's tables while it has some. -/
abbrev Scene (σ : Type) := σ × Option Bound

variable {σ : Type} {known : σ → Nat → Prop}

/-- One change of a channel's tables, with the entries that it removes from the queue. -/
inductive Change (known : σ → Nat → Prop) : Scene σ → List Pending → Scene σ → Prop where
  /-- Native code changes its state. -/
  | native {s s' : σ} (t : Option Bound) (h : ∀ i, known s i → known s' i) :
    Change known (s, t) [] (s', t)
  /-- An object is referred to. -/
  | refer {s : σ} {object : ObjectRef} (bound : Bound) (h : known s object.identity) :
    Change known (s, some bound) [] (s, some (Bound.resolve object bound).2)
  /-- The first entry is taken, to make its stub. -/
  | take {bound : Bound} {next : Pending} {rest : List Pending} (s : σ)
    (h : bound.pending = next :: rest) :
    Change known (s, some bound) [next] (s, some { bound with pending := rest })
  /-- A new object is put in at an id of the script's choice. -/
  | put {s : σ} {bound : Bound} {target : Int} {object : ObjectRef} (htarget : 0 < target)
    (hknown : known s object.identity) (hnew : bound.references.get? object.identity = none) :
    Change known (s, some bound) []
      (s, some (bound.put target ⟨bound.placeOf target, object⟩).1)
  /-- An instance other than the principal is taken out. -/
  | remove {bound : Bound} {target : Int} {binding : Binding} (s : σ) (htarget : target ≠ 0)
    (hbinding : bound.instances.get? target = some binding) :
    Change known (s, some bound) [] (s, some (bound.remove target binding))
  /-- The binding ends, and with it all tables. -/
  | unbind (s : σ) (bound : Bound) : Change known (s, some bound) bound.pending (s, none)

/-- Changes one after another, with all that they remove from the queue. -/
inductive Changes (known : σ → Nat → Prop) : Scene σ → List Pending → Scene σ → Prop where
  | refl (v : Scene σ) : Changes known v [] v
  | tail {u v w : Scene σ} {taken more : List Pending} (h : Changes known u taken v)
    (hlast : Change known v more w) : Changes known u (taken ++ more) w

namespace Changes

theorem single {v w : Scene σ} {taken : List Pending} (h : Change known v taken w) :
    Changes known v taken w := by
  simpa using tail (refl v) h

theorem trans {u v w : Scene σ} {taken more : List Pending} (huv : Changes known u taken v)
    (hvw : Changes known v more w) : Changes known u (taken ++ more) w := by
  induction hvw with
  | refl => simpa using huv
  | tail _ hlast ih =>
    rw [← List.append_assoc]
    exact tail ih hlast

/-- Objects referred to one after another. -/
theorem referAll {s : σ} {objects : List ObjectRef}
    (h : ∀ object ∈ objects, known s object.identity) (bound : Bound) :
    Changes known (s, some bound) [] (s, some (Bound.referAll objects bound)) := by
  induction objects generalizing bound with
  | nil => exact refl _
  | cons object objects ih =>
    have hfirst : Changes known (s, some bound) [] (s, some (Bound.resolve object bound).2) :=
      single (.refer bound (h object List.mem_cons_self))
    exact hfirst.trans (ih (fun o ho ↦ h o (List.mem_cons_of_mem _ ho)) _)

/-! ## What changes keep -/

/-- No object goes out of existence. -/
theorem known_mono {u v : Scene σ} {taken : List Pending} (h : Changes known u taken v) :
    ∀ i, known u.1 i → known v.1 i := by
  induction h with
  | refl => exact fun _ hi ↦ hi
  | tail _ hlast ih =>
    intro i hi
    cases hlast with
    | native t hmono => exact hmono i (ih i hi)
    | _ => exact ih i hi

theorem resolve_frame (object : ObjectRef) (bound : Bound) :
    (Bound.resolve object bound).2.place = bound.place ∧
      (Bound.resolve object bound).2.identifier = bound.identifier := by
  unfold Bound.resolve
  split <;> exact ⟨rfl, rfl⟩

/-- A channel that is bound afterwards was bound before, under the same name and at the same place:
no change starts a binding. -/
theorem same_binding {u v : Scene σ} {taken : List Pending} (h : Changes known u taken v)
    {bound' : Bound} (hv : v.2 = some bound') :
    ∃ bound, u.2 = some bound ∧ bound'.place = bound.place ∧
      bound'.identifier = bound.identifier := by
  induction h generalizing bound' with
  | refl => exact ⟨bound', hv, rfl, rfl⟩
  | tail _ hlast ih =>
    cases hlast with
    | native t _ => exact ih hv
    | @refer _ object bound _ =>
      obtain ⟨start, hu, hplace, hname⟩ := ih rfl
      obtain rfl := Option.some.inj hv
      have hframe := resolve_frame object bound
      exact ⟨start, hu, hframe.1.trans hplace, hframe.2.trans hname⟩
    | take s hpending =>
      obtain ⟨start, hu, hkept⟩ := ih rfl
      obtain rfl := Option.some.inj hv
      exact ⟨start, hu, hkept⟩
    | put _ _ _ =>
      obtain ⟨start, hu, hkept⟩ := ih rfl
      obtain rfl := Option.some.inj hv
      exact ⟨start, hu, hkept⟩
    | remove s _ _ =>
      obtain ⟨start, hu, hkept⟩ := ih rfl
      obtain rfl := Option.some.inj hv
      exact ⟨start, hu, hkept⟩
    | unbind s bound => simp at hv

/-- Every identity in the table of references belongs to an object that exists. -/
def Grounded (known : σ → Nat → Prop) (v : Scene σ) : Prop :=
  ∀ bound, v.2 = some bound → ∀ i k, bound.references.get? i = some k → known v.1 i

end Changes

open Changes (Grounded)

theorem Change.grounded {u v : Scene σ} {taken : List Pending} (h : Change known u taken v)
    (hu : Grounded known u) : Grounded known v := by
  cases h with
  | native t hmono => exact fun bound hb i k hk ↦ hmono i (hu bound hb i k hk)
  | refer bound hobject =>
    rintro _ ⟨⟩ i k hk
    unfold Bound.resolve at hk
    split at hk
    · exact hu bound rfl i k hk
    · simp only [Bound.allocate, Table.get?_insert] at hk
      split at hk
      · next hi => exact hi ▸ hobject
      · exact hu bound rfl i k hk
  | @take bound _ _ s hpending =>
    rintro _ ⟨⟩
    exact hu bound rfl
  | @put s bound target object htarget hknown hnew =>
    rintro _ ⟨⟩ i k hk
    -- the reference of a replaced instance is erased, which only forgets:
    have hinsert : (bound.references.insert object.identity target).get? i = some k := by
      simp only [Bound.put] at hk
      split at hk
      · exact hk
      · rw [Table.get?_erase] at hk
        split at hk
        · simp at hk
        · exact hk
    rw [Table.get?_insert] at hinsert
    split at hinsert
    · next hi => exact hi ▸ hknown
    · exact hu bound rfl i k hinsert
  | remove s htarget hbinding =>
    rintro _ ⟨⟩ i k hk
    simp only [Bound.remove, Table.get?_erase] at hk
    split at hk
    · simp at hk
    · exact hu _ rfl i k hk
  | unbind s bound =>
    rintro _ ⟨⟩

theorem Change.coherent {u v : Scene σ} {taken : List Pending} (h : Change known u taken v)
    (hu : ∀ bound, u.2 = some bound → bound.Coherent) :
    ∀ bound, v.2 = some bound → bound.Coherent := by
  cases h with
  | native t hmono => exact hu
  | refer bound hobject =>
    rintro _ ⟨⟩
    exact (hu bound rfl).resolve _
  | take s hpending =>
    rintro _ ⟨⟩
    exact (hu _ rfl).withPending _
  | put htarget hknown hnew =>
    rintro _ ⟨⟩
    exact (hu _ rfl).put htarget hnew
  | remove s htarget hbinding =>
    rintro _ ⟨⟩
    exact (hu _ rfl).remove htarget hbinding
  | unbind s bound =>
    rintro _ ⟨⟩

namespace Changes

theorem grounded {u v : Scene σ} {taken : List Pending} (h : Changes known u taken v)
    (hu : Grounded known u) : Grounded known v := by
  induction h with
  | refl => exact hu
  | tail _ hlast ih => exact hlast.grounded ih

/-- **Coherence is kept by every sequence of changes.** -/
theorem coherent {u v : Scene σ} {taken : List Pending} (h : Changes known u taken v)
    (hu : ∀ bound, u.2 = some bound → bound.Coherent) :
    ∀ bound, v.2 = some bound → bound.Coherent := by
  induction h with
  | refl => exact hu
  | tail _ hlast ih => exact hlast.coherent ih

end Changes

end ScriptBridge
