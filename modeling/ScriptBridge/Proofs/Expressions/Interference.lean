import ScriptBridge.Proofs.Expressions.Steps
import ScriptBridge.Proofs.Runs.Messages
import ScriptBridge.Proofs.Tables.Queue

/-!
# Expressions that are computed at the same time

The queue of stubs belongs to the channel and not to one expression. Between two steps of one
computation others may use the channel: a getter that the drain runs may serialize a value, and a
callback may be completed on another thread. This file follows one computation among others and says
which stubs it gets.

## Interference

`Drains` is a drain with arbitrary changes by others between its steps, and `Computes` a whole
expression. Both list the stubs that the computation makes, in order, and the entries that the
others take away. Since the others are arbitrary, this covers all nestings and interleavings; a run
of `ChannelId.expression` is one such computation, in which the others are the getters.

## What is true and what is not

An object that first crosses in a literal gets its stub in the same expression exactly when nobody
else takes its entry first (`Computes.own_stub_iff`). Nothing keeps others from doing that:
`not_all_stubs_own` is a value of two objects, the first of which has a getter that serializes, and
whose expression lacks the stub of the second.
-/

namespace ScriptBridge

open Bridge (Sound Moves Settled)

variable {σ : Type} {known : σ → Nat → Prop}

/-! ## Computations among others -/

/-- A drain among changes by others, with the stubs it makes, each beside its entry, and the entries
that the others take. -/
inductive Drains (known : σ → Nat → Prop) (engine : EngineLiterals) :
    Scene σ → List (Pending × Source) → List Pending → Scene σ → Prop where
  /-- There is nothing left to drain. -/
  | idle {v : Scene σ} (h : ∀ bound, v.2 = some bound → bound.pending = []) :
    Drains known engine v [] [] v
  /-- Others get on. -/
  | others {u v w : Scene σ} {own : List (Pending × Source)} {taken more : List Pending}
    (h : Changes known u taken v) (hrest : Drains known engine v own more w) :
    Drains known engine u own (taken ++ more) w
  /-- The first entry is taken, others get on while its properties are read, its stub is made. -/
  | stub {s s' : σ} {bound bound' : Bound} {next : Pending} {rest taken more : List Pending}
    {own : List (Pending × Source)} {w : Scene σ} (urlPrefix : String) (surface : Surface)
    (hooks : Hooks) (values : List (String × Value)) (hpending : bound.pending = next :: rest)
    (hothers : Changes known (s, some { bound with pending := rest }) taken (s', some bound'))
    (hrest : Drains known engine (s', some (Bound.stubFor engine urlPrefix surface hooks
      (.reference next.owner next.id) next.binding.place values bound').2) own more w) :
    Drains known engine (s, some bound) ((next, (Bound.stubFor engine urlPrefix surface hooks
      (.reference next.owner next.id) next.binding.place values bound').1) :: own) (taken ++ more) w
  /-- The binding ends while the properties of an object are read. -/
  | unbound {s s' : σ} {bound : Bound} {next : Pending} {rest taken : List Pending}
    (hpending : bound.pending = next :: rest)
    (hothers : Changes known (s, some { bound with pending := rest }) taken (s', none)) :
    Drains known engine (s, some bound) [] taken (s', none)

/-- The computation of an expression among changes by others: `fresh` are the entries of the objects
that first cross in its literal. -/
def Computes (known : σ → Nat → Prop) (engine : EngineLiterals) (value : Value) (s : σ)
    (bound : Bound) (fresh : List Pending) (own : List (Pending × Source)) (taken : List Pending)
    (v : Scene σ) : Prop :=
  (Bound.literal engine value bound).2.pending = bound.pending ++ fresh ∧
    Drains known engine (s, some (Bound.literal engine value bound).2) own taken v

namespace Drains

variable {engine : EngineLiterals} {u v : Scene σ} {own : List (Pending × Source)}
  {taken : List Pending}

/-- Nobody starts a binding. -/
theorem bound_before (h : Drains known engine u own taken v) (hv : v.2.isSome) : u.2.isSome := by
  induction h with
  | idle => exact hv
  | others h _ ih =>
    obtain ⟨bound, hbound⟩ := Option.isSome_iff_exists.mp (ih hv)
    obtain ⟨start, hstart, -⟩ := h.same_binding hbound
    simp [hstart]
  | stub => rfl
  | unbound => rfl

/-- **Who takes what.** While the binding lasts, the entries that leave the queue are those whose
stubs the drain makes and those that others take, and in the end none is left. -/
theorem passes (h : Drains known engine u own taken v) {bound bound' : Bound}
    (hu : u.2 = some bound) (hv : v.2 = some bound') :
    bound'.pending = [] ∧ ∃ removed new, bound.Passes removed new bound' ∧
      removed.Perm (own.map (·.1) ++ taken) := by
  induction h generalizing bound with
  | idle h =>
    obtain rfl := Option.some.inj (hu.symm.trans hv)
    exact ⟨h bound hu, [], [], .refl bound, List.Perm.refl _⟩
  | others h hrest ih =>
    -- the binding lasts to the end, so it lasted through what the others did:
    obtain ⟨middle, hmiddle⟩ := Option.isSome_iff_exists.mp (hrest.bound_before (by simp [hv]))
    obtain ⟨new, hfirst⟩ := h.passes hu hmiddle
    obtain ⟨hempty, removed, new', hsecond, hperm⟩ := ih hmiddle hv
    refine ⟨hempty, _, _, hfirst.trans hsecond, ?_⟩
    exact (hperm.append_left _).trans (List.perm_append_comm_assoc _ _ _)
  | stub urlPrefix surface hooks values hpending hothers hrest ih =>
    obtain rfl := Option.some.inj hu
    obtain ⟨hempty, removed, new', hlater, hperm⟩ := ih rfl hv
    obtain ⟨new, hmeanwhile⟩ := hothers.passes rfl rfl
    obtain ⟨more, hstub⟩ := Bound.referAll_passes (Bound.namedReferred engine values) _
    rw [← Bound.stubFor_state engine urlPrefix surface hooks] at hstub
    -- the entry that is taken, what the others take meanwhile, what the stub refers to:
    have hmade := ((Bound.take_passes hpending).trans hmeanwhile).trans hstub
    refine ⟨hempty, _, _, hmade.trans hlater, ?_⟩
    simp only [List.append_nil, List.cons_append, List.nil_append, List.map_cons]
    exact ((hperm.append_left _).trans (List.perm_append_comm_assoc _ _ _)).cons _
  | unbound => cases hv

/-- A stub stands at the place of its object. -/
theorem place_of_mem (h : Drains known engine u own taken v) :
    ∀ entry source, (entry, source) ∈ own → source.place = entry.binding.place := by
  induction h with
  | idle => simp
  | others _ _ ih => exact ih
  | stub urlPrefix surface hooks values _ _ _ ih =>
    intro entry source hmem
    rcases List.mem_cons.mp hmem with heq | hmem
    · cases heq
      rfl
    · exact ih entry source hmem
  | unbound => simp

end Drains

/-- **An object that first crosses in a literal has its stub in the same expression exactly when
nobody else takes its entry**, for every computation in a binding that lasts, whatever others do
before and meanwhile; and no stub is made twice. -/
theorem Computes.own_stub_iff {engine : EngineLiterals} {value : Value} {s₀ s s' : σ}
    {identifier place : String} {principal : ObjectRef} {bound bound' : Bound}
    {before fresh taken : List Pending} {own : List (Pending × Source)}
    (hbefore : Changes known (s₀, some (.start identifier place principal)) before (s, some bound))
    (h : Computes known engine value s bound fresh own taken (s', some bound')) :
    (own.map (·.1)).Nodup ∧ ∀ entry ∈ fresh,
      (∃ source, (entry, source) ∈ own ∧ source.place = entry.binding.place) ↔ entry ∉ taken := by
  obtain ⟨hfresh, hdrains⟩ := h
  obtain ⟨given, hgiven⟩ := hbefore.passes rfl rfl
  obtain ⟨new, hliteral⟩ := Bound.referAll_passes (value.referred engine) bound
  rw [← Bound.literal_state] at hliteral
  obtain ⟨hempty, removed, later, hdrained, hperm⟩ := hdrains.passes rfl rfl
  -- every id that was ever given away, each once
  have hall := (hgiven.trans hliteral).trans hdrained
  have hqueue : given ++ new ++ later = before ++ removed := by
    simpa [Bound.start, hempty] using hall.queue
  have hnodup : (own.map (·.1) ++ taken).Nodup := by
    have hremoved : (before ++ removed).Nodup := hqueue ▸ hall.numbered.nodup
    exact hperm.nodup_iff.mp (List.nodup_append.mp hremoved).2.1
  refine ⟨(List.nodup_append.mp hnodup).1, ?_⟩
  intro entry hentry
  -- what was in the queue after the literal has left it in the end:
  have hleft : entry ∈ removed := by
    have hpending : entry ∈ (Bound.literal engine value bound).2.pending := by
      rw [hfresh]
      exact List.mem_append_right _ hentry
    have hconserved := hdrained.queue
    rw [hempty, List.append_nil] at hconserved
    exact hconserved ▸ List.mem_append_left _ hpending
  refine ⟨?_, ?_⟩
  · rintro ⟨source, hown, -⟩ htaken
    have hmade : entry ∈ own.map (·.1) := List.mem_map_of_mem hown
    exact (List.nodup_append.mp hnodup).2.2 entry hmade entry htaken rfl
  · intro hnot
    have hmade : entry ∈ own.map (·.1) :=
      (List.mem_append.mp (hperm.mem_iff.mp hleft)).resolve_right hnot
    obtain ⟨⟨_, source⟩, hown, rfl⟩ := List.mem_map.mp hmade
    exact ⟨source, hown, hdrains.place_of_mem _ _ hown⟩

/-- Of two objects that first cross in a literal, the second loses its entry to others while the
stub of the first is made. -/
theorem own_stub_of_two : ∃ (own : List (Pending × Source)) (v : Scene Unit),
    let first : Pending := ⟨-1, "app", ⟨"app[-1]", ⟨1, "Live"⟩⟩⟩
    let second : Pending := ⟨-2, "app", ⟨"app[-2]", ⟨2, "Plain"⟩⟩⟩
    Computes (fun _ _ ↦ True) .plain (.array [.native ⟨1, "Live"⟩, .native ⟨2, "Plain"⟩]) ()
        (.start "1" "app" ⟨0, "Plain"⟩) [first, second] own [second] v ∧
      (∃ source, (first, source) ∈ own ∧ source.place = "app[-1]") ∧
        ¬ ∃ source, (second, source) ∈ own ∧ source.place = "app[-2]" := by
  have hcomputes : Computes (fun _ _ ↦ True) .plain
      (.array [.native ⟨1, "Live"⟩, .native ⟨2, "Plain"⟩]) () (.start "1" "app" ⟨0, "Plain"⟩)
      _ _ _ _ :=
    ⟨rfl, .stub "" ⟨"Live", .empty⟩ { description := "Live" } [] rfl (.single (.take () rfl))
      (.idle (by rintro _ ⟨⟩; rfl))⟩
  have hiff := (Computes.own_stub_iff (.refl _) hcomputes).2
  refine ⟨_, _, hcomputes, ?_, ?_⟩
  · exact (hiff _ List.mem_cons_self).mpr (by decide)
  · exact fun h ↦ (hiff _ (List.mem_cons_of_mem _ List.mem_cons_self)).mp h List.mem_cons_self

/-- A host with an object that, to show its property, serializes on the first channel. -/
def Host.serializing : Host Unit where
  surface typeName :=
    ⟨typeName, .ofList (if typeName = "Live" then [("live", .property false)] else [])⟩
  hooks _ object := { description := object.typeName }
  get _ _ := .call (.serialize 0 .undefined) fun text ↦ .done (.string text)
  set _ _ _ := .done (.returned (.ok ()))
  invoke _ _ _ := .done (.returned (.ok .undefined))
  construct _ _ := .done (.panicked none)
  receive _ _ := .done (.returned ())

/-- Not every expression brings the stubs of the objects that first cross in its literal: the getter
of the first of two objects takes away the entry of the second. -/
theorem not_all_stubs_own :
    ¬ ∀ (host : Host Unit) (levels : Nat) (value : Value) (bridge bridge' : Bridge Unit)
      (bound bound' : Bound) (expression : ChannelId.Expression),
      bridge.boundOf 0 = some bound →
      ChannelId.expression host (Bridge.answer host levels) levels 0 value {} bridge =
        some (expression, bridge') →
      bridge'.boundOf 0 = some bound' →
      ∀ object ∈ value.referred .plain, bound.bindingOf? object = none →
        ∃ source ∈ expression.sources,
          (bound'.bindingOf? object).map (·.place) = some source.place := by
  intro h
  let bridge : Bridge Unit := {
    native := ()
    context := some {}
    channels := .ofList [(0, { worker := 0, bound := some (.start "1" "app" ⟨0, "Plain"⟩) })] }
  let value : Value := .array [.native ⟨1, "Live"⟩, .native ⟨2, "Plain"⟩]
  obtain ⟨source, hsource, hplace⟩ := h .serializing 4 value bridge _ _ _ _ rfl rfl rfl ⟨2, "Plain"⟩
    (by simp [value, Value.referred, Value.itemsReferred, EngineLiterals.plain]) rfl
  have hfirst : source.place ∈ ["app[-1]"] := List.mem_map_of_mem hsource
  have hsecond : some "app[-2]" = some source.place := hplace
  rw [List.mem_singleton.mp hfirst] at hsecond
  exact absurd hsecond (by decide)

/-! ## Runs -/

namespace ChannelId

variable {c : ChannelId} {host : Host σ} {answer : Answerer σ} {frame : Frame} {bridge : Bridge σ}

/-- A stub that is made while the channel is bound, or none after the end of the binding. -/
private theorem stub?_scene {engine : EngineLiterals} {target : StubTarget} {binding : Binding}
    {values : List (String × Value)} {source : Option Source} {bridge' : Bridge σ}
    (h : stub? host c engine target binding values frame bridge = some (source, bridge')) :
    (bridge.boundOf c = none ∧ source = none ∧ bridge' = bridge) ∨
      ∃ channel bound, bridge.boundOf c = some bound ∧
        source = some (stubOf host engine bridge.native channel target binding values bound).1 ∧
        bridge'.scene c = (bridge.native,
          some (stubOf host engine bridge.native channel target binding values bound).2) := by
  cases hbound : bridge.boundOf c with
  | none =>
    rw [stub?_run_of_unbound hbound] at h
    cases h
    exact .inl ⟨rfl, rfl, rfl⟩
  | some bound =>
    obtain ⟨channel, hchannel, hsome⟩ := Option.bind_eq_some_iff.mp hbound
    rw [stub?_run hchannel hsome] at h
    cases h
    refine .inr ⟨channel, bound, rfl, rfl, ?_⟩
    rw [Bridge.scene_logged, Bridge.scene_withBound (by simp [hbound])]

variable (hhost : host.Lawful known c) (hanswer : answer.Lawful known c)
include hhost hanswer

/-- A drain of the bridge is a drain among others, which are the getters that it runs. -/
theorem drain_drains (engine : EngineLiterals) (patience : Nat) :
    (drain host answer c engine patience).Leads known c False frame bridge fun sources bridge' ↦
      ∃ own taken, Drains known engine (bridge.scene c) own taken (bridge'.scene c) ∧
        own.map (·.2) = sources := by
  induction patience generalizing bridge with
  | zero => exact .stuck _
  | succ patience ih =>
    refine .bound?_bind ?_
    split
    · next hnone =>
      refine .pure ⟨[], [], .idle ?_, rfl⟩
      intro bound hbound
      exact absurd (hnone.symm.trans hbound) (by simp)
    · next bound hbound =>
      split
      · next hpending =>
        refine .pure ⟨[], [], .idle ?_, rfl⟩
        intro bound' hbound'
        obtain rfl := Option.some.inj (hbound.symm.trans hbound')
        exact hpending
      · next next rest hpending =>
        have hchanges : Changes known (bridge.native, some bound) [next]
            (bridge.native, some { bound with pending := rest }) :=
          .single (.take bridge.native hpending)
        refine (Run.Leads.setBound_self hbound hchanges False.elim).bind ?_
        rintro _ _ - - rfl
        refine ((Binding.values_leads hhost hanswer next.binding).mono (fun _ ↦ trivial)
          fun _ _ _ h ↦ h).bind ?_
        intro values bridge₂ _ hmoves hvalues
        obtain ⟨taken, hothers⟩ := hmoves.changes
        rw [Bridge.scene_withBound (by simp [hbound])] at hothers
        rw [Bridge.scene_of_bound hbound]
        refine ((stub?_leads c engine (.reference next.owner next.id) next.binding hvalues).mono
          False.elim fun _ _ _ h ↦ h).traced.bind ?_
        rintro source bridge₃ - - ⟨hrun, -⟩
        rcases stub?_scene hrun with ⟨hnone, rfl, rfl⟩ | ⟨channel, bound', hsome, rfl, hscene⟩
        · rw [Bridge.scene, hnone] at hothers
          refine .pure ⟨[], taken, ?_, rfl⟩
          rw [Bridge.scene, hnone]
          exact .unbound hpending hothers
        · rw [Bridge.scene_of_bound hsome] at hothers
          refine ih.bind ?_
          rintro sources bridge₄ - - ⟨own, more, hdrains, rfl⟩
          rw [hscene] at hdrains
          exact .pure ⟨_, taken ++ more, .stub _ _ _ values hpending hothers hdrains, rfl⟩

/-- **An expression of the bridge is a computation among others**, which are the getters that it
runs. Its text installs the stubs that are its own. -/
theorem expression_computes {bound : Bound} (hbound : bridge.boundOf c = some bound)
    (patience : Nat) {value : Value} (hvalue : ∀ i ∈ value.identities, known bridge.native i) :
    (expression host answer patience c value).Leads known c False frame bridge
      fun expression bridge' ↦ ∃ engine fresh own taken,
        Computes known engine value bridge.native bound fresh own taken (bridge'.scene c) ∧
          own.map (·.2) = expression.sources ∧
            expression.literal = (Bound.literal engine value bound).1 ∧
            Delivers (Bound.literal engine value bound).1 (own.map (·.2)) expression.text := by
  refine .get_bind ?_
  refine ((literal_leads c _ hvalue).mono False.elim fun _ _ _ h ↦ h).traced.bind ?_
  rintro text bridge₁ - - ⟨hrun, -⟩
  rw [literal_run hbound] at hrun
  cases hrun
  refine (drain_drains hhost hanswer _ patience).bind ?_
  rintro _ bridge₂ - - ⟨own, taken, hdrains, rfl⟩
  rw [Bridge.scene_logged, Bridge.scene_withBound (by simp [hbound])] at hdrains
  obtain ⟨fresh, hfresh⟩ := Bound.referAll_passes (value.referred _) bound
  rw [← Bound.literal_state] at hfresh
  refine .pure ⟨_, fresh, own, taken, ⟨hfresh.queue.symm, hdrains⟩, rfl, rfl, ?_⟩
  exact Expression.text_delivers ⟨own.map (·.2), _⟩

end ChannelId

end ScriptBridge
