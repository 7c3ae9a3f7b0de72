import ScriptBridge.Proofs.Runs.Lawful

/-!
# Members and workers move the scene

The members of lawful native code, reached through a surface or run by a worker, seen from one
channel. All of these runs are calm: a member may make the bridge give ids to objects, but only by
calls of the bridge, and those leave no stub unmade.

What a worker is asked to do comes from scripts, so its arguments are plain data, and stay plain
when they are fitted to an arity.
-/

namespace ScriptBridge

namespace Value

mutual

/-- Data holds no native objects. -/
theorem identities_ofJson : ∀ json : Json, (ofJson json).identities = []
  | .null | .bool _ | .float _ | .string _ => by simp [ofJson, identities]
  | .int n => by
    rw [ofJson]
    split <;> simp [identities]
  | .array items => by
    rw [ofJson, identities]
    exact itemIdentities_ofJsons items
  | .object fields => by
    rw [ofJson, identities]
    exact fieldIdentities_ofJsonFields fields

theorem itemIdentities_ofJsons : ∀ items : List Json, itemIdentities (ofJsons items) = []
  | [] => by simp [ofJsons, itemIdentities]
  | item :: items => by
    rw [ofJsons, itemIdentities, identities_ofJson item, itemIdentities_ofJsons items]
    rfl

theorem fieldIdentities_ofJsonFields : ∀ fields : List (String × Json),
    fieldIdentities (ofJsonFields fields) = []
  | [] => by simp [ofJsonFields, fieldIdentities]
  | (_, value) :: fields => by
    rw [ofJsonFields, fieldIdentities, identities_ofJson value,
      fieldIdentities_ofJsonFields fields]
    rfl

end

theorem identities_ofOperand (operand : Option Json) : (ofOperand operand).identities = [] := by
  cases operand with
  | none => simp [ofOperand, identities]
  | some json => exact identities_ofJson json

theorem itemIdentities_argumentsOf (operand : Option Json) :
    itemIdentities (argumentsOf operand) = [] := by
  unfold argumentsOf
  split
  · exact itemIdentities_ofJsons _
  · simp [itemIdentities]

theorem itemIdentities_eq_nil_iff {values : List Value} :
    itemIdentities values = [] ↔ ∀ value ∈ values, value.identities = [] := by
  induction values with
  | nil => simp [itemIdentities]
  | cons value values ih => simp [itemIdentities, ih]

end Value

/-- Fitted arguments are plain where the arguments were: what is filled up holds no objects. -/
theorem itemIdentities_fitArguments {name : String} {arity : Option Nat} {args fitted : List Value}
    (hargs : Value.itemIdentities args = []) (h : fitArguments name arity args = .ok fitted) :
    Value.itemIdentities fitted = [] := by
  rw [Value.itemIdentities_eq_nil_iff] at hargs ⊢
  unfold fitArguments at h
  split at h
  · cases h
    exact hargs
  · split at h
    · cases h
    · cases h
      intro value hvalue
      rcases List.mem_append.mp hvalue with hvalue | hvalue
      · exact hargs value hvalue
      · simp [List.eq_of_mem_replicate hvalue, Value.identities]

/-- Arguments with callbacks in place of their marks are as plain as the arguments. -/
theorem itemIdentities_attach {id : ChannelId} {args : List Value}
    (hargs : Value.itemIdentities args = []) :
    Value.itemIdentities (ChannelId.attach id args) = [] := by
  rw [Value.itemIdentities_eq_nil_iff] at hargs ⊢
  intro value hvalue
  obtain ⟨arg, harg, rfl⟩ := List.mem_map.mp hvalue
  split
  · simp [Value.identities]
  · exact hargs arg harg

open Bridge (Sound Moves Settled)
open Changes (Grounded)

variable {σ α : Type} {known : σ → Nat → Prop} {c : ChannelId} {host : Host σ}
  {answer : Answerer σ} {frame : Frame} {bridge : Bridge σ}

/-! ## Members -/

/-- A program that starts now. -/
theorem Native.run_leads_now {ends : σ → σ → α → Prop} (hanswer : answer.Lawful known c)
    {program : Native σ α} (h : program.Lawful known c ends bridge.native bridge.native) :
    (program.run answer).Leads known c True frame bridge fun a bridge' ↦
      ∃ base, Grounded known (base, bridge'.boundOf c) ∧ ends base bridge'.native a := by
  intro hsound
  exact Native.run_leads hanswer program hsound.grounded h hsound

namespace Binding

variable (hhost : host.Lawful known c) (hanswer : answer.Lawful known c)
include hhost hanswer

theorem readAll_leads (binding : Binding) (names : List String) :
    (binding.readAll host answer names).Leads known c True frame bridge fun values bridge' ↦
      ∀ i ∈ Value.fieldIdentities values, known bridge'.native i := by
  induction names generalizing bridge with
  | nil =>
    refine .pure ?_
    simp [Value.fieldIdentities]
  | cons name names ih =>
    refine (Native.run_leads_now hanswer (hhost.get binding.object name _)).bind ?_
    rintro value bridge₁ - - ⟨_, -, hvalue⟩
    refine ih.bind ?_
    intro values bridge₂ _ hmoves hvalues
    refine .pure ?_
    intro i hi
    rcases List.mem_append.mp hi with hi | hi
    · -- later getters let no object of an earlier value go out of existence:
      exact hmoves.known_mono i (hvalue i hi)
    · exact hvalues i hi

/-- The values of the properties belong to objects that exist when all of them have been read. -/
theorem values_leads (binding : Binding) :
    (binding.values host answer).Leads known c True frame bridge fun values bridge' ↦
      ∀ i ∈ Value.fieldIdentities values, known bridge'.native i :=
  readAll_leads hhost hanswer binding _

theorem set_leads (binding : Binding) (name : String) {value : Value}
    (hvalue : value.identities = []) :
    (binding.set host answer name value).Leads known c True frame bridge fun _ _ ↦ True := by
  unfold Binding.set
  split
  · exact (Native.run_leads_now hanswer (hhost.set binding.object name value _ hvalue)).forget
  · exact .pure trivial
  · exact .pure trivial

theorem invoke_leads (binding : Binding) (name : String) {args : List Value}
    (hargs : Value.itemIdentities args = []) :
    (binding.invoke host answer name args).Leads known c True frame bridge fun finish bridge' ↦
      Native.ReturnsKnown known bridge'.native bridge'.native finish := by
  unfold Binding.invoke
  split
  · split
    · exact .pure trivial
    · next fitted hfitted =>
      have hplain := itemIdentities_fitArguments hargs hfitted
      refine (Native.run_leads_now hanswer (hhost.invoke binding.object name fitted _ hplain)).mono
        id ?_
      rintro finish _ - ⟨_, -, hends⟩
      unfold Native.ReturnsKnown at hends ⊢
      exact hends
  · exact .pure trivial

end Binding

/-- An instance that is made is fresh: nothing in the tables refers to it. -/
theorem Host.make_leads (hhost : host.Lawful known c) (hanswer : answer.Lawful known c)
    (typeName : String) {args : List Value} (hargs : Value.itemIdentities args = []) :
    (host.make answer typeName args).Leads known c True frame bridge fun finish bridge' ↦
      ∀ object, finish = .returned (.ok object) → known bridge'.native object.identity ∧
        ∀ bound, bridge'.boundOf c = some bound →
          bound.references.get? object.identity = none := by
  unfold Host.make
  split
  · refine .pure ?_
    rintro _ ⟨⟩
  · split
    · refine .pure ?_
      rintro _ ⟨⟩
    · next fitted hfitted =>
      have hplain := itemIdentities_fitArguments hargs hfitted
      refine (Native.run_leads_now hanswer (hhost.construct typeName fitted _ hplain)).mono id ?_
      rintro _ bridge' - ⟨base, hbase, hfresh⟩ object rfl
      -- the tables refer to what existed in the base, and what is fresh did not:
      refine ⟨hfresh.1, ?_⟩
      intro bound hbound
      cases hget : bound.references.get? object.identity with
      | none => rfl
      | some k => exact absurd (hbase bound hbound _ k hget) hfresh.2

/-- A message that is no request moves the scene as the raw handler does, if it is called. -/
theorem Host.tell_leads (hhost : host.Lawful known c) (hanswer : answer.Lawful known c)
    (object : ObjectRef) (message : Message) :
    (host.tell answer object message).Leads known c True frame bridge fun _ _ ↦ True := by
  refine .get_bind ?_
  split
  · exact (Native.run_leads_now hanswer (hhost.receive object message _)).forget
  · exact .pure trivial

/-! ## Workers -/

namespace Run

/-- Takes the oldest native call that waits for a worker. -/
def takeFirst (id : WorkerId) : Run σ (Option Task) := do
  let bridge ← get
  match bridge.workers.get? id with
  | none => return none
  | some worker =>
    match worker.waiting with
    | [] => return none
    | task :: waiting =>
      set { bridge with workers := bridge.workers.insert id { worker with waiting } }
      return some task

/-- A worker runs the oldest call that waits for it, if there is one, on its own thread. -/
def advance (host : Host σ) (answer : Answerer σ) (id : WorkerId) : Run σ Unit :=
  within (Frame.enter {} id) do
    match ← takeFirst id with
    | none => return
    | some task => task.run host answer

end Run

namespace Task

variable (hhost : host.Lawful known c) (hanswer : answer.Lawful known c)
include hhost hanswer

theorem run_leads {task : Task} (htask : task.Plain) :
    (task.run host answer).Leads known c True frame bridge fun _ _ ↦ True := by
  unfold Task.run
  split
  · refine (Binding.set_leads hhost hanswer _ _ htask).bind ?_
    intro finish _ _ _ _
    split
    · exact .pure trivial
    · exact Run.Leads.say.forget
    · exact Run.Leads.say.forget
  · refine (Binding.invoke_leads hhost hanswer _ _ htask).bind ?_
    intro finish _ _ _ _
    split
    · exact .pure trivial
    · exact Run.Leads.say.forget
    · exact Run.Leads.say.forget
  · refine (Host.tell_leads hhost hanswer _ _).bind ?_
    intro finish _ _ _ _
    split
    · exact .pure trivial
    · exact Run.Leads.say.forget

theorem runAll_leads {tasks : List Task} (htasks : ∀ task ∈ tasks, task.Plain) :
    (Task.runAll host answer tasks).Leads known c True frame bridge fun _ _ ↦ True := by
  induction tasks generalizing bridge with
  | nil => exact .pure trivial
  | cons task tasks ih =>
    refine (Task.run_leads hhost hanswer (htasks task List.mem_cons_self)).bind ?_
    intro _ _ _ _ _
    exact ih fun t ht ↦ htasks t (List.mem_cons_of_mem _ ht)

end Task

namespace Run

/-- The workers are replaced, each new one with plain calls. -/
private theorem workers_leads {workers : Table Nat (Worker Task)} (id : WorkerId)
    (worker : Worker Task) (hworkers : workers = bridge.workers.insert id worker)
    (hplain : ∀ task ∈ worker.waiting, task.Plain) (hsound : Sound known c bridge) :
    Sound known c { bridge with workers } := by
  refine ⟨hsound.grounded, ?_⟩
  intro other w hw task htask
  simp only [hworkers, Table.get?_insert] at hw
  split at hw
  · cases hw
    exact hplain task htask
  · exact hsound.waiting other w hw task htask

theorem submit_leads (id : WorkerId) (task : Task) (htask : task.Plain) :
    (Run.submit id task).Leads known c True frame bridge fun _ bridge' ↦
      bridge'.scene c = bridge.scene c := by
  rintro hsound _ bridge' hrun
  obtain rfl := (Prod.mk.inj (Option.some.inj hrun)).2
  dsimp only
  split
  · exact ⟨hsound, .refl _, rfl⟩
  · next worker hworker =>
    refine ⟨workers_leads id (worker.enqueue task) rfl ?_ hsound, .of_scene_eq rfl, rfl⟩
    intro t ht
    rcases List.mem_append.mp ht with ht | ht
    · exact hsound.waiting id worker hworker t ht
    · exact List.mem_singleton.mp ht ▸ htask

theorem takeWaiting_leads (id : WorkerId) :
    (Run.takeWaiting id).Leads known c True frame bridge fun tasks _ ↦
      ∀ task ∈ tasks, task.Plain := by
  refine .get_bind ?_
  split
  · refine .pure ?_
    simp
  · next worker hworker =>
    rintro hsound _ _ ⟨⟩
    refine ⟨workers_leads id worker.takeAll.2 rfl ?_ hsound, .of_scene_eq rfl, ?_⟩
    · intro task htask
      cases htask
    · exact hsound.waiting id worker hworker

theorem takeFirst_leads (id : WorkerId) :
    (Run.takeFirst id).Leads known c True frame bridge fun task _ ↦
      ∀ t, task = some t → t.Plain := by
  refine .get_bind ?_
  split
  · refine .pure ?_
    rintro _ ⟨⟩
  · next worker hworker =>
    split
    · refine .pure ?_
      rintro _ ⟨⟩
    · next task waiting hwaiting =>
      rintro hsound _ _ ⟨⟩
      have hplain := hsound.waiting id worker hworker
      rw [hwaiting] at hplain
      refine ⟨workers_leads id { worker with waiting } rfl ?_ hsound, .of_scene_eq rfl, ?_⟩
      · exact fun t ht ↦ hplain t (List.mem_cons_of_mem _ ht)
      · rintro _ ⟨⟩
        exact hplain task List.mem_cons_self

variable (hhost : host.Lawful known c) (hanswer : answer.Lawful known c)
include hhost hanswer

theorem advance_leads (id : WorkerId) :
    (Run.advance host answer id).Leads known c True frame bridge fun _ _ ↦ True := by
  refine .within ?_
  refine (takeFirst_leads id).bind ?_
  intro task _ _ _ htask
  split
  · exact .pure trivial
  · exact Task.run_leads hhost hanswer (htask _ rfl)

/-- Work that a worker is waited for. -/
theorem sync_leads (id : WorkerId) {work : Run σ α} {post : α → Bridge σ → Prop}
    (hwork : ∀ frame bridge, work.Leads known c True frame bridge post) :
    (Run.sync host answer id work).Leads known c True frame bridge fun result bridge' ↦
      ∀ a, result = .ok a → post a bridge' := by
  refine .read_bind (.get_bind ?_)
  split
  · refine .pure ?_
    rintro _ ⟨⟩
  · split
    · exact .stuck _
    · refine .within ?_
      refine (takeWaiting_leads id).bind ?_
      intro tasks _ _ _ htasks
      refine (Task.runAll_leads hhost hanswer htasks).bind ?_
      intro _ bridge₂ _ _ _
      refine (hwork _ bridge₂).bind ?_
      intro a _ _ _ hpost
      refine .pure ?_
      rintro _ ⟨⟩
      exact hpost

theorem flush_leads (id : WorkerId) :
    (Run.flush host answer id).Leads known c True frame bridge fun _ _ ↦ True := by
  refine .read_bind ?_
  split
  · exact .pure trivial
  · have hwork : ∀ frame bridge, (pure () : Run σ Unit).Leads known c True frame bridge
        fun _ _ ↦ True := fun _ _ ↦ .pure trivial
    exact (sync_leads hhost hanswer id hwork).discard fun _ _ _ ↦ trivial

end Run

end ScriptBridge
