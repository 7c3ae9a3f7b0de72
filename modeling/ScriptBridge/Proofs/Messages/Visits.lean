import ScriptBridge.Proofs.Posting.Journal
import ScriptBridge.Proofs.Runs.Obedience

/-!
# A record of the accessors that run

Which native code has a message made run, and how has it ended? Native code is made to keep a record
of it. In contrast to the journal (`Host.journaled`) the record also has the properties that are
read, and it says of each access whether it failed; so an access is written down when it ends.

## Whose accesses are recorded

An accessor may call the bridge, and what it calls may run other accessors. Those are the doing of
the accessor, and not of the message that made it run. So an accessor finds the record as it left it
when it gets an answer, whatever the call has added to it, and a run adds the accesses to the record
that it makes itself. Nothing has to be assumed about native code or about how its calls are
answered.

## What a run adds

`Run.Visits` says what a run adds, as a function of its result: nothing for what a channel does by
itself, one entry for an accessor, and for a member that is reached through a surface an entry if
the surface admits it (`Host.writing?`, `Host.calling?`, `Host.making?`).
-/

namespace ScriptBridge

variable {σ α β : Type}

/-! ## Records -/

/-- What is reached of native code: a property is read, or something is executed. -/
inductive Access where
  | read (object : ObjectRef) (property : String)
  | execution (execution : Execution)

/-- An access that has come to its end. -/
structure Visit where
  access : Access
  /-- The failure it ended in, if it did. -/
  failure : Option BridgeError

/-- The failure of fallible work, for one who waits for it. -/
def Finish.failure? (finish : Finish (Except BridgeError α)) : Option BridgeError :=
  match finish.result with
  | .error e => some e
  | .ok _ => none

theorem Finish.failure?_eq_some_iff {finish : Finish (Except BridgeError α)} {e : BridgeError} :
    finish.failure? = some e ↔ finish.result = .error e := by
  unfold failure?
  cases finish.result <;> simp

/-- What is returned is of no account for how work fails. -/
theorem Finish.failure?_map (f : α → β) (finish : Finish (Except BridgeError α)) :
    (finish.map fun outcome ↦ outcome.map f).failure? = finish.failure? := by
  rcases finish with (e | a) | text <;> rfl

/-- The program, written down when it ends. What its calls write down is taken out again. -/
def Native.watched (access : Access) (failure : α → Option BridgeError) :
    Native σ α → Native (σ × List Visit) α
  | .done a => .read fun s ↦ .write (s.1, s.2 ++ [⟨access, failure a⟩]) (.done a)
  | .read next => .read fun s ↦ (next s.1).watched access failure
  | .write s' next => .read fun s ↦ .write (s', s.2) (next.watched access failure)
  | .thread next => .thread fun name ↦ (next name).watched access failure
  | .log line next => .log line (next.watched access failure)
  | .defer work next =>
    .defer ⟨work.function, fun s ↦ work.outcome s.1⟩ (next.watched access failure)
  | .call request next => .read fun s ↦ .call request fun reply ↦ .read fun s' ↦
    .write (s'.1, s.2) ((next reply).watched access failure)

/-- The host with a record of what is reached of it. -/
def Host.watched (host : Host σ) : Host (σ × List Visit) where
  surface := host.surface
  hooks s := host.hooks s.1
  get object name := (host.get object name).watched (.read object name) fun _ ↦ none
  set object name value :=
    (host.set object name value).watched (.execution (.write object name value)) Finish.failure?
  invoke object name args :=
    (host.invoke object name args).watched (.execution (.call object name args)) Finish.failure?
  construct typeName args :=
    (host.construct typeName args).watched (.execution (.make typeName args)) Finish.failure?
  receive object message :=
    (host.receive object message).watched (.execution (.receive object message)) fun finish ↦
      (finish.map (Except.ok (ε := BridgeError))).failure?
  draw := host.draw

/-- The record. -/
def Bridge.visits (bridge : Bridge (σ × List Visit)) : List Visit := bridge.native.2

/-- Keeping a record is no call of the bridge. -/
theorem Native.watched_heeds {allowed : BridgeCall → Prop} (access : Access)
    (failure : α → Option BridgeError) (program : Native σ α) {s : σ}
    (h : program.Heeds allowed (fun _ ↦ True) s) (record : List Visit) :
    (program.watched access failure).Heeds allowed (fun _ ↦ True) (s, record) := by
  induction program generalizing s record with
  | done a => exact ⟨id, trivial⟩
  | read next ih => exact ih s h record
  | write s' next ih => exact ⟨id, ih h.2 record⟩
  | thread next ih => exact fun name ↦ ih name (h name) record
  | log line next ih => exact ih h record
  | defer work next ih => exact ih h record
  | call request next ih =>
    exact ⟨h.1, fun reply s' _ ↦ ⟨id, ih reply (h.2 reply s'.1 id) record⟩⟩

theorem Host.Calls.watched {allowed : BridgeCall → Prop} {host : Host σ} (h : host.Calls allowed) :
    host.watched.Calls allowed where
  get object name s := Native.watched_heeds _ _ _ (h.get object name s.1) s.2
  set object name value s := Native.watched_heeds _ _ _ (h.set object name value s.1) s.2
  invoke object name args s := Native.watched_heeds _ _ _ (h.invoke object name args s.1) s.2
  construct typeName args s := Native.watched_heeds _ _ _ (h.construct typeName args s.1) s.2
  receive object message s := Native.watched_heeds _ _ _ (h.receive object message s.1) s.2

/-! ## What runs add to the record -/

/-- If the run ends, it has added these visits to the record. -/
def Run.Visits (run : Run (σ × List Visit) α) (visits : α → List Visit) : Prop :=
  ∀ frame bridge a bridge', run frame bridge = some (a, bridge') →
    bridge'.visits = bridge.visits ++ visits a

variable {host : Host σ} {answer : Answerer (σ × List Visit)} {frame : Frame}
  {bridge bridge' : Bridge (σ × List Visit)}

theorem Run.Visits.pure (a : α) : (Pure.pure a : Run (σ × List Visit) α).Visits fun _ ↦ [] := by
  rintro _ bridge _ _ ⟨⟩
  exact (List.append_nil _).symm

/-- **An accessor writes itself down**, and nothing else. -/
theorem Native.watched_visits (access : Access) (failure : α → Option BridgeError)
    (program : Native σ α) :
    ((program.watched access failure).run answer).Visits fun a ↦ [⟨access, failure a⟩] := by
  intro frame bridge a bridge' hrun
  induction program generalizing bridge with
  | done a =>
    cases hrun
    rfl
  | read next ih => exact ih _ bridge hrun
  | write s' next ih => exact ih { bridge with native := (s', bridge.native.2) } hrun
  | thread next ih =>
    exact ih _ bridge ((Run.bind_run Run.threadName_run).symm.trans hrun)
  | log line next ih => exact ih (bridge.logged [line]) hrun
  | defer work next ih =>
    exact ih { bridge with
      background := bridge.background ++ [⟨work.function, fun s ↦ work.outcome s.1⟩] } hrun
  | call request next ih =>
    -- the record after the call is the one from before it:
    obtain ⟨_, _, hread, hcall⟩ := Run.of_bind_run hrun
    cases hread
    obtain ⟨reply, mid, -, hrest⟩ := Run.of_bind_run hcall
    exact ih reply { mid with native := (mid.native.1, bridge.native.2) } hrest

/-! ## Members that are reached -/

/-- The visits that an execution stands for, if there is one. -/
def Visit.ofExecution (execution : Option Execution) (failure : Option BridgeError) : List Visit :=
  execution.toList.map fun execution ↦ ⟨.execution execution, failure⟩

variable (host) in
/-- What is executed when a property is written. -/
def Host.writing? (binding : Binding) (name : String) (value : Value) : Option Execution :=
  match (host.surfaceOf binding.object).member? name with
  | some (.property true) => some (.write binding.object name value)
  | _ => none

variable (host) in
/-- What is executed when a method is called. -/
def Host.calling? (binding : Binding) (name : String) (args : List Value) : Option Execution :=
  match (host.surfaceOf binding.object).member? name with
  | some (.method arity _) =>
    match fitArguments name arity args with
    | .error _ => none
    | .ok fitted => some (.call binding.object name fitted)
  | _ => none

variable (host) in
/-- What is executed when an instance is made. -/
def Host.making? (typeName : String) (args : List Value) : Option Execution :=
  match (host.surface typeName).initializer? with
  | none => none
  | some arity =>
    match fitArguments typeName (some arity) args with
    | .error _ => none
    | .ok fitted => some (.make typeName fitted)

/-- Keeping a record shows nothing more to scripts. -/
@[simp] theorem Host.watched_surface : host.watched.surface = host.surface := rfl

@[simp] theorem Host.watched_surfaceOf (object : ObjectRef) :
    host.watched.surfaceOf object = host.surfaceOf object := rfl

namespace Binding

theorem set_visits (binding : Binding) (name : String) (value : Value) :
    (binding.set host.watched answer name value).Visits fun finish ↦
      Visit.ofExecution (host.writing? binding name value) finish.failure? := by
  rcases hmember : (host.surfaceOf binding.object).member? name with
    - | (⟨arity, returns⟩ | ⟨_ | _⟩ | arity) <;>
    simp only [Binding.set, Host.writing?, Host.watched_surfaceOf, hmember]
  case some.property.true => exact Native.watched_visits _ _ _
  all_goals exact .pure _

theorem invoke_visits (binding : Binding) (name : String) (args : List Value) :
    (binding.invoke host.watched answer name args).Visits fun finish ↦
      Visit.ofExecution (host.calling? binding name args) finish.failure? := by
  rcases hmember : (host.surfaceOf binding.object).member? name with
    - | (⟨arity, returns⟩ | _ | _) <;>
    simp only [Binding.invoke, Host.calling?, Host.watched_surfaceOf, hmember]
  case some.method =>
    cases fitArguments name arity args with
    | error e => exact .pure _
    | ok fitted => exact Native.watched_visits _ _ _
  all_goals exact .pure _

end Binding

theorem Host.make_visits (typeName : String) (args : List Value) :
    (host.watched.make answer typeName args).Visits fun finish ↦
      Visit.ofExecution (host.making? typeName args) finish.failure? := by
  simp only [Host.make, Host.making?, Host.watched_surface]
  cases (host.surface typeName).initializer? with
  | none => exact .pure _
  | some arity =>
    dsimp only
    cases fitArguments typeName (some arity) args with
    | error e => exact .pure _
    | ok fitted => exact Native.watched_visits _ _ _

/-! ## Calls that wait for a worker -/

/-- What a call is to execute that waits for its worker. -/
def Task.execution? (host : Host σ) : Task → Option Execution
  | .set binding property value => host.writing? binding property value
  | .invoke binding method args => host.calling? binding method args
  | .receive object message => some (.receive object message)

/-- What the calls are to execute that wait for a worker, in their order. -/
def Bridge.awaiting {τ : Type} (host : Host σ) (w : WorkerId) (bridge : Bridge τ) :
    List Execution :=
  (bridge.waitingOf w).filterMap (·.execution? host)

/-- What a call executes if its turn comes in this state: an object that does not take messages
which are no requests any more gets none of those that it was to get. -/
def Task.executed? (host : Host σ) (s : σ) : Task → Option Execution
  | .set binding property value => host.writing? binding property value
  | .invoke binding method args => host.calling? binding method args
  | .receive object message =>
    if (host.hooks s object).takesRaw then some (.receive object message) else none

/-- **What is executed of what was to be**: everything and in its order, but for the messages that
an object did not take any more when their turn came. -/
inductive Host.Executes (host : Host σ) : List Execution → List Execution → Prop where
  | nil : host.Executes [] []
  | done (execution : Execution) {awaited executed : List Execution}
    (h : host.Executes awaited executed) : host.Executes (execution :: awaited)
      (execution :: executed)
  | declined {object : ObjectRef} (message : Message) {s : σ}
    (hdeclines : ¬ host.TakesRaw object s) {awaited executed : List Execution}
    (h : host.Executes awaited executed) : host.Executes (.receive object message :: awaited)
      executed

namespace Host.Executes

variable {awaited awaited' executed executed' : List Execution}

theorem append (h : host.Executes awaited executed) (h' : host.Executes awaited' executed') :
    host.Executes (awaited ++ awaited') (executed ++ executed') := by
  induction h with
  | nil => exact h'
  | done execution _ ih => exact .done execution ih
  | declined message hdeclines _ ih => exact .declined message hdeclines ih

end Host.Executes

namespace Task

/-- Whatever state its turn comes in, a call executes what it was to execute, or nothing. -/
theorem executes (task : Task) (s : σ) :
    host.Executes (task.execution? host).toList (task.executed? host s).toList := by
  have hall : ∀ execution : Option Execution, host.Executes execution.toList execution.toList := by
    rintro (_ | execution)
    · exact .nil
    · exact .done execution .nil
  cases task with
  | receive object message =>
    by_cases htakes : (host.hooks s object).takesRaw = true
    · rw [executed?, if_pos htakes]
      exact hall _
    · rw [executed?, if_neg htakes]
      exact .declined message htakes .nil
  | set _ _ _ | invoke _ _ _ => exact hall _

theorem finish_visits {task : Task} {finish : Finish (Except BridgeError Unit)}
    (h : task.finish host.watched answer frame bridge = some (finish, bridge')) :
    bridge'.visits = bridge.visits ++
      Visit.ofExecution (task.executed? host bridge.native.1) finish.failure? := by
  cases task with
  | set binding property value =>
    exact Binding.set_visits binding property value frame bridge finish bridge' h
  | invoke binding method args =>
    obtain ⟨outcome, after, hinvoke, hdone⟩ := Run.of_bind_run h
    cases hdone
    rw [Finish.failure?_map]
    exact Binding.invoke_visits binding method args frame bridge outcome bridge' hinvoke
  | receive object message =>
    obtain ⟨outcome, after, htell, hdone⟩ := Run.of_bind_run h
    cases hdone
    rw [Host.tell_run] at htell
    by_cases htakes : (host.hooks bridge.native.1 object).takesRaw = true
    · rw [executed?, if_pos htakes]
      exact Native.watched_visits _ _ _ frame bridge outcome bridge'
        ((if_pos htakes).symm.trans htell)
    · cases (if_neg htakes).symm.trans htell
      rw [executed?, if_neg htakes]
      exact (List.append_nil _).symm

/-- A call that runs adds what it executes, with the failure it ends in. -/
theorem run_visits {task : Task}
    (h : task.run host.watched answer frame bridge = some ((), bridge')) :
    ∃ failure, bridge'.visits = bridge.visits ++
      Visit.ofExecution (task.executed? host bridge.native.1) failure := by
  rw [run_eq_finish] at h
  obtain ⟨⟨finish, after⟩, hfinish, hlogged⟩ := Option.map_eq_some_iff.mp h
  cases hlogged
  have hvisits : after.visits = _ := finish_visits hfinish
  exact ⟨finish.failure?, hvisits⟩

/-- Calls that run one after the other add what they execute, in their order. -/
theorem runAll_visits {tasks : List Task}
    (h : runAll host.watched answer tasks frame bridge = some ((), bridge')) :
    ∃ (visits : List Visit) (executed : List Execution),
      bridge'.visits = bridge.visits ++ visits ∧ visits.map (·.access) = executed.map .execution ∧
        host.Executes (tasks.filterMap (·.execution? host)) executed := by
  induction tasks generalizing bridge with
  | nil =>
    cases h
    exact ⟨[], [], (List.append_nil _).symm, rfl, .nil⟩
  | cons task tasks ih =>
    obtain ⟨_, mid, hfirst, hrest⟩ := Run.of_bind_run h
    obtain ⟨failure, hmid⟩ := run_visits hfirst
    obtain ⟨visits, executed, hbridge', hvisits, hexecutes⟩ := ih hrest
    refine ⟨Visit.ofExecution (task.executed? host bridge.native.1) failure ++ visits,
      (task.executed? host bridge.native.1).toList ++ executed, ?_, ?_, ?_⟩
    · rw [hbridge', hmid, List.append_assoc]
    · rw [List.map_append, hvisits, List.map_append, Visit.ofExecution, List.map_map]
      rfl
    · have hcons : (task :: tasks).filterMap (·.execution? host) =
          (task.execution? host).toList ++ tasks.filterMap (·.execution? host) := by
        cases hexecution : task.execution? host <;> simp [hexecution]
      rw [hcons]
      exact (task.executes _).append hexecutes

end Task

/-- **Work that a worker is waited for** either is refused, because the worker would wait for
itself, or runs behind the calls that waited. -/
theorem Run.sync_cases {τ : Type} {host : Host τ} {answer : Answerer τ} {bridge bridge' : Bridge τ}
    {w : WorkerId} {work : Run τ α} {result : Except BridgeError α}
    (h : Run.sync host answer w work frame bridge = some (result, bridge')) :
    (frame.thread = .worker w ∧ bridge' = bridge ∧
      ∃ label, result = .error (Worker.reentered label)) ∨
    (frame.thread ≠ .worker w ∧ ∃ mid a,
      Task.runAll host answer (bridge.waitingOf w) (frame.enter w) (bridge.withWaiting w []) =
        some ((), mid) ∧ result = .ok a ∧ work (frame.enter w) mid = some (a, bridge')) := by
  have hread : (read : Run τ Frame) frame bridge = some (frame, bridge) := rfl
  have hget : (get : Run τ (Bridge τ)) frame bridge = some (bridge, bridge) := rfl
  by_cases hthread : frame.thread = .worker w
  · left
    rw [Run.sync, Run.bind_run hread, Run.bind_run hget, if_pos hthread] at h
    cases h
    exact ⟨hthread, rfl, _, rfl⟩
  · right
    by_cases hbusy : w ∈ frame.busy
    · rw [Run.sync, Run.bind_run hread, Run.bind_run hget, if_neg hthread, if_pos hbusy] at h
      cases h
    · rw [Run.sync_run ⟨hthread, hbusy⟩] at h
      obtain ⟨_, mid, hwaited, hrest⟩ := Run.of_bind_run h
      obtain ⟨a, after, hwork, hdone⟩ := Run.of_bind_run hrest
      cases hdone
      exact ⟨hthread, mid, a, hwaited, rfl, hwork⟩

/-- Work that is waited for adds to the record behind what the calls that waited have added. -/
theorem Run.sync_visits {w : WorkerId} {work : Run (σ × List Visit) α} {visits : α → List Visit}
    (hwork : work.Visits visits) {result : Except BridgeError α}
    (h : Run.sync host.watched answer w work frame bridge = some (result, bridge')) :
    (frame.thread = .worker w ∧ bridge' = bridge ∧
      ∃ label, result = .error (Worker.reentered label)) ∨
    (frame.thread ≠ .worker w ∧ ∃ a before executed, result = .ok a ∧
      bridge'.visits = bridge.visits ++ before ++ visits a ∧
      before.map (·.access) = executed.map .execution ∧
      host.Executes (bridge.awaiting host w) executed) := by
  rcases Run.sync_cases h with hrefused | ⟨hthread, mid, a, hwaited, rfl, hdone⟩
  · exact .inl hrefused
  · obtain ⟨before, executed, hmid, hbefore, hexecutes⟩ := Task.runAll_visits hwaited
    have hvisits := hwork _ mid a bridge' hdone
    rw [hmid] at hvisits
    exact .inr ⟨hthread, a, before, executed, rfl, hvisits, hbefore, hexecutes⟩

end ScriptBridge
