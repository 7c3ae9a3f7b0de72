import ScriptBridge.Proofs.Expressions.Steps

/-!
# Native code apart from a channel

A call that waits for a worker runs later than it was handed in, and between the two the channel has
gone on: scripts have disposed of instances, messages have joined the queue, the binding may have
ended. That the call does the same in the end is a fact about native code that has nothing to do
with the channel, and this file says what such code is.

## What belongs to a channel

The state of the bridge falls into two parts, seen from a channel and its worker. `Bridge.own` is
the part that messages change while calls wait: the record of the channel, the queue of the worker,
and the names registered in the context. `Bridge.bare` is the bridge without it, and without the
log.

## Aloofness

A run is aloof if it returns, its result and what it does to the bare bridge depend on the bare
bridge alone, and it leaves the other part as it was. So it can be moved past everything that only
touches the other part. A program that never calls the bridge is aloof; one that calls it is so as
long as the calls are.
-/

namespace ScriptBridge

/-! ## Changing one value of a table -/

namespace Table

variable {α β : Type} [LT α] [DecidableLT α] [KeyOrder α] [DecidableEq α]

/-- Changes the value of a key, if the key has one. -/
def adjust (key : α) (f : β → β) (table : Table α β) : Table α β :=
  match table.get? key with
  | none => table
  | some value => table.insert key (f value)

theorem get?_adjust (key k : α) (f : β → β) (table : Table α β) :
    (table.adjust key f).get? k = if k = key then (table.get? k).map f else table.get? k := by
  unfold adjust
  split
  · next hnone =>
    split
    · next hk => rw [hk, hnone, Option.map_none]
    · rfl
  · next value hvalue =>
    rw [get?_insert]
    split
    · next hk => rw [hk, hvalue, Option.map_some]
    · rfl

/-- Of two changes of one value, one after the other, the composition remains. -/
theorem adjust_adjust (key : α) (f g : β → β) (table : Table α β) :
    (table.adjust key f).adjust key g = table.adjust key (g ∘ f) := by
  refine ext_get? fun k ↦ ?_
  simp only [get?_adjust]
  split
  · rw [Option.map_map]
  · rfl

end Table

variable {σ α β : Type}

namespace Bridge

/-! ## The two parts of a bridge -/

/-- The calls that wait for a worker. -/
def waitingOf (w : WorkerId) (bridge : Bridge σ) : List Task :=
  ((bridge.workers.get? w).map (·.waiting)).getD []

/-- The bridge with other calls waiting for a worker. -/
def withWaiting (w : WorkerId) (tasks : List Task) (bridge : Bridge σ) : Bridge σ :=
  { bridge with workers := bridge.workers.adjust w fun worker ↦ { worker with waiting := tasks } }

/-- What messages to a channel change while calls wait for its worker. -/
def own (c : ChannelId) (w : WorkerId) (bridge : Bridge σ) :
    Option Channel × Option (Worker Task) × Option (Table String ChannelId) :=
  (bridge.channels.get? c, bridge.workers.get? w, bridge.context.map (·.handlers))

/-- The bridge without that, and without its log. -/
def bare (c : ChannelId) (w : WorkerId) (bridge : Bridge σ) : Bridge σ :=
  { bridge with
    channels := bridge.channels.adjust c fun channel ↦ { channel with bound := none }
    workers := bridge.workers.adjust w fun worker ↦ { worker with waiting := [] }
    context := bridge.context.map fun context ↦ { context with handlers := .empty }
    log := [] }

/-- The bridge without its log. -/
def unlogged (bridge : Bridge σ) : Bridge σ := { bridge with log := [] }

variable {c : ChannelId} {w : WorkerId} {bridge bridge' : Bridge σ}

/-- The two parts together are the bridge, up to its log. -/
theorem unlogged_eq_of_parts (hbare : bridge.bare c w = bridge'.bare c w)
    (hown : bridge.own c w = bridge'.own c w) : bridge.unlogged = bridge'.unlogged := by
  obtain ⟨native, context, channels, workers, background, drawn, log⟩ := bridge
  obtain ⟨native', context', channels', workers', background', drawn', log'⟩ := bridge'
  simp only [bare, Bridge.mk.injEq] at hbare
  simp only [own, Prod.mk.injEq] at hown
  obtain ⟨rfl, hcontext, hchannels, hworkers, rfl, rfl, -⟩ := hbare
  obtain ⟨hchannel, hworker, hhandlers⟩ := hown
  -- tables that agree under one key, and agree once they are changed there, are equal:
  have hchannels' : channels = channels' := by
    refine Table.ext_get? fun k ↦ ?_
    by_cases hk : k = c
    · rw [hk, hchannel]
    · have hget := congrArg (·.get? k) hchannels
      simpa [Table.get?_adjust, hk] using hget
  have hworkers' : workers = workers' := by
    refine Table.ext_get? fun k ↦ ?_
    by_cases hk : k = w
    · rw [hk, hworker]
    · have hget := congrArg (·.get? k) hworkers
      simpa [Table.get?_adjust, hk] using hget
  have hcontext' : context = context' := by
    cases context with
    | none =>
      cases context' with
      | none => rfl
      | some context' => cases hcontext
    | some context =>
      cases context' with
      | none => cases hcontext
      | some context' =>
        obtain ⟨engine, injection, handlers, injected, evaluated, realm⟩ := context
        obtain ⟨engine', injection', handlers', injected', evaluated', realm'⟩ := context'
        cases hcontext
        cases hhandlers
        rfl
  rw [hchannels', hworkers', hcontext']
  rfl

theorem bare_eq_of_unlogged (h : bridge.unlogged = bridge'.unlogged) :
    bridge.bare c w = bridge'.bare c w := by
  have hparts : bridge.unlogged.bare c w = bridge'.unlogged.bare c w := by rw [h]
  exact hparts

theorem own_eq_of_unlogged (h : bridge.unlogged = bridge'.unlogged) :
    bridge.own c w = bridge'.own c w := by
  have hparts : bridge.unlogged.own c w = bridge'.unlogged.own c w := by rw [h]
  exact hparts

/-- What a thread is called does not depend on what waits. -/
theorem nameOf_bare (thread : Thread) : (bridge.bare c w).nameOf thread = bridge.nameOf thread := by
  cases thread with
  | caller => rfl
  | background => rfl
  | worker id =>
    have hlabel : ((bridge.bare c w).workers.get? id).map (·.label) =
        (bridge.workers.get? id).map (·.label) := by
      rw [bare, Table.get?_adjust]
      split
      · rw [Option.map_map]
        rfl
      · rfl
    exact congrArg (·.getD "") hlabel

end Bridge

/-! ## Aloof runs -/

namespace Run

variable (flag : σ → Prop) (c : ChannelId) (w : WorkerId)

/-- A run from two states with the same bare part: it returns from both, with the same result and
the same bare part, and leaves the other part of each as it was. It may lower the flag, but does not
raise it. -/
def Abreast (run : Run σ α) (frame frame' : Frame) (bridge bridge' : Bridge σ) : Prop :=
  ∃ a after after', run frame bridge = some (a, after) ∧ run frame' bridge' = some (a, after') ∧
    after.bare c w = after'.bare c w ∧ after.own c w = bridge.own c w ∧
      after'.own c w = bridge'.own c w ∧ (flag after.native → flag bridge.native)

/-- **The run has nothing to do with the channel or with what waits for its worker.** It may ask on
which thread it happens. -/
def Aloof (run : Run σ α) : Prop :=
  ∀ frame frame' bridge bridge', frame.thread = frame'.thread →
    bridge.bare c w = bridge'.bare c w → run.Abreast flag c w frame frame' bridge bridge'

variable {flag : σ → Prop} {c : ChannelId} {w : WorkerId} {frame frame' : Frame}
  {bridge bridge' : Bridge σ}

namespace Abreast

theorem pure (a : α) (h : bridge.bare c w = bridge'.bare c w) :
    (Pure.pure a : Run σ α).Abreast flag c w frame frame' bridge bridge' :=
  ⟨a, bridge, bridge', rfl, rfl, h, rfl, rfl, id⟩

theorem bind {run : Run σ α} {next : α → Run σ β}
    (hrun : run.Abreast flag c w frame frame' bridge bridge')
    (hnext : ∀ a after after', after.bare c w = after'.bare c w →
      (flag after.native → flag bridge.native) →
        (next a).Abreast flag c w frame frame' after after') :
    (run >>= next).Abreast flag c w frame frame' bridge bridge' := by
  obtain ⟨a, mid, mid', hfirst, hfirst', hbare, hown, hown', hflag⟩ := hrun
  obtain ⟨b, after, after', hsecond, hsecond', hbare₁, hown₁, hown₁', hflag₁⟩ :=
    hnext a mid mid' hbare hflag
  refine ⟨b, after, after', (bind_run hfirst).trans hsecond, (bind_run hfirst').trans hsecond',
    hbare₁, ?_, ?_, hflag ∘ hflag₁⟩
  · rw [hown₁, hown]
  · rw [hown₁', hown']

/-- A run that starts with a change of the bare part. -/
theorem modify_bind {f : Bridge σ → Bridge σ} {next : Unit → Run σ α}
    (hown : ∀ bridge, (f bridge).own c w = bridge.own c w)
    (hflag : flag (f bridge).native → flag bridge.native)
    (hnext : (next ()).Abreast flag c w frame frame' (f bridge) (f bridge')) :
    ((modify f : Run σ Unit) >>= next).Abreast flag c w frame frame' bridge bridge' := by
  obtain ⟨a, after, after', hrun, hrun', hbare, hafter, hafter', hkept⟩ := hnext
  refine ⟨a, after, after', hrun, hrun', hbare, ?_, ?_, hflag ∘ hkept⟩
  · rw [hafter, hown]
  · rw [hafter', hown]

end Abreast

namespace Aloof

theorem pure (a : α) : (Pure.pure a : Run σ α).Aloof flag c w :=
  fun _ _ _ _ _ hbare ↦ .pure a hbare

theorem bind {run : Run σ α} {next : α → Run σ β} (hrun : run.Aloof flag c w)
    (hnext : ∀ a, (next a).Aloof flag c w) : (run >>= next).Aloof flag c w := by
  intro frame frame' bridge bridge' hthread hbare
  refine (hrun frame frame' bridge bridge' hthread hbare).bind ?_
  intro a after after' hafter _
  exact hnext a frame frame' after after' hthread hafter

theorem sayAll (lines : List Line) : (Run.sayAll lines : Run σ Unit).Aloof flag c w :=
  fun _ _ _ _ _ hbare ↦ ⟨(), _, _, rfl, rfl, hbare, rfl, rfl, id⟩

theorem say (level : Level) (text : String) : (Run.say level text : Run σ Unit).Aloof flag c w :=
  sayAll [.ofBridge level text]

/-- A flag that is always up is not raised. -/
theorem unflagged {run : Run σ α} (h : run.Aloof flag c w) : run.Aloof (fun _ ↦ True) c w := by
  intro frame frame' bridge bridge' hthread hbare
  obtain ⟨a, after, after', hrun, hrun', hafter, hown, hown', -⟩ :=
    h frame frame' bridge bridge' hthread hbare
  exact ⟨a, after, after', hrun, hrun', hafter, hown, hown', id⟩

end Aloof

end Run

/-! ## Aloof programs -/

/-- From a native state, the program calls the bridge only as `allowed` says, and never raises the
flag. -/
def Native.Heeds (allowed : BridgeCall → Prop) (flag : σ → Prop) : Native σ α → σ → Prop
  | .done _, _ => True
  | .read next, s => (next s).Heeds allowed flag s
  | .write s' next, s => (flag s' → flag s) ∧ next.Heeds allowed flag s'
  | .thread next, s => ∀ name, (next name).Heeds allowed flag s
  | .log _ next, s => next.Heeds allowed flag s
  | .defer _ next, s => next.Heeds allowed flag s
  | .call request next, s =>
    allowed request ∧ ∀ reply s', (flag s' → flag s) → (next reply).Heeds allowed flag s'

variable {allowed : BridgeCall → Prop} {flag : σ → Prop} {c : ChannelId} {w : WorkerId}
  {answer : Answerer σ}

/-- A quiet program calls nothing, so whatever is allowed, it keeps to that; and it cannot raise a
flag that is always as it is. -/
theorem Native.Quiet.heeds {program : Native σ α} (h : program.Quiet)
    (hflag : ∀ s s', flag s' → flag s) (s : σ) : program.Heeds allowed flag s := by
  induction h generalizing s with
  | done a => trivial
  | read _ ih => exact ih s s
  | write _ ih => exact ⟨hflag s _, ih _⟩
  | thread _ ih => exact fun name ↦ ih name s
  | log _ ih => exact ih s
  | defer _ ih => exact ih s

/-- A program runs alike from alike states if the calls that it may make do. -/
theorem Native.run_abreast
    (hallowed : ∀ request, allowed request → (answer request).Aloof flag c w)
    (program : Native σ α) {frame frame' : Frame} {bridge bridge' : Bridge σ}
    (hthread : frame.thread = frame'.thread) (hbare : bridge.bare c w = bridge'.bare c w)
    (h : program.Heeds allowed flag bridge.native) :
    (program.run answer).Abreast flag c w frame frame' bridge bridge' := by
  induction program generalizing bridge bridge' with
  | done a => exact .pure a hbare
  | read next ih =>
    obtain ⟨a, after, after', hrun, hrun', hrest⟩ := ih bridge.native hbare h
    have hnative : bridge.native = bridge'.native := congrArg (·.native) hbare
    rw [hnative] at hrun'
    exact ⟨a, after, after', hrun, hrun', hrest⟩
  | write s next ih =>
    refine .modify_bind (fun _ ↦ rfl) h.1 (ih ?_ h.2)
    exact congrArg (fun bare : Bridge σ ↦ { bare with native := s }) hbare
  | thread next ih =>
    -- the name of a thread is a matter of the bare part:
    have hname : bridge.nameOf frame.thread = bridge'.nameOf frame'.thread := by
      rw [← Bridge.nameOf_bare, hbare, hthread, Bridge.nameOf_bare]
    obtain ⟨a, after, after', hrun, hrun', hrest⟩ :=
      ih (bridge.nameOf frame.thread) hbare (h (bridge.nameOf frame.thread))
    rw [hname] at hrun'
    exact ⟨a, after, after', (Run.bind_run Run.threadName_run).trans hrun,
      (Run.bind_run Run.threadName_run).trans hrun', hrest⟩
  | log line next ih => exact .modify_bind (fun _ ↦ rfl) id (ih hbare h)
  | defer work next ih =>
    refine .modify_bind (fun _ ↦ rfl) id (ih ?_ h)
    exact congrArg (fun bare : Bridge σ ↦ { bare with background := bare.background ++ [work] })
      hbare
  | call request next ih =>
    refine (hallowed request h.1 frame frame' bridge bridge' hthread hbare).bind ?_
    intro reply after after' hafter hflag
    exact ih reply hafter (h.2 reply after.native hflag)

/-- **Programs are aloof if the calls that they may make are.** -/
theorem Native.run_aloof
    (hallowed : ∀ request, allowed request → (answer request).Aloof flag c w)
    {program : Native σ α} (h : ∀ s, program.Heeds allowed flag s) :
    (program.run answer).Aloof flag c w :=
  fun _ _ bridge _ hthread hbare ↦
    program.run_abreast hallowed hthread hbare (h bridge.native)

/-- Steering the context is aloof: what becomes of injections is no concern of the channel's
messages. -/
theorem Bridge.steer_aloof (host : Host σ) (levels : Nat) (injection : Injection) :
    (Bridge.answer host (levels + 1) (.steer injection)).Aloof flag c w := by
  intro frame frame' bridge bridge' _ hbare
  have hcommute : ∀ bridge : Bridge σ,
      ({ bridge with context := bridge.context.map fun context ↦ { context with injection } } :
        Bridge σ).bare c w = { bridge.bare c w with
          context := (bridge.bare c w).context.map fun context ↦ { context with injection } } := by
    intro bridge
    simp only [Bridge.bare, Option.map_map]
    rfl
  have hown : ∀ bridge : Bridge σ,
      ({ bridge with context := bridge.context.map fun context ↦ { context with injection } } :
        Bridge σ).own c w = bridge.own c w := by
    intro bridge
    simp only [Bridge.own, Option.map_map]
    rfl
  refine ⟨(), _, _, rfl, rfl, ?_, hown bridge, hown bridge', id⟩
  rw [hcommute, hcommute, hbare]

/-! ## Aloof members -/

/-- An object takes messages that are no requests. -/
def Host.TakesRaw (host : Host σ) (object : ObjectRef) (s : σ) : Prop :=
  (host.hooks s object).takesRaw = true

/-- The members of native code call the bridge only as `allowed` says, and those that may run later
than they are asked for do not make the principal begin to take messages that are no requests. They
may make it stop. -/
structure Host.Heeds (allowed : BridgeCall → Prop) (principal : ObjectRef) (host : Host σ) :
    Prop where
  get : ∀ object name s, (host.get object name).Heeds allowed (fun _ ↦ True) s
  construct : ∀ typeName args s, (host.construct typeName args).Heeds allowed (fun _ ↦ True) s
  set : ∀ object name value s,
    (host.set object name value).Heeds allowed (host.TakesRaw principal) s
  invoke : ∀ object name args s,
    (host.invoke object name args).Heeds allowed (host.TakesRaw principal) s
  receive : ∀ object message s,
    (host.receive object message).Heeds allowed (host.TakesRaw principal) s

section Members

variable {host : Host σ} {principal : ObjectRef}
  (hallowed : ∀ request, allowed request → (answer request).Aloof (host.TakesRaw principal) c w)
include hallowed

private theorem allowed_aloof (request : BridgeCall) (h : allowed request) :
    (answer request).Aloof (fun _ ↦ True) c w :=
  (hallowed request h).unflagged

variable (hhost : host.Heeds allowed principal)
include hhost

namespace Binding

theorem readAll_aloof (binding : Binding) (names : List String) :
    (binding.readAll host answer names).Aloof (fun _ ↦ True) c w := by
  induction names with
  | nil => exact .pure []
  | cons name names ih =>
    refine (Native.run_aloof (allowed_aloof hallowed)
      (hhost.get binding.object name)).bind fun value ↦ ?_
    exact ih.bind fun values ↦ .pure _

theorem values_aloof (binding : Binding) :
    (binding.values host answer).Aloof (fun _ ↦ True) c w :=
  readAll_aloof hallowed hhost binding _

theorem set_aloof (binding : Binding) (name : String) (value : Value) :
    (binding.set host answer name value).Aloof (host.TakesRaw principal) c w := by
  unfold Binding.set
  split
  · exact Native.run_aloof hallowed (hhost.set binding.object name value)
  · exact .pure _
  · exact .pure _

theorem invoke_aloof (binding : Binding) (name : String) (args : List Value) :
    (binding.invoke host answer name args).Aloof (host.TakesRaw principal) c w := by
  unfold Binding.invoke
  split
  · split
    · exact .pure _
    · next fitted _ => exact Native.run_aloof hallowed (hhost.invoke binding.object name fitted)
  · exact .pure _

end Binding

theorem Host.make_aloof (typeName : String) (args : List Value) :
    (host.make answer typeName args).Aloof (fun _ ↦ True) c w := by
  unfold Host.make
  split
  · exact .pure _
  · split
    · exact .pure _
    · next fitted _ =>
      exact Native.run_aloof (allowed_aloof hallowed)
        (hhost.construct typeName fitted)

/-- What an object takes is a matter of the bare part. -/
theorem Host.tell_aloof (object : ObjectRef) (message : Message) :
    (host.tell answer object message).Aloof (host.TakesRaw principal) c w := by
  intro frame frame' bridge bridge' hthread hbare
  have hnative : bridge.native = bridge'.native := congrArg (·.native) hbare
  unfold Run.Abreast
  rw [Host.tell_run, Host.tell_run, ← hnative]
  split
  · exact Native.run_aloof hallowed (hhost.receive object message) frame frame' bridge bridge'
      hthread hbare
  · exact ⟨_, _, _, rfl, rfl, hbare, rfl, rfl, id⟩

/-- A call that waits for its worker is aloof. -/
theorem Task.run_aloof (task : Task) :
    (task.run host answer).Aloof (host.TakesRaw principal) c w := by
  unfold Task.run
  split
  · refine (Binding.set_aloof hallowed hhost _ _ _).bind fun finish ↦ ?_
    split
    · exact .pure _
    · exact .say _ _
    · exact .say _ _
  · refine (Binding.invoke_aloof hallowed hhost _ _ _).bind fun finish ↦ ?_
    split
    · exact .pure _
    · exact .say _ _
    · exact .say _ _
  · refine (Host.tell_aloof hallowed hhost _ _).bind fun finish ↦ ?_
    split
    · exact .pure _
    · exact .say _ _

theorem Task.runAll_aloof (tasks : List Task) :
    (Task.runAll host answer tasks).Aloof (host.TakesRaw principal) c w := by
  induction tasks with
  | nil => exact .pure _
  | cons task tasks ih => exact (Task.run_aloof hallowed hhost task).bind fun _ ↦ ih

end Members

end ScriptBridge
