import ScriptBridge.Proofs.Posting.Apart
import ScriptBridge.Proofs.Runs.Members

/-!
# Native code keeps to what its calls keep to

Native code reaches bindings and registrations by calling the bridge, and in no other way. So a
relation between the state before and the state after that holds of the calls a host makes holds of
whatever the members of the host do, and of what workers do with them. A *course* is a relation for
which this makes sense: it can be composed, and it holds where neither bindings nor registrations
change.

Which calls a host makes is said by `Host.Calls`. The calls of a host that makes any are not
restricted (`Host.calls_all`), those of a host that makes none are not looked at.
-/

namespace ScriptBridge

variable {σ α β : Type}

/-! ## Courses -/

namespace Bridge

/-- The handlers that are registered, while there is a context. -/
def handlers? (bridge : Bridge σ) : Option (Table String ChannelId) :=
  bridge.context.map (·.handlers)

/-- A relation between states that can be composed, and that says nothing about what is neither a
binding nor a registration. -/
structure Course (R : Bridge σ → Bridge σ → Prop) : Prop where
  refl : ∀ bridge, R bridge bridge
  trans : ∀ {bridge bridge' bridge''}, R bridge bridge' → R bridge' bridge'' → R bridge bridge''
  /-- Whatever changes neither bindings nor registrations. -/
  aside : ∀ {bridge bridge' : Bridge σ}, bridge'.channels = bridge.channels →
    bridge'.handlers? = bridge.handlers? → R bridge bridge'

end Bridge

/-- If the run ends, its end is related to its start. -/
def Run.Obeys (R : Bridge σ → Bridge σ → Prop) (run : Run σ α) (frame : Frame)
    (bridge : Bridge σ) : Prop :=
  ∀ a bridge', run frame bridge = some (a, bridge') → R bridge bridge'

open Bridge (Course)

variable {R : Bridge σ → Bridge σ → Prop} {host : Host σ} {answer : Answerer σ}
  {allowed : BridgeCall → Prop} {frame : Frame} {bridge : Bridge σ}

/-! ## Runs put together -/

namespace Run.Obeys

theorem stuck : (Run.stuck : Run σ α).Obeys R frame bridge := by
  rintro _ _ ⟨⟩

theorem within {run : Run σ α} {frame' : Frame} (h : run.Obeys R frame' bridge) :
    (Run.within frame' run).Obeys R frame bridge := h

theorem get_bind {next : Bridge σ → Run σ α} (h : (next bridge).Obeys R frame bridge) :
    ((get : Run σ (Bridge σ)) >>= next).Obeys R frame bridge := h

theorem read_bind {next : Frame → Run σ α} (h : (next frame).Obeys R frame bridge) :
    ((read : Run σ Frame) >>= next).Obeys R frame bridge := h

theorem bound?_bind {id : ChannelId} {next : Option Bound → Run σ α}
    (h : (next (bridge.boundOf id)).Obeys R frame bridge) :
    (Run.bound? id >>= next).Obeys R frame bridge := h

end Run.Obeys

namespace Bridge.Course

variable (hR : Course R)
include hR

theorem pure (a : α) : (Pure.pure a : Run σ α).Obeys R frame bridge := by
  rintro _ _ ⟨⟩
  exact hR.refl bridge

theorem bind {run : Run σ α} {next : α → Run σ β} (hrun : run.Obeys R frame bridge)
    (hnext : ∀ a bridge', (next a).Obeys R frame bridge') :
    (run >>= next).Obeys R frame bridge := by
  intro b bridge'' hboth
  obtain ⟨a, bridge', hfirst, hsecond⟩ := Run.of_bind_run hboth
  exact hR.trans (hrun a bridge' hfirst) (hnext a bridge' b bridge'' hsecond)

/-- A run that starts with a change outside of bindings and registrations. -/
theorem modify_bind {f : Bridge σ → Bridge σ} {next : Unit → Run σ α}
    (hchannels : (f bridge).channels = bridge.channels)
    (hhandlers : (f bridge).handlers? = bridge.handlers?)
    (h : (next ()).Obeys R frame (f bridge)) :
    ((modify f : Run σ Unit) >>= next).Obeys R frame bridge :=
  fun a bridge' hrun ↦ hR.trans (hR.aside hchannels hhandlers) (h a bridge' hrun)

theorem modify {f : Bridge σ → Bridge σ} (hchannels : (f bridge).channels = bridge.channels)
    (hhandlers : (f bridge).handlers? = bridge.handlers?) :
    (modify f : Run σ Unit).Obeys R frame bridge := by
  rintro _ _ ⟨⟩
  exact hR.aside hchannels hhandlers

theorem say (level : Level) (text : String) : (Run.say level text).Obeys R frame bridge :=
  hR.modify rfl rfl

theorem sayAll (lines : List Line) : (Run.sayAll lines).Obeys R frame bridge :=
  hR.modify rfl rfl

theorem say_if {p : Prop} [Decidable p] {level : Level} {text : String} {run : Run σ α}
    (h : ∀ bridge, run.Obeys R frame bridge) :
    (if p then do
        Run.say level text
        run
      else run).Obeys R frame bridge := by
  split
  · exact hR.bind (hR.say level text) fun _ ↦ h
  · exact h bridge

/-- The context is changed, but not what is registered there. -/
theorem changeContext {f : Context → Context}
    (hf : ∀ context, (f context).handlers = context.handlers) :
    (Run.changeContext f).Obeys R frame bridge := by
  refine hR.modify rfl ?_
  cases hcontext : bridge.context with
  | none => simp [Bridge.handlers?, hcontext]
  | some context => simp [Bridge.handlers?, hcontext, hf]

theorem submit (id : WorkerId) (task : Task) : (Run.submit id task).Obeys R frame bridge := by
  refine hR.modify ?_ ?_
  · split <;> rfl
  · split <;> rfl

theorem takeWaiting (id : WorkerId) : (Run.takeWaiting id).Obeys R frame bridge := by
  refine .get_bind ?_
  split
  · exact hR.pure _
  · rintro _ _ ⟨⟩
    exact hR.aside rfl rfl

theorem takeFirst (id : WorkerId) : (Run.takeFirst id).Obeys R frame bridge := by
  refine .get_bind ?_
  split
  · exact hR.pure _
  · split
    · exact hR.pure _
    · rintro _ _ ⟨⟩
      exact hR.aside rfl rfl

end Bridge.Course

/-! ## Native code -/

/-- The calls that are allowed are answered in keeping with the relation. -/
def Answerer.Obeys (allowed : BridgeCall → Prop) (R : Bridge σ → Bridge σ → Prop)
    (answer : Answerer σ) : Prop :=
  ∀ request, allowed request → ∀ frame bridge, (answer request).Obeys R frame bridge

/-- The members of native code call the bridge only as `allowed` says. -/
structure Host.Calls (allowed : BridgeCall → Prop) (host : Host σ) : Prop where
  get : ∀ object name s, (host.get object name).Heeds allowed (fun _ ↦ True) s
  set : ∀ object name value s, (host.set object name value).Heeds allowed (fun _ ↦ True) s
  invoke : ∀ object name args s, (host.invoke object name args).Heeds allowed (fun _ ↦ True) s
  construct : ∀ typeName args s, (host.construct typeName args).Heeds allowed (fun _ ↦ True) s
  receive : ∀ object message s, (host.receive object message).Heeds allowed (fun _ ↦ True) s

theorem Native.heeds_all (program : Native σ α) (s : σ) :
    program.Heeds (fun _ ↦ True) (fun _ ↦ True) s := by
  induction program generalizing s with
  | done a => trivial
  | read next ih => exact ih s s
  | write s' next ih => exact ⟨id, ih s'⟩
  | thread next ih => exact fun name ↦ ih name s
  | log line next ih => exact ih s
  | defer work next ih => exact ih s
  | call request next ih => exact ⟨trivial, fun reply s' _ ↦ ih reply s'⟩

/-- No host makes other calls than there are. -/
theorem Host.calls_all (host : Host σ) : host.Calls fun _ ↦ True where
  get _ _ := Native.heeds_all _
  set _ _ _ := Native.heeds_all _
  invoke _ _ _ := Native.heeds_all _
  construct _ _ := Native.heeds_all _
  receive _ _ := Native.heeds_all _

/-- Objects that are numbered make no calls. -/
theorem Host.numbering_calls (allowed : BridgeCall → Prop) : Host.numbering.Calls allowed where
  get _ _ _ := trivial
  set _ _ _ _ := trivial
  invoke _ _ _ _ := ⟨id, trivial⟩
  construct _ _ _ := ⟨id, trivial⟩
  receive _ _ _ := trivial

section Native

variable (hR : Course R) (hanswer : answer.Obeys allowed R)
include hR hanswer

theorem Native.run_obeys {program : Native σ α}
    (h : program.Heeds allowed (fun _ ↦ True) bridge.native) :
    (program.run answer).Obeys R frame bridge := by
  induction program generalizing bridge with
  | done a => exact hR.pure a
  | read next ih => exact .get_bind (ih bridge.native h)
  | write s next ih => exact hR.modify_bind (by rfl) (by rfl) (ih h.2)
  | thread next ih =>
    intro a bridge' hrun
    exact ih _ (h _) a bridge' ((Run.bind_run Run.threadName_run).symm.trans hrun)
  | log line next ih => exact hR.modify_bind (by rfl) (by rfl) (ih h)
  | defer work next ih => exact hR.modify_bind (by rfl) (by rfl) (ih h)
  | call request next ih =>
    refine hR.bind (hanswer request h.1 frame bridge) fun reply bridge' ↦ ?_
    exact ih reply (h.2 reply bridge'.native id)

variable (hhost : host.Calls allowed)
include hhost

namespace Binding

theorem readAll_obeys (binding : Binding) (names : List String) :
    (binding.readAll host answer names).Obeys R frame bridge := by
  induction names generalizing bridge with
  | nil => exact hR.pure _
  | cons name names ih =>
    refine hR.bind (Native.run_obeys hR hanswer (hhost.get _ _ _)) fun _ _ ↦ ?_
    exact hR.bind ih fun _ _ ↦ hR.pure _

theorem set_obeys (binding : Binding) (name : String) (value : Value) :
    (binding.set host answer name value).Obeys R frame bridge := by
  unfold Binding.set
  split
  · exact Native.run_obeys hR hanswer (hhost.set _ _ _ _)
  · exact hR.pure _
  · exact hR.pure _

theorem invoke_obeys (binding : Binding) (name : String) (args : List Value) :
    (binding.invoke host answer name args).Obeys R frame bridge := by
  unfold Binding.invoke
  split
  · split
    · exact hR.pure _
    · exact Native.run_obeys hR hanswer (hhost.invoke _ _ _ _)
  · exact hR.pure _

end Binding

theorem Host.make_obeys (typeName : String) (args : List Value) :
    (host.make answer typeName args).Obeys R frame bridge := by
  unfold Host.make
  split
  · exact hR.pure _
  · split
    · exact hR.pure _
    · exact Native.run_obeys hR hanswer (hhost.construct _ _ _)

theorem Host.tell_obeys (object : ObjectRef) (message : Message) :
    (host.tell answer object message).Obeys R frame bridge := by
  refine .get_bind ?_
  split
  · exact Native.run_obeys hR hanswer (hhost.receive _ _ _)
  · exact hR.pure _

end Native

/-! ## How calls end that nobody waits for -/

theorem Run.pure_run_logged (a : α) :
    (pure a : Run σ α) frame bridge = some (a, bridge.logged []) := by
  rw [Bridge.logged_nil]
  rfl

/-- The end of a piece of native code, with what it returns changed. -/
def Finish.map (f : α → β) : Finish α → Finish β
  | .returned a => .returned (f a)
  | .panicked text => .panicked text

namespace Task

/-- Runs a native call and gives how it ends. -/
def finish (host : Host σ) (answer : Answerer σ) : Task → Run σ (Finish (Except BridgeError Unit))
  | .set binding property value => binding.set host answer property value
  | .invoke binding method args => do
    return (← binding.invoke host answer method args).map fun outcome ↦ outcome.map fun _ ↦ ()
  | .receive object message => do
    return ((← host.tell answer object message).map .ok)

/-- The lines that a call leaves in the log when it ends. -/
def told : Task → Finish (Except BridgeError Unit) → List Line
  | _, .returned (.ok ()) => []
  | .set _ _ _, .returned (.error e) =>
    [.ofBridge .warn ("property update dropped: " ++ e.message)]
  | .invoke _ _ _, .returned (.error e) => [.ofBridge .error ("native call failed: " ++ e.message)]
  | .receive _ _, .returned (.error _) => []
  | _, .panicked text => [.ofBridge .error (Finish.unattended text)]

/-- A call runs and leaves its lines in the log. -/
theorem run_eq_finish (task : Task) : task.run host answer frame bridge =
    (task.finish host answer frame bridge).map fun (finish, bridge') ↦
      ((), bridge'.logged (task.told finish)) := by
  cases task with
  | set binding property value =>
    change (binding.set host answer property value frame bridge).bind _ =
      (binding.set host answer property value frame bridge).map _
    rcases binding.set host answer property value frame bridge with
      - | ⟨(⟨_ | _⟩ | _), after⟩
    · rfl
    · rfl
    · exact Run.pure_run_logged ()
    · rfl
  | invoke binding method args =>
    change (binding.invoke host answer method args frame bridge).bind _ =
      ((binding.invoke host answer method args frame bridge).bind _).map _
    rcases binding.invoke host answer method args frame bridge with
      - | ⟨(⟨_ | _⟩ | _), after⟩
    · rfl
    · rfl
    · exact Run.pure_run_logged ()
    · rfl
  | receive object message =>
    change (host.tell answer object message frame bridge).bind _ =
      ((host.tell answer object message frame bridge).bind _).map _
    rcases host.tell answer object message frame bridge with - | ⟨_ | _, after⟩
    · rfl
    · exact Run.pure_run_logged ()
    · rfl

end Task

/-! ## Workers -/

section Workers

variable (hR : Course R) (hanswer : answer.Obeys allowed R) (hhost : host.Calls allowed)
include hR hanswer hhost

namespace Task

theorem finish_obeys (task : Task) : (task.finish host answer).Obeys R frame bridge := by
  unfold finish
  split
  · exact Binding.set_obeys hR hanswer hhost _ _ _
  · exact hR.bind (Binding.invoke_obeys hR hanswer hhost _ _ _) fun _ _ ↦ hR.pure _
  · exact hR.bind (Host.tell_obeys hR hanswer hhost _ _) fun _ _ ↦ hR.pure _

theorem run_obeys (task : Task) : (task.run host answer).Obeys R frame bridge := by
  intro _ bridge'' hrun
  rw [run_eq_finish] at hrun
  obtain ⟨⟨finish, bridge'⟩, hfinish, hlogged⟩ := Option.map_eq_some_iff.mp hrun
  cases hlogged
  exact hR.trans (finish_obeys hR hanswer hhost task finish bridge' hfinish) (hR.aside rfl rfl)

theorem runAll_obeys (tasks : List Task) :
    (Task.runAll host answer tasks).Obeys R frame bridge := by
  induction tasks generalizing bridge with
  | nil => exact hR.pure _
  | cons task tasks ih => exact hR.bind (run_obeys hR hanswer hhost task) fun _ _ ↦ ih

end Task

namespace Run

theorem sync_obeys (id : WorkerId) {work : Run σ α}
    (hwork : ∀ frame bridge, work.Obeys R frame bridge) :
    (Run.sync host answer id work).Obeys R frame bridge := by
  refine .read_bind (.get_bind ?_)
  split
  · exact hR.pure _
  · split
    · exact .stuck
    · refine .within ?_
      refine hR.bind (hR.takeWaiting id) fun tasks _ ↦ ?_
      refine hR.bind (Task.runAll_obeys hR hanswer hhost tasks) fun _ bridge' ↦ ?_
      exact hR.bind (hwork _ bridge') fun _ _ ↦ hR.pure _

theorem flush_obeys (id : WorkerId) : (Run.flush host answer id).Obeys R frame bridge := by
  refine .read_bind ?_
  split
  · exact hR.pure _
  · exact hR.bind (sync_obeys hR hanswer hhost id fun _ _ ↦ hR.pure ()) fun _ _ ↦ hR.pure ()

theorem advance_obeys (id : WorkerId) : (Run.advance host answer id).Obeys R frame bridge := by
  refine .within ?_
  refine hR.bind (hR.takeFirst id) fun task _ ↦ ?_
  split
  · exact hR.pure _
  · exact Task.run_obeys hR hanswer hhost _

end Run

end Workers

end ScriptBridge
