import ScriptBridge.Proofs.Messages.Errands
import ScriptBridge.Proofs.Messages.Visits

/-!
# What the channels do, and in which frame

An operation of a channel runs in the frame of whoever asks for it. There are two kinds of native
code that it may come to, and they run in different frames: properties are read in the frame of the
operation, and everything else runs in the frame of the channel's worker, unless that worker is the
one that asks. So for a relation between states it is enough to look at the two kinds, each in its
frame, and at the calls that are made meanwhile: if they keep to it, and it says nothing about what
a channel changes by itself, the operation keeps to it (`Bridge.Manner.answerWith`).

In contrast to a course (`Bridge.Course`), which is about the tables and indifferent to native
code, such a relation is about native code and indifferent to the tables.
-/

namespace ScriptBridge

variable {σ α β : Type}

/-- The channel that a call is for. -/
def BridgeCall.channel? : BridgeCall → Option ChannelId
  | .bind channel _ _ | .unbind channel | .dispatch channel _ | .dispatchSync channel _
  | .serialize channel _ => some channel
  | .complete function _ => some function.channel
  | .steer _ => none

namespace Bridge

/-- A relation between states that can be composed, and that says something only about the native
state and the names of the workers. -/
structure Tenor (R : Bridge σ → Bridge σ → Prop) : Prop where
  refl : ∀ bridge, R bridge bridge
  trans : ∀ {bridge bridge' bridge''}, R bridge bridge' → R bridge' bridge'' → R bridge bridge''
  /-- Whatever changes neither of them. -/
  aside : ∀ {bridge bridge' : Bridge σ}, bridge'.native = bridge.native →
    bridge'.nameOf = bridge.nameOf → R bridge bridge'

end Bridge

/-- What runs on a worker keeps to the relation, in a frame. -/
structure Host.Works (host : Host σ) (answer : Answerer σ) (frame : Frame)
    (R : Bridge σ → Bridge σ → Prop) : Prop where
  set : ∀ object name value bridge,
    ((host.set object name value).run answer).Obeys R frame bridge
  invoke : ∀ object name args bridge,
    ((host.invoke object name args).run answer).Obeys R frame bridge
  construct : ∀ typeName args bridge,
    ((host.construct typeName args).run answer).Obeys R frame bridge
  receive : ∀ object message bridge,
    ((host.receive object message).run answer).Obeys R frame bridge

/-- What native code does for an operation in a frame keeps to the relation: what is read in the
frame, what is executed on a worker, and the calls that are made meanwhile. -/
structure Bridge.Manner (host : Host σ) (answer : Answerer σ) (frame : Frame) (w : WorkerId)
    (R : Bridge σ → Bridge σ → Prop) : Prop extends Tenor R where
  answers : ∀ request frame bridge, (answer request).Obeys R frame bridge
  reads : ∀ object name bridge, ((host.get object name).run answer).Obeys R frame bridge
  works : frame.thread ≠ .worker w → host.Works answer (frame.enter w) R

open Bridge (Tenor Manner)

/-! ## Names of workers -/

/-- What happens to what waits for a worker does not rename it. -/
theorem Bridge.nameOf_adjust (w : WorkerId) (f : Worker Task → Worker Task)
    (hf : ∀ worker, (f worker).label = worker.label) (bridge : Bridge σ) :
    { bridge with workers := bridge.workers.adjust w f }.nameOf = bridge.nameOf := by
  funext thread
  cases thread with
  | caller => rfl
  | background => rfl
  | worker id =>
    have hlabel : ((bridge.workers.adjust w f).get? id).map (·.label) =
        (bridge.workers.get? id).map (·.label) := by
      rw [Table.get?_adjust]
      split
      · rw [Option.map_map]
        exact congrArg (bridge.workers.get? id).map (funext hf)
      · rfl
    exact congrArg (·.getD "") hlabel

theorem Bridge.nameOf_withBound (id : ChannelId) (bound : Option Bound) (bridge : Bridge σ) :
    (bridge.withBound id bound).nameOf = bridge.nameOf := by
  funext thread
  cases thread with
  | caller => rfl
  | background => rfl
  | worker w =>
    change ((((bridge.withBound id bound).workers.get? w).map (·.label)).getD "") = _
    rw [Bridge.withBound_workers]
    rfl

/-! ## Runs put together -/

variable {R : Bridge σ → Bridge σ → Prop} {host : Host σ} {answer : Answerer σ} {frame : Frame}
  {bridge : Bridge σ} {w : WorkerId}

namespace Bridge.Tenor

variable (hR : Tenor R)
include hR

theorem pure (a : α) : (Pure.pure a : Run σ α).Obeys R frame bridge := by
  rintro _ _ ⟨⟩
  exact hR.refl bridge

theorem bind {run : Run σ α} {next : α → Run σ β} (hrun : run.Obeys R frame bridge)
    (hnext : ∀ a bridge', (next a).Obeys R frame bridge') :
    (run >>= next).Obeys R frame bridge := by
  intro b bridge'' hboth
  obtain ⟨a, bridge', hfirst, hsecond⟩ := Run.of_bind_run hboth
  exact hR.trans (hrun a bridge' hfirst) (hnext a bridge' b bridge'' hsecond)

theorem modify {f : Bridge σ → Bridge σ} (hnative : (f bridge).native = bridge.native)
    (hnames : (f bridge).nameOf = bridge.nameOf) :
    (modify f : Run σ Unit).Obeys R frame bridge := by
  rintro _ _ ⟨⟩
  exact hR.aside hnative hnames

theorem say (level : Level) (text : String) : (Run.say level text).Obeys R frame bridge :=
  hR.modify rfl rfl

theorem sayAll (lines : List Line) : (Run.sayAll lines).Obeys R frame bridge :=
  hR.modify rfl rfl

theorem changeContext (f : Context → Context) : (Run.changeContext f).Obeys R frame bridge :=
  hR.modify rfl rfl

theorem setBound (id : ChannelId) (bound : Option Bound) :
    (Run.setBound id bound).Obeys R frame bridge := by
  rintro _ bridge' hrun
  cases hrun
  exact hR.aside (bridge.withBound_native id bound) (bridge.nameOf_withBound id bound)

theorem submit (id : WorkerId) (task : Task) : (Run.submit id task).Obeys R frame bridge := by
  intro _ _ hrun
  rw [Run.submit_run] at hrun
  cases hrun
  exact hR.aside rfl (bridge.nameOf_adjust id (·.enqueue task) fun _ ↦ rfl)

/-- The calls that wait for a worker are taken from its queue. -/
theorem withWaiting (id : WorkerId) (tasks : List Task) : R bridge (bridge.withWaiting id tasks) :=
  hR.aside rfl
    (bridge.nameOf_adjust id (fun worker ↦ { worker with waiting := tasks }) fun _ ↦ rfl)

/-! ## What runs no native code -/

theorem unbind (id : ChannelId) : (ChannelId.unbind id : Run σ Unit).Obeys R frame bridge := by
  refine .bound?_bind ?_
  split
  · exact hR.pure _
  · refine hR.bind (hR.setBound id none) fun _ _ ↦ ?_
    exact hR.bind (hR.changeContext _) fun _ _ ↦ hR.say _ _

theorem dispose (id : ChannelId) (target : Int) :
    (ChannelId.dispose id target : Run σ Unit).Obeys R frame bridge := by
  unfold ChannelId.dispose
  split
  · exact hR.unbind id
  · refine .bound?_bind ?_
    split
    · exact hR.pure _
    · split
      · exact hR.pure _
      · exact hR.bind (hR.setBound id _) fun _ _ ↦ hR.say _ _

theorem literal (id : ChannelId) (engine : EngineLiterals) (value : Value) :
    (ChannelId.literal id engine value : Run σ String).Obeys R frame bridge := by
  refine .bound?_bind ?_
  split
  · exact hR.pure _
  · refine hR.bind (hR.setBound id _) fun _ _ ↦ ?_
    exact hR.bind (hR.sayAll _) fun _ _ ↦ hR.pure _

theorem stub? (id : ChannelId) (engine : EngineLiterals) (target : StubTarget) (binding : Binding)
    (values : List (String × Value)) :
    (ChannelId.stub? host id engine target binding values).Obeys R frame bridge := by
  refine .get_bind ?_
  split
  · exact hR.pure _
  · split
    · exact hR.pure _
    · refine hR.bind (hR.setBound id _) fun _ _ ↦ ?_
      exact hR.bind (hR.sayAll _) fun _ _ ↦ hR.pure _

theorem identifierFor (object : ObjectRef) :
    (ChannelId.identifierFor host object).Obeys R frame bridge := by
  refine .get_bind ?_
  split
  · exact hR.pure _
  · rintro _ _ ⟨⟩
    exact hR.aside rfl rfl

theorem report (e : BridgeError) : (ChannelId.report e : Run σ Unit).Obeys R frame bridge := by
  unfold ChannelId.report
  split
  · exact hR.say _ _
  · split
    · exact hR.say _ _
    · exact hR.say _ _

theorem decode (name : String) (body : Option String) :
    (Gate.decode name body : Run σ Message).Obeys R frame bridge := by
  unfold Gate.decode
  split
  · exact hR.pure _
  · split
    · exact hR.pure _
    · exact hR.bind (hR.say _ _) fun _ _ ↦ hR.pure _

end Bridge.Tenor

/-! ## Work on a worker -/

section Works

variable (hR : Tenor R) (hworks : host.Works answer frame R)
include hR hworks

namespace Host.Works

theorem write (binding : Binding) (name : String) (value : Value) :
    (binding.set host answer name value).Obeys R frame bridge := by
  unfold Binding.set
  split
  · exact hworks.set _ _ _ _
  · exact hR.pure _
  · exact hR.pure _

theorem call (binding : Binding) (name : String) (args : List Value) :
    (binding.invoke host answer name args).Obeys R frame bridge := by
  unfold Binding.invoke
  split
  · split
    · exact hR.pure _
    · exact hworks.invoke _ _ _ _
  · exact hR.pure _

theorem make (typeName : String) (args : List Value) :
    (host.make answer typeName args).Obeys R frame bridge := by
  unfold Host.make
  split
  · exact hR.pure _
  · split
    · exact hR.pure _
    · exact hworks.construct _ _ _

theorem tell (object : ObjectRef) (message : Message) :
    (host.tell answer object message).Obeys R frame bridge := by
  refine .get_bind ?_
  split
  · exact hworks.receive _ _ _
  · exact hR.pure _

theorem finish (task : Task) : (task.finish host answer).Obeys R frame bridge := by
  cases task with
  | set binding property value => exact write hR hworks binding property value
  | invoke binding method args =>
    exact hR.bind (call hR hworks binding method args) fun _ _ ↦ hR.pure _
  | receive object message => exact hR.bind (tell hR hworks object message) fun _ _ ↦ hR.pure _

/-- A call that has waited for the worker. -/
theorem task (task : Task) : (task.run host answer).Obeys R frame bridge := by
  intro _ _ hrun
  rw [Task.run_eq_finish] at hrun
  obtain ⟨⟨finish, after⟩, hfinish, hlogged⟩ := Option.map_eq_some_iff.mp hrun
  cases hlogged
  exact hR.trans (Works.finish hR hworks task finish after hfinish) (hR.aside rfl rfl)

theorem tasks (tasks : List Task) : (Task.runAll host answer tasks).Obeys R frame bridge := by
  induction tasks generalizing bridge with
  | nil => exact hR.pure _
  | cons task tasks ih => exact hR.bind (Works.task hR hworks task) fun _ _ ↦ ih

end Host.Works

end Works

/-- A worker runs one of the calls that wait for it. -/
theorem Host.Works.advance (hR : Tenor R) (hworks : host.Works answer (Frame.enter {} w) R) :
    (Run.advance host answer w).Obeys R frame bridge := by
  intro _ _ hrun
  obtain ⟨task, mid, htaken, hdone⟩ := Run.of_bind_run hrun
  have hmid : R bridge mid := by
    refine Run.Obeys.get_bind ?_ task mid htaken
    split
    · exact hR.pure _
    · split
      · exact hR.pure _
      · next worker hworker _ task waiting hwaiting =>
        rintro _ _ ⟨⟩
        have hrest : R bridge (bridge.withWaiting w waiting) := hR.withWaiting w waiting
        simpa [Bridge.withWaiting, Table.adjust, hworker] using hrest
  refine hR.trans hmid ?_
  cases task with
  | none =>
    cases hdone
    exact hR.refl _
  | some task => exact hworks.task hR task _ _ hdone

namespace Bridge.Tenor

variable (hR : Tenor R) (hworks : frame.thread ≠ .worker w → host.Works answer (frame.enter w) R)
include hR hworks

/-- Work that the worker is waited for. -/
theorem sync {work : Run σ α}
    (hwork : frame.thread ≠ .worker w → ∀ bridge, work.Obeys R (frame.enter w) bridge) :
    (Run.sync host answer w work).Obeys R frame bridge := by
  intro result bridge' hrun
  rcases Run.sync_cases hrun with ⟨-, rfl, -⟩ | ⟨hthread, mid, a, hwaited, -, hdone⟩
  · exact hR.refl _
  · have hmid := (hworks hthread).tasks hR (bridge.waitingOf w) _ _ hwaited
    exact hR.trans (hR.withWaiting w []) (hR.trans hmid (hwork hthread mid a bridge' hdone))

theorem flush : (Run.flush host answer w).Obeys R frame bridge := by
  refine .read_bind ?_
  split
  · exact hR.pure _
  · exact hR.bind (hR.sync hworks fun _ _ ↦ hR.pure ()) fun _ _ ↦ hR.pure _

end Bridge.Tenor

namespace Bridge.Manner

variable (h : Manner host answer frame w R)
include h

/-! ## Values on their way to scripts -/

theorem readAll (binding : Binding) (names : List String) :
    (binding.readAll host answer names).Obeys R frame bridge := by
  induction names generalizing bridge with
  | nil => exact h.pure _
  | cons name names ih =>
    exact h.bind (h.reads _ _ _) fun _ _ ↦ h.bind ih fun _ _ ↦ h.pure _

theorem drain (id : ChannelId) (engine : EngineLiterals) (patience : Nat) :
    (ChannelId.drain host answer id engine patience).Obeys R frame bridge := by
  induction patience generalizing bridge with
  | zero => exact .stuck
  | succ patience ih =>
    refine .bound?_bind ?_
    split
    · exact h.pure _
    · split
      · exact h.pure _
      · refine h.bind (h.setBound id _) fun _ _ ↦ ?_
        refine h.bind (h.readAll _ _) fun values _ ↦ ?_
        refine h.bind (h.stub? id engine _ _ values) fun source _ ↦ ?_
        split
        · exact h.pure _
        · exact h.bind ih fun _ _ ↦ h.pure _

theorem expression (patience : Nat) (id : ChannelId) (value : Value) :
    (ChannelId.expression host answer patience id value).Obeys R frame bridge := by
  refine .get_bind ?_
  refine h.bind (h.literal id _ value) fun _ _ ↦ ?_
  exact h.bind (h.drain id _ patience) fun _ _ ↦ h.pure _

/-! ## Scripts -/

theorem post (name : String) (body : Option String) :
    (Gate.post answer name body).Obeys R frame bridge := by
  refine .get_bind ?_
  split
  · exact h.say _ _
  · exact h.bind (h.decode name body) fun _ bridge' ↦ h.answers _ _ bridge'

theorem postSync (name : String) (body : Option String) :
    (Gate.postSync answer name body).Obeys R frame bridge := by
  refine .get_bind ?_
  split
  · exact h.bind (h.say _ _) fun _ _ ↦ h.pure _
  · exact h.bind (h.decode name body) fun _ bridge' ↦ h.answers _ _ bridge'

theorem converse (dialogue : Script.Dialogue α) :
    (Run.converse answer dialogue).Obeys R frame bridge := by
  induction dialogue generalizing bridge with
  | done result => exact h.pure _
  | post name body next ih => exact h.bind (h.post name body) fun _ _ ↦ ih ()
  | ask name body next ih => exact h.bind (h.postSync name body) fun expression _ ↦ ih expression

theorem script (text : String) : (Run.script answer text).Obeys R frame bridge := by
  have htake : ∀ bridge, (Run.takeRealm : Run σ Script.Realm).Obeys R frame bridge := by
    intro bridge
    refine .get_bind ?_
    split
    · exact .stuck
    · exact h.bind (h.changeContext _) fun _ _ ↦ h.pure _
  unfold Run.script
  split
  · exact h.pure _
  · refine h.bind (htake bridge) fun realm _ ↦ ?_
    refine h.bind (h.converse _) fun ended _ ↦ ?_
    refine h.bind (h.changeContext _) fun _ _ ↦ ?_
    split
    · exact h.pure _
    · exact h.pure _

theorem evaluate (text : String) : (ChannelId.evaluate answer text).Obeys R frame bridge := by
  refine .get_bind ?_
  split
  · exact h.bind (h.script _) fun _ _ ↦ h.pure _
  · exact h.bind (h.changeContext _) fun _ _ ↦ h.pure _

/-! ## Binding -/

theorem inject (source : Source) : (ChannelId.inject answer source).Obeys R frame bridge := by
  refine .get_bind ?_
  split
  · exact h.pure _
  · split
    · exact h.pure _
    · split
      · exact h.bind (h.changeContext _) fun _ _ ↦ h.pure _
      · refine h.bind (h.script _) fun outcome _ ↦ ?_
        split
        · exact h.pure _
        · exact h.pure _

theorem injectAll (sources : List Source) :
    (ChannelId.injectAll answer sources).Obeys R frame bridge := by
  induction sources generalizing bridge with
  | nil => exact h.pure _
  | cons source sources ih =>
    refine h.bind (h.inject source) fun refusal _ ↦ ?_
    dsimp only
    split
    · exact ih
    · exact h.bind (h.say _ _) fun _ _ ↦ ih

theorem install (patience : Nat) (id : ChannelId) (engine : EngineLiterals)
    (identifier place : String) (source : Source) :
    (ChannelId.install host answer patience id engine identifier place source).Obeys R frame
      bridge := by
  refine h.bind (h.changeContext _) fun _ _ ↦ ?_
  refine h.bind (h.inject source) fun refusal _ ↦ ?_
  split
  · refine h.bind (h.say _ _) fun _ _ ↦ ?_
    exact h.bind (h.unbind id) fun _ _ ↦ h.pure _
  · refine h.bind (h.drain id engine patience) fun sources _ ↦ ?_
    exact h.bind (h.injectAll sources) fun _ _ ↦ h.bind (h.say _ _) fun _ _ ↦ h.pure _

theorem start (patience : Nat) (id : ChannelId) (object : ObjectRef) (place : String) :
    (ChannelId.bind host answer patience id object place).Obeys R frame bridge := by
  unfold ChannelId.bind
  split
  · exact h.pure _
  · refine .get_bind ?_
    split
    · exact h.pure _
    · refine h.bind (h.readAll _ _) fun values _ ↦ .bound?_bind ?_
      split
      · exact h.pure _
      · refine h.bind (h.identifierFor object) fun identifier _ ↦ .get_bind ?_
        refine h.bind (h.setBound id _) fun _ _ ↦ ?_
        refine h.bind (h.stub? id _ _ _ values) fun source _ ↦ ?_
        split
        · exact h.pure _
        · exact h.install patience id _ identifier place _

/-! ## Messages -/

theorem produce (id : ChannelId) (target : Int) (place typeName : String) (args : List Value) :
    (ChannelId.produce host answer id w target place typeName args).Obeys R frame bridge := by
  refine h.bind (h.sync h.works fun hthread _ ↦ (h.works hthread).make h.toTenor typeName args)
    fun made _ ↦ ?_
  split
  · exact h.pure _
  · refine .bound?_bind ?_
    split
    · exact h.pure _
    · refine h.bind (h.setBound id _) fun _ _ ↦ ?_
      dsimp only
      split
      · exact h.bind (h.say _ _) fun _ _ ↦ h.bind (h.say _ _) fun _ _ ↦ h.pure _
      · exact h.bind (h.say _ _) fun _ _ ↦ h.pure _

/-- Whatever a message asks for. -/
theorem errand (id : ChannelId) (errand : Errand) :
    (errand.run host answer id w).Obeys R frame bridge := by
  cases errand with
  | refuse e => exact h.pure _
  | hand task told =>
    exact h.bind (h.submit w task) fun _ _ ↦ h.bind (h.sayAll told) fun _ _ ↦ h.pure _
  | await binding method args =>
    exact h.bind (h.sync h.works fun hthread _ ↦ (h.works hthread).call h.toTenor binding method args)
      fun _ _ ↦ h.pure _
  | make target place typeName args =>
    exact h.bind (h.produce id target place typeName args) fun _ _ ↦ h.pure _
  | dispose target => exact h.bind (h.dispose id target) fun _ _ ↦ h.pure _

/-- A message that is taken, the channel being served by the worker. -/
theorem handle {id : ChannelId}
    (hworker : ∀ channel, bridge.channels.get? id = some channel → channel.worker = w)
    (message : Message) (waits : Bool) :
    (ChannelId.handle host answer id message waits).Obeys R frame bridge := by
  intro outcome bridge' hrun
  cases hchannel : bridge.channels.get? id with
  | none =>
    rw [ChannelId.handle_run_of_none hchannel] at hrun
    cases hrun
    exact h.refl _
  | some channel =>
    rw [ChannelId.handle_run hchannel, hworker channel hchannel] at hrun
    have hlogged : R bridge (bridge.logged (ChannelId.received channel)) := h.aside rfl rfl
    exact h.trans hlogged (h.errand id _ outcome bridge' hrun)

theorem ask {id : ChannelId}
    (hworker : ∀ channel, bridge.channels.get? id = some channel → channel.worker = w)
    (message : Message) : (ChannelId.ask host answer id message).Obeys R frame bridge := by
  refine h.bind (h.handle hworker message true) fun outcome _ ↦ ?_
  split
  · exact h.pure _
  · exact h.bind (h.report _) fun _ _ ↦ h.pure _

/-! ## All calls of the bridge -/

/-- **An operation keeps to what native code keeps to**, in the frames in which it runs. -/
theorem answerWith (patience : Nat) {request : BridgeCall}
    (hworker : ∀ channel, (request.channel?.bind bridge.channels.get?) = some channel →
      channel.worker = w) :
    (Bridge.answerWith host answer patience request).Obeys R frame bridge := by
  cases request with
  | bind channel object place => exact h.start patience channel object place
  | unbind channel => exact h.unbind channel
  | dispatch channel message =>
    refine h.bind (h.handle hworker message false) fun outcome _ ↦ ?_
    split
    · exact h.pure _
    · exact h.report _
  | dispatchSync channel message =>
    refine h.bind (h.ask hworker message) fun outcome _ ↦ ?_
    split
    · exact h.bind (h.expression patience channel _) fun _ _ ↦ h.pure _
    · exact h.pure _
    · exact h.pure _
  | serialize channel value =>
    exact h.bind (h.expression patience channel value) fun _ _ ↦ h.pure _
  | complete function outcome =>
    refine .get_bind ?_
    dsimp only
    split
    · exact h.pure _
    · split
      · exact h.bind (h.expression patience _ _) fun _ _ ↦ h.evaluate _
      · exact h.evaluate _
  | steer injection => exact h.changeContext _

end Bridge.Manner

end ScriptBridge
