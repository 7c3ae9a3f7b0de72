import ScriptBridge.Proofs.Runs.Manners
import ScriptBridge.Proofs.Runs.Operations

/-!
# On which thread native code runs

A channel has one worker, and what is executed for the channel is executed on it: methods, setters,
initializers and raw handlers, whether they are waited for or not. Properties are different. They
are read where a stub is made that shows them, and that is on the thread that asks for the stub: the
one that binds a principal, wants a reply or an expression, or completes a callback.

## How it is observed

Native code can ask for the name of the thread it is on. Here it does so whenever something of it is
reached, and keeps a record of what it has learnt (`Host.sighted`). The record says what an
operation reaches itself. What the calls reach that are made meanwhile, by native code and by
scripts, is reached by operations of their own, for which the same holds one level down; so it is
taken out of the record (`Answerer.unseen`), and nothing has to be assumed of native code.
-/

namespace ScriptBridge

open Bridge (Tenor Manner)

variable {σ α : Type}

/-! ## Sightings -/

/-- Something of native code that has been reached, and the name of the thread on which it began. -/
structure Sighting where
  access : Access
  thread : String

/-- The program, at work beside something that it does not touch. -/
def Native.alongside {τ : Type} : Native σ α → Native (σ × τ) α
  | .done a => .done a
  | .read next => .read fun s ↦ (next s.1).alongside
  | .write s' next => .read fun s ↦ .write (s', s.2) next.alongside
  | .thread next => .thread fun name ↦ (next name).alongside
  | .log line next => .log line next.alongside
  | .defer work next => .defer ⟨work.function, fun s ↦ work.outcome s.1⟩ next.alongside
  | .call request next => .call request fun reply ↦ (next reply).alongside

/-- The program, which first writes down on which thread it is. -/
def Native.sighted (access : Access) (program : Native σ α) : Native (σ × List Sighting) α :=
  .thread fun name ↦ .read fun s ↦ .write (s.1, s.2 ++ [⟨access, name⟩]) program.alongside

/-- The host with a record of what is reached of it and where. -/
def Host.sighted (host : Host σ) : Host (σ × List Sighting) where
  surface := host.surface
  hooks s := host.hooks s.1
  get object name := (host.get object name).sighted (.read object name)
  set object name value :=
    (host.set object name value).sighted (.execution (.write object name value))
  invoke object name args :=
    (host.invoke object name args).sighted (.execution (.call object name args))
  construct typeName args :=
    (host.construct typeName args).sighted (.execution (.make typeName args))
  receive object message :=
    (host.receive object message).sighted (.execution (.receive object message))
  draw := host.draw

/-- The record. -/
def Bridge.sightings (bridge : Bridge (σ × List Sighting)) : List Sighting := bridge.native.2

/-- What the record has after has been added to it meanwhile, and is of a certain kind. -/
def Bridge.Shows (P : Sighting → Prop) (bridge bridge' : Bridge (σ × List Sighting)) : Prop :=
  ∃ added, bridge'.sightings = bridge.sightings ++ added ∧ ∀ sighting ∈ added, P sighting

/-- Calls are answered, and what is reached in the course of it is left out of the record. -/
def Answerer.unseen (answer : Answerer (σ × List Sighting)) : Answerer (σ × List Sighting) :=
  fun request ↦ do
    let bridge ← get
    let reply ← answer request
    modify fun bridge' ↦ { bridge' with native := (bridge'.native.1, bridge.sightings) }
    return reply

/-- A sighting of an operation that is asked for on a thread: what is read is read on that thread;
what is executed is executed on the worker, and by another thread's asking. -/
def Sighting.Placed (names : Thread → String) (asking : Thread) (w : WorkerId)
    (sighting : Sighting) : Prop :=
  match sighting.access with
  | .read _ _ => sighting.thread = names asking
  | .execution _ => asking ≠ .worker w ∧ sighting.thread = names (.worker w)

/-- A sighting of something that was executed on a worker. -/
def Sighting.Worked (names : Thread → String) (w : WorkerId) (sighting : Sighting) : Prop :=
  ∃ execution, sighting = ⟨.execution execution, names (.worker w)⟩

/-! ## Runs that add to the record -/

/-- As long as the threads have these names, they keep them, and what is added to the record is of a
certain kind. -/
def Bridge.Sees (names : Thread → String) (P : Sighting → Prop)
    (bridge bridge' : Bridge (σ × List Sighting)) : Prop :=
  bridge.nameOf = names → bridge'.nameOf = names ∧ bridge.Shows P bridge'

variable {names : Thread → String} {P Q : Sighting → Prop} {host : Host σ}
  {answer : Answerer (σ × List Sighting)} {frame : Frame} {w : WorkerId}
  {bridge bridge' : Bridge (σ × List Sighting)}

/-- Nothing is added. -/
theorem Bridge.Shows.of_eq (h : bridge'.sightings = bridge.sightings) : bridge.Shows P bridge' := by
  refine ⟨[], ?_, ?_⟩
  · rw [h, List.append_nil]
  · rintro _ ⟨⟩

theorem Bridge.Shows.trans {bridge'' : Bridge (σ × List Sighting)} (h : bridge.Shows P bridge')
    (h' : bridge'.Shows P bridge'') : bridge.Shows P bridge'' := by
  obtain ⟨added, hadded, hP⟩ := h
  obtain ⟨added', hadded', hP'⟩ := h'
  refine ⟨added ++ added', ?_, ?_⟩
  · rw [hadded', hadded, List.append_assoc]
  · intro sighting hsighting
    exact (List.mem_append.mp hsighting).elim (hP sighting) (hP' sighting)

theorem Bridge.sees_tenor : Tenor (Bridge.Sees (σ := σ) names P) where
  refl _ hnames := ⟨hnames, .of_eq rfl⟩
  trans h h' hnames := by
    obtain ⟨hmid, hshows⟩ := h hnames
    obtain ⟨hend, hshows'⟩ := h' hmid
    exact ⟨hend, hshows.trans hshows'⟩
  aside hnative hnames' hnames := ⟨hnames'.trans hnames, .of_eq (congrArg Prod.snd hnative)⟩

section Native

variable (hanswer : ∀ request frame bridge, (answer request).Obeys (Bridge.Sees names P) frame bridge)
include hanswer

theorem Native.alongside_sees (program : Native σ α) :
    (program.alongside.run answer).Obeys (Bridge.Sees names P) frame bridge := by
  have hR : Tenor (Bridge.Sees (σ := σ) names P) := Bridge.sees_tenor
  induction program generalizing bridge with
  | done a => exact hR.pure a
  | read next ih => exact .get_bind (ih bridge.native.1)
  | write s' next ih =>
    refine .get_bind (hR.bind ?_ fun _ _ ↦ ih)
    rintro _ _ ⟨⟩ hnames
    exact ⟨hnames, .of_eq rfl⟩
  | thread next ih =>
    intro a bridge' hrun
    exact ih _ a bridge' ((Run.bind_run Run.threadName_run).symm.trans hrun)
  | log line next ih => exact hR.bind (hR.modify rfl rfl) fun _ _ ↦ ih
  | defer work next ih => exact hR.bind (hR.modify rfl rfl) fun _ _ ↦ ih
  | call request next ih => exact hR.bind (hanswer request frame bridge) fun reply _ ↦ ih reply

/-- **A program writes down the thread it is on**, and then adds what its calls add. -/
theorem Native.sighted_sees (access : Access) (program : Native σ α)
    (hP : P ⟨access, names frame.thread⟩) :
    ((program.sighted access).run answer).Obeys (Bridge.Sees names P) frame bridge := by
  intro a bridge' hrun hnames
  have hwritten : (program.alongside.run answer) frame
      { bridge with
        native := (bridge.native.1, bridge.sightings ++ [⟨access, bridge.nameOf frame.thread⟩]) } =
      some (a, bridge') := (Run.bind_run Run.threadName_run).symm.trans hrun
  obtain ⟨hend, hshows⟩ := Native.alongside_sees hanswer program a bridge' hwritten hnames
  refine ⟨hend, .trans ⟨[⟨access, bridge.nameOf frame.thread⟩], rfl, ?_⟩ hshows⟩
  intro sighting hsighting
  rw [List.mem_singleton.mp hsighting, hnames]
  exact hP

theorem Host.sighted_works (hP : ∀ execution, P ⟨.execution execution, names frame.thread⟩) :
    host.sighted.Works answer frame (Bridge.Sees names P) where
  set _ _ _ _ := Native.sighted_sees hanswer _ _ (hP _)
  invoke _ _ _ _ := Native.sighted_sees hanswer _ _ (hP _)
  construct _ _ _ := Native.sighted_sees hanswer _ _ (hP _)
  receive _ _ _ := Native.sighted_sees hanswer _ _ (hP _)

/-- What native code adds to the record, in the frames in which an operation runs it. -/
theorem Host.sighted_manner (hread : ∀ object name, P ⟨.read object name, names frame.thread⟩)
    (hwork : frame.thread ≠ .worker w → ∀ execution,
      P ⟨.execution execution, names (.worker w)⟩) :
    Manner host.sighted answer frame w (Bridge.Sees names P) where
  toTenor := Bridge.sees_tenor
  answers := hanswer
  reads _ _ _ := Native.sighted_sees hanswer _ _ (hread _ _)
  works hthread := Host.sighted_works hanswer (hwork hthread)

end Native

/-- Calls of the bridge rename no thread, and the record only grows. -/
theorem Bridge.answer_sees (levels : Nat) (request : BridgeCall) (frame : Frame)
    (bridge : Bridge (σ × List Sighting)) :
    (Bridge.answer host.sighted levels request).Obeys (Sees names fun _ ↦ True) frame bridge := by
  induction levels generalizing request frame bridge with
  | zero => exact .stuck
  | succ levels ih =>
    have hmanner : ∀ w, Manner host.sighted (Bridge.answer host.sighted levels) frame w
        (Sees names fun _ ↦ True) :=
      fun w ↦ Host.sighted_manner ih (fun _ _ ↦ trivial) fun _ _ ↦ trivial
    cases hchannel : request.channel?.bind bridge.channels.get? with
    | none =>
      refine (hmanner 0).answerWith levels fun channel hsome ↦ ?_
      rw [hchannel] at hsome
      cases hsome
    | some channel =>
      refine (hmanner channel.worker).answerWith levels fun channel' hsome ↦ ?_
      rw [hchannel] at hsome
      cases hsome
      rfl

/-- Calls that are left out of the record add nothing to it. -/
theorem Answerer.unseen_sees {request : BridgeCall}
    (h : (answer request).Obeys (Bridge.Sees names Q) frame bridge) :
    (answer.unseen request).Obeys (Bridge.Sees names P) frame bridge := by
  intro reply bridge' hrun hnames
  have hget : (get : Run (σ × List Sighting) _) frame bridge = some (bridge, bridge) := rfl
  rw [unseen, Run.bind_run hget] at hrun
  obtain ⟨_, mid, hanswered, hrest⟩ := Run.of_bind_run hrun
  cases hrest
  exact ⟨(h _ mid hanswered hnames).1, .of_eq rfl⟩

/-! ## Operations of a channel -/

/-- A call that is handed to a worker waits for no other one. -/
theorem Bridge.waitingOf_submitted_of_ne {τ : Type} {bridge : Bridge τ} {v : WorkerId} (h : v ≠ w)
    (task : Task) : (bridge.submitted w task).waitingOf v = bridge.waitingOf v := by
  simp [waitingOf, submitted, Table.get?_adjust, h]

/-- **Where native code runs for a channel.** Of what an operation reaches, properties are read on
the thread that asks for the operation, and everything else is executed on the worker of the
channel, when another thread asks. What a message hands over goes into the queue of that worker, and
what the worker takes from there is executed on it. -/
theorem Bridge.accesses_placed (host : Host σ) (levels : Nat) {c : ChannelId} {channel : Channel}
    (hchannel : bridge.channels.get? c = some channel)
    (hworker : (bridge.workers.get? channel.worker).isSome) (frame : Frame) :
    (∀ patience request reply bridge', request.channel? = some c →
      answerWith host.sighted (Bridge.answer host.sighted levels).unseen patience request frame
        bridge = some (reply, bridge') →
      bridge.Shows (Sighting.Placed bridge.nameOf frame.thread channel.worker) bridge') ∧
    (∀ answer message waits task told,
      bridge.errand host.sighted c message waits = .hand task told →
      ∃ bridge', ChannelId.handle host.sighted answer c message waits frame bridge =
          some (.ok none, bridge') ∧ bridge'.sightings = bridge.sightings ∧
        ∀ w, bridge'.waitingOf w =
          bridge.waitingOf w ++ if w = channel.worker then [task] else []) ∧
    (∀ bridge',
      Run.flush host.sighted (Bridge.answer host.sighted levels).unseen channel.worker frame
          bridge = some ((), bridge') ∨
        Run.advance host.sighted (Bridge.answer host.sighted levels).unseen channel.worker frame
          bridge = some ((), bridge') →
      bridge.Shows (Sighting.Worked bridge.nameOf channel.worker) bridge') := by
  have hunseen : ∀ (P : Sighting → Prop) request frame bridge₁,
      ((Bridge.answer host.sighted levels).unseen request).Obeys (Sees bridge.nameOf P) frame
        bridge₁ :=
    fun P request frame bridge₁ ↦ Answerer.unseen_sees (answer_sees levels request frame bridge₁)
  refine ⟨?_, ?_, ?_⟩
  · intro patience request reply bridge' hrequest hrun
    have hmanner : Manner host.sighted (Bridge.answer host.sighted levels).unseen frame
        channel.worker (Sees bridge.nameOf
          (Sighting.Placed bridge.nameOf frame.thread channel.worker)) :=
      Host.sighted_manner (hunseen _) (fun _ _ ↦ rfl) fun hthread _ ↦ ⟨hthread, rfl⟩
    refine (hmanner.answerWith patience ?_ reply bridge' hrun rfl).2
    intro channel' hsome
    rw [hrequest, Option.bind_some, hchannel] at hsome
    cases hsome
    rfl
  · intro answer message waits task told herrand
    have hhanded : ChannelId.handle host.sighted answer c message waits frame bridge =
        some (.ok none, ((bridge.logged (ChannelId.received channel)).submitted channel.worker
          task).logged told) := by
      rw [ChannelId.handle_run hchannel, herrand, Errand.hand_run]
    refine ⟨_, hhanded, rfl, fun w ↦ ?_⟩
    split
    · next hw =>
      rw [hw]
      exact waitingOf_submitted hworker task
    · next hw =>
      rw [List.append_nil]
      exact waitingOf_submitted_of_ne hw task
  · have hworks : ∀ frame : Frame, frame.thread = .worker channel.worker →
        host.sighted.Works (Bridge.answer host.sighted levels).unseen frame
          (Sees bridge.nameOf (Sighting.Worked bridge.nameOf channel.worker)) := by
      intro frame hthread
      refine Host.sighted_works (hunseen _) fun execution ↦ ⟨execution, ?_⟩
      rw [hthread]
    rintro bridge' (hflush | hadvance)
    · exact (sees_tenor.flush (fun _ ↦ hworks _ rfl) () bridge' hflush rfl).2
    · exact (Host.Works.advance sees_tenor (hworks _ rfl) () bridge' hadvance rfl).2

/-- A channel with its worker, bound or not. -/
def Bridge.staffed (bound : Option Bound) : Bridge (Nat × List Sighting) where
  native := (2, [])
  context := some {}
  channels := Table.empty.insert 0 { worker := 0, bound }
  workers := Table.empty.insert 0 { label := "queue", kind := .queue }

/-- The principal is asked for an object: its method runs on the worker, and the property that the
object shows is read on the thread that asks. -/
theorem numbering_accesses_placed : ∃ reply bridge',
    Bridge.answerWith Host.numbering.sighted (Bridge.answer Host.numbering.sighted 1).unseen 2
        (.dispatchSync 0 ⟨"1", some (.object [(opcodeKey, .string "spawn")])⟩) {}
        (.staffed (some (.start "1" "app" ⟨0, "Node"⟩))) = some (reply, bridge') ∧
      bridge'.sightings.map (·.thread) = ["queue", "main"] ∧
      Bridge.Shows
        (Sighting.Placed (Bridge.staffed (some (.start "1" "app" ⟨0, "Node"⟩))).nameOf .caller 0)
        (.staffed (some (.start "1" "app" ⟨0, "Node"⟩))) bridge' := by
  have hchannel : (Bridge.staffed (some (.start "1" "app" ⟨0, "Node"⟩))).channels.get? 0 =
      some { worker := 0, bound := some (.start "1" "app" ⟨0, "Node"⟩) } := rfl
  have hplaced := (Bridge.accesses_placed .numbering 1 hchannel rfl {}).1 2
    (.dispatchSync 0 ⟨"1", some (.object [(opcodeKey, .string "spawn")])⟩)
  exact ⟨_, _, rfl, rfl, hplaced _ _ rfl rfl⟩

/-- A principal is bound, and its property is read on the thread that binds it. -/
theorem not_always_on_worker :
    ¬ ∀ (host : Host Nat) (levels : Nat) (request : BridgeCall) (reply : request.Reply)
      (c : ChannelId) (channel : Channel) (bridge bridge' : Bridge (Nat × List Sighting)),
      Bridge.Reached (fun s i ↦ i < s.1) host.sighted bridge → request.channel? = some c →
        bridge.channels.get? c = some channel →
        Bridge.answer host.sighted levels request {} bridge = some (reply, bridge') →
        bridge.Shows (·.thread = bridge.nameOf (.worker channel.worker)) bridge' := by
  intro h
  have hstart : Bridge.Reached (fun (s : Nat × List Sighting) i ↦ i < s.1) Host.numbering.sighted
      { native := (2, []), context := some {} } := .start _ rfl rfl
  have hworker := hstart.operation (.addWorker {} .queue "queue" _ rfl)
  have hreached : Bridge.Reached (fun s i ↦ i < s.1) Host.numbering.sighted (.staffed none) :=
    hworker.operation (.addChannel {} { worker := 0 } rfl _ rfl)
  obtain ⟨added, hadded, hall⟩ := h .numbering 3 (.bind 0 ⟨0, "Node"⟩ "app") _ 0 _ _ _ hreached
    rfl rfl rfl
  have hreads : added =
      [⟨.read ⟨0, "Node"⟩ "newest", "main"⟩, ⟨.read ⟨1, "Node"⟩ "newest", "main"⟩] := hadded.symm
  exact absurd (hall _ (hreads ▸ List.mem_cons_self)) (by decide)

end ScriptBridge
