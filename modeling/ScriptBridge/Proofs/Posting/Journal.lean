import ScriptBridge.Proofs.Posting.Taking
import ScriptBridge.Proofs.Runs.Obedience

/-!
# The journal of executions

Native code is made to keep a journal: each method call, property write, initializer and raw handler
that runs is written down with its receiver and its arguments, at the moment in which it runs. With
this host the comparison of the queue with the reference says what happened and in which order.

## The statement

Messages are posted to a channel from one thread that is not the worker's own, each by either path,
while the worker of the channel runs what waits for it at any pace. When the worker has been waited
for at the end, everything but the log is as the reference has left it: the journal, the replies,
the native state and the tables of the channel. In the reference what a message asks of native code
runs when the message is taken, so all of it has run exactly once and in the order of posting.

## What is asked of native code

Members may do anything but call the channel: whatever they ask of the bridge has to be aloof. Nor
may a member that runs late make the principal begin to take messages that are no requests. The
bridge asks the principal when such a message arrives, and again when the worker gets to it: a
principal that has stopped meanwhile gets no message that it does not get in the reference, but one
that has begun misses some that it gets there (`not_always_takeAll_seen`).
-/

namespace ScriptBridge

variable {σ α : Type}

/-! ## Writing down what runs -/

/-- Something that native code was made to do. -/
inductive Execution where
  | write (object : ObjectRef) (property : String) (value : Value)
  | call (object : ObjectRef) (method : String) (args : List Value)
  | make (typeName : String) (args : List Value)
  | receive (object : ObjectRef) (message : Message)

/-- The identity of the object that was reached; what is made did not exist before. -/
def Execution.receiver? : Execution → Option Nat
  | .write object _ _ | .call object _ _ | .receive object _ => some object.identity
  | .make _ _ => none

/-- The program, at work beside a journal that it does not touch. -/
def Native.beside : Native σ α → Native (σ × List Execution) α
  | .done a => .done a
  | .read next => .read fun s ↦ (next s.1).beside
  | .write s' next => .read fun s ↦ .write (s', s.2) next.beside
  | .thread next => .thread fun name ↦ (next name).beside
  | .log line next => .log line next.beside
  | .defer work next => .defer ⟨work.function, fun s ↦ work.outcome s.1⟩ next.beside
  | .call request next => .call request fun reply ↦ (next reply).beside

/-- The program, written down when it starts. -/
def Native.noted (execution : Execution) (program : Native σ α) :
    Native (σ × List Execution) α :=
  .read fun s ↦ .write (s.1, s.2 ++ [execution]) program.beside

/-- The host with a journal of what it was made to do. Reading a property leaves no trace in it. -/
def Host.journaled (host : Host σ) : Host (σ × List Execution) where
  surface := host.surface
  hooks s := host.hooks s.1
  get object name := (host.get object name).beside
  set object name value := (host.set object name value).noted (.write object name value)
  invoke object name args := (host.invoke object name args).noted (.call object name args)
  construct typeName args := (host.construct typeName args).noted (.make typeName args)
  receive object message := (host.receive object message).noted (.receive object message)
  draw := host.draw

variable {allowed : BridgeCall → Prop}

theorem Native.beside_heeds {flag : σ → Prop} (program : Native σ α) {s : σ}
    (h : program.Heeds allowed flag s) (journal : List Execution) :
    program.beside.Heeds allowed (fun s ↦ flag s.1) (s, journal) := by
  induction program generalizing s journal with
  | done a => trivial
  | read next ih => exact ih s h journal
  | write s' next ih => exact ⟨h.1, ih h.2 journal⟩
  | thread next ih => exact fun name ↦ ih name (h name) journal
  | log line next ih => exact ih h journal
  | defer work next ih => exact ih h journal
  | call request next ih =>
    exact ⟨h.1, fun reply s' hs' ↦ ih reply (h.2 reply s'.1 hs') s'.2⟩

theorem Native.noted_heeds {flag : σ → Prop} (execution : Execution)
    {program : Native σ α} (h : ∀ s, program.Heeds allowed flag s) (s : σ × List Execution) :
    (program.noted execution).Heeds allowed (fun s ↦ flag s.1) s :=
  ⟨id, program.beside_heeds (h s.1) _⟩

/-- Keeping a journal is no call of the bridge. -/
theorem Host.Heeds.journaled {host : Host σ} {principal : ObjectRef}
    (h : host.Heeds allowed principal) : host.journaled.Heeds allowed principal where
  get object name s := (host.get object name).beside_heeds (h.get object name s.1) s.2
  construct typeName args := Native.noted_heeds _ (h.construct typeName args)
  set object name value := Native.noted_heeds _ (h.set object name value)
  invoke object name args := Native.noted_heeds _ (h.invoke object name args)
  receive object message := Native.noted_heeds _ (h.receive object message)

/-! ## What is seen in the end -/

/-- How a run ends: the result, and all of the bridge but its log. -/
def Run.seen (run : Run σ α) (frame : Frame) (bridge : Bridge σ) : Option (α × Bridge σ) :=
  (run frame bridge).map fun (a, after) ↦ (a, after.unlogged)

theorem Run.Together.seen_eq {run run' : Run σ α} {frame : Frame} {bridge bridge' : Bridge σ}
    (h : run.Together run' frame bridge bridge' fun _ after after' ↦
      after.unlogged = after'.unlogged) : run.seen frame bridge = run'.seen frame bridge' := by
  unfold Together Paired at h
  unfold seen
  revert h
  generalize run frame bridge = r
  generalize run' frame bridge' = r'
  intro h
  cases h with
  | none => rfl
  | @some r r' hboth =>
    simp only [Option.map_some, hboth.1, hboth.2]

/-- Of a run that is continued, the end is seen. -/
theorem Run.seen_bind {β : Type} {run : Run σ α} {next : α → Run σ β} {frame : Frame} {a : α}
    {bridge bridge' : Bridge σ} (h : run frame bridge = some (a, bridge')) :
    (run >>= next).seen frame bridge = (next a).seen frame bridge' := by
  rw [seen, Run.bind_run h, seen]

section Flush

open Bridge (Lags Even)

variable {host : Host σ} {answer : Answerer σ} {c : ChannelId} {w : WorkerId}
  {principal : ObjectRef} {frame : Frame} {bridge bridge' : Bridge σ}
  (hallowed : ∀ request, allowed request → (answer request).Aloof (host.TakesRaw principal) c w)
  (hhost : host.Heeds allowed principal)
include hallowed hhost

/-- Waiting for the worker is catching up. -/
theorem Bridge.Lags.flush (h : Lags host answer c w principal bridge bridge')
    (hframe : frame.Outside w) :
    ∃ after, Run.flush host answer w frame bridge = some ((), after) ∧
      Even host answer c w principal after bridge' := by
  have hsync := h.sync hallowed hhost hframe
    (.pure () : (pure () : Run σ Unit).Aloof (host.TakesRaw principal) c w)
  have hnow : (do return .ok (← Run.entering w (pure ())) : Run σ (Except BridgeError Unit)) frame
      bridge' = some (.ok (), bridge') := rfl
  obtain ⟨_, after, hrun, -, heven⟩ := hsync.left_run hnow
  have hflush : Run.flush host answer w frame bridge =
      (Run.sync host answer w (pure () : Run σ Unit) >>= fun _ ↦ pure ()) frame bridge := by
    have hread : (read : Run σ Frame) frame bridge = some (frame, bridge) := rfl
    rw [Run.flush, Run.bind_run hread, if_neg hframe.thread]
    rfl
  exact ⟨after, hflush.trans (Run.bind_run hrun), heven⟩

/-- A bridge that serves the channel trails the one in which its worker has been waited for. -/
theorem Bridge.Serves.flush (h : bridge.Serves c w principal) (hframe : frame.Outside w) :
    ∃ bridge', Run.flush host answer w frame bridge = some ((), bridge') ∧
      Lags host answer c w principal bridge bridge' := by
  obtain ⟨_, final, _, hrun, -⟩ :=
    Task.runAll_aloof hallowed hhost (bridge.waitingOf w) (Frame.enter {} w) (Frame.enter {} w)
      (bridge.withWaiting w []) (bridge.withWaiting w []) rfl rfl
  -- by definition it trails what the queue leads to, and the flush leads there, too:
  have hlags : Lags host answer c w principal bridge final := ⟨h, final, hrun, rfl⟩
  obtain ⟨bridge', hflush, heven⟩ := hlags.flush hallowed hhost hframe
  exact ⟨bridge', hflush, h, final, hrun, heven.unlogged_eq.symm⟩

end Flush

namespace Post

section

variable (host : Host σ) (answer : Answerer σ) (patience : Nat) (c : ChannelId) (w : WorkerId)
  (posts : List Post)

/-- Messages are posted, with the worker at its own pace, and then the worker is waited for. -/
def settle : Run σ (List (Option String)) := do
  let replies ← takeAll host answer patience c w posts
  Run.flush host answer w
  return replies

/-- The reference: what waits has run, and from then on there is no queue. -/
def reference : Run σ (List (Option String)) := do
  Run.flush host answer w
  takeAllAtOnce host answer patience c posts

variable {host answer patience c w posts} {frame : Frame} {bridge : Bridge σ}
  (hthread : frame.thread ≠ .worker w) (hbusy : w ∈ frame.busy)
include hthread hbusy

/-! Where the worker waits for the thread that posts, neither comes to an end. -/

theorem settle_run_of_busy : settle host answer patience c w posts frame bridge = none := by
  cases h : settle host answer patience c w posts frame bridge with
  | none => rfl
  | some ended =>
    obtain ⟨_, mid, -, hrest⟩ := Run.of_bind_run h
    obtain ⟨_, _, hflush, -⟩ := Run.of_bind_run hrest
    rw [Run.flush_run_of_busy hthread hbusy] at hflush
    cases hflush

theorem reference_run_of_busy : reference host answer patience c w posts frame bridge = none := by
  cases h : reference host answer patience c w posts frame bridge with
  | none => rfl
  | some ended =>
    obtain ⟨_, _, hflush, -⟩ := Run.of_bind_run h
    rw [Run.flush_run_of_busy hthread hbusy] at hflush
    cases hflush

end

/-- **Messages that wait in a queue are executed as if there were none.** However the worker is
scheduled, posting messages from another thread and then waiting for the worker leads where the
reference leads, in everything but the log. -/
theorem takeAll_seen {host : Host σ} {answer : Answerer (σ × List Execution)}
    {c : ChannelId} {w : WorkerId} {principal : ObjectRef}
    (hallowed : ∀ request, allowed request →
      (answer request).Aloof (host.journaled.TakesRaw principal) c w)
    (hhost : host.Heeds allowed principal) {frame : Frame} (hthread : frame.thread ≠ .worker w)
    {bridge : Bridge (σ × List Execution)} (hserves : bridge.Serves c w principal)
    (posts : List Post) (patience : Nat) :
    (settle host.journaled answer patience c w posts).seen frame bridge =
      (reference host.journaled answer patience c w posts).seen frame bridge := by
  by_cases hbusy : w ∈ frame.busy
  · rw [Run.seen, Run.seen, settle_run_of_busy hthread hbusy, reference_run_of_busy hthread hbusy]
  have hframe : frame.Outside w := ⟨hthread, hbusy⟩
  obtain ⟨bridge', hflush, hlags⟩ := hserves.flush hallowed hhost.journaled hframe
  -- the reference starts where the queue of the start has been run:
  have htaken := takeAll_together hallowed hhost.journaled posts hlags hframe patience
  have hdone : (settle host.journaled answer patience c w posts).Together
      (takeAllAtOnce host.journaled answer patience c posts >>= pure) frame bridge bridge'
        fun _ after after' ↦ after.unlogged = after'.unlogged := by
    refine htaken.bind fun replies mid mid' hmid ↦ ?_
    obtain ⟨after, hcaught, heven⟩ := hmid.flush hallowed hhost.journaled hframe
    exact .of_left hcaught (.pure heven.unlogged_eq)
  rw [hdone.seen_eq, bind_pure, reference, Run.seen_bind hflush]

end Post

/-- The members that number objects are quiet, and the objects take only requests. -/
theorem Host.numbering_heeds (allowed : BridgeCall → Prop) (principal : ObjectRef) :
    Host.numbering.Heeds allowed principal where
  get _ _ := Native.Quiet.heeds (.read fun _ ↦ .done _) fun _ _ ↦ id
  construct _ _ := Native.Quiet.heeds (.read fun _ ↦ .write (.done _)) fun _ _ ↦ id
  set _ _ _ := Native.Quiet.heeds (.done _) fun _ _ ↦ id
  invoke _ _ _ := Native.Quiet.heeds (.read fun _ ↦ .write (.done _)) fun _ _ ↦ id
  receive _ _ := Native.Quiet.heeds (.done _) fun _ _ ↦ id

/-- A channel that has numbered its principal. -/
def Bridge.numbered : Bridge (Nat × List Execution) where
  native := (2, [])
  context := some {}
  channels := Table.empty.insert 0
    { worker := 0, bound := some (Bound.start "1" "app" ⟨0, "Node"⟩) }
  workers := Table.empty.insert 0 { label := "queue", kind := .queue }

theorem Bridge.numbered_serves : Bridge.numbered.Serves 0 0 ⟨0, "Node"⟩ := by
  refine ⟨rfl, ?_, ?_⟩
  · rintro _ ⟨⟩
    rfl
  · rintro _ ⟨⟩
    refine ⟨?_, by decide⟩
    rintro _ ⟨⟩
    rfl

/-- An instance is made, called and given up while calls wait: the last call of it runs when the
instance has long been given up, and still in its turn. -/
theorem numbering_takeAll_seen :
    ∃ posts : List Post,
      (Post.settle Host.numbering.journaled (Bridge.answer Host.numbering.journaled 2) 2 0 0
          posts).seen {} .numbered =
        (Post.reference Host.numbering.journaled (Bridge.answer Host.numbering.journaled 2) 2 0 0
          posts).seen {} .numbered ∧
      ((Post.settle Host.numbering.journaled (Bridge.answer Host.numbering.journaled 2) 2 0 0
          posts).seen {} .numbered).map
          (fun r ↦ (r.1.map (·.isSome), r.2.native.2.map Execution.receiver?,
            (r.2.boundOf 0).map (·.instances.keys))) =
        some ([false, false, false, true, false], [none, some 2, some 0, some 0],
          some [-1, 0]) := by
  refine ⟨[⟨⟨"1", some (.object [(opcodeKey, .string "+"), (targetKey, .int 1)])⟩, false, 0, 0⟩,
    ⟨⟨"1", some (.object [(opcodeKey, .string "spawn"), (targetKey, .int 1)])⟩, false, 0, 0⟩,
    ⟨⟨"1", some (.object [(opcodeKey, .string "-"), (targetKey, .int 1)])⟩, false, 0, 0⟩,
    ⟨⟨"1", some (.object [(opcodeKey, .string "spawn")])⟩, true, 0, 1⟩,
    ⟨⟨"1", some (.object [(opcodeKey, .string "spawn")])⟩, false, 1, 0⟩], ?_, by decide +kernel⟩
  have hallowed : ∀ request, (∃ injection, request = .steer injection) →
      (Bridge.answer Host.numbering.journaled 2 request).Aloof
        (Host.numbering.journaled.TakesRaw ⟨0, "Node"⟩) 0 0 := by
    rintro _ ⟨injection, rfl⟩
    exact Bridge.steer_aloof _ 1 injection
  exact Post.takeAll_seen hallowed (Host.numbering_heeds _ _) (by decide)
    Bridge.numbered_serves _ 2

/-- A host of objects that begin to take messages which are no requests when they are called. -/
def Host.waking : Host Bool where
  surface typeName := ⟨typeName, .ofList [("wake", .method (some 0) false)]⟩
  hooks awake object := { description := object.typeName, takesRaw := awake }
  get _ _ := .done .undefined
  set _ _ _ := .done (.returned (.ok ()))
  invoke _ _ _ := .write true (.done (.returned (.ok .undefined)))
  construct _ _ := .done (.panicked none)
  receive _ _ := .done (.returned ())

/-- A channel whose principal can be woken. -/
def Bridge.asleep : Bridge (Bool × List Execution) where
  native := (false, [])
  context := some {}
  channels := Table.empty.insert 0
    { worker := 0, bound := some (Bound.start "1" "app" ⟨0, "Ear"⟩) }
  workers := Table.empty.insert 0 { label := "queue", kind := .queue }

/-- Neither condition can be left out. A principal that is woken by one message takes the next only
in the reference, where it has been woken by then. And from the thread of the worker itself nothing
can be waited for. -/
theorem not_always_takeAll_seen :
    (¬ ∀ (host : Host Bool) (levels patience : Nat) (c : ChannelId) (w : WorkerId)
      (principal : ObjectRef) (frame : Frame) (bridge : Bridge (Bool × List Execution))
      (posts : List Post), host.Calls (fun _ ↦ False) → frame.thread ≠ .worker w →
        bridge.Serves c w principal →
        (Post.settle host.journaled (Bridge.answer host.journaled levels) patience c w posts).seen
            frame bridge =
          (Post.reference host.journaled (Bridge.answer host.journaled levels) patience c w
            posts).seen frame bridge) ∧
    ¬ ∀ (host : Host Nat) (levels patience : Nat) (c : ChannelId) (w : WorkerId)
      (principal : ObjectRef) (frame : Frame) (bridge : Bridge (Nat × List Execution))
      (posts : List Post), host.Heeds (fun _ ↦ False) principal → bridge.Serves c w principal →
        (Post.settle host.journaled (Bridge.answer host.journaled levels) patience c w posts).seen
            frame bridge =
          (Post.reference host.journaled (Bridge.answer host.journaled levels) patience c w
            posts).seen frame bridge := by
  refine ⟨fun h ↦ ?_, fun h ↦ ?_⟩
  · have hcalls : Host.waking.Calls fun _ ↦ False := by
      refine ⟨?_, ?_, ?_, ?_, ?_⟩ <;> intros <;> simp [Host.waking, Native.Heeds]
    have hserves : Bridge.asleep.Serves 0 0 ⟨0, "Ear"⟩ := by
      refine ⟨rfl, ?_, ?_⟩
      · rintro _ ⟨⟩
        rfl
      · rintro _ ⟨⟩
        refine ⟨?_, by decide⟩
        rintro _ ⟨⟩
        rfl
    have hseen := h .waking 1 1 0 0 _ {} .asleep
      [⟨⟨"1", some (.object [(opcodeKey, .string "wake")])⟩, false, 0, 0⟩,
        ⟨⟨"1", some (.object [])⟩, false, 0, 0⟩] hcalls (by decide) hserves
    -- what the two have written down:
    have hjournals := congrArg (Option.map fun r ↦ r.2.native.2.map Execution.receiver?) hseen
    exact absurd hjournals (by decide +kernel)
  · have hseen := h .numbering 1 1 0 0 _ { thread := .worker 0 } .numbered
      [⟨⟨"1", some (.object [(opcodeKey, .string "spawn")])⟩, true, 0, 0⟩]
      (Host.numbering_heeds _ _) Bridge.numbered_serves
    have hjournals := congrArg (Option.map fun r ↦ r.2.native.2.map Execution.receiver?) hseen
    exact absurd hjournals (by decide +kernel)

end ScriptBridge
