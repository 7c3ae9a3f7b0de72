import ScriptBridge.Proofs.Messages.Errands
import ScriptBridge.Proofs.Runs.Obedience
import ScriptBridge.Proofs.Workers.Service

/-!
# Waiting for a worker is one of the histories

Where the bridge waits for a worker (`Run.sync`), the caller itself does what the thread of the
worker would do: it runs the calls that wait there, one after the other, and then the work that is
waited for. That is one of the things that can happen between a client and a worker, and here it is
shown to be: the state of the bridge *shows* a worker that is not at work, and waiting for it leads
along a history of the worker to another state that the bridge shows (`Workshop.Shows.sync`).

## What is assumed

While the worker is at work nobody else takes from its queue. Native code could do so only by
calling the bridge, so it is asked of the calls that it makes (`Bridge.Adds`); code that makes no
calls at all does not touch the queue (`Task.run_adds`).
-/

namespace ScriptBridge

variable {σ α β : Type} {host : Host σ} {answer : Answerer σ} {w : WorkerId} {frame : Frame}
  {bridge bridge' : Bridge σ}

/-! ## Runs that take nothing from a queue -/

/-- Nothing has been taken from what waits for a worker. -/
def Bridge.Adds (w : WorkerId) (bridge bridge' : Bridge σ) : Prop :=
  bridge.waitingOf w <+: bridge'.waitingOf w

open Bridge (Adds)

theorem Bridge.Adds.of_workers (h : bridge'.workers = bridge.workers) : bridge.Adds w bridge' := by
  have hsame : bridge.waitingOf w = bridge'.waitingOf w := by simp only [waitingOf, h]
  exact ⟨[], (List.append_nil _).trans hsame⟩

namespace Run.Obeys

theorem adds_pure (a : α) : (pure a : Run σ α).Obeys (Adds w) frame bridge := by
  rintro _ _ ⟨⟩
  exact .of_workers rfl

theorem adds_bind {run : Run σ α} {next : α → Run σ β} (hrun : run.Obeys (Adds w) frame bridge)
    (hnext : ∀ a bridge', (next a).Obeys (Adds w) frame bridge') :
    (run >>= next).Obeys (Adds w) frame bridge := by
  intro b bridge'' hboth
  obtain ⟨a, bridge', hfirst, hsecond⟩ := Run.of_bind_run hboth
  exact (hrun a bridge' hfirst).trans (hnext a bridge' b bridge'' hsecond)

/-- What is changed first does not concern the workers. -/
theorem adds_after {run : Run σ α} {mid : Bridge σ} (hmid : mid.workers = bridge.workers)
    (hrun : run.Obeys (Adds w) frame mid) {next : Run σ α}
    (hnext : next frame bridge = run frame mid) : next.Obeys (Adds w) frame bridge := by
  intro a bridge' h
  rw [hnext] at h
  exact (Adds.of_workers hmid).trans (hrun a bridge' h)

end Run.Obeys

section Native

variable {allowed : BridgeCall → Prop}
  (hanswer : ∀ request, allowed request → ∀ bridge, (answer request).Obeys (Adds w) frame bridge)
include hanswer

theorem Native.run_adds {program : Native σ α}
    (h : program.Heeds allowed (fun _ ↦ True) bridge.native) :
    (program.run answer).Obeys (Adds w) frame bridge := by
  induction program generalizing bridge with
  | done a => exact .adds_pure a
  | read next ih => exact .get_bind (ih bridge.native h)
  | write s next ih => exact .adds_after (by rfl) (ih h.2) rfl
  | thread next ih => exact .adds_after rfl (ih _ (h _)) (Run.bind_run Run.threadName_run)
  | log line next ih =>
    exact .adds_after (by rfl) (@ih (bridge.logged [line]) h) rfl
  | defer work next ih =>
    exact .adds_after (by rfl)
      (@ih { bridge with background := bridge.background ++ [work] } h) rfl
  | call request next ih =>
    refine .adds_bind (hanswer request h.1 bridge) fun reply bridge' ↦ ?_
    exact ih reply (h.2 reply bridge'.native id)

variable (hhost : host.Calls allowed)
include hhost

/-- A call takes nothing from a queue if the calls of the bridge that its native code makes do
not. -/
theorem Task.finish_adds (task : Task) :
    (task.finish host answer).Obeys (Adds w) frame bridge := by
  cases task with
  | set binding property value =>
    change (binding.set host answer property value).Obeys (Adds w) frame bridge
    unfold Binding.set
    split
    · exact Native.run_adds hanswer (hhost.set _ _ _ _)
    · exact .adds_pure _
    · exact .adds_pure _
  | invoke binding method args =>
    refine .adds_bind ?_ fun _ _ ↦ .adds_pure _
    unfold Binding.invoke
    split
    · split
      · exact .adds_pure _
      · exact Native.run_adds hanswer (hhost.invoke _ _ _ _)
    · exact .adds_pure _
  | receive object message =>
    refine .adds_bind (.get_bind ?_) fun _ _ ↦ .adds_pure _
    split
    · exact Native.run_adds hanswer (hhost.receive _ _ _)
    · exact .adds_pure _

theorem Task.run_adds (task : Task) : (task.run host answer).Obeys (Adds w) frame bridge := by
  intro _ bridge' h
  rw [run_eq_finish] at h
  obtain ⟨⟨finish, after⟩, hfinish, hlogged⟩ := Option.map_eq_some_iff.mp h
  cases hlogged
  exact finish_adds hanswer hhost task finish after hfinish

end Native

/-! ## Rounds -/

namespace Workshop

variable {ρ : Type} {s s' : Workshop ρ}

/-- The thread is there and has nothing to do at the moment, and there is a handle outside. -/
structure Ready (s : Workshop ρ) : Prop where
  orderly : s.Orderly
  idle : s.running = none
  thread : s.stopped = false
  handle : .outside ∈ s.handles

/-- The thread runs a task. -/
structure AtWork (ticket : Nat) (s : Workshop ρ) : Prop where
  orderly : s.Orderly
  running : s.running = some ticket
  thread : s.stopped = false
  handle : .outside ∈ s.handles

/-- Nothing has become of any task meanwhile. -/
def Same (s s' : Workshop ρ) : Prop := s'.waits = s.waits ∧ s'.finished = s.finished

theorem Ready.begin (h : s.Ready) {ticket : Nat} {behind : List Nat}
    (hwaiting : s.waiting = ticket :: behind) :
    ∃ s', Step s (.began ticket) s' ∧ s'.AtWork ticket ∧ s.Same s' ∧ s'.waiting = behind := by
  obtain ⟨rest, hnext, hbehind⟩ := h.orderly.next_job hwaiting
  have hstep := Step.begin h.thread h.idle hnext
  exact ⟨_, hstep, ⟨h.orderly.step hstep, rfl, h.thread, h.handle⟩, ⟨rfl, rfl⟩, hbehind⟩

/-- A task that is running submits others. -/
theorem AtWork.submits {ticket : Nat} (h : s.AtWork ticket) (count : Nat) :
    ∃ events s', History s events s' ∧ s'.AtWork ticket ∧ s.Same s' ∧
      ∃ more, s'.waiting = s.waiting ++ more ∧ more.length = count := by
  induction count with
  | zero => exact ⟨[], s, .refl s, h, ⟨rfl, rfl⟩, [], (List.append_nil _).symm, rfl⟩
  | succ count ih =>
    obtain ⟨events, mid, hhistory, hmid, hsame, more, hmore, hcount⟩ := ih
    have hactive : mid.Active .worker := by simp [Active, hmid.running]
    have hstep := Step.submit 0 hactive (List.ne_nil_of_mem hmid.handle) hmid.thread
    refine ⟨_, _, hhistory.next hstep, ⟨hmid.orderly.step hstep, hmid.running, hmid.thread,
      List.mem_append_left _ hmid.handle⟩, hsame, more ++ [mid.accepted], ?_, ?_⟩
    · rw [waiting_accept, hmore, List.append_assoc]
    · rw [List.length_append, hcount]
      rfl

theorem AtWork.finish {ticket : Nat} (h : s.AtWork ticket) (finish : Finish ρ) :
    ∃ s', Step s (.ended ticket finish) s' ∧ s'.Ready ∧ s'.waits = s.waits ∧
      s'.finished = s.finished ++ [(ticket, finish)] ∧ s'.waiting = s.waiting := by
  have hstep := Step.finish finish h.running
  have hhandle : .outside ∈ s.handles.filter (· ≠ .task ticket) :=
    List.mem_filter.mpr ⟨h.handle, by simp⟩
  exact ⟨_, hstep, ⟨h.orderly.step hstep, rfl, h.thread, hhandle⟩, rfl, rfl, rfl⟩

/-- **One round of the thread**: the task in front begins, submits some others, and ends. -/
theorem Ready.round (h : s.Ready) {ticket : Nat} {behind : List Nat}
    (hwaiting : s.waiting = ticket :: behind) (count : Nat) (finish : Finish ρ) :
    ∃ events s', History s events s' ∧ s'.Ready ∧ s'.waits = s.waits ∧
      s'.finished = s.finished ++ [(ticket, finish)] ∧
      ∃ more, s'.waiting = behind ++ more ∧ more.length = count := by
  obtain ⟨begun, hbegin, hatWork, ⟨hwaits, hfinished⟩, hbehind⟩ := h.begin hwaiting
  obtain ⟨events, mid, hsubmits, hmid, ⟨hwaits', hfinished'⟩, more, hmore, hcount⟩ :=
    hatWork.submits count
  obtain ⟨ended, hend, hready, hwaits'', hfinished'', hwaiting'⟩ := hmid.finish finish
  refine ⟨_, ended, (((History.refl s).next hbegin).trans hsubmits).next hend, hready,
    by rw [hwaits'', hwaits', hwaits], by rw [hfinished'', hfinished', hfinished], more, ?_, hcount⟩
  rw [hwaiting', hmore, hbehind]

/-- **The rounds of the calls that wait.** What they hand in meanwhile comes behind all the rest. Of
how they end nothing is recorded, so that is left open. -/
theorem Ready.rounds {tasks : List Task} (htasks : ∀ task ∈ tasks, ∀ bridge,
      (task.run host answer).Obeys (Bridge.Adds w) frame bridge)
    (hrun : Task.runAll host answer tasks frame bridge = some ((), bridge'))
    (ends : Nat → Finish ρ) (h : s.Ready) {mine behind : List Nat}
    (hwaiting : s.waiting = mine ++ behind) (hmine : mine.length = tasks.length) :
    ∃ events s', History s events s' ∧ s'.Ready ∧ s'.waits = s.waits ∧
      s'.finished = s.finished ++ mine.map (fun ticket ↦ (ticket, ends ticket)) ∧
      ∃ more, s'.waiting = behind ++ more ∧
        (bridge'.waitingOf w).length = (bridge.waitingOf w).length + more.length := by
  induction tasks generalizing s bridge mine behind with
  | nil =>
    cases hrun
    obtain rfl := List.length_eq_zero_iff.mp hmine
    exact ⟨[], s, .refl s, h, rfl, (List.append_nil _).symm, [], by simpa using hwaiting, rfl⟩
  | cons task tasks ih =>
    obtain ⟨_, mid, hfirst, hrest⟩ := Run.of_bind_run hrun
    obtain ⟨added, hadded⟩ := htasks task List.mem_cons_self bridge () mid hfirst
    obtain ⟨ticket, mine, rfl⟩ := List.exists_cons_of_length_eq_add_one hmine
    rw [List.cons_append] at hwaiting
    obtain ⟨events, s₁, hround, hready, hwaits, hfinished, new, hnew, hcount⟩ :=
      h.round hwaiting added.length (ends ticket)
    rw [List.append_assoc] at hnew
    obtain ⟨events', s', hrounds, hready', hwaits', hfinished', more, hmore, hlength⟩ :=
      ih (fun task htask ↦ htasks task (List.mem_cons_of_mem _ htask)) hrest hready hnew
        (Nat.succ.inj hmine)
    refine ⟨_, s', hround.trans hrounds, hready', hwaits'.trans hwaits, ?_, new ++ more, ?_, ?_⟩
    · rw [hfinished', hfinished, List.append_assoc]
      rfl
    · rw [hmore, List.append_assoc]
    · rw [hlength, ← hadded, List.length_append, List.length_append, hcount, Nat.add_assoc]

/-! ## What the bridge shows -/

/-- The bridge shows a worker that has nothing to do at the moment: as many tasks wait there as
calls wait here. -/
structure Shows (w : WorkerId) (bridge : Bridge σ) (s : Workshop ρ) : Prop extends Ready s where
  waiting : s.waiting.length = (bridge.waitingOf w).length

/-- Handing in a call is submitting a task. -/
theorem Shows.submit (h : s.Shows w bridge) (hworker : (bridge.workers.get? w).isSome)
    {party : Party} (hactive : s.Active party) (task : Task) :
    ∃ s', Step s (.submitted party s.accepted) s' ∧ s'.Shows w (bridge.submitted w task) := by
  have hstep := Step.submit 0 hactive (List.ne_nil_of_mem h.handle) h.thread
  refine ⟨_, hstep, ⟨h.orderly.step hstep, h.idle, h.thread, List.mem_append_left _ h.handle⟩, ?_⟩
  rw [waiting_accept, Bridge.waitingOf_submitted hworker, List.length_append, List.length_append,
    h.waiting]
  rfl

/-- **Waiting for a worker is a call that a client enters.** All that waited runs first, then the
task of the call, and the client returns with what comes of it. -/
theorem Shows.sync (h : s.Shows w bridge) (hworker : (bridge.workers.get? w).isSome)
    (hframe : frame.Outside w) {c : Nat} (hactive : s.Active (.client c))
    {allowed : BridgeCall → Prop} (hhost : host.Calls allowed)
    (hanswer : ∀ request, allowed request → ∀ bridge,
      (answer request).Obeys (Bridge.Adds w) (frame.enter w) bridge)
    {work : Run σ (Finish ρ)}
    (hwork : ∀ bridge, work.Obeys (Bridge.Adds w) (frame.enter w) bridge) (ends : Nat → Finish ρ)
    {result : Except BridgeError (Finish ρ)}
    (hrun : Run.sync host answer w work frame bridge = some (result, bridge')) :
    ∃ finish events s', result = .ok finish ∧
      History s ([.entered c s.accepted] ++ events ++ [.returned c s.accepted finish.outcome]) s' ∧
      s'.Shows w bridge' ∧ s'.waits = s.waits ∧
      s'.finished = s.finished ++ s.waiting.map (fun ticket ↦ (ticket, ends ticket)) ++
        [(s.accepted, finish)] := by
  rw [Run.sync_run hframe] at hrun
  obtain ⟨_, mid, hwaited, hrest⟩ := Run.of_bind_run hrun
  obtain ⟨finish, after, hworked, hdone⟩ := Run.of_bind_run hrest
  cases hdone
  -- the call is entered behind all that waits:
  have henter := Step.enter 0 hactive (List.ne_nil_of_mem h.handle) h.thread
  obtain ⟨events, s₁, hrounds, hready, hwaits, hfinished, more, hmore, hlength⟩ :=
    Ready.rounds (fun task _ _ ↦ task.run_adds hanswer hhost) hwaited ends
      ⟨h.orderly.step henter, h.idle, h.thread, List.mem_append_left _ h.handle⟩
      (s.waiting_accept 0) h.waiting
  obtain ⟨added, hadded⟩ := hwork mid finish bridge' hworked
  obtain ⟨events', s₂, hround, hready', hwaits', hfinished', new, hnew, hcount⟩ :=
    hready.round hmore added.length finish
  have hwait : (c, s.accepted) ∈ s₂.waits := by
    rw [hwaits', hwaits]
    exact List.mem_append_right _ List.mem_cons_self
  have hdone : (s.accepted, finish) ∈ s₂.finished := by
    rw [hfinished']
    exact List.mem_append_right _ List.mem_cons_self
  have hreply := Step.reply hwait hdone
  have hhistory := ((((History.refl s).next henter).trans hrounds).trans hround).next hreply
  have hothers : s₂.waits.erase (c, s.accepted) = s.waits := by
    have hnot : (c, s.accepted) ∉ s.waits := fun hmem ↦
      hactive (List.mem_map_of_mem (f := Prod.fst) hmem)
    rw [hwaits', hwaits]
    change (s.waits ++ [(c, s.accepted)]).erase (c, s.accepted) = s.waits
    rw [List.erase_append_right _ hnot, List.erase_cons_head, List.append_nil]
  refine ⟨finish, events ++ events', _, rfl, ?_, ⟨⟨hready'.orderly.step hreply, hready'.idle,
    hready'.thread, hready'.handle⟩, ?_⟩, hothers, ?_⟩
  · rw [← List.append_assoc]
    exact hhistory
  · change s₂.waiting.length = _
    have hleft : s₂.waiting = more ++ new := hnew
    rw [hleft, ← hadded, List.length_append, List.length_append, hlength, hcount,
      Bridge.waitingOf_withWaiting hworker, List.length_nil, Nat.zero_add]
  · change s₂.finished = _
    rw [hfinished', hfinished]
    rfl

end Workshop

end ScriptBridge
