import ScriptBridge.Proofs.Posting.Apart
import ScriptBridge.Proofs.Posting.Handing

/-!
# One bridge behind another

A bridge whose worker has calls waiting is compared with one in which the same calls have already
run. The first *trails* the second if letting everything that waits run makes them the same, up to
the log. This file shows what keeps one bridge behind another: the worker runs a call, a call is
handed in here and runs there, work is waited for on both sides, the tables of the channel change on
both sides.

Everything rests on one fact, that calls which wait are aloof: they do the same later as they would
have done at once, since what has changed meanwhile does not concern them.
-/

namespace ScriptBridge

variable {σ α β : Type}

/-! ## Two runs side by side -/

/-- **Two runs, each from its own state**: either none of them ends, or both end with results and in
states that are as `post` says. -/
def Run.Paired (run run' : Run σ α) (frame : Frame) (bridge bridge' : Bridge σ)
    (post : α → α → Bridge σ → Bridge σ → Prop) : Prop :=
  Option.Rel (fun r r' ↦ post r.1 r'.1 r.2 r'.2) (run frame bridge) (run' frame bridge')

/-- The two runs have the same result. -/
def Run.Together (run run' : Run σ α) (frame : Frame) (bridge bridge' : Bridge σ)
    (post : α → Bridge σ → Bridge σ → Prop) : Prop :=
  run.Paired run' frame bridge bridge' fun a a' after after' ↦ a = a' ∧ post a after after'

namespace Run.Paired

variable {frame : Frame} {bridge bridge' : Bridge σ}

theorem pure {a a' : α} {post : α → α → Bridge σ → Bridge σ → Prop} (h : post a a' bridge bridge') :
    (Pure.pure a : Run σ α).Paired (Pure.pure a') frame bridge bridge' post :=
  .some h

theorem bind {run run' : Run σ α} {next next' : α → Run σ β}
    {mid : α → α → Bridge σ → Bridge σ → Prop} {post : β → β → Bridge σ → Bridge σ → Prop}
    (hrun : run.Paired run' frame bridge bridge' mid)
    (hnext : ∀ a a' after after', mid a a' after after' →
      (next a).Paired (next' a') frame after after' post) :
    (run >>= next).Paired (run' >>= next') frame bridge bridge' post := by
  change Option.Rel _ ((run frame bridge).bind fun r ↦ next r.1 frame r.2)
    ((run' frame bridge').bind fun r ↦ next' r.1 frame r.2)
  unfold Paired at hrun
  revert hrun
  generalize run frame bridge = r
  generalize run' frame bridge' = r'
  intro hrun
  cases hrun with
  | none => exact .none
  | some hmid => exact hnext _ _ _ _ hmid

theorem mono {run run' : Run σ α} {mid post : α → α → Bridge σ → Bridge σ → Prop}
    (h : run.Paired run' frame bridge bridge' mid)
    (hpost : ∀ a a' after after', mid a a' after after' → post a a' after after') :
    run.Paired run' frame bridge bridge' post := by
  have hbind : (run >>= Pure.pure).Paired (run' >>= Pure.pure) frame bridge bridge' post :=
    h.bind fun a a' after after' hmid ↦ .pure (hpost a a' after after' hmid)
  rwa [bind_pure, bind_pure] at hbind

/-- The first run ends if the second does. -/
theorem left_run {run run' : Run σ α} {post : α → α → Bridge σ → Bridge σ → Prop}
    (h : run.Paired run' frame bridge bridge' post) {a' : α} {after' : Bridge σ}
    (hrun' : run' frame bridge' = some (a', after')) :
    ∃ a after, run frame bridge = some (a, after) ∧ post a a' after after' := by
  unfold Paired at h
  rw [hrun'] at h
  generalize run frame bridge = r at h ⊢
  cases h with
  | @some r _ hpost => exact ⟨r.1, r.2, rfl, hpost⟩

/-- Both runs look at their state. -/
theorem get_bind {next next' : Bridge σ → Run σ α}
    {post : α → α → Bridge σ → Bridge σ → Prop}
    (h : (next bridge).Paired (next' bridge') frame bridge bridge' post) :
    ((get : Run σ (Bridge σ)) >>= next).Paired (get >>= next') frame bridge bridge' post := h

/-- Both runs look at the binding of a channel, and find the same. -/
theorem bound?_bind {id : ChannelId} {next next' : Option Bound → Run σ α}
    {post : α → α → Bridge σ → Bridge σ → Prop} (hbound : bridge'.boundOf id = bridge.boundOf id)
    (h : (next (bridge.boundOf id)).Paired (next' (bridge.boundOf id)) frame bridge bridge'
      post) :
    (Run.bound? id >>= next).Paired (Run.bound? id >>= next') frame bridge bridge' post := by
  change Option.Rel _ (next (bridge.boundOf id) frame bridge)
    (next' (bridge'.boundOf id) frame bridge')
  rw [hbound]
  exact h

end Run.Paired

namespace Run.Together

variable {frame : Frame} {bridge bridge' : Bridge σ}

theorem of_runs {run run' : Run σ α} {a : α} {after after' : Bridge σ}
    {post : α → Bridge σ → Bridge σ → Prop} (hrun : run frame bridge = some (a, after))
    (hrun' : run' frame bridge' = some (a, after')) (hpost : post a after after') :
    run.Together run' frame bridge bridge' post := by
  unfold Together Paired
  rw [hrun, hrun']
  exact .some ⟨rfl, hpost⟩

/-- The first run has come further. -/
theorem of_left {run : Run σ α} {next run' : Run σ β} {a : α} {mid : Bridge σ}
    {post : β → Bridge σ → Bridge σ → Prop} (hrun : run frame bridge = some (a, mid))
    (h : next.Together run' frame mid bridge' post) :
    (run >>= fun _ ↦ next).Together run' frame bridge bridge' post := by
  unfold Together Paired at h ⊢
  rwa [bind_run hrun]

theorem pure {a : α} {post : α → Bridge σ → Bridge σ → Prop} (h : post a bridge bridge') :
    (Pure.pure a : Run σ α).Together (Pure.pure a) frame bridge bridge' post :=
  .some ⟨rfl, h⟩

theorem stuck (post : α → Bridge σ → Bridge σ → Prop) :
    (Run.stuck : Run σ α).Together Run.stuck frame bridge bridge' post :=
  .none

theorem bind {run run' : Run σ α} {next next' : α → Run σ β}
    {mid : α → Bridge σ → Bridge σ → Prop} {post : β → Bridge σ → Bridge σ → Prop}
    (hrun : run.Together run' frame bridge bridge' mid)
    (hnext : ∀ a after after', mid a after after' →
      (next a).Together (next' a) frame after after' post) :
    (run >>= next).Together (run' >>= next') frame bridge bridge' post := by
  refine Paired.bind hrun ?_
  rintro a _ after after' ⟨rfl, hmid⟩
  exact hnext a after after' hmid

/-- The results may differ in the end. -/
theorem bind_paired {run run' : Run σ α} {next next' : α → Run σ β}
    {mid : α → Bridge σ → Bridge σ → Prop} {post : β → β → Bridge σ → Bridge σ → Prop}
    (hrun : run.Together run' frame bridge bridge' mid)
    (hnext : ∀ a after after', mid a after after' →
      (next a).Paired (next' a) frame after after' post) :
    (run >>= next).Paired (run' >>= next') frame bridge bridge' post := by
  refine Paired.bind hrun ?_
  rintro a _ after after' ⟨rfl, hmid⟩
  exact hnext a after after' hmid

theorem mono {run run' : Run σ α} {mid post : α → Bridge σ → Bridge σ → Prop}
    (h : run.Together run' frame bridge bridge' mid)
    (hpost : ∀ a after after', mid a after after' → post a after after') :
    run.Together run' frame bridge bridge' post :=
  Paired.mono h fun a _ after after' hmid ↦ ⟨hmid.1, hpost a after after' hmid.2⟩

theorem get_bind {next next' : Bridge σ → Run σ α} {post : α → Bridge σ → Bridge σ → Prop}
    (h : (next bridge).Together (next' bridge') frame bridge bridge' post) :
    ((get : Run σ (Bridge σ)) >>= next).Together (get >>= next') frame bridge bridge' post := h

theorem bound?_bind {id : ChannelId} {next next' : Option Bound → Run σ α}
    {post : α → Bridge σ → Bridge σ → Prop} (hbound : bridge'.boundOf id = bridge.boundOf id)
    (h : (next (bridge.boundOf id)).Together (next' (bridge.boundOf id)) frame bridge bridge'
      post) :
    (Run.bound? id >>= next).Together (Run.bound? id >>= next') frame bridge bridge' post :=
  Paired.bound?_bind hbound h

end Run.Together

/-! ## What waits for a worker -/

namespace Bridge

variable {c : ChannelId} {w : WorkerId} {bridge : Bridge σ}

@[simp] theorem bare_withWaiting (tasks : List Task) :
    (bridge.withWaiting w tasks).bare c w = bridge.bare c w := by
  simp only [bare, withWaiting, Table.adjust_adjust]
  rfl

theorem withWaiting_withWaiting (tasks tasks' : List Task) :
    (bridge.withWaiting w tasks).withWaiting w tasks' = bridge.withWaiting w tasks' := by
  simp only [withWaiting, Table.adjust_adjust]
  rfl

theorem workers_withWaiting (tasks : List Task) :
    (bridge.withWaiting w tasks).workers.get? w =
      (bridge.workers.get? w).map fun worker ↦ { worker with waiting := tasks } := by
  simp [withWaiting, Table.get?_adjust]

theorem waitingOf_withWaiting (h : (bridge.workers.get? w).isSome) (tasks : List Task) :
    (bridge.withWaiting w tasks).waitingOf w = tasks := by
  obtain ⟨worker, hworker⟩ := Option.isSome_iff_exists.mp h
  simp [waitingOf, workers_withWaiting, hworker]

/-- A worker that nothing waits for. -/
theorem withWaiting_nil (h : bridge.waitingOf w = []) : bridge.withWaiting w [] = bridge := by
  have hworkers : (bridge.withWaiting w []).workers = bridge.workers := by
    refine Table.ext_get? fun k ↦ ?_
    by_cases hk : k = w
    · rw [hk, workers_withWaiting]
      cases hworker : bridge.workers.get? w with
      | none => rfl
      | some worker =>
        have hwaiting : worker.waiting = [] := by simpa [waitingOf, hworker] using h
        rw [Option.map_some, ← hwaiting]
    · simp [withWaiting, Table.get?_adjust, hk]
  exact congrArg (fun workers ↦ { bridge with workers }) hworkers

end Bridge

/-- The thread is neither the worker's own nor waited for by it. -/
structure Frame.Outside (w : WorkerId) (frame : Frame) : Prop where
  thread : frame.thread ≠ .worker w
  busy : w ∉ frame.busy

namespace Run

variable {host : Host σ} {answer : Answerer σ} {w : WorkerId} {frame : Frame} {bridge : Bridge σ}

theorem submit_run (task : Task) :
    Run.submit w task frame bridge =
      some ((), { bridge with workers := bridge.workers.adjust w (·.enqueue task) }) := by
  refine congrArg (fun bridge ↦ some ((), bridge)) ?_
  dsimp only [Table.adjust]
  cases bridge.workers.get? w <;> rfl

theorem takeWaiting_run :
    Run.takeWaiting w frame bridge = some (bridge.waitingOf w, bridge.withWaiting w []) := by
  have hget : (get : Run σ (Bridge σ)) frame bridge = some (bridge, bridge) := rfl
  refine (bind_run hget).trans ?_
  unfold Bridge.withWaiting Bridge.waitingOf Table.adjust
  cases bridge.workers.get? w <;> rfl

theorem takeFirst_run_idle (h : bridge.waitingOf w = []) :
    Run.takeFirst w frame bridge = some (none, bridge) := by
  have hget : (get : Run σ (Bridge σ)) frame bridge = some (bridge, bridge) := rfl
  refine (bind_run hget).trans ?_
  unfold Bridge.waitingOf at h
  cases hworker : bridge.workers.get? w with
  | none => rfl
  | some worker =>
    have hwaiting : worker.waiting = [] := by simpa [hworker] using h
    simp only [hwaiting]
    rfl

theorem takeFirst_run_next {task : Task} {tasks : List Task}
    (h : bridge.waitingOf w = task :: tasks) :
    Run.takeFirst w frame bridge = some (some task, bridge.withWaiting w tasks) := by
  have hget : (get : Run σ (Bridge σ)) frame bridge = some (bridge, bridge) := rfl
  refine (bind_run hget).trans ?_
  unfold Bridge.waitingOf at h
  unfold Bridge.withWaiting Table.adjust
  cases hworker : bridge.workers.get? w with
  | none => simp [hworker] at h
  | some worker =>
    have hwaiting : worker.waiting = task :: tasks := by simpa [hworker] using h
    simp only [hwaiting]
    rfl

/-- From outside, work waits for the worker to run all that waits there. -/
theorem sync_run (hframe : frame.Outside w) (work : Run σ α) :
    Run.sync host answer w work frame bridge =
      (do
        Task.runAll host answer (bridge.waitingOf w)
        let result ← work
        return .ok result : Run σ (Except BridgeError α)) (frame.enter w)
        (bridge.withWaiting w []) := by
  have hread : (read : Run σ Frame) frame bridge = some (frame, bridge) := rfl
  have hget : (get : Run σ (Bridge σ)) frame bridge = some (bridge, bridge) := rfl
  refine (bind_run hread).trans ((bind_run hget).trans ?_)
  simp only [hframe.thread, hframe.busy, if_false]
  exact bind_run takeWaiting_run

/-- Where a worker waits for this thread, waiting for the worker does not end. -/
theorem flush_run_of_busy (hthread : frame.thread ≠ .worker w) (hbusy : w ∈ frame.busy) :
    Run.flush host answer w frame bridge = none := by
  have hread : (read : Run σ Frame) frame bridge = some (frame, bridge) := rfl
  have hget : (get : Run σ (Bridge σ)) frame bridge = some (bridge, bridge) := rfl
  have hsync : Run.sync host answer w (pure () : Run σ Unit) frame bridge = none := by
    rw [Run.sync, bind_run hread, bind_run hget, if_neg hthread, if_pos hbusy]
    rfl
  rw [Run.flush, bind_run hread, if_neg hthread]
  change (Run.sync host answer w (pure () : Run σ Unit) frame bridge).bind _ = none
  rw [hsync]
  rfl

theorem runAll_append_run {tasks : List Task} {after : Bridge σ}
    (h : Task.runAll host answer tasks frame bridge = some ((), after)) (more : List Task) :
    Task.runAll host answer (tasks ++ more) frame bridge =
      Task.runAll host answer more frame after := by
  induction tasks generalizing bridge with
  | nil =>
    cases h
    rfl
  | cons task tasks ih =>
    obtain ⟨_, mid, hfirst, hrest⟩ := of_bind_run h
    exact (bind_run hfirst).trans (ih hrest)

theorem runAll_singleton_run (task : Task) :
    Task.runAll host answer [task] frame bridge = task.run host answer frame bridge := by
  change (task.run host answer >>= fun _ ↦ Pure.pure ()) frame bridge = _
  rw [bind_pure_unit]

end Run

/-! ## One bridge behind another -/

/-- The principal, if there is one, is this object, and no reference will get its id. -/
structure Bound.HeadedBy (principal : ObjectRef) (bound : Bound) : Prop where
  principal : ∀ binding, bound.principal? = some binding → binding.object = principal
  next_neg : bound.nextReference < 0

/-- The calls of the channel run on this worker, and the channel is bound to this principal or not
at all. -/
structure Bridge.Serves (c : ChannelId) (w : WorkerId) (principal : ObjectRef)
    (bridge : Bridge σ) : Prop where
  worker : (bridge.workers.get? w).isSome
  channel : ∀ channel, bridge.channels.get? c = some channel → channel.worker = w
  bound : ∀ bound, bridge.boundOf c = some bound → bound.HeadedBy principal

/-- **One bridge trails another**: when all that waits for the worker has run, it is the same up to
the log. -/
def Bridge.Trails (host : Host σ) (answer : Answerer σ) (w : WorkerId)
    (bridge bridge' : Bridge σ) : Prop :=
  ∃ after, Task.runAll host answer (bridge.waitingOf w) (Frame.enter {} w)
      (bridge.withWaiting w []) = some ((), after) ∧ after.unlogged = bridge'.unlogged

/-- The first bridge serves the channel and trails the second. -/
structure Bridge.Lags (host : Host σ) (answer : Answerer σ) (c : ChannelId) (w : WorkerId)
    (principal : ObjectRef) (bridge bridge' : Bridge σ) : Prop where
  serves : bridge.Serves c w principal
  trails : bridge.Trails host answer w bridge'

/-- The first bridge does not trail any more. -/
structure Bridge.Even (host : Host σ) (answer : Answerer σ) (c : ChannelId) (w : WorkerId)
    (principal : ObjectRef) (bridge bridge' : Bridge σ) : Prop where
  lags : bridge.Lags host answer c w principal bridge'
  idle : bridge.waitingOf w = []

namespace Bridge

variable {host : Host σ} {answer : Answerer σ} {c : ChannelId} {w : WorkerId}
  {principal : ObjectRef} {bridge bridge' after : Bridge σ}

theorem Serves.of_same (h : bridge.Serves c w principal)
    (hchannel : after.channels.get? c = bridge.channels.get? c)
    (hworker : (after.workers.get? w).isSome) : after.Serves c w principal := by
  refine ⟨hworker, ?_, ?_⟩
  · rw [hchannel]
    exact h.channel
  · rw [boundOf, hchannel]
    exact h.bound

/-- To serve is a matter of what belongs to the channel. -/
theorem Serves.of_own (h : bridge.Serves c w principal) (hown : after.own c w = bridge.own c w) :
    after.Serves c w principal := by
  simp only [own, Prod.mk.injEq] at hown
  refine h.of_same hown.1 ?_
  rw [hown.2.1]
  exact h.worker

theorem own_withWaiting (tasks : List Task) :
    (bridge.withWaiting w tasks).own c w =
      (bridge.channels.get? c,
        (bridge.workers.get? w).map fun worker ↦ { worker with waiting := tasks },
        bridge.context.map (·.handlers)) := by
  rw [own, workers_withWaiting]
  rfl

/-- What waits is forgotten when something else waits. -/
theorem own_withWaiting_congr (h : after.own c w = bridge.own c w) (tasks : List Task) :
    (after.withWaiting w tasks).own c w = (bridge.withWaiting w tasks).own c w := by
  simp only [own, Prod.mk.injEq] at h
  rw [own_withWaiting, own_withWaiting, h.1, h.2.1, h.2.2]

theorem waitingOf_of_own (h : after.own c w = bridge.own c w) :
    after.waitingOf w = bridge.waitingOf w := by
  simp only [own, Prod.mk.injEq] at h
  rw [waitingOf, waitingOf, h.2.1]

theorem withBound_eq_adjust (bound : Option Bound) :
    bridge.withBound c bound =
      { bridge with
        channels := bridge.channels.adjust c fun channel ↦ { channel with bound } } := by
  unfold withBound Table.adjust
  cases bridge.channels.get? c <;> rfl

theorem own_withBound (bound : Option Bound) :
    (bridge.withBound c bound).own c w =
      ((bridge.channels.get? c).map fun channel ↦ { channel with bound },
        bridge.workers.get? w, bridge.context.map (·.handlers)) := by
  simp [withBound_eq_adjust, own, Table.get?_adjust]

theorem Serves.withBound (h : bridge.Serves c w principal) {bound : Option Bound}
    (hbound : ∀ b, bound = some b → b.HeadedBy principal) :
    (bridge.withBound c bound).Serves c w principal := by
  have hget : (bridge.withBound c bound).channels.get? c =
      (bridge.channels.get? c).map fun channel ↦ { channel with bound } := by
    rw [get?_withBound, if_pos rfl]
  refine ⟨?_, ?_, ?_⟩
  · rw [withBound_workers]
    exact h.worker
  · intro channel hchannel
    rw [hget, Option.map_eq_some_iff] at hchannel
    obtain ⟨channel, hchannel, rfl⟩ := hchannel
    exact h.channel channel hchannel
  · intro b hb
    rw [boundOf, hget] at hb
    cases hchannel : bridge.channels.get? c with
    | none => simp [hchannel] at hb
    | some channel => exact hbound b (by simpa [hchannel] using hb)

/-- Where nothing waits, to trail is to be the same. -/
theorem Trails.of_idle (hidle : bridge.waitingOf w = [])
    (hsame : bridge.unlogged = bridge'.unlogged) : bridge.Trails host answer w bridge' := by
  refine ⟨bridge, ?_, hsame⟩
  rw [hidle, withWaiting_nil hidle]
  rfl

end Bridge

namespace Bridge.Lags

variable {allowed : BridgeCall → Prop} {host : Host σ} {answer : Answerer σ} {c : ChannelId}
  {w : WorkerId} {principal : ObjectRef} {frame : Frame} {bridge bridge' : Bridge σ}
  (hallowed : ∀ request, allowed request → (answer request).Aloof (host.TakesRaw principal) c w)
  (hhost : host.Heeds allowed principal)
include hallowed hhost

/-- What the two bridges have in common, whatever waits. The principal may have stopped taking
messages that are no requests in the one that is ahead. -/
theorem own (h : Lags host answer c w principal bridge bridge') :
    bridge'.own c w = (bridge.withWaiting w []).own c w ∧
      (host.TakesRaw principal bridge'.native → host.TakesRaw principal bridge.native) := by
  obtain ⟨after, hrun, hsame⟩ := h.trails
  obtain ⟨_, after₁, _, hrun₁, -, -, hown, -, hraw⟩ :=
    Task.runAll_aloof hallowed hhost (bridge.waitingOf w) (Frame.enter {} w) (Frame.enter {} w) _ _
      rfl rfl
  cases hrun.symm.trans hrun₁
  refine ⟨?_, ?_⟩
  · rw [← Bridge.own_eq_of_unlogged hsame, hown]
  · have hnative : after.native = bridge'.native := congrArg (·.native) hsame
    rw [← hnative]
    exact hraw

/-- The worker runs a call: it falls behind by one call less. -/
theorem advance (h : Lags host answer c w principal bridge bridge') :
    ∃ after, Run.advance host answer w frame bridge = some ((), after) ∧
      Lags host answer c w principal after bridge' := by
  obtain ⟨hserves, final, hrun, hsame⟩ := h
  cases hwaiting : bridge.waitingOf w with
  | nil =>
    refine ⟨bridge, (Run.bind_run (Run.takeFirst_run_idle hwaiting)).trans rfl, hserves, ?_⟩
    exact ⟨final, hrun, hsame⟩
  | cons task tasks =>
    rw [hwaiting] at hrun
    obtain ⟨_, mid, hfirst, hrest⟩ := Run.of_bind_run hrun
    -- the call runs with the rest of the queue behind it instead of with an empty one
    obtain ⟨_, after, _, hnow, hfirst', hbare, hown, hmid, -⟩ :=
      Task.run_aloof hallowed hhost task (Frame.enter {} w) (Frame.enter {} w)
        (bridge.withWaiting w tasks) (bridge.withWaiting w []) rfl (by simp)
    cases hfirst.symm.trans hfirst'
    have hshorter : (bridge.withWaiting w tasks).Serves c w principal :=
      hserves.of_same rfl (by simpa [workers_withWaiting] using hserves.worker)
    have hserves' : after.Serves c w principal := hshorter.of_own hown
    have hwaiting' : after.waitingOf w = tasks := by
      rw [waitingOf_of_own hown, waitingOf_withWaiting hserves.worker]
    obtain ⟨_, final', _, hrest', hrest₁, hbare', hown', hfinal, -⟩ :=
      Task.runAll_aloof hallowed hhost tasks (Frame.enter {} w) (Frame.enter {} w)
        (after.withWaiting w []) mid rfl (by rw [bare_withWaiting, hbare])
    cases hrest.symm.trans hrest₁
    refine ⟨after, (Run.bind_run (Run.takeFirst_run_next hwaiting)).trans hnow, hserves', final',
      ?_, ?_⟩
    · rw [hwaiting']
      exact hrest'
    · rw [← hsame]
      refine unlogged_eq_of_parts hbare' ?_
      rw [hown', hfinal, hmid, own_withWaiting_congr hown, withWaiting_withWaiting]

theorem advances (h : Lags host answer c w principal bridge bridge') (n : Nat) :
    ∃ after, Run.advances host answer w n frame bridge = some ((), after) ∧
      Lags host answer c w principal after bridge' := by
  induction n generalizing bridge with
  | zero => exact ⟨bridge, rfl, h⟩
  | succ n ih =>
    obtain ⟨mid, hfirst, hmid⟩ := advance hallowed hhost h
    obtain ⟨after, hrest, hafter⟩ := ih hmid
    exact ⟨after, (Run.bind_run hfirst).trans hrest, hafter⟩

/-- A call joins the queue here and runs at once there. -/
theorem submit (h : Lags host answer c w principal bridge bridge') (task : Task) :
    (Run.submit w task).Together (Run.entering w (task.run host answer)) frame bridge bridge'
      fun _ ↦ Lags host answer c w principal := by
  obtain ⟨hserves, final, hrun, hsame⟩ := h
  obtain ⟨_, after, after', hlater, hnow, hbare, hown, hown', -⟩ :=
    Task.run_aloof hallowed hhost task (Frame.enter {} w) (frame.enter w) final bridge' rfl
      (bare_eq_of_unlogged hsame)
  obtain ⟨worker, hworker⟩ := Option.isSome_iff_exists.mp hserves.worker
  refine .of_runs (Run.submit_run task) hnow ⟨hserves.of_same rfl ?_, after, ?_, ?_⟩
  · simp [Table.get?_adjust, hworker]
  · -- the queue is emptied before it runs, so the newcomer leaves no trace in it
    have hjoined : ({ bridge with workers := bridge.workers.adjust w (·.enqueue task) } :
        Bridge σ).waitingOf w = bridge.waitingOf w ++ [task] := by
      simp [waitingOf, Table.get?_adjust, hworker, Worker.enqueue]
    have hemptied : ({ bridge with workers := bridge.workers.adjust w (·.enqueue task) } :
        Bridge σ).withWaiting w [] = bridge.withWaiting w [] := by
      simp only [withWaiting, Table.adjust_adjust]
      rfl
    rw [hjoined, hemptied, Run.runAll_append_run hrun, Run.runAll_singleton_run, hlater]
  · refine unlogged_eq_of_parts hbare ?_
    rw [hown, hown', own_eq_of_unlogged hsame]

/-- Work is waited for here, behind all that waits, and done at once there. In the end nothing waits
any more. -/
theorem sync {flag : σ → Prop} (h : Lags host answer c w principal bridge bridge')
    (hframe : frame.Outside w) {work : Run σ α} (hwork : work.Aloof flag c w) :
    (Run.sync host answer w work).Together (do return .ok (← Run.entering w work)) frame bridge
      bridge' fun _ ↦ Even host answer c w principal := by
  obtain ⟨hserves, final, hrun, hsame⟩ := h
  obtain ⟨_, _, mid, hrun', hcaught, hbare, hown, hown', -⟩ :=
    Task.runAll_aloof hallowed hhost (bridge.waitingOf w) (Frame.enter {} w) (frame.enter w)
      (bridge.withWaiting w []) (bridge.withWaiting w []) rfl rfl
  cases hrun.symm.trans hrun'
  -- what waits runs in another frame than the one in which trailing is told, to the same end:
  have hmid : mid.unlogged = bridge'.unlogged := by
    rw [← hsame]
    exact (unlogged_eq_of_parts hbare (hown.trans hown'.symm)).symm
  obtain ⟨a, after, after', hlater, hnow, hbare₁, hown₁, hown₁', -⟩ :=
    hwork (frame.enter w) (frame.enter w) mid bridge' rfl (bare_eq_of_unlogged hmid)
  have hempty : (bridge.withWaiting w []).Serves c w principal :=
    hserves.of_same rfl (by simpa [workers_withWaiting] using hserves.worker)
  have hidle : after.waitingOf w = [] := by
    rw [waitingOf_of_own hown₁, waitingOf_of_own hown', waitingOf_withWaiting hserves.worker]
  have hsync : Run.sync host answer w work frame bridge = some (.ok a, after) := by
    rw [Run.sync_run hframe]
    exact (Run.bind_run hcaught).trans ((Run.bind_run hlater).trans rfl)
  have hentering : Run.entering w work frame bridge' = some (a, after') := hnow
  refine .of_runs hsync ((Run.bind_run hentering).trans rfl) ⟨⟨?_, .of_idle hidle ?_⟩, hidle⟩
  · exact hempty.of_own (hown₁.trans hown')
  · refine unlogged_eq_of_parts hbare₁ ?_
    rw [hown₁, hown₁', own_eq_of_unlogged hmid]

/-- **What belongs to the channel changes on both sides**, and the calls that wait do not notice. -/
theorem change {f : Bridge σ → Bridge σ} (h : Lags host answer c w principal bridge bridge')
    (hbare : ∀ bridge, (f bridge).bare c w = bridge.bare c w)
    (hworkers : ∀ bridge, (f bridge).workers = bridge.workers)
    (hemptied : f (bridge.withWaiting w []) = (f bridge).withWaiting w [])
    (hown : ∀ bridge bridge', bridge.own c w = bridge'.own c w →
      (f bridge).own c w = (f bridge').own c w)
    (hserves : (f bridge).Serves c w principal) :
    Lags host answer c w principal (f bridge) (f bridge') := by
  obtain ⟨-, final, hrun, hsame⟩ := h
  have hwaiting : (f bridge).waitingOf w = bridge.waitingOf w := by
    rw [waitingOf, hworkers, waitingOf]
  -- the calls that wait run the same before and after the change:
  obtain ⟨_, final', _, hrun', hrun₁, hbare₁, hown₁, hfinal, -⟩ :=
    Task.runAll_aloof hallowed hhost (bridge.waitingOf w) (Frame.enter {} w) (Frame.enter {} w)
      (f (bridge.withWaiting w [])) (bridge.withWaiting w []) rfl (hbare _)
  cases hrun.symm.trans hrun₁
  refine ⟨hserves, final', ?_, ?_⟩
  · rw [hwaiting, ← hemptied]
    exact hrun'
  · refine unlogged_eq_of_parts (?_ : final'.bare c w = _) ?_
    · rw [hbare₁, hbare, bare_eq_of_unlogged hsame]
    · rw [hown₁]
      exact hown _ _ (hfinal.symm.trans (own_eq_of_unlogged hsame))

omit hallowed hhost in
/-- What the bridge ahead logs is of no account. -/
theorem logged_right (h : Lags host answer c w principal bridge bridge') (lines : List Line) :
    Lags host answer c w principal bridge (bridge'.logged lines) := ⟨h.serves, h.trails⟩

theorem logged_left (h : Lags host answer c w principal bridge bridge') (lines : List Line) :
    Lags host answer c w principal (bridge.logged lines) bridge' := by
  have hboth := h.change hallowed hhost (f := logged lines) (fun _ ↦ rfl) (fun _ ↦ rfl) rfl
    (fun _ _ hown ↦ hown) (h.serves.of_same rfl h.serves.worker)
  exact ⟨hboth.serves, hboth.trails⟩

/-- Both sides log. -/
theorem sayAll (h : Lags host answer c w principal bridge bridge') (lines : List Line) :
    (Run.sayAll lines).Together (Run.sayAll lines) frame bridge bridge' fun _ after after' ↦
      Lags host answer c w principal after after' ∧ after.waitingOf w = bridge.waitingOf w := by
  have hlogged := (h.logged_left hallowed hhost lines).logged_right lines
  exact .of_runs rfl rfl ⟨hlogged, rfl⟩

theorem say (h : Lags host answer c w principal bridge bridge') (level : Level) (text : String) :
    (Run.say level text).Together (Run.say level text) frame bridge bridge'
      fun _ ↦ Lags host answer c w principal :=
  (h.sayAll hallowed hhost [.ofBridge level text]).mono fun _ _ _ hsaid ↦ hsaid.1

/-- Both sides may log a line before they go on. -/
theorem say_if (h : Lags host answer c w principal bridge bridge') {p : Prop} [Decidable p]
    {level : Level} {text : String} {run run' : Run σ α}
    {post : α → α → Bridge σ → Bridge σ → Prop}
    (hrun : ∀ after after', Lags host answer c w principal after after' →
      run.Paired run' frame after after' post) :
    (if p then do
        Run.say level text
        run
      else run).Paired
      (if p then do
        Run.say level text
        run'
      else run') frame bridge bridge' post := by
  split
  · exact (h.say hallowed hhost level text).bind_paired fun _ ↦ hrun
  · exact hrun _ _ h

/-- Both sides change the binding of the channel, or end it. -/
theorem setBound (h : Lags host answer c w principal bridge bridge') {bound : Option Bound}
    (hbound : ∀ b, bound = some b → b.HeadedBy principal) :
    (Run.setBound c bound).Together (Run.setBound c bound) frame bridge bridge'
      fun _ after after' ↦
        Lags host answer c w principal after after' ∧ after.waitingOf w = bridge.waitingOf w := by
  have hchanged : Lags host answer c w principal (bridge.withBound c bound)
      (bridge'.withBound c bound) := by
    refine h.change hallowed hhost ?_ (fun bridge ↦ bridge.withBound_workers c bound) ?_ ?_
      (h.serves.withBound hbound)
    · intro bridge
      rw [withBound_eq_adjust, bare, Table.adjust_adjust]
      rfl
    · rw [withBound_eq_adjust, withBound_eq_adjust]
      rfl
    · intro bridge bridge' hown
      rw [own_withBound, own_withBound]
      simp only [Bridge.own, Prod.mk.injEq] at hown
      rw [hown.1, hown.2.1, hown.2.2]
  refine .of_runs rfl rfl ⟨hchanged, ?_⟩
  change (bridge.withBound c bound).waitingOf w = _
  rw [waitingOf, withBound_workers, waitingOf]

/-- Both sides change which names are registered. -/
theorem changeHandlers (h : Lags host answer c w principal bridge bridge')
    (change : Table String ChannelId → Table String ChannelId) :
    (Run.changeContext fun context ↦ { context with handlers := change context.handlers }).Together
      (Run.changeContext fun context ↦ { context with handlers := change context.handlers }) frame
        bridge bridge' fun _ ↦ Lags host answer c w principal := by
  refine .of_runs rfl rfl ?_
  refine h.change hallowed hhost (f := fun bridge ↦ { bridge with
    context := bridge.context.map fun context ↦
      { context with handlers := change context.handlers } }) ?_ (fun _ ↦ rfl) rfl ?_
    (h.serves.of_same rfl h.serves.worker)
  · intro bridge
    simp only [bare, Option.map_map]
    rfl
  · intro bridge bridge' hown
    simp only [Bridge.own, Prod.mk.injEq, Option.map_map] at hown ⊢
    refine ⟨hown.1, hown.2.1, ?_⟩
    have hmap := congrArg (Option.map change) hown.2.2
    rwa [Option.map_map, Option.map_map] at hmap

end Bridge.Lags

namespace Bridge.Even

variable {host : Host σ} {answer : Answerer σ} {c : ChannelId} {w : WorkerId}
  {principal : ObjectRef} {frame : Frame} {bridge bridge' : Bridge σ}

theorem unlogged_eq (h : Even host answer c w principal bridge bridge') :
    bridge.unlogged = bridge'.unlogged := by
  obtain ⟨⟨-, after, hrun, hsame⟩, hidle⟩ := h
  rw [hidle, withWaiting_nil hidle] at hrun
  cases hrun
  exact hsame

/-- While nothing waits, aloof work can be done outside of the worker. -/
theorem work {flag : σ → Prop} (h : Even host answer c w principal bridge bridge') {work : Run σ α}
    (hwork : work.Aloof flag c w) :
    work.Together work frame bridge bridge' fun _ ↦ Even host answer c w principal := by
  obtain ⟨a, after, after', hrun, hrun', hbare, hown, hown', -⟩ :=
    hwork frame frame bridge bridge' rfl (bare_eq_of_unlogged h.unlogged_eq)
  have hidle : after.waitingOf w = [] := by rw [waitingOf_of_own hown, h.idle]
  refine .of_runs hrun hrun' ⟨⟨h.lags.serves.of_own hown, .of_idle hidle ?_⟩, hidle⟩
  refine unlogged_eq_of_parts hbare ?_
  rw [hown, hown', own_eq_of_unlogged h.unlogged_eq]

end Bridge.Even

end ScriptBridge
