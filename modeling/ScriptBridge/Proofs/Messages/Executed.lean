import ScriptBridge.Proofs.Messages.Entitled
import ScriptBridge.Proofs.Messages.Failures

/-!
# What a message executes at once

Taking a message executes native code in three places. A method or an initializer that the message
waits for is executed, and before it the calls that wait for the worker are; and for the reply
properties are read. The rest of what a channel does executes nothing (`Run.Passive`), and in
particular handing in a call does not. So what has been executed when a message has been taken is
known from its errand (`Errand.run_executed`).
-/

namespace ScriptBridge

variable {σ α β : Type}

/-! ## What has been executed -/

/-- What is executed, and not only read. -/
def Access.execution? : Access → Option Execution
  | .read _ _ => none
  | .execution done => some done

/-- What visits have executed. -/
def Visit.executions (visits : List Visit) : List Execution := visits.filterMap (·.access.execution?)

/-- What has been executed, in this order. -/
def Bridge.executed (bridge : Bridge (σ × List Visit)) : List Execution :=
  Visit.executions bridge.visits

theorem Visit.executions_append (visits visits' : List Visit) :
    executions (visits ++ visits') = executions visits ++ executions visits' :=
  List.filterMap_append

theorem Visit.executions_ofExecution (execution : Option Execution)
    (failure : Option BridgeError) :
    executions (ofExecution execution failure) = execution.toList := by
  cases execution <;> rfl

/-- Visits execute what they have access to. -/
theorem Visit.executions_of_access {visits : List Visit} {executions : List Execution}
    (h : visits.map (·.access) = executions.map .execution) :
    Visit.executions visits = executions := by
  have hmapped : Visit.executions visits = (visits.map (·.access)).filterMap Access.execution? := by
    rw [Visit.executions, List.filterMap_map]
    rfl
  rw [hmapped, h, List.filterMap_map]
  exact List.filterMap_some

/-! ## Runs that execute nothing -/

/-- A run that executes nothing; it may read properties. -/
def Run.Passive (run : Run (σ × List Visit) α) : Prop :=
  ∀ frame bridge a bridge', run frame bridge = some (a, bridge') →
    bridge'.executed = bridge.executed

namespace Run.Passive

theorem pure (a : α) : (Pure.pure a : Run (σ × List Visit) α).Passive := by
  rintro _ _ _ _ ⟨⟩
  rfl

theorem bind {run : Run (σ × List Visit) α} {next : α → Run (σ × List Visit) β}
    (hrun : run.Passive) (hnext : ∀ a, (next a).Passive) : (run >>= next).Passive := by
  intro frame bridge b bridge'' hboth
  obtain ⟨a, mid, hfirst, hsecond⟩ := Run.of_bind_run hboth
  exact (hnext a frame mid b bridge'' hsecond).trans (hrun frame bridge a mid hfirst)

theorem stuck : (Run.stuck : Run (σ × List Visit) α).Passive := by
  rintro _ _ _ _ ⟨⟩

/-- A run that changes nothing at all. -/
theorem look {run : Run (σ × List Visit) α}
    (h : ∀ frame bridge, ∃ a, run frame bridge = some (a, bridge)) : run.Passive := by
  intro frame bridge a bridge' hrun
  obtain ⟨a', ha'⟩ := h frame bridge
  rw [ha'] at hrun
  cases hrun
  rfl

theorem get : (get : Run (σ × List Visit) _).Passive := look fun _ bridge ↦ ⟨bridge, rfl⟩

theorem bound? (id : ChannelId) : (Run.bound? id : Run (σ × List Visit) _).Passive :=
  look fun _ bridge ↦ ⟨bridge.boundOf id, rfl⟩

/-- What is no native state is changed. -/
theorem modify {f : Bridge (σ × List Visit) → Bridge (σ × List Visit)}
    (h : ∀ bridge, (f bridge).native = bridge.native) :
    (modify f : Run (σ × List Visit) Unit).Passive := by
  rintro _ bridge _ _ ⟨⟩
  exact congrArg (fun s ↦ Visit.executions s.2) (h bridge)

theorem sayAll (lines : List Line) : (Run.sayAll lines : Run (σ × List Visit) Unit).Passive :=
  modify fun _ ↦ rfl

theorem say (level : Level) (text : String) :
    (Run.say level text : Run (σ × List Visit) Unit).Passive :=
  modify fun _ ↦ rfl

theorem setBound (id : ChannelId) (bound : Option Bound) :
    (Run.setBound id bound : Run (σ × List Visit) Unit).Passive :=
  modify fun bridge ↦ by split <;> rfl

/-- A run whose visits execute nothing. -/
theorem of_visits {run : Run (σ × List Visit) α} {visits : α → List Visit}
    (hrun : run.Visits visits) (hnone : ∀ a, Visit.executions (visits a) = []) : run.Passive := by
  intro frame bridge a bridge' h
  rw [Bridge.executed, hrun frame bridge a bridge' h, Visit.executions_append, hnone,
    List.append_nil]
  rfl

end Run.Passive

section Passive

variable {host : Host σ} {answer : Answerer (σ × List Visit)} {c : ChannelId}

theorem Binding.readAll_passive (binding : Binding) (names : List String) :
    (binding.readAll host.watched answer names).Passive := by
  induction names with
  | nil => exact .pure _
  | cons name names ih =>
    refine Run.Passive.bind ?_ fun value ↦ ih.bind fun values ↦ .pure _
    exact .of_visits (Native.watched_visits _ _ _) fun _ ↦ rfl

namespace ChannelId

theorem unbind_passive : (unbind c : Run (σ × List Visit) Unit).Passive := by
  refine (Run.Passive.bound? c).bind fun bound ↦ ?_
  split
  · exact .pure _
  · refine (Run.Passive.setBound c none).bind fun _ ↦ ?_
    exact Run.Passive.bind (.modify fun _ ↦ rfl) fun _ ↦ .say _ _

theorem dispose_passive (target : Int) :
    (dispose c target : Run (σ × List Visit) Unit).Passive := by
  unfold dispose
  split
  · exact unbind_passive
  · refine (Run.Passive.bound? c).bind fun bound ↦ ?_
    split
    · exact .pure _
    · split
      · exact .pure _
      · exact (Run.Passive.setBound c _).bind fun _ ↦ .say _ _

theorem report_passive (e : BridgeError) : (report e : Run (σ × List Visit) Unit).Passive := by
  intro frame bridge _ _ hreport
  rw [report_run] at hreport
  cases hreport
  rfl

theorem literal_passive (engine : EngineLiterals) (value : Value) :
    (literal c engine value : Run (σ × List Visit) String).Passive := by
  refine (Run.Passive.bound? c).bind fun bound ↦ ?_
  split
  · exact .pure _
  · refine (Run.Passive.setBound c _).bind fun _ ↦ ?_
    exact (Run.Passive.sayAll _).bind fun _ ↦ .pure _

theorem stub?_passive (engine : EngineLiterals) (target : StubTarget) (binding : Binding)
    (values : List (String × Value)) :
    (stub? host.watched c engine target binding values).Passive := by
  refine Run.Passive.get.bind fun bridge ↦ ?_
  split
  · exact .pure _
  · split
    · exact .pure _
    · refine (Run.Passive.setBound c _).bind fun _ ↦ ?_
      exact (Run.Passive.sayAll _).bind fun _ ↦ .pure _

theorem drain_passive (engine : EngineLiterals) (patience : Nat) :
    (drain host.watched answer c engine patience).Passive := by
  induction patience with
  | zero => exact .stuck
  | succ patience ih =>
    refine (Run.Passive.bound? c).bind fun bound ↦ ?_
    split
    · exact .pure _
    · split
      · exact .pure _
      · refine (Run.Passive.setBound c _).bind fun _ ↦ ?_
        refine (Binding.readAll_passive _ _).bind fun values ↦ ?_
        refine (stub?_passive _ _ _ _).bind fun source ↦ ?_
        split
        · exact .pure _
        · exact ih.bind fun _ ↦ .pure _

/-- The properties that are read for a reply are not executed. -/
theorem expression_passive (patience : Nat) (value : Value) :
    (expression host.watched answer patience c value).Passive := by
  refine Run.Passive.bind (.look fun _ bridge ↦ ⟨_, Run.engineLiterals_run⟩) fun engine ↦ ?_
  refine (literal_passive engine value).bind fun _ ↦ ?_
  exact (drain_passive engine patience).bind fun _ ↦ .pure _

/-- Reporting why there is no reply executes nothing. -/
theorem reported_passive (outcome : Except BridgeError (Option Value)) :
    (match outcome with
      | .ok value => return .ok value
      | .error e => do
        report e
        return if e.surfaces then .error e else .ok none :
      Run (σ × List Visit) (Except BridgeError (Option Value))).Passive := by
  split
  · exact .pure _
  · exact (report_passive _).bind fun _ ↦ .pure _

/-- Nor does wording the reply. -/
theorem worded_passive (patience : Nat) (told : Except BridgeError (Option Value)) :
    (match told with
      | .ok (some value) => do
        return (← expression host.watched answer patience c value).text
      | .ok none => return "undefined"
      | .error e => return throwing e.message : Run (σ × List Visit) String).Passive := by
  split
  · exact (expression_passive _ _).bind fun _ ↦ .pure _
  · exact .pure _
  · exact .pure _

end ChannelId

end Passive

/-! ## Runs that execute what is waited for -/

/-- Something has been executed, and before it nothing but what waited for the worker, if that. -/
def Bridge.HasExecuted (host : Host σ) (w : WorkerId) (own : Option Execution)
    (bridge bridge' : Bridge (σ × List Visit)) : Prop :=
  ∃ before, (before = [] ∨ host.Executes (bridge.awaiting host w) before) ∧
    bridge'.executed = bridge.executed ++ before ++ own.toList

/-- Whether an errand waits for what it executes. -/
def Errand.isAwaited : Errand → Bool
  | .await _ _ _ | .make _ _ _ _ => true
  | .refuse _ | .hand _ _ | .dispose _ => false

/-- What an errand executes at once in a frame: what it waits for, unless it would wait for its own
worker. -/
def Errand.executed? (host : Host σ) (w : WorkerId) (frame : Frame) (errand : Errand) :
    Option Execution :=
  if errand.isAwaited = true ∧ frame.thread ≠ .worker w then errand.execution? host else none

variable {host : Host σ} {answer : Answerer (σ × List Visit)} {c : ChannelId} {w : WorkerId}
  {frame : Frame} {bridge bridge' : Bridge (σ × List Visit)}

/-- Work that is waited for is executed at once, unless it is refused. -/
theorem Run.sync_executed {work : Run (σ × List Visit) (Finish (Except BridgeError α))}
    {execution : Option Execution}
    (hvisits : work.Visits fun finish ↦ Visit.ofExecution execution finish.failure?)
    {result : Except BridgeError (Finish (Except BridgeError α))}
    (h : Run.sync host.watched answer w work frame bridge = some (result, bridge')) :
    bridge.HasExecuted host w (if frame.thread ≠ .worker w then execution else none) bridge' := by
  rcases Run.sync_visits hvisits h with
    ⟨hthread, rfl, -⟩ | ⟨hthread, finish, before, executed, -, hadded, hbefore, hexecutes⟩
  · exact ⟨[], .inl rfl, by simp [hthread]⟩
  · refine ⟨executed, .inr hexecutes, ?_⟩
    rw [if_pos hthread, Bridge.executed, hadded, Visit.executions_append, Visit.executions_append,
      Visit.executions_ofExecution, Visit.executions_of_access hbefore]
    rfl

/-- An instance is put to its id without further ado. -/
theorem ChannelId.produce_executed {target : Int} {place typeName : String} {args : List Value}
    {created : Except BridgeError Unit}
    (h : produce host.watched answer c w target place typeName args frame bridge =
      some (created, bridge')) :
    bridge.HasExecuted host w
      (if frame.thread ≠ .worker w then host.making? typeName args else none) bridge' := by
  obtain ⟨made, mid, hsync, hrest⟩ := Run.of_bind_run h
  obtain ⟨before, hbefore, hexecuted⟩ := Run.sync_executed (Host.make_visits typeName args) hsync
  refine ⟨before, hbefore, .trans ?_ hexecuted⟩
  cases hmade : made.bind Finish.result with
  | error e =>
    rw [hmade] at hrest
    cases hrest
    rfl
  | ok object =>
    rw [hmade] at hrest
    refine Run.Passive.bind (.bound? c) (fun bound ↦ ?_) frame mid created bridge' hrest
    split
    · exact .pure _
    · refine (Run.Passive.setBound c _).bind fun _ ↦ ?_
      split
      · exact (Run.Passive.say _ _).bind fun _ ↦ (Run.Passive.say _ _).bind fun _ ↦ .pure _
      · exact (Run.Passive.say _ _).bind fun _ ↦ .pure _

/-- **What an errand waits for is executed at once**, and nothing else that the errand is about. -/
theorem Errand.run_executed {errand : Errand} {outcome : Except BridgeError (Option Value)}
    (h : errand.run host.watched answer c w frame bridge = some (outcome, bridge')) :
    bridge.HasExecuted host w (errand.executed? host w frame) bridge' := by
  cases errand with
  | refuse e =>
    cases h
    exact ⟨[], .inl rfl, by simp [executed?, isAwaited]⟩
  | hand task told =>
    rw [hand_run] at h
    cases h
    refine ⟨[], .inl rfl, ?_⟩
    simp only [executed?, isAwaited, Bool.false_eq_true, false_and, if_false, Option.toList_none,
      List.append_nil]
    rfl
  | await binding method args =>
    obtain ⟨result, after, hsync, hdone⟩ := Run.of_bind_run h
    cases hdone
    simpa [executed?, isAwaited, execution?] using
      Run.sync_executed (Binding.invoke_visits binding method args) hsync
  | make target place typeName args =>
    obtain ⟨created, after, hproduce, hdone⟩ := Run.of_bind_run h
    cases hdone
    simpa [executed?, isAwaited, execution?] using ChannelId.produce_executed hproduce
  | dispose target =>
    obtain ⟨_, after, hdispose, hdone⟩ := Run.of_bind_run h
    cases hdone
    refine ⟨[], .inl rfl, ?_⟩
    rw [ChannelId.dispose_passive target frame bridge _ _ hdispose]
    simp [executed?, isAwaited]

/-- A call is executed when the worker gets to it. -/
theorem Task.run_executed {task : Task}
    (h : task.run host.watched answer frame bridge = some ((), bridge')) :
    bridge'.executed = bridge.executed ++ (task.executed? host bridge.native.1).toList := by
  obtain ⟨failure, hvisits⟩ := run_visits h
  rw [Bridge.executed, hvisits, Visit.executions_append, Visit.executions_ofExecution]
  rfl

theorem Task.runAll_executed {tasks : List Task}
    (h : runAll host.watched answer tasks frame bridge = some ((), bridge')) :
    ∃ executed, host.Executes (tasks.filterMap (·.execution? host)) executed ∧
      bridge'.executed = bridge.executed ++ executed := by
  obtain ⟨visits, executed, hbridge', hvisits, hexecutes⟩ := runAll_visits h
  refine ⟨executed, hexecutes, ?_⟩
  rw [Bridge.executed, hbridge', Visit.executions_append, Visit.executions_of_access hvisits]
  rfl

/-! ## Messages that are taken -/

namespace ChannelId

section Taking

variable {channel : Channel} {message : Message} {waits : Bool}

/-- What a message executes at once, if nothing is executed thereafter. -/
theorem handle_executed {rest : Except BridgeError (Option Value) → Run (σ × List Visit) α}
    (hrest : ∀ outcome, (rest outcome).Passive) (hchannel : bridge.channels.get? c = some channel)
    {a : α}
    (h : (handle host.watched answer c message waits >>= rest) frame bridge = some (a, bridge')) :
    bridge.HasExecuted host channel.worker
      ((bridge.errand host.watched c message waits).executed? host channel.worker frame)
      bridge' := by
  obtain ⟨outcome, mid, htaken, hdone⟩ := Run.of_bind_run h
  rw [handle_run hchannel] at htaken
  obtain ⟨before, hbefore, hexecuted⟩ := Errand.run_executed htaken
  exact ⟨before, hbefore, (hrest outcome frame mid a bridge' hdone).trans hexecuted⟩

theorem dispatch_executed (hchannel : bridge.channels.get? c = some channel)
    (h : dispatch host.watched answer c message frame bridge = some ((), bridge')) :
    bridge.HasExecuted host channel.worker
      ((bridge.errand host.watched c message false).executed? host channel.worker frame)
      bridge' := by
  refine handle_executed (fun outcome ↦ ?_) hchannel h
  split
  · exact .pure _
  · exact report_passive _

theorem dispatchSync_executed (hchannel : bridge.channels.get? c = some channel) {patience : Nat}
    {reply : String} (h : dispatchSync host.watched answer patience c message frame bridge =
      some (reply, bridge')) :
    bridge.HasExecuted host channel.worker
      ((bridge.errand host.watched c message true).executed? host channel.worker frame)
      bridge' := by
  rw [dispatchSync, ask, bind_assoc] at h
  refine handle_executed (fun outcome ↦ ?_) hchannel h
  exact (reported_passive outcome).bind fun told ↦ worded_passive patience told

end Taking

end ChannelId

end ScriptBridge
