import ScriptBridge.Proofs.Posting.Trails

/-!
# What a message asks for

A channel that takes a message first finds out what the message asks for, and then does it. The
first part depends on the state in which the message arrives and changes nothing: it is the function
`Bridge.errand`, whose result is one of a handful of *errands*. The second part, `Errand.run`, is
where workers are waited for and native code runs. Taking a message is one after the other
(`ChannelId.handle_run`), so what is true of messages is found by going through the errands.

Refusals are errands, too, and a dozen different faults lead to them. What is done about a refusal
is the same for all: nothing.
-/

namespace ScriptBridge

variable {σ : Type}

/-! ## Errands -/

/-- What a message asks for, in the state in which it arrives. -/
inductive Errand where
  /-- Nothing, for it is refused. -/
  | refuse (e : BridgeError)
  /-- A call for the worker, and lines for the log. -/
  | hand (task : Task) (told : List Line)
  /-- A method, which is waited for. -/
  | await (binding : Binding) (method : String) (args : List Value)
  /-- An instance of a type, to be put to an id and a place. -/
  | make (target : Int) (place typeName : String) (args : List Value)
  /-- That an instance is given up. -/
  | dispose (target : Int)

/-- Makes an instance on the worker and puts it to its id, if the channel is bound by then. -/
def ChannelId.produce (host : Host σ) (answer : Answerer σ) (id : ChannelId) (worker : WorkerId)
    (target : Int) (place typeName : String) (args : List Value) :
    Run σ (Except BridgeError Unit) := do
  let made ← Run.sync host answer worker (host.make answer typeName args)
  match made.bind Finish.result with
  | .error e => return .error e
  | .ok object =>
    match ← Run.bound? id with
    | none => return .error (.unknownInstance 0)
    | some bound =>
      let (bound, previous) := bound.put target ⟨place, object⟩
      Run.setBound id (some bound)
      if previous.isSome then
        Run.say .warn "instance id reused; previous instance replaced"
      Run.say .info "instance bound"
      return .ok ()

/-- Does what a message asks for. -/
def Errand.run (host : Host σ) (answer : Answerer σ) (id : ChannelId) (worker : WorkerId) :
    Errand → Run σ (Except BridgeError (Option Value))
  | .refuse e => return .error e
  | .hand task told => do
    Run.submit worker task
    Run.sayAll told
    return .ok none
  | .await binding method args => do
    let outcome ← Run.sync host answer worker (binding.invoke host answer method args)
    return (outcome.bind Finish.result).map some
  | .make target place typeName args => do
    return (← ChannelId.produce host answer id worker target place typeName args).map fun _ ↦ none
  | .dispose target => do
    ChannelId.dispose id target
    return .ok none

namespace Handing

variable (host : Host σ) (answer : Answerer σ) (hand : Handing σ) (id : ChannelId)
  (worker : WorkerId)

/-- `ChannelId.produce`, whatever it means to hand work to a worker. -/
def produce (target : Int) (place typeName : String) (args : List Value) :
    Run σ (Except BridgeError Unit) := do
  let made ← hand.sync worker (host.make answer typeName args)
  match made.bind Finish.result with
  | .error e => return .error e
  | .ok object =>
    match ← Run.bound? id with
    | none => return .error (.unknownInstance 0)
    | some bound =>
      let (bound, previous) := bound.put target ⟨place, object⟩
      Run.setBound id (some bound)
      if previous.isSome then
        Run.say .warn "instance id reused; previous instance replaced"
      Run.say .info "instance bound"
      return .ok ()

/-- `Errand.run`, whatever it means to hand work to a worker. -/
def perform : Errand → Run σ (Except BridgeError (Option Value))
  | .refuse e => return .error e
  | .hand task told => do
    hand.submit worker task
    Run.sayAll told
    return .ok none
  | .await binding method args => do
    let outcome ← hand.sync worker (binding.invoke host answer method args)
    return (outcome.bind Finish.result).map some
  | .make target place typeName args => do
    return (← hand.produce host answer id worker target place typeName args).map fun _ ↦ none
  | .dispose target => do
    ChannelId.dispose id target
    return .ok none

theorem perform_queued (errand : Errand) :
    (queued host answer).perform host answer id worker errand =
      errand.run host answer id worker := by
  cases errand <;> rfl

end Handing

/-! ## Finding the errand -/

/-- What a request asks for that names a member of an instance. -/
def Host.reaching (host : Host σ) (id : ChannelId) (binding : Binding) (name : String)
    (operand : Option Json) (waits : Bool) : Errand :=
  match (host.surfaceOf binding.object).member? name with
  | some (.property _) => .hand (.set binding name (Value.ofOperand operand)) []
  | some (.method _ _) =>
    let args := ChannelId.attach id (Value.argumentsOf operand)
    if waits then .await binding name args else .hand (.invoke binding name args) []
  | _ => .refuse (.unknownMember name)

namespace Bridge

variable (host : Host σ) (id : ChannelId) (message : Message) (bridge : Bridge σ)

/-- The call with which the principal takes a message that is no request, if it takes such. -/
def rawTask? : Option Task :=
  match (bridge.boundOf id).bind (·.principal?) with
  | none => none
  | some principal =>
    if (host.hooks bridge.native principal.object).takesRaw then
      some (.receive principal.object message)
    else none

/-- What a message asks for that can only be forwarded, and is refused otherwise. -/
def forwarding (told : List Line) (e : BridgeError) : Errand :=
  match bridge.rawTask? host id message with
  | none => .refuse e
  | some task => .hand task told

/-- What a request asks for that wants an instance made. -/
def creation (request : Request) : Errand :=
  if request.target ≤ 0 then .refuse (Malformation.createAt request.target).error
  else
    match bridge.boundOf id with
    | none => .refuse (.unknownInstance 0)
    | some bound =>
      match bound.principal? with
      | none => .refuse (.unknownInstance 0)
      | some principal =>
        .make request.target (bound.placeOf request.target) principal.object.typeName
          (Value.argumentsOf request.operand)

/-- What a request asks for. -/
def requested (request : Request) (waits : Bool) : Errand :=
  let opcode := Opcode.ofString request.opcode
  if opcode = .create then bridge.creation id request
  else
    match (bridge.boundOf id).bind fun bound ↦ bound.instances.get? request.target with
    | none => bridge.forwarding host id message [] (.unknownInstance request.target)
    | some binding =>
      match opcode with
      | .member name => host.reaching id binding name request.operand waits
      | _ => .dispose request.target

/-- What a message asks for. -/
def errand (waits : Bool) : Errand :=
  match message.request? with
  | .ok request => bridge.requested host id message request waits
  | .error malformation =>
    let e := malformation.error
    if message.body.isNone then .refuse e
    else
      bridge.forwarding host id message
        [.ofBridge .trace (e.message ++ "; forwarded as raw message")] e

end Bridge

/-- A message that cannot be served is forwarded or refused. -/
theorem Bridge.forwarding_cases (host : Host σ) (id : ChannelId) (message : Message)
    (told : List Line) (e : BridgeError) (bridge : Bridge σ) :
    bridge.forwarding host id message told e = .refuse e ∨
      ∃ object, bridge.forwarding host id message told e =
        .hand (.receive object message) told := by
  unfold forwarding rawTask?
  cases (bridge.boundOf id).bind (·.principal?) with
  | none => exact .inl rfl
  | some principal =>
    by_cases hraw : (host.hooks bridge.native principal.object).takesRaw = true
    · exact .inr ⟨principal.object, by simp [hraw]⟩
    · exact .inl (by simp [hraw])

/-- The errands that there are: what holds of each of them holds of what a message asks for. -/
theorem Bridge.errand_cases {host : Host σ} {id : ChannelId} {message : Message} {waits : Bool}
    {bridge : Bridge σ} {motive : Errand → Prop} (hrefuse : ∀ e, motive (.refuse e))
    (hraw : ∀ object told, motive (.hand (.receive object message) told))
    (hset : ∀ binding name value, motive (.hand (.set binding name value) []))
    (hinvoke : waits = false → ∀ binding name args, motive (.hand (.invoke binding name args) []))
    (hawait : waits = true → ∀ binding name args, motive (.await binding name args))
    (hmake : (bridge.boundOf id).isSome → ∀ target place typeName args,
      motive (.make target place typeName args))
    (hdispose : ∀ target, motive (.dispose target)) :
    motive (bridge.errand host id message waits) := by
  have hforwarding : ∀ told e, motive (bridge.forwarding host id message told e) := by
    intro told e
    rcases bridge.forwarding_cases host id message told e with heq | ⟨object, heq⟩
    · exact heq ▸ hrefuse e
    · exact heq ▸ hraw object told
  have hcreation : ∀ request, motive (bridge.creation id request) := by
    intro request
    unfold creation
    split
    · exact hrefuse _
    · split
      · exact hrefuse _
      · next hbound =>
        split
        · exact hrefuse _
        · exact hmake (by simp [hbound]) _ _ _ _
  have hreaching : ∀ binding name operand,
      motive (host.reaching id binding name operand waits) := by
    intro binding name operand
    unfold Host.reaching
    split
    · exact hset _ _ _
    · cases waits with
      | true => exact hawait rfl _ _ _
      | false => exact hinvoke rfl _ _ _
    · exact hrefuse _
  unfold errand
  split
  · unfold requested
    dsimp only
    split
    · exact hcreation _
    · split
      · exact hforwarding _ _
      · split
        · exact hreaching _ _ _
        · exact hdispose _
  · dsimp only
    split
    · exact hrefuse _
    · exact hforwarding _ _

/-- Instances are made for channels that are bound. -/
theorem Bridge.bound_of_errand_eq_make {host : Host σ} {id : ChannelId} {message : Message}
    {bridge : Bridge σ} {waits : Bool} {target : Int} {place typeName : String}
    {args : List Value}
    (h : bridge.errand host id message waits = .make target place typeName args) :
    (bridge.boundOf id).isSome := by
  revert h
  refine errand_cases (motive := fun errand ↦ errand = .make target place typeName args →
    (bridge.boundOf id).isSome) ?_ ?_ ?_ ?_ ?_ (fun hbound _ _ _ _ _ ↦ hbound) ?_
  all_goals
    intros
    contradiction

/-! ## Taking a message is running its errand -/

variable {host : Host σ} {answer : Answerer σ} {id : ChannelId} {channel : Channel}
  {frame : Frame} {bridge : Bridge σ}

/-- The bridge with one more call waiting for a worker. -/
def Bridge.submitted (w : WorkerId) (task : Task) (bridge : Bridge σ) : Bridge σ :=
  { bridge with workers := bridge.workers.adjust w (·.enqueue task) }

theorem Bridge.waitingOf_submitted {w : WorkerId} (h : (bridge.workers.get? w).isSome)
    (task : Task) : (bridge.submitted w task).waitingOf w = bridge.waitingOf w ++ [task] := by
  obtain ⟨worker, hworker⟩ := Option.isSome_iff_exists.mp h
  simp [waitingOf, submitted, Table.get?_adjust, hworker, Worker.enqueue]

theorem Errand.hand_run (worker : WorkerId) (task : Task) (told : List Line) :
    (Errand.hand task told).run host answer id worker frame bridge =
      some (.ok none, (bridge.submitted worker task).logged told) :=
  Run.bind_run (Run.submit_run task)

theorem Run.sayAll_nil : (Run.sayAll [] : Run σ Unit) = pure () := by
  funext frame bridge
  exact congrArg (fun bridge ↦ some ((), bridge)) bridge.logged_nil

/-- The line with which a channel traces that a message has arrived. -/
def ChannelId.received (channel : Channel) : List Line :=
  if channel.traces then [.ofBridge .debug "message received"] else []

namespace Handing

variable {hand : Handing σ}

/-- A call that is handed in without a word. -/
private theorem silent_perform (worker : WorkerId) (task : Task) :
    (do
      hand.submit worker task
      return .ok none : Run σ (Except BridgeError (Option Value))) =
      hand.perform host answer id worker (.hand task []) := by
  simp only [perform, Run.sayAll_nil, pure_bind]

/-- A message that can only be forwarded is handed in as a raw call, or refused. -/
private theorem forward_run (hchannel : bridge.channels.get? id = some channel)
    (message : Message) (told : List Line) (e : BridgeError)
    {next : Bool → Run σ (Except BridgeError (Option Value))}
    (hforwarded : next true = do
      Run.sayAll told
      return .ok none)
    (hrefused : next false = return .error e) :
    (hand.forward host id message >>= next) frame bridge =
      hand.perform host answer id channel.worker (bridge.forwarding host id message told e) frame
        bridge := by
  have hget : (get : Run σ (Bridge σ)) frame bridge = some (bridge, bridge) := rfl
  have hbound : bridge.boundOf id = channel.bound := by simp [Bridge.boundOf, hchannel]
  rw [forward, bind_assoc, Run.bind_run hget]
  cases hprincipal : channel.bound.bind (·.principal?) with
  | none =>
    simp only [hchannel, hprincipal, Bridge.forwarding, Bridge.rawTask?, hbound, pure_bind,
      hrefused]
    rfl
  | some principal =>
    by_cases hraw : (host.hooks bridge.native principal.object).takesRaw = true
    · simp only [hchannel, hprincipal, Bridge.forwarding, Bridge.rawTask?, hbound, hraw, if_true,
        bind_assoc, pure_bind, hforwarded]
      rfl
    · simp only [hchannel, hprincipal, Bridge.forwarding, Bridge.rawTask?, hbound, hraw,
        Bool.false_eq_true, if_false, pure_bind, hrefused]
      rfl

private theorem create_run (worker : WorkerId) (request : Request) :
    (do return (← hand.create host answer id worker request).map fun _ ↦ none :
      Run σ (Except BridgeError (Option Value))) frame bridge =
      hand.perform host answer id worker (bridge.creation id request) frame bridge := by
  unfold create Bridge.creation
  split
  · rfl
  · rw [bind_assoc, Run.bind_run (Run.bound?_run id)]
    cases bridge.boundOf id with
    | none => rfl
    | some bound =>
      dsimp only
      cases bound.principal? with
      | none => rfl
      | some principal => rfl

private theorem reach_run (worker : WorkerId) (binding : Binding) (name : String)
    (operand : Option Json) (waits : Bool) :
    hand.reach host answer id worker binding name operand waits =
      hand.perform host answer id worker (host.reaching id binding name operand waits) := by
  rcases hmember : (host.surfaceOf binding.object).member? name with
    - | (⟨arity, returns⟩ | _ | _) <;>
    simp only [reach, Host.reaching, hmember]
  case some.method =>
    cases waits with
    | true => rfl
    | false => exact silent_perform worker _
  case some.property => exact silent_perform worker _
  all_goals rfl

private theorem serve_run (hchannel : bridge.channels.get? id = some channel) (message : Message)
    (request : Request) (waits : Bool) :
    hand.serve host answer id channel.worker message request waits frame bridge =
      hand.perform host answer id channel.worker (bridge.requested host id message request waits)
        frame bridge := by
  unfold serve Bridge.requested
  dsimp only
  split
  · exact create_run channel.worker request
  · rw [Run.bind_run (Run.bound?_run id)]
    cases (bridge.boundOf id).bind fun bound ↦ bound.instances.get? request.target with
    | none =>
      refine forward_run hchannel message [] _ ?_ rfl
      rw [Run.sayAll_nil, pure_bind]
      rfl
    | some binding =>
      cases Opcode.ofString request.opcode with
      | member name => exact congrFun (congrFun (reach_run channel.worker ..) frame) bridge
      | create => rfl
      | dispose => rfl

/-- What follows when the arrival of a message has been traced. -/
private theorem understand_run (hchannel : bridge.channels.get? id = some channel)
    (message : Message) (waits : Bool) :
    hand.understand host answer id channel.worker message waits frame bridge =
      hand.perform host answer id channel.worker (bridge.errand host id message waits) frame
        bridge := by
  unfold understand Bridge.errand
  cases message.request? with
  | ok request => exact serve_run hchannel message request waits
  | error malformation =>
    dsimp only
    split
    · rfl
    · exact forward_run hchannel message _ _ rfl rfl

/-- **Taking a message is performing its errand**, whatever it means to hand work to a worker. -/
theorem handle_run (hchannel : bridge.channels.get? id = some channel) (message : Message)
    (waits : Bool) :
    hand.handle host answer id message waits frame bridge =
      hand.perform host answer id channel.worker (bridge.errand host id message waits) frame
        (bridge.logged (ChannelId.received channel)) := by
  have hget : (get : Run σ (Bridge σ)) frame bridge = some (bridge, bridge) := rfl
  rw [handle, Run.bind_run hget, hchannel]
  unfold ChannelId.received
  dsimp only
  -- the errand does not depend on the log:
  split
  · refine understand_run ?_ message waits
    exact hchannel
  · rw [Bridge.logged_nil]
    exact understand_run hchannel message waits

end Handing

namespace ChannelId

/-- **Taking a message is running its errand.** -/
theorem handle_run (hchannel : bridge.channels.get? id = some channel) (message : Message)
    (waits : Bool) :
    handle host answer id message waits frame bridge =
      (bridge.errand host id message waits).run host answer id channel.worker frame
        (bridge.logged (received channel)) := by
  have hhandle := @Handing.handle_run _ host answer id _ frame bridge (.queued host answer) hchannel
    message waits
  rwa [Handing.perform_queued] at hhandle

/-- Without a channel nothing is taken. -/
theorem handle_run_of_none (h : bridge.channels.get? id = none) (message : Message)
    (waits : Bool) :
    handle host answer id message waits frame bridge = some (.ok none, bridge) := by
  have hget : (get : Run σ (Bridge σ)) frame bridge = some (bridge, bridge) := rfl
  rw [handle, Run.bind_run hget, h]
  rfl

end ChannelId

end ScriptBridge
