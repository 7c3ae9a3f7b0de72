import ScriptBridge.Proofs.Bindings.Refused
import ScriptBridge.Proofs.Messages.Forwarded
import ScriptBridge.Proofs.Messages.Shadowed

/-!
# Channels that are not bound

A channel that is not bound has no tables, and every way into it stops at that, each at a place of
its own: a creation at the missing binding, any other request at the missing instance, what is no
request at the missing principal, a value on its way to a script at the missing references. Here
these are put together. Whatever the channel is asked while it is not bound, the bridge stays as it
is but for lines in the log (`Knock.run_of_unbound`), and so it goes for any sequence of such
*knocks* (`Knock.runAll_of_unbound`).

A channel comes to be unbound when it is unbound, when its principal is disposed of, and when a
binding that had begun is refused (`Bridge.Vacated`).
-/

namespace ScriptBridge

variable {σ : Type}

/-! ## Literals without references -/

namespace Value

mutual

/-- The value with a text that names the type in place of each native object. -/
def veiled : Value → Value
  | .array items => .array (veiledItems items)
  | .object fields => .object (veiledFields fields)
  | .native ref => .string ("[native " ++ ref.typeName ++ "]")
  | value => value

/-- Items, each with texts in place of native objects. -/
def veiledItems : List Value → List Value
  | [] => []
  | item :: items => veiled item :: veiledItems items

/-- Fields, each with texts in place of native objects. -/
def veiledFields : List (String × Value) → List (String × Value)
  | [] => []
  | (key, value) :: fields => (key, veiled value) :: veiledFields fields

end

/-- Refers to objects where references do not exist. -/
private def veil : Resolver Unit := fun object ↦ pure (unresolved object)

/-- No engine has literals of its own but for octets. -/
private theorem literals_array (engine : Engine) (items : List Value) :
    engine.literals (.array items) = none := by cases engine <;> rfl

private theorem literals_object (engine : Engine) (fields : List (String × Value)) :
    engine.literals (.object fields) = none := by cases engine <;> rfl

private theorem literals_native (engine : Engine) (object : ObjectRef) :
    engine.literals (.native object) = none := by cases engine <;> rfl

private theorem literals_string (engine : Engine) (s : String) :
    engine.literals (.string s) = none := by cases engine <;> rfl

mutual

theorem literalWith_veiled (engine : Engine) : ∀ value : Value,
    literalWith engine.literals veil value.veiled = literalWith engine.literals veil value
  | .array items => by
    simp only [veiled, literalWith, literals_array, itemLiterals_veiled engine items]
  | .object fields => by
    simp only [veiled, literalWith, literals_object, fieldLiterals_veiled engine fields]
  | .native ref => by
    simp only [veiled, literalWith, literals_native, literals_string]
    rfl
  | .undefined | .null | .bool _ | .int _ | .float _ | .string _ | .date _ | .bytes _
  | .callback _ | .described _ => rfl

theorem itemLiterals_veiled (engine : Engine) : ∀ items : List Value,
    itemLiterals engine.literals veil (veiledItems items) = itemLiterals engine.literals veil items
  | [] => rfl
  | item :: items => by
    simp only [veiledItems, itemLiterals, literalWith_veiled engine item,
      itemLiterals_veiled engine items]

theorem fieldLiterals_veiled (engine : Engine) : ∀ fields : List (String × Value),
    fieldLiterals engine.literals veil (veiledFields fields) =
      fieldLiterals engine.literals veil fields
  | [] => rfl
  | (key, value) :: fields => by
    simp only [veiledFields, fieldLiterals, literalWith_veiled engine value,
      fieldLiterals_veiled engine fields]

end

/-- **Without references a native object is written as a text that names its type**, wherever in the
value it is. -/
theorem literalFor_veiled (engine : Engine) (value : Value) :
    value.veiled.literalFor engine.literals = value.literalFor engine.literals :=
  congrArg (fun literal : StateM Unit String ↦ (literal.run ()).1) (literalWith_veiled engine value)

end Value

/-! ## Messages that are not delivered -/

/-- Why a message is not delivered to a channel that is not bound. -/
def Message.undelivered (message : Message) : BridgeError :=
  match message.request? with
  | .error malformation => malformation.error
  | .ok request =>
    if Opcode.ofString request.opcode = .create then
      if request.target ≤ 0 then (Malformation.createAt request.target).error
      else .unknownInstance 0
    else .unknownInstance request.target

/-- No script gets to see why. -/
theorem Message.undelivered_surfaces (message : Message) :
    message.undelivered.surfaces = false := by
  refine BridgeError.surfaces_eq_false_of_isAnomaly ?_
  unfold undelivered
  split
  · rfl
  · split
    · split
      · rfl
      · rfl
    · rfl

section Unbound

variable {host : Host σ} {answer : Answerer σ} {frame : Frame} {bridge bridge' : Bridge σ}
  {c : ChannelId}

/-- **Messages of any shape are refused by a channel that is not bound.** -/
theorem Bridge.errand_of_unbound (h : bridge.boundOf c = none) (message : Message)
    (waits : Bool) : bridge.errand host c message waits = .refuse message.undelivered := by
  have hforwarding : ∀ told e, bridge.forwarding host c message told e = .refuse e := by
    intro told e
    simp only [forwarding, rawTask?, h, Option.bind_none]
  unfold errand Message.undelivered
  cases message.request? with
  | error malformation =>
    dsimp only
    rw [hforwarding, ite_self]
  | ok request =>
    dsimp only [requested]
    split
    · simp only [creation, h]
      exact (apply_ite Errand.refuse _ _ _).symm
    · simp only [h, Option.bind_none, hforwarding]

/-! ## Knocking -/

/-- What can be asked of a channel, apart from binding it. -/
inductive Knock where
  | unbind
  | post (message : Message)
  | ask (message : Message)
  | serialize (value : Value)

namespace Knock

/-- Asks, and gives the text that comes back, if one does. -/
def run (answer : Answerer σ) (c : ChannelId) : Knock → Run σ (Option String)
  | .unbind => do
    answer (.unbind c)
    return none
  | .post message => do
    answer (.dispatch c message)
    return none
  | .ask message => do
    return some (← answer (.dispatchSync c message))
  | .serialize value => do
    return some (← answer (.serialize c value))

/-- Asks one thing after the other, each wherever it may be. -/
def runAll (answer : Answerer σ) (c : ChannelId) :
    List (Frame × Knock) → Run σ (List (Option String))
  | [] => return []
  | (frame, knock) :: knocks => do
    let reply ← Run.within frame (knock.run answer c)
    let replies ← runAll answer c knocks
    return reply :: replies

/-- What comes back from a channel that is not bound. -/
def reply (engine : Engine) : Knock → Option String
  | .unbind | .post _ => none
  | .ask _ => some "undefined"
  | .serialize value => some (value.veiled.literalFor engine.literals)

/-- The lines that are logged for it. -/
def told (channel? : Option Channel) : Knock → List Line
  | .unbind | .serialize _ => []
  | .post message | .ask message =>
    match channel? with
    | none => []
    | some channel => ChannelId.received channel ++ [message.undelivered.reported]

/-- A message to a channel that is not bound is reported, and nothing else happens. -/
private theorem handle_of_unbound (h : bridge.boundOf c = none) {channel : Channel}
    (hchannel : bridge.channels.get? c = some channel) (message : Message) (waits : Bool) :
    ChannelId.handle host answer c message waits frame bridge =
      some (.error message.undelivered, bridge.logged (ChannelId.received channel)) := by
  rw [ChannelId.handle_run hchannel, Bridge.errand_of_unbound h]
  rfl

/-- **While a channel is not bound, nothing that it is asked changes anything but the log.** -/
theorem run_of_unbound (h : bridge.boundOf c = none) (levels : Nat) (knock : Knock) :
    knock.run (Bridge.answer host (levels + 2)) c frame bridge =
      some (knock.reply bridge.engine, bridge.logged (knock.told (bridge.channels.get? c))) := by
  cases knock with
  | unbind =>
    rw [told, Bridge.logged_nil]
    exact Run.bind_run (ChannelId.unbind_run_of_unbound h)
  | post message =>
    have hdispatch : ChannelId.dispatch host (Bridge.answer host (levels + 1)) c message frame
        bridge = some ((), bridge.logged ((post message).told (bridge.channels.get? c))) := by
      cases hchannel : bridge.channels.get? c with
      | none =>
        rw [told, Bridge.logged_nil]
        exact Run.bind_run (ChannelId.handle_run_of_none hchannel message false)
      | some channel =>
        rw [told, ← Bridge.logged_logged]
        exact ChannelId.dispatch_run_of_error (handle_of_unbound h hchannel message false)
    exact Run.bind_run hdispatch
  | ask message =>
    have hdispatch : ChannelId.dispatchSync host (Bridge.answer host (levels + 1)) (levels + 1) c
        message frame bridge =
          some ("undefined", bridge.logged ((ask message).told (bridge.channels.get? c))) := by
      cases hchannel : bridge.channels.get? c with
      | none =>
        rw [told, Bridge.logged_nil]
        exact ChannelId.dispatchSync_run_of_none _
          (ChannelId.handle_run_of_none hchannel message true)
      | some channel =>
        have hhandle : ChannelId.handle host (Bridge.answer host (levels + 1)) c message true frame
            bridge = _ := handle_of_unbound h hchannel message true
        rw [ChannelId.dispatchSync_run_of_error _ hhandle, message.undelivered_surfaces,
          Bridge.logged_logged]
        rfl
    exact Run.bind_run hdispatch
  | serialize value =>
    have hliteral : ChannelId.literal c bridge.engine.literals value frame bridge =
        some (value.literalFor bridge.engine.literals, bridge) := by
      rw [ChannelId.literal, Run.bind_run (Run.bound?_run c), h]
      rfl
    have hdrain : ChannelId.drain host (Bridge.answer host (levels + 1)) c bridge.engine.literals
        (levels + 1) frame bridge = some ([], bridge) :=
      ChannelId.drain_run_idle (fun bound hbound ↦ by simp [h] at hbound) _ levels
    have hexpression : ChannelId.expression host (Bridge.answer host (levels + 1)) (levels + 1) c
        value frame bridge = some (⟨[], value.literalFor bridge.engine.literals⟩, bridge) := by
      rw [ChannelId.expression, Run.bind_run Run.engineLiterals_run, Run.bind_run hliteral,
        Run.bind_run hdrain]
      rfl
    rw [told, Bridge.logged_nil, reply, Value.literalFor_veiled]
    exact Run.bind_run (Bridge.serialize_run hexpression)

/-- So it goes for any number of things, one after the other. -/
theorem runAll_of_unbound (h : bridge.boundOf c = none) (levels : Nat)
    (knocks : List (Frame × Knock)) :
    runAll (Bridge.answer host (levels + 2)) c knocks frame bridge =
      some (knocks.map fun knock ↦ knock.2.reply bridge.engine,
        bridge.logged (knocks.flatMap fun knock ↦ knock.2.told (bridge.channels.get? c))) := by
  induction knocks generalizing bridge with
  | nil => rw [List.flatMap_nil, Bridge.logged_nil]; rfl
  | cons knock knocks ih =>
    obtain ⟨frame', knock⟩ := knock
    have hfirst : Run.within frame' (knock.run (Bridge.answer host (levels + 2)) c) frame bridge =
        _ := run_of_unbound h levels knock
    have hrest := @ih (bridge.logged (knock.told (bridge.channels.get? c))) h
    rw [runAll, Run.bind_run hfirst, Run.bind_run hrest, List.flatMap_cons, ← Bridge.logged_logged]
    rfl

end Knock

/-! ## How a channel comes to be unbound -/

/-- A message that gives up the principal. -/
def Message.Disposes (message : Message) : Prop :=
  ∃ request, message.request? = .ok request ∧ request.opcode = "-" ∧ request.target = 0

/-- A channel has just been unbound: it was asked to be, its principal was disposed of, or a binding
of it that had begun was refused. -/
inductive Bridge.Vacated (host : Host σ) (c : ChannelId) : Bridge σ → Prop where
  | unbind {bridge bridge' : Bridge σ} {levels : Nat} {frame : Frame}
    (h : Bridge.answer host levels (.unbind c) frame bridge = some ((), bridge')) :
    Vacated host c bridge'
  | dispose {bridge bridge' : Bridge σ} {levels : Nat} {frame : Frame} {bound : Bound}
    {message : Message} (hbound : bridge.boundOf c = some bound) (hlive : bound.principal?.isSome)
    (hdisposes : message.Disposes)
    (h : Bridge.answer host levels (.dispatch c message) frame bridge = some ((), bridge')) :
    Vacated host c bridge'
  | disposeSync {bridge bridge' : Bridge σ} {levels : Nat} {frame : Frame} {bound : Bound}
    {message : Message} {reply : String} (hbound : bridge.boundOf c = some bound)
    (hlive : bound.principal?.isSome) (hdisposes : message.Disposes)
    (h : Bridge.answer host levels (.dispatchSync c message) frame bridge =
      some (reply, bridge')) : Vacated host c bridge'
  | refuse {bridge bridge' : Bridge σ} {levels : Nat} {frame : Frame} {channel : Channel}
    {object : ObjectRef} {place text : String} (hchannel : bridge.channels.get? c = some channel)
    (h : Bridge.answer host levels (.bind c object place) frame bridge =
      some (.error (.evaluation text), bridge')) : Vacated host c bridge'

/-- Giving up the principal ends the binding. -/
theorem ChannelId.handle_of_disposes {bound : Bound} {message : Message}
    (hbound : bridge.boundOf c = some bound) (hlive : bound.principal?.isSome)
    (hdisposes : message.Disposes) (waits : Bool) :
    ∃ after, handle host answer c message waits frame bridge = some (.ok none, after) ∧
      after.boundOf c = none := by
  obtain ⟨request, hrequest, hopcode, htarget⟩ := hdisposes
  obtain ⟨principal, hprincipal⟩ := Option.isSome_iff_exists.mp hlive
  obtain ⟨channel, hchannel, -⟩ := Option.bind_eq_some_iff.mp hbound
  have hinstance : bound.instances.get? request.target = some principal := by
    rw [htarget]
    exact hprincipal
  have hlogged : (bridge.logged (received channel)).boundOf c = some bound := hbound
  rw [handle_run hchannel, Bridge.errand_of_dispose hbound hrequest hinstance hopcode, htarget]
  refine ⟨_, Run.bind_run (unbind_run hlogged), ?_⟩
  exact Bridge.boundOf_withBound (by simp [hlogged]) none

/-- Each of the ways leaves the channel unbound. -/
theorem Bridge.Vacated.unbound (h : bridge.Vacated host c) : bridge.boundOf c = none := by
  cases h with
  | @unbind _ _ levels _ h =>
    cases levels with
    | zero => cases h
    | succ levels => exact ChannelId.unbind_unbinds c h
  | @dispose _ _ levels frame _ message hbound hlive hdisposes h =>
    cases levels with
    | zero => cases h
    | succ levels =>
      obtain ⟨after, hhandle, hafter⟩ :=
        ChannelId.handle_of_disposes hbound hlive hdisposes false
      cases (Run.bind_run hhandle).symm.trans h
      exact hafter
  | @disposeSync _ _ levels frame _ message _ hbound hlive hdisposes h =>
    cases levels with
    | zero => cases h
    | succ levels =>
      obtain ⟨after, hhandle, hafter⟩ :=
        ChannelId.handle_of_disposes hbound hlive hdisposes true
      cases (ChannelId.dispatchSync_run_of_none levels hhandle).symm.trans h
      exact hafter
  | @refuse _ _ levels _ _ _ _ _ hchannel h =>
    cases levels with
    | zero => cases h
    | succ levels =>
      -- no fault that is found before the binding begins is a failure of evaluation:
      rcases Bridge.bind_error hchannel h with ⟨-, ⟨⟩, -⟩ | ⟨-, -, ⟨⟩, -⟩ | ⟨-, -, _, _, -,
        ⟨_, -, ⟨⟩, -⟩ | ⟨-, _, _, _, _, _, -, hinstall⟩⟩
      exact ChannelId.install_unbinds hinstall

/-- **A channel that is not bound is inert**, in whatever way it has come to be so. Of anything that
it is asked, in any order, the replies and the lines in the log are all that comes: it stays without
tables, nothing is handed to a worker, no native code runs, no id is given away and no text
injected. -/
theorem Bridge.inert_of_unbound (h : bridge.boundOf c = none ∨ bridge.Vacated host c) (levels : Nat)
    (knocks : List (Frame × Knock)) :
    bridge.boundOf c = none ∧
      Knock.runAll (Bridge.answer host (levels + 2)) c knocks frame bridge =
        some (knocks.map fun knock ↦ knock.2.reply bridge.engine,
          bridge.logged (knocks.flatMap fun knock ↦ knock.2.told (bridge.channels.get? c))) := by
  have hunbound : bridge.boundOf c = none := h.elim id Vacated.unbound
  exact ⟨hunbound, Knock.runAll_of_unbound hunbound levels knocks⟩

end Unbound

/-- A request that gives up the principal. -/
def Message.leave : Message := ⟨"1", some (.object [(opcodeKey, .string "-")])⟩

/-- Somebody who takes any message leaves, and does not hear of any that comes later. -/
theorem listening_inert_of_unbound : ∃ bridge after : Bridge (Nat × List Visit),
    Bridge.answer Host.listening.watched 2 (.dispatch 0 .leave) {} Bridge.listening =
        some ((), bridge) ∧
      bridge.boundOf 0 = none ∧
      Knock.runAll (Bridge.answer Host.listening.watched 2) 0
        [({}, .unbind), ({}, .post (.stray "ask")), ({}, .ask (.stray "+")),
          ({}, .serialize (.array [.native ⟨0, "Ear"⟩]))] {} bridge =
        some ([none, none, some "undefined", some "[\"[native Ear]\"]"], after) ∧
      after.waitingOf 0 = [] ∧ after.native = (0, []) := by
  have hleft : Bridge.answer Host.listening.watched 2 (.dispatch 0 .leave) {} Bridge.listening =
    some ((), _) := rfl
  have hbound : Bridge.listening.boundOf 0 = some (Bound.start "1" "app" ⟨0, "Ear"⟩) := rfl
  have hvacated := Bridge.Vacated.dispose hbound rfl ⟨_, rfl, rfl, rfl⟩ hleft
  obtain ⟨hunbound, hinert⟩ := Bridge.inert_of_unbound (.inr hvacated) 0
    [({}, .unbind), ({}, .post (.stray "ask")), ({}, .ask (.stray "+")),
      ({}, .serialize (.array [.native ⟨0, "Ear"⟩]))]
  exact ⟨_, _, hleft, hunbound, hinert, rfl, rfl⟩

end ScriptBridge
