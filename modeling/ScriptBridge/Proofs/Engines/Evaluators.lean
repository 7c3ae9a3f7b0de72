import ScriptBridge.Bridge.Perform
import ScriptBridge.Proofs.Engines.Drafts

/-!
# Engines from elsewhere

What the bridge asks of an engine is to run text. Here the functions that lead there, from the
injection of a stub to the calls of the bridge, are written with that as a parameter: an *evaluator*
says what becomes of a text that is run. With `Run.script` for it they are the functions of the
bridge (`Bridge.answerOn_script`); other evaluators stand for engines that are not part of the
bridge, of which no more is known than that they do what they are assumed to do
(`Evaluator.Accepts`). That is assumed of the texts that they are handed, which are never anything
else than the sources of stubs and completions (`Bridge.answerOn_congr`).

A context that keeps text has no engine, and no evaluator is ever asked there.
-/

namespace ScriptBridge

variable {σ : Type}

/-- What becomes of a text that is run: it succeeds, or something is told of what it throws. -/
abbrev Evaluator (σ : Type) := (text : String) → Run σ (Except String Unit)

namespace ChannelId

variable (evaluator : Evaluator σ) (host : Host σ) (answer : Answerer σ) (patience : Nat)

/-- `ChannelId.inject`, whatever runs the text. -/
def injectOn (source : Source) : Run σ (Option BridgeError) := do
  match (← get).context with
  | none => return none
  | some context =>
    match context.refusal? source with
    | some e => return some e
    | none =>
      match context.engine with
      | .recording =>
        Run.changeContext fun context => { context with injected := context.injected ++ [source] }
        return none
      | .running =>
        match ← evaluator source.text with
        | .ok () => return none
        | .error text => return some (.evaluation (source.file ++ ": " ++ text))

/-- `ChannelId.injectAll`, whatever runs the text. -/
def injectAllOn : List Source → Run σ Unit
  | [] => return
  | source :: sources => do
    match ← injectOn evaluator source with
    | none => pure ()
    | some e => Run.say .warn ("reference stub failed: " ++ e.message)
    injectAllOn sources

/-- `ChannelId.install`, whatever runs the text. -/
def installOn (id : ChannelId) (engine : EngineLiterals) (identifier place : String)
    (source : Source) : Run σ (Except BridgeError Handle) := do
  Run.changeContext fun context =>
    { context with handlers := context.handlers.insert identifier id }
  match ← injectOn evaluator source with
  | some e =>
    Run.say .error ("stub injection failed: " ++ e.message)
    unbind id
    return .error (refused e)
  | none =>
    let sources ← drain host answer id engine patience
    injectAllOn evaluator sources
    Run.say .info "plugin bound"
    return .ok { channel := id, identifier, place }

/-- The part of `bindOn` that comes when an identifier is found. -/
def beginOn (id : ChannelId) (object : ObjectRef) (place : String)
    (values : List (String × Value)) (identifier : String) : Run σ (Except BridgeError Handle) := do
  let engine ← Run.engineLiterals
  Run.setBound id (some (Bound.start identifier place object))
  match ← stub? host id engine (.plugin place) ⟨place, object⟩ values with
  | none => return .error .contextReleased
  | some source => installOn evaluator host answer patience id engine identifier place source

/-- `ChannelId.bind`, whatever runs the text. -/
def bindOn (id : ChannelId) (object : ObjectRef) (place : String) :
    Run σ (Except BridgeError Handle) := do
  if place = "" then return .error .emptyPlace
  else if (← get).context.isNone then return .error .contextReleased
  else
    let principal : Binding := ⟨place, object⟩
    let values ← principal.values host answer
    match ← Run.bound? id with
    | some bound => return .error (.alreadyBound bound.identifier)
    | none =>
      let identifier ← identifierFor host object
      beginOn evaluator host answer patience id object place values identifier

/-- `ChannelId.evaluate`, whatever runs the text. -/
def evaluateOn (text : String) : Run σ (Except BridgeError Unit) := do
  match (← get).context.map Context.engine with
  | some .running =>
    return (← evaluator (scriptGlobal ++ ".evaluate(" ++ quote text ++ ")")).mapError
      BridgeError.evaluation
  | _ =>
    Run.changeContext fun context => { context with evaluated := context.evaluated ++ [text] }
    return .ok ()

/-- `ChannelId.complete`, whatever runs the text. -/
def completeOn (function : Callback) (outcome : Except String Value) :
    Run σ (Except BridgeError Unit) := do
  let bridge ← get
  let held := ((bridge.channels.get? function.channel).map (·.held)).getD false
  if ¬ held ∨ bridge.context.isNone then return .error .contextReleased
  else
    match outcome with
    | .ok value =>
      let result ← expression host answer patience function.channel value
      evaluateOn evaluator (completion function.id "null" result.text)
    | .error text =>
      evaluateOn evaluator (completion function.id ("new Error(" ++ quote text ++ ")") "undefined")

section Script

variable {host answer patience}

theorem injectAllOn_script (sources : List Source) :
    injectAllOn (Run.script answer) sources = injectAll answer sources := by
  induction sources with
  | nil => rfl
  | cons source sources ih =>
    rw [injectAllOn, ih]
    rfl

theorem bindOn_script (id : ChannelId) (object : ObjectRef) (place : String) :
    bindOn (Run.script answer) host answer patience id object place =
      ChannelId.bind host answer patience id object place := by
  simp only [bindOn, beginOn, installOn, injectAllOn_script]
  rfl

theorem completeOn_script (function : Callback) (outcome : Except String Value) :
    completeOn (Run.script answer) host answer patience function outcome =
      complete host answer patience function outcome := rfl

end Script

end ChannelId

namespace Bridge

/-- `Bridge.answerWith`, whatever runs the text. -/
def answerWithOn (evaluator : Evaluator σ) (host : Host σ) (inner : Answerer σ) (patience : Nat) :
    Answerer σ
  | .bind channel object place =>
    ChannelId.bindOn evaluator host inner patience channel object place
  | .complete function outcome =>
    ChannelId.completeOn evaluator host inner patience function outcome
  | request => answerWith host inner patience request

/-- `Bridge.answer`, whatever runs the text. What the text posts is answered one level down. -/
def answerOn (evaluator : Answerer σ → Evaluator σ) (host : Host σ) : Nat → Answerer σ
  | 0 => fun _ => Run.stuck
  | levels + 1 => fun request =>
    answerWithOn (evaluator (answerOn evaluator host levels)) host (answerOn evaluator host levels)
      levels request

/-- **With the engine of the bridge, calls are answered as the bridge answers them.** -/
theorem answerOn_script (host : Host σ) (levels : Nat) :
    answerOn Run.script host levels = Bridge.answer host levels := by
  induction levels with
  | zero => rfl
  | succ levels ih =>
    funext request
    rw [answerOn, ih]
    cases request with
    | bind channel object place => exact ChannelId.bindOn_script channel object place
    | complete function outcome => exact ChannelId.completeOn_script function outcome
    | unbind channel => rfl
    | dispatch channel message => rfl
    | dispatchSync channel message => rfl
    | serialize channel value => rfl
    | steer injection => rfl

/-- The bridge with other objects on the script side. -/
def withRealm (realm : Option Script.Realm) (bridge : Bridge σ) : Bridge σ :=
  { bridge with context := bridge.context.map fun context => { context with realm } }

end Bridge

/-! ## Texts that are handed over -/

/-- The texts that an engine can be given to run: the sources of stubs, and completions. -/
inductive Awaited : String → Prop where
  | stub (draft : StubDraft) (engine : Engine) : Awaited (draft.source engine).text
  | completion (function : Nat) (error result : String) :
    Awaited (scriptGlobal ++ ".evaluate(" ++
      quote (ChannelId.completion function error result) ++ ")")

section Agreement

variable {evaluator other : Evaluator σ} {host : Host σ} {answer : Answerer σ} {patience : Nat}
  (h : ∀ text, Awaited text → other text = evaluator text)
include h

namespace ChannelId

theorem injectOn_congr {source : Source} (hsource : Awaited source.text) :
    injectOn other source = injectOn evaluator source := by
  unfold injectOn
  rw [h _ hsource]

theorem injectAllOn_congr (engine : Engine) (stubs : List StubDraft) :
    injectAllOn other (stubs.map (·.source engine)) =
      injectAllOn evaluator (stubs.map (·.source engine)) := by
  induction stubs with
  | nil => rfl
  | cons stub stubs ih =>
    rw [List.map_cons, injectAllOn, injectAllOn, injectOn_congr h (.stub stub engine), ih]

theorem installOn_congr (id : ChannelId) (engine : Engine) (identifier place : String)
    {source : Source} (hsource : Awaited source.text) :
    installOn other host answer patience id engine.literals identifier place source =
      installOn evaluator host answer patience id engine.literals identifier place source := by
  unfold installOn
  rw [injectOn_congr h hsource, drain_eq]
  simp only [bind_assoc, pure_bind, injectAllOn_congr h]

theorem beginOn_congr (id : ChannelId) (object : ObjectRef) (place : String)
    (values : List (String × Value)) (identifier : String) :
    beginOn other host answer patience id object place values identifier =
      beginOn evaluator host answer patience id object place values identifier := by
  funext frame bridge
  rw [beginOn, beginOn, Run.bind_run Run.engineLiterals_run, Run.bind_run Run.engineLiterals_run]
  refine congrFun (congrFun (bind_congr fun _ ↦ ?_) frame) bridge
  rw [stub?_eq]
  simp only [bind_assoc, pure_bind]
  refine bind_congr fun draft? ↦ ?_
  cases draft? with
  | none => rfl
  | some draft => exact installOn_congr h id bridge.engine identifier place (.stub draft _)

theorem bindOn_congr (id : ChannelId) (object : ObjectRef) (place : String) :
    bindOn other host answer patience id object place =
      bindOn evaluator host answer patience id object place := by
  simp only [bindOn, beginOn_congr h]

theorem completeOn_congr (function : Callback) (outcome : Except String Value) :
    completeOn other host answer patience function outcome =
      completeOn evaluator host answer patience function outcome := by
  simp only [completeOn, evaluateOn, h _ (.completion function.id _ _)]

end ChannelId

theorem Bridge.answerWithOn_congr :
    answerWithOn other host answer patience = answerWithOn evaluator host answer patience := by
  funext request
  cases request with
  | bind channel object place => exact ChannelId.bindOn_congr h channel object place
  | complete function outcome => exact ChannelId.completeOn_congr h function outcome
  | unbind channel => rfl
  | dispatch channel message => rfl
  | dispatchSync channel message => rfl
  | serialize channel value => rfl
  | steer injection => rfl

end Agreement

/-- **No other texts are handed over.** Engines that make the same of the sources of stubs and of
completions lead to the same answers. -/
theorem Bridge.answerOn_congr {evaluator other : Answerer σ → Evaluator σ}
    (h : ∀ answer text, Awaited text → other answer text = evaluator answer text) (host : Host σ)
    (levels : Nat) : answerOn other host levels = answerOn evaluator host levels := by
  induction levels with
  | zero => rfl
  | succ levels ih =>
    funext request
    rw [answerOn, answerOn, ih, answerWithOn_congr (h _)]

/-- The engine accepts texts that it is handed. Running them posts nothing: it changes the objects
of the script side, and something may be logged. -/
def Evaluator.Accepts (evaluator : Evaluator σ) (Handed : String → Prop) : Prop :=
  ∀ text, Handed text → ∀ frame bridge, bridge.engine = .running → ∃ realm lines,
    evaluator text frame bridge = some (.ok (), (bridge.withRealm realm).logged lines)

/-- What a text leaves behind on the script side if nobody listens to it: what it posts gets lost,
and what it asks for is undefined. -/
def Script.Realm.alone (text : String) (realm : Script.Realm) : Script.Realm :=
  (((Script.runScript text).run.run realm).alone "undefined").2

/-- An engine whose scripts are not listened to, whatever they post or throw. -/
def Evaluator.alone : Evaluator σ := fun text => do
  Run.changeContext fun context => { context with realm := context.realm.map (.alone text) }
  return .ok ()

theorem Evaluator.alone_accepts (Handed : String → Prop) :
    (alone : Evaluator σ).Accepts Handed := by
  intro text _ frame bridge hengine
  have hrun : alone text frame bridge = some (.ok (), { bridge with
      context := bridge.context.map fun context ↦
        { context with realm := context.realm.map (.alone text) } }) := rfl
  cases hcontext : bridge.context with
  | none => simp [Bridge.engine, hcontext] at hengine
  | some context =>
    refine ⟨context.realm.map (.alone text), [], ?_⟩
    rw [hrun, Bridge.logged_nil, Bridge.withRealm, hcontext]
    rfl

open Classical in
/-- The engine for the texts that it is handed, and for all others one that accepts them. -/
noncomputable def Evaluator.completed (Handed : String → Prop) (evaluator : Evaluator σ) :
    Evaluator σ :=
  fun text ↦ if Handed text then evaluator text else alone text

theorem Evaluator.completed_eq {Handed : String → Prop} (evaluator : Evaluator σ) {text : String}
    (h : Handed text) : evaluator.completed Handed text = evaluator text := if_pos h

theorem Evaluator.Accepts.completed {evaluator : Evaluator σ} {Handed : String → Prop}
    (h : evaluator.Accepts Handed) (Other : String → Prop) :
    (evaluator.completed Handed).Accepts Other := by
  intro text hother frame bridge hengine
  unfold Evaluator.completed
  split
  · next hhanded => exact h text hhanded frame bridge hengine
  · exact alone_accepts Other text hother frame bridge hengine

end ScriptBridge
