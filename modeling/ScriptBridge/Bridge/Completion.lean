import ScriptBridge.Bridge.Channel

/-!
# Completing callbacks

The way back from native code: it makes the script side call one of its functions, with an error or
a result as arguments. The text that does so is evaluated by a function of the script side, which is
given it as data.
-/

namespace ScriptBridge

namespace ChannelId

variable {σ : Type} (host : Host σ) (answer : Answerer σ) (patience : Nat)

/-- The text that completes a function of the script side. -/
def completion (function : Nat) (error result : String) : String :=
  scriptGlobal ++ ".complete(" ++ toString function ++ ", " ++ error ++ ", " ++ result ++ ")"

/-- Evaluates text on the script side. -/
def evaluate (text : String) : Run σ (Except BridgeError Unit) := do
  match (← get).context.map Context.engine with
  | some .running =>
    return (← Run.script answer (scriptGlobal ++ ".evaluate(" ++ quote text ++ ")")).mapError
      BridgeError.evaluation
  | _ =>
    Run.changeContext fun context => { context with evaluated := context.evaluated ++ [text] }
    return .ok ()

/-- Completes a callback, with a value or with the text of an error. Nothing can be completed
through a channel that nothing holds. -/
def complete (function : Callback) (outcome : Except String Value) :
    Run σ (Except BridgeError Unit) := do
  let bridge ← get
  let held := ((bridge.channels.get? function.channel).map (·.held)).getD false
  if ¬ held ∨ bridge.context.isNone then return .error .contextReleased
  else
    match outcome with
    | .ok value =>
      let result ← expression host answer patience function.channel value
      evaluate answer (completion function.id "null" result.text)
    | .error text =>
      evaluate answer (completion function.id ("new Error(" ++ quote text ++ ")") "undefined")

end ChannelId

end ScriptBridge
