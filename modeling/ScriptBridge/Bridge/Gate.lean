import ScriptBridge.Bridge.Run
import ScriptBridge.Json.Reader

/-!
# The gate of an engine

An engine reaches the bridge through two functions, which take a name and the text of a body. Text
that cannot be read is reported, and the message then has no body. A message to a name that no
channel handles is dropped before its body is looked at.
-/

namespace ScriptBridge.Gate

variable {σ : Type} (answer : Answerer σ)

/-- The channel that handles a name. -/
def handler? (name : String) : Run σ (Option ChannelId) := do
  return (← get).context.bind fun context => context.handlers.get? name

/-- The message of a name and the text of a body. -/
def decode (name : String) (body : Option String) : Run σ Message := do
  match body with
  | none => return ⟨name, none⟩
  | some text =>
    match Json.parse? text with
    | some json => return ⟨name, some json⟩
    | none =>
      Run.say .warn "unparseable message body"
      return ⟨name, none⟩

/-- Posts a message. -/
def post (name : String) (body : Option String) : Run σ Unit := do
  match ← handler? name with
  | none => Run.say .trace "no handler; message dropped"
  | some channel =>
    let message ← decode name body
    answer (.dispatch channel message)

/-- Posts a message and waits for the expression that answers it. -/
def postSync (name : String) (body : Option String) : Run σ String := do
  match ← handler? name with
  | none =>
    Run.say .trace "no handler; sync message dropped"
    return "undefined"
  | some channel =>
    let message ← decode name body
    answer (.dispatchSync channel message)

end ScriptBridge.Gate
