import ScriptBridge.Bridge.Gate
import ScriptBridge.Script.Gateway

/-!
# The engine at work

Text runs on the objects of the script side, which are its own in the meantime: an engine runs one
text at a time, and text that would run inside of another one waits for ever. What running text
posts goes through the gate.
-/

namespace ScriptBridge

namespace Script.Realm

/-- What is told of a value that was thrown: of an error its text. -/
def tellThrown (realm : Realm) (d : Datum) : String :=
  match d with
  | .object id =>
    match (realm.entity id).kind, (realm.find? id (.whole "message")).map Member.content with
    | .error, some (.value (.text text) _) => "Error: " ++ text.whole?.getD ""
    | _, _ => "Exception generated by the script"
  | d => "Exception generated by the script: " ++ d.plainText.whole?.getD ""

end Script.Realm

namespace Run

variable {σ : Type} (answer : Answerer σ)

/-- Takes the objects of the script side for a text that is to run. -/
def takeRealm : Run σ Script.Realm := do
  match (← get).context.bind (·.realm) with
  | none => stuck
  | some realm =>
    changeContext fun context => { context with realm := none }
    return realm

/-- Holds a dialogue with the gate. -/
def converse {α : Type} : Script.Dialogue α → Run σ α
  | .done result => return result
  | .post name body next => do
    Gate.post answer name body
    converse (next ())
  | .ask name body next => do
    let expression ← Gate.postSync answer name body
    converse (next expression)

/-- Runs a script; gives what is told of what it throws. -/
def script (text : String) : Run σ (Except String Unit) := do
  if text.toList.contains (Char.ofNat 0) then return .error "a script has no null characters"
  else
    let realm ← takeRealm
    let (ended, realm) ← converse answer ((Script.runScript text).run.run realm)
    changeContext fun context => { context with realm := some realm }
    match ended with
    | .ok _ => return .ok ()
    | .error d => return .error (realm.tellThrown d)

end Run

end ScriptBridge
