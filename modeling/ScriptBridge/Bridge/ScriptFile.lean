import ScriptBridge.Bridge.Perform
import ScriptBridge.Text.Utf8

/-!
# Script files

A script file is run as a whole on the script side, where the plugins are that have been bound. What
it calls reaches native code as messages. The first failure ends the script; what was sent before
still runs.
-/

namespace ScriptBridge

/-- Why a script file did not run to its end. -/
inductive FileFailure where
  /-- The file is not there or is no text. -/
  | unreadable
  /-- It is no script, or it failed. -/
  | failed
  deriving DecidableEq, Repr

namespace Bridge

variable {σ : Type}

/-- Runs the text of a script file. -/
def runFile (host : Host σ) (octets : Option (List UInt8)) : Run σ (Except FileFailure Unit) := do
  match octets.bind Utf8.decode? with
  | none => return .error .unreadable
  | some text => return (← Run.script (answerer host) text).mapError fun _ => .failed

end Bridge

end ScriptBridge
