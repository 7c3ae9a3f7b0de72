import ScriptBridge.Native
import ScriptBridge.Surface.Declared
import ScriptBridge.Value.Literal

/-!
# The console plugin

What scripts write goes to the log, at the level that the method names. Text is written as it is
and other values as their literals.
-/

namespace ScriptBridge.Console

/-- Where the plugin is bound. -/
def place : String := "console"

/-- The plugin's name in the names of its sources. -/
def description : String := "Console"

/-- The methods and the level that each writes at. -/
def methods : List (String × Level) :=
  [("log", .info), ("info", .info), ("debug", .debug), ("warn", .warn), ("error", .error)]

/-- The members of the plugin. -/
def declarations : List Declaration := methods.map fun (name, _) => .variadicCommand name

/-- One argument as it is written. -/
def renderOne : Value → String
  | .string text => text
  | value => value.literal

/-- Arguments as they are written. -/
def render (args : List Value) : String := " ".intercalate (args.map renderOne)

/-- Runs a method of the plugin. -/
def invoke {σ : Type} (method : String) (args : List Value) : Native σ (Except BridgeError Value) :=
  match methods.lookup method with
  | some level => .log ⟨level, .script, render args⟩ (.done (.ok .undefined))
  | none => pure (.error (.unknownMember method))

end ScriptBridge.Console
