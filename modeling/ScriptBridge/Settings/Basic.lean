import ScriptBridge.Json.Printer
import ScriptBridge.Settings.Level

/-!
# Settings

What can be set about the bridge, every setting with a default, and the text that settings print as.
-/

namespace ScriptBridge

/-- Limits of the script engine. -/
structure EngineLimits where
  memory : Option Nat := none
  stack : Option Nat := none
  deriving DecidableEq, Repr

/-- Why an engine cannot start within limits, if it cannot. Starting takes some memory, and the
stack has to be deep enough for the script half; no stack at all stands for one without limit. -/
def EngineLimits.fault? (limits : EngineLimits) : Option String :=
  if limits.memory.any (· < leastMemory) then
    some "engine error: Allocation failed while creating object"
  else if limits.stack.any fun n => 0 < n && n < leastStack then some "Error: stack overflow"
  else none
where
  /-- The octets that an engine takes to start. -/
  leastMemory : Nat := 98304
  /-- The octets of stack that an engine takes to start. -/
  leastStack : Nat := 16384

/-- What stands before the description of a plugin in the name of its source. -/
def defaultUrlPrefix : String := "io.latch.plugin."

/-- The settings of the bridge. -/
structure Settings where
  logLevel : String := "info"
  urlPrefix : String := defaultUrlPrefix
  traceMessages : Bool := false
  engine : EngineLimits := {}
  deriving DecidableEq, Repr

namespace Settings

/-- The level that the settings ask for; a level that has no such name is `info`. -/
def maxLevel (settings : Settings) : Level := (Level.parse? settings.logLevel).getD .info

end Settings

/-- The key of each setting. -/
structure SettingKeys where
  logLevel : String := "log_level"
  urlPrefix : String := "source_url_prefix"
  traceMessages : String := "trace_messages"
  engine : String := "engine"
  memory : String := "memory_limit_bytes"
  stack : String := "max_stack_size_bytes"

/-- The keys in settings text. -/
def settingKeys : SettingKeys := {}

/-- A limit in settings text. -/
def printLimit : Option Nat → String
  | none => "null"
  | some n => toString n

/-- The limits in settings text. -/
def EngineLimits.print (limits : EngineLimits) : String :=
  "\x7b" ++ quote settingKeys.memory ++ ":" ++ printLimit limits.memory ++ "," ++
    quote settingKeys.stack ++ ":" ++ printLimit limits.stack ++ "\x7d"

/-- The settings as text: every setting, in the order of the structure. -/
def Settings.print (settings : Settings) : String :=
  "\x7b" ++ quote settingKeys.logLevel ++ ":" ++ quote settings.logLevel ++ "," ++
    quote settingKeys.urlPrefix ++ ":" ++ quote settings.urlPrefix ++ "," ++
    quote settingKeys.traceMessages ++ ":" ++
    (if settings.traceMessages then "true" else "false") ++ "," ++
    quote settingKeys.engine ++ ":" ++ settings.engine.print ++ "\x7d"

end ScriptBridge
