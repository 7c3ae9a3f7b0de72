import ScriptBridge.CommandLine.Arguments
import ScriptBridge.Console
import ScriptBridge.Content.Rooted
import ScriptBridge.Bridge.ScriptFile
import ScriptBridge.Settings.Reader

/-!
# Running the command line

The command line binds the console and the filesystem plugin, runs one script over a file tree and
waits for what the script left running. What it prints, how it ends and what becomes of the tree are
functions of the arguments and the tree.
-/

namespace ScriptBridge.CommandLine

/-- The version. -/
def version : String := "0.1.0"

/-- What the program prints when it is asked how it is used. -/
def helpText : List String :=
  ["Run a script with native plugins bound", "",
    "Usage: latch [OPTIONS] <SCRIPT>", "",
    "Arguments:", "  <SCRIPT>  ", "",
    "Options:", "  -s, --settings <SETTINGS>          ",
    "      --fs-namespace <FS_NAMESPACE>  [default: " ++ FileSystem.defaultPlace ++ "]",
    "      --root <ROOT>                  ",
    "  -h, --help                         Print help",
    "  -V, --version                      Print version"]

/-- How the program ends. -/
structure Outcome where
  code : Nat
  /-- What it prints. -/
  printed : List String := []
  /-- Why it failed. -/
  failure : Option String := none
  tree : Tree

/-! ## The two plugins -/

/-- The console as an object. -/
def console : ObjectRef := ⟨1, Console.description⟩

/-- The filesystem plugin as an object. -/
def fileSystem : ObjectRef := ⟨2, FileSystem.description⟩

/-- The native code of the command line, over a file tree. -/
def host (store : RootedStore) : Host Tree where
  surface typeName :=
    .ofDeclarations typeName
      (if typeName = Console.description then Console.declarations else FileSystem.declarations)
  hooks _ object := { description := object.typeName }
  get _ _ := pure .undefined
  set _ property _ := pure (.returned (.error (.readOnlyProperty property)))
  invoke object method args :=
    if object = console then do return .returned (← Console.invoke method args)
    else do
      return .returned (← FileSystem.invoke (store.within id fun _ tree => tree) method args)
  construct typeName _ := pure (.returned (.error (.unknownMember (typeName ++ " initializer"))))
  receive _ _ := pure (.returned ())

/-! ## What is printed -/

/-- Writes a character of a log line. Those that could steer a terminal are written by number. -/
def printChar (c : Char) : List Char :=
  let n := c.toNat
  if n = 0x1B then "\\x1b".toList
  else if n = 0x07 then "\\x07".toList
  else if n = 0x08 then "\\x08".toList
  else if n = 0x0C then "\\x0c".toList
  else if n = 0x7F then "\\x7f".toList
  else if 0x80 ≤ n ∧ n ≤ 0x9F then
    ['\\', 'u', '\x7b'] ++ Nat.toDigits 16 n ++ ['\x7d']
  else [c]

/-- The text of a log line. -/
def printText (text : String) : String := String.ofList (text.toList.flatMap printChar)

/-- A log entry about a topic, as lines. What follows the text of the entry stands as it is. -/
def printEntry (level : Level) (topic text : String) (field : String := "") : List String :=
  (level.name ++ " " ++ topic ++ ": " ++ printText text ++ field).splitOn "\n"

/-- An entry of the program itself, if its level is shown. -/
def programLines (limit : Level) (text : String) (field : String := "") : List String :=
  if limit.shows .info then printEntry .info "latch" text field else []

/-- The entries that scripts wrote, of the levels that are shown. -/
def scriptLines (limit : Level) (log : List Line) : List String :=
  log.flatMap fun line =>
    if line.topic = .script ∧ limit.shows line.level then
      printEntry line.level "script" line.text
    else []

/-! ## Running -/

/-- What the command line does with its plugins: the failure of binding one, or how the script
ended. -/
def session (options : Options) (settings : Settings) :
    Run Tree (Except BridgeError (Except FileFailure Unit)) := do
  let host := host { root := options.root }
  let worker ← Bridge.addWorker .queue sharedLabel
  let channel : Channel :=
    { worker, urlPrefix := settings.urlPrefix, traces := settings.traceMessages }
  match ← Bridge.load host channel console Console.place with
  | .error e => return .error e
  | .ok _ =>
    match ← Bridge.load host channel fileSystem options.place with
    | .error e => return .error e
    | .ok _ =>
      let octets := ((← get).native.read options.script).toOption
      let ended ← Bridge.runFile host octets
      Run.flush host (Bridge.answerer host) worker
      return .ok ended

/-- Runs with settings and an engine that has started; what was printed before is given. -/
def runStarted (options : Options) (settings : Settings) (tree : Tree) (greeting : List String) :
    Outcome :=
  let limit := settings.maxLevel
  let bridge : Bridge Tree := {
    native := tree
    context := some { engine := .running, realm := some .initial } }
  match Bridge.perform? (session options settings) bridge with
  | none => { code := 1, printed := greeting, failure := some "stopped", tree }
  | some (ended, bridge) =>
    let printed := greeting ++ scriptLines limit bridge.log
    match ended with
    | .error e => { code := 1, printed, failure := some e.message, tree := bridge.native }
    | .ok (.error _) =>
      { code := 1, printed, failure := some ("running " ++ options.script), tree := bridge.native }
    | .ok (.ok ()) =>
      let farewell := programLines limit "script finished" (" script=" ++ options.script)
      { code := 0, printed := printed ++ farewell, tree := bridge.native }

/-- Runs with settings. -/
def runWith (options : Options) (settings : Settings) (tree : Tree) : Outcome :=
  let greeting := programLines settings.maxLevel ("Latch Runtime v" ++ version)
  match settings.engine.fault? with
  | some fault => { code := 1, printed := greeting, failure := some fault, tree }
  | none => runStarted options settings tree greeting

/-- The settings that a file gives. -/
def loadSettings (tree : Tree) : Option String → Option Settings
  | none => some {}
  | some path => do
    let octets ← (tree.read path).toOption
    let text ← Utf8.decode? octets
    Settings.parse? text

/-- Runs a command line over a file tree. -/
def run (arguments : List String) (tree : Tree) : Outcome :=
  match Request.ofArguments arguments with
  | .misuse => { code := 2, tree }
  | .help => { code := 0, printed := helpText, tree }
  | .version => { code := 0, printed := ["latch " ++ version], tree }
  | .run options =>
    match loadSettings tree options.settings with
    | some settings => runWith options settings tree
    | none =>
      let path := options.settings.getD ""
      { code := 1, failure := some ("loading settings from " ++ path), tree }

end ScriptBridge.CommandLine
