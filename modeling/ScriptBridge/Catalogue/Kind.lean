import ScriptBridge.Console
import ScriptBridge.Content.FileSystem
import ScriptBridge.Surface.Declared

/-!
# The catalogue of plugins: kinds and surfaces

A set of plugins that together use everything the bridge offers: plain methods and properties,
initializers, objects that are functions, names that need quoting, objects that hand out objects,
hooks, callbacks, panics and code that re-enters the bridge. What the types are called is left to
the user of the catalogue.
-/

namespace ScriptBridge.Catalogue

/-- The kinds of plugin. -/
inductive Kind where
  | greeter
  | counter
  | shadowed
  | empty
  | doubler
  | wrap
  | registry
  | weird
  | journal
  | bag
  | console
  | shelf
  | files
  deriving DecidableEq, Repr

namespace Kind

/-- All kinds, with the short name of each. -/
def all : List (String × Kind) :=
  [("Greeter", .greeter), ("Counter", .counter), ("Shadowed", .shadowed), ("Empty", .empty),
    ("Doubler", .doubler), ("Wrap", .wrap), ("Registry", .registry), ("Weird", .weird),
    ("Journal", .journal), ("Bag", .bag), ("Console", .console), ("MemFs", .shelf), ("Fs", .files)]

/-- The kind of a short name. -/
def ofName? (name : String) : Option Kind := all.lookup name

/-- The methods of the object with unusual names. -/
def weirdMethods : List String :=
  ["+", "-", "a\"b", "back\\slash", "new\nline", "été", "😀", "with space", "#1s", "$opcode"]

/-- The property with an unusual name. -/
def weirdProperty : String := "\x00ctl"

/-- What the object with unusual names is called. -/
def weirdDescription : String := "weird \"plugin\" é"

/-- What each kind declares. -/
def declarations : Kind → List Declaration
  | .greeter =>
    [.method "greet" 1, .method "fail" 1, .writableProperty "greeting", .property "version"]
  | .counter => [.initializer 1, .command "increment" 1, .method "get" 0, .property "value"]
  | .shadowed =>
    [.command "twice" 0, .method "twice" 1, .method "once" 0, .initializer 0, .call 1]
  | .empty => []
  | .doubler => [.call 1, .method "half" 1]
  | .wrap => [.command "noop" 0]
  | .registry => [.method "child" 0, .method "make" 0, .method "all" 0, .property "favorite"]
  | .weird => .property weirdProperty :: weirdMethods.map (.method · 2)
  | .journal => [.initializer 0, .command "work" 0, .command "note" 1]
  | .bag =>
    [.method "get" 1, .command "put" 2, .variadicMethod "args", .variadicMethod "kinds",
      .variadicCommand "record", .method "pair" 2, .method "thread" 0, .method "fail" 1,
      .method "deny" 1, .method "panic" 1, .variadicCommand "keep", .command "finish" 2,
      .method "reenter" 1, .method "repost" 1, .method "show" 1, .writableProperty "slot",
      .property "peer", .property "live"]
  | .console => Console.declarations
  | .shelf | .files => FileSystem.declarations

end Kind

/-- What the types of the catalogue are called. -/
abbrev TypeNames := Kind → String

/-- The kind with a type name. -/
def TypeNames.kind? (names : TypeNames) (typeName : String) : Option Kind :=
  (Kind.all.find? fun (_, kind) => names kind = typeName).map (·.2)

/-- The surface of a type. Types that are not in the catalogue have nothing on it. -/
def TypeNames.surface (names : TypeNames) (typeName : String) : Surface :=
  .ofDeclarations typeName (((names.kind? typeName).map Kind.declarations).getD [])

/-- The text after the last double colon of a name. -/
def lastSegment (name : List Char) : List Char :=
  match name with
  | [] => []
  | ':' :: ':' :: rest => lastSegment rest
  | c :: rest =>
    let tail := lastSegment rest
    if hasMark rest then tail else c :: tail
where
  /-- Whether a double colon follows. -/
  hasMark : List Char → Bool
    | ':' :: ':' :: _ => true
    | _ :: rest => hasMark rest
    | [] => false

/-- What an object is called unless it says otherwise: the last part of its type's name. -/
def defaultDescription (typeName : String) : String := String.ofList (lastSegment typeName.toList)

end ScriptBridge.Catalogue
