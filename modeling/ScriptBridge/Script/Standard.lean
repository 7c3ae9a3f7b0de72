import ScriptBridge.Script.Library

/-!
# What a realm has from the start

The global object with its functions and constants, and the objects from which all others take
members. Many of the functions are there by name only: scripts that only call native code have no
use for them, but their names are taken, and members can be added to them.
-/

namespace ScriptBridge.Script

namespace Standard

open Realm

/-- A function as it is announced: its name, how many arguments it wants, and what it does. -/
structure Provided where
  name : String
  length : Nat
  builtin : Builtin := .other

/-- Functions that are there by name only. -/
def named (names : List String) : List Provided := names.map (⟨·, 1, .other⟩)

/-! ## The functions -/

/-- The functions of all objects. -/
def ofObjects : List Provided :=
  [⟨"toString", 0, .showObject⟩, ⟨"toLocaleString", 0, .showLocally⟩, ⟨"valueOf", 0, .itself⟩,
    ⟨"hasOwnProperty", 1, .hasMember⟩, ⟨"isPrototypeOf", 1, .isParentOf⟩,
    ⟨"propertyIsEnumerable", 1, .isEnumerable⟩, ⟨"__defineGetter__", 2, .defineReader⟩,
    ⟨"__defineSetter__", 2, .defineWriter⟩, ⟨"__lookupGetter__", 1, .findReader⟩,
    ⟨"__lookupSetter__", 1, .findWriter⟩]

/-- The functions about objects. -/
def aboutObjects : List Provided :=
  [⟨"create", 2, .create⟩, ⟨"getPrototypeOf", 1, .parentOf⟩, ⟨"setPrototypeOf", 2, .setParentOf⟩,
    ⟨"defineProperty", 3, .defineMember⟩, ⟨"getOwnPropertyNames", 1, .namesOf⟩,
    ⟨"keys", 1, .keysOf⟩, ⟨"values", 1, .valuesOf⟩, ⟨"entries", 1, .entriesOf⟩,
    ⟨"isExtensible", 1, .isExtensible⟩, ⟨"preventExtensions", 1, .preventExtensions⟩,
    ⟨"getOwnPropertyDescriptor", 2, .describeMember⟩, ⟨"is", 2, .areSame⟩,
    ⟨"assign", 2, .assignAll⟩, ⟨"seal", 1, .seal⟩, ⟨"freeze", 1, .freeze⟩,
    ⟨"isFrozen", 1, .isFrozen⟩, ⟨"hasOwn", 2, .hasOwn⟩] ++
  named ["defineProperties", "getOwnPropertySymbols", "groupBy", "getOwnPropertyDescriptors",
    "isSealed", "fromEntries"]

/-- The functions of functions. -/
def ofFunctions : List Provided :=
  [⟨"call", 1, .call⟩, ⟨"apply", 2, .apply⟩, ⟨"bind", 1, .bind⟩, ⟨"toString", 0, .showFunction⟩]

/-- The functions of lists. -/
def ofLists : List Provided :=
  [⟨"concat", 1, .concat⟩, ⟨"forEach", 1, .forEach⟩, ⟨"map", 1, .map⟩, ⟨"filter", 1, .filter⟩,
    ⟨"indexOf", 1, .indexOf⟩, ⟨"includes", 1, .includes⟩, ⟨"join", 1, .join⟩,
    ⟨"toString", 0, .showList⟩, ⟨"toLocaleString", 0, .joinLocally⟩, ⟨"pop", 0, .pop⟩,
    ⟨"push", 1, .push⟩, ⟨"slice", 2, .slice⟩] ++
  named ["at", "with", "every", "some", "reduce", "reduceRight", "fill", "find", "findIndex",
    "findLast", "findLastIndex", "lastIndexOf", "shift", "unshift", "reverse", "toReversed", "sort",
    "toSorted", "splice", "toSpliced", "copyWithin", "flatMap", "flat", "values", "keys",
    "entries"]

/-- The functions of octets. -/
def ofOctets : List Provided :=
  [⟨"join", 1, .join⟩, ⟨"toString", 0, .showList⟩, ⟨"toLocaleString", 0, .joinLocally⟩,
    ⟨"indexOf", 1, .indexOf⟩, ⟨"includes", 1, .includes⟩] ++
  named ["at", "with", "set", "values", "keys", "entries", "copyWithin", "every", "some", "forEach",
    "map", "filter", "reduce", "reduceRight", "fill", "find", "findIndex", "findLast",
    "findLastIndex", "reverse", "toReversed", "slice", "subarray", "sort", "toSorted",
    "lastIndexOf"]

/-- The functions of texts. -/
def ofTexts : List Provided :=
  [⟨"charCodeAt", 1, .charCodeAt⟩, ⟨"charAt", 1, .charAt⟩, ⟨"concat", 1, .concatText⟩,
    ⟨"indexOf", 1, .indexOfText⟩, ⟨"lastIndexOf", 1, .lastIndexOfText⟩,
    ⟨"includes", 1, .includesText⟩, ⟨"split", 2, .splitText⟩, ⟨"slice", 2, .sliceText⟩,
    ⟨"toString", 0, .showText⟩, ⟨"valueOf", 0, .showText⟩] ++
  named ["at", "codePointAt", "isWellFormed", "toWellFormed", "endsWith", "startsWith", "match",
    "matchAll", "search", "substring", "substr", "repeat", "replace", "replaceAll", "padEnd",
    "padStart", "trim", "trimEnd", "trimRight", "trimStart", "trimLeft", "localeCompare",
    "toLowerCase", "toUpperCase", "toLocaleLowerCase", "toLocaleUpperCase", "normalize", "anchor",
    "big", "blink", "bold", "fixed", "fontcolor", "fontsize", "italics", "link", "small", "strike",
    "sub", "sup"]

/-- The functions of numbers. -/
def ofNumbers : List Provided :=
  [⟨"toString", 1, .showNumber⟩, ⟨"toLocaleString", 0, .showNumber⟩,
    ⟨"valueOf", 0, .numberItself⟩] ++
  named ["toExponential", "toFixed", "toPrecision"]

/-- The functions of truth values. -/
def ofBools : List Provided := [⟨"toString", 0, .showBool⟩, ⟨"valueOf", 0, .boolItself⟩]

/-- The functions of everything. -/
def ofEverything : List Provided :=
  [⟨"eval", 1, .evaluate⟩, ⟨"isNaN", 1, .isNotANumber⟩] ++
  named ["parseInt", "parseFloat", "isFinite", "decodeURI", "decodeURIComponent", "encodeURI",
    "encodeURIComponent", "escape", "unescape", "Proxy"]

/-- Further functions that make something. -/
def makers : List String :=
  ["Symbol", "Date", "RegExp", "Map", "Set", "WeakMap", "WeakSet", "WeakRef",
    "ArrayBuffer", "SharedArrayBuffer", "Uint8ClampedArray", "Int8Array", "Int16Array",
    "Uint16Array", "Int32Array", "Uint32Array", "BigInt64Array", "BigUint64Array", "Float32Array",
    "Float64Array", "DataView", "Promise", "BigInt", "FinalizationRegistry"]

/-- The objects that keep functions together, with the names of these. -/
def collections : List (String × List Provided) :=
  [("Math", named ["min", "max", "abs", "floor", "ceil", "round", "sqrt", "acos", "asin", "atan",
      "atan2", "cos", "exp", "log", "pow", "sin", "tan", "trunc", "sign", "cosh", "sinh", "tanh",
      "acosh", "asinh", "atanh", "expm1", "log1p", "log2", "log10", "cbrt", "hypot", "random",
      "fround", "imul", "clz32"]),
    ("JSON", ⟨"stringify", 3, .stringify⟩ :: named ["parse"]),
    ("Reflect", named ["apply", "construct", "defineProperty", "deleteProperty", "get",
      "getOwnPropertyDescriptor", "getPrototypeOf", "has", "isExtensible", "ownKeys",
      "preventExtensions", "set", "setPrototypeOf"]),
    ("Atomics", named ["add", "and", "or", "sub", "xor", "exchange", "compareExchange", "load",
      "store", "isLockFree", "wait", "notify"])]

/-- The constants of mathematics. -/
def mathConstants : List (String × Float) :=
  [("E", 2.718281828459045), ("LN10", 2.302585092994046), ("LN2", 0.6931471805599453),
    ("LOG2E", 1.4426950408889634), ("LOG10E", 0.4342944819032518), ("PI", 3.141592653589793),
    ("SQRT1_2", 0.7071067811865476), ("SQRT2", 1.4142135623730951)]

/-- The constants about numbers. -/
def numberConstants : List (String × Float) :=
  [("MAX_VALUE", 1.7976931348623157e308), ("MIN_VALUE", 5e-324), ("NaN", Numeral.notANumber),
    ("NEGATIVE_INFINITY", -Numeral.infinity), ("POSITIVE_INFINITY", Numeral.infinity),
    ("EPSILON", 2.220446049250313e-16), ("MAX_SAFE_INTEGER", 9007199254740991),
    ("MIN_SAFE_INTEGER", -9007199254740991)]

/-! ## Putting them together -/

open Act

/-- Adds a function to an object. -/
def provide (id : ObjectId) (provided : Provided) : Act Unit := do
  let function ← addPlainFunction (.builtin provided.builtin) provided.name provided.length
  put id (.whole provided.name) (.hidden (.object function))

/-- Adds functions to an object. -/
def provideAll (id : ObjectId) (all : List Provided) : Act Unit := all.forM (provide id)

/-- Adds constants to an object. -/
def provideConstants (id : ObjectId) (all : List (String × Float)) : Act Unit :=
  all.forM fun (name, f) => put id (.whole name) (.fixed (.number f))

/-- Adds a global function that makes things which take members from an object. -/
def provideMaker (provided : Provided) (parent : ObjectId) : Act ObjectId := do
  let maker ← addPlainFunction (.builtin provided.builtin) provided.name provided.length
  put maker (.whole "prototype") (.fixed (.object parent))
  put parent (.whole "constructor") (.hidden (.object maker))
  put globalObject (.whole provided.name) (.hidden (.object maker))
  return maker

/-- The objects that come first, still without members. -/
def firstEntities : Array Entity :=
  let plain : Entity := { parent := some objectParent }
  #[plain,
    { parent := none },
    { kind := .function (.builtin .idle), parent := some objectParent },
    { kind := .list #[], parent := some objectParent },
    { kind := .boxed (.string ""), parent := some objectParent },
    { kind := .boxed (.number 0), parent := some objectParent },
    { kind := .boxed (.bool false), parent := some objectParent },
    plain, plain, plain] ++
  (Array.replicate (ErrorKind.all.length - 1)
    ({ parent := some (errorParent .error) } : Entity))

/-- Adds a member that functions read and write. -/
def provideAccessor (id : ObjectId) (name : String) (reader writer : Option Builtin) :
    Act Unit := do
  let function (verb : String) (length : Nat) : Option Builtin → Act Datum
    | none => return .undefined
    | some b => do return .object (← addPlainFunction (.builtin b) (verb ++ name) length)
  let reader ← function "get " 0 reader
  let writer ← function "set " 1 writer
  put id (.whole name) ⟨.accessor reader writer, false, true⟩

/-- Adds the errors of a kind. -/
def provideErrors (kind : ErrorKind) : Act Unit := do
  let parent := errorParent kind
  let maker ← provideMaker ⟨kind.name, 1, .makeError kind⟩ parent
  put parent (.whole "name") (.hidden (.string kind.name))
  put parent (.whole "message") (.hidden (.string ""))
  if kind ≠ .error then
    match (← entity globalObject).added? (.whole "Error") with
    | some ⟨.value (.object general) _, _, _⟩ =>
      change maker fun e => { e with parent := some general }
    | _ => return

/-- Adds an object that keeps functions together. -/
def provideCollection (name : String) (all : List Provided) : Act ObjectId := do
  let id ← add { parent := some objectParent }
  provideAll id all
  put globalObject (.whole name) (.hidden (.object id))
  return id

/-- Adds everything that a realm has from the start. -/
def build : Act Unit := do
  put functionParent (.whole "length") (.note (.ofNat 0))
  put functionParent (.whole "name") (.note (.string ""))
  provideAll objectParent ofObjects
  provideAccessor objectParent "__proto__" (some .readParent) (some .writeParent)
  provideAll functionParent ofFunctions
  provideAccessor functionParent "caller" (some .refuse) (some .refuse)
  provideAccessor functionParent "arguments" (some .refuse) (some .refuse)
  provideAll listParent ofLists
  provideAll textParent ofTexts
  provideAll numberParent ofNumbers
  provideAll boolParent ofBools
  provideAll octetsParent ofOctets
  provideAccessor octetsParent "length" (some .countOctets) none
  provideAll globalObject ofEverything
  provideConstants globalObject [("Infinity", Numeral.infinity), ("NaN", Numeral.notANumber)]
  put globalObject (.whole "undefined") (.fixed .undefined)
  put globalObject (.whole "globalThis") (.hidden (.object globalObject))
  let objects ← provideMaker ⟨"Object", 1, .makeObject⟩ objectParent
  provideAll objects aboutObjects
  discard (provideMaker ⟨"Function", 1, .makeFunction⟩ functionParent)
  ErrorKind.all.forM provideErrors
  provideAll (errorParent .error) [⟨"toString", 0, .showError⟩]
  let lists ← provideMaker ⟨"Array", 1, .makeList⟩ listParent
  provideAll lists (⟨"isArray", 1, .isList⟩ :: named ["from", "of"])
  let numbers ← provideMaker ⟨"Number", 1, .makeNumber⟩ numberParent
  provideAll numbers (named ["parseInt", "parseFloat", "isNaN", "isFinite", "isInteger",
    "isSafeInteger"])
  provideConstants numbers numberConstants
  discard (provideMaker ⟨"Boolean", 1, .makeBool⟩ boolParent)
  let texts ← provideMaker ⟨"String", 1, .makeText⟩ textParent
  provideAll texts (named ["fromCharCode", "fromCodePoint", "raw"])
  let octets ← provideMaker ⟨"Uint8Array", 3, .makeOctets⟩ octetsParent
  provideConstants octets [("BYTES_PER_ELEMENT", 1)]
  provideConstants octetsParent [("BYTES_PER_ELEMENT", 1)]
  for name in makers do
    let parent ← if name = "RegExp" then pure patternParent else add { parent := some objectParent }
    discard (provideMaker ⟨name, 1, .other⟩ parent)
  for (name, all) in collections do
    let id ← provideCollection name all
    if name = "Math" then provideConstants id mathConstants

end Standard

namespace Realm

/-- A realm in which nothing has run. -/
def standard : Realm :=
  ((Standard.build.run.run { objects := Standard.firstEntities }).alone "").2

end Realm

end ScriptBridge.Script
