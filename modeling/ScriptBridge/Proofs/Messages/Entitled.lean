import Mathlib.Data.List.Forall2
import ScriptBridge.Proofs.Messages.Errands
import ScriptBridge.Proofs.Messages.Visits
import ScriptBridge.Proofs.Surfaces.Declared

/-!
# What a message is entitled to

What scripts can make native code do is written down where members are declared. A message reaches
at most one member, and which one that is, and with what arguments, follows from the declarations:
`Bridge.Entitles` says so without mentioning surfaces, errands, workers or the order in which a
channel looks at a message. Everything else that a script may try reaches nothing.

Raw messages and the properties that are read for stubs are not what this is about: the former are
requests for nothing, and the latter are read for the reply.
-/

namespace ScriptBridge

variable {σ α β : Type}

/-! ## What messages are entitled to -/

/-- A declaration that is the only one of its name. -/
def Declares (declarations : List Declaration) (name : String) (member : Member) : Prop :=
  declarations.filter (·.name = name) = [⟨name, member⟩]

mutual

/-- What native code gets for the data of a script: the same data, in which a whole number is a
signed word if there is one for it, and else a double. -/
inductive Converts : Json → Value → Prop where
  | null : Converts .null .null
  | bool (b : Bool) : Converts (.bool b) (.bool b)
  | word (n : Int64) : Converts (.int n.toInt) (.int n)
  | beyond {n : Int} (h : ∀ word : Int64, word.toInt ≠ n) :
    Converts (.int n) (.float n.toNat.toUInt64.toFloat)
  | float (f : Float) : Converts (.float f) (.float f)
  | string (s : String) : Converts (.string s) (.string s)
  | array {items : List Json} {values : List Value} (h : ConvertsItems items values) :
    Converts (.array items) (.array values)
  | object {fields : List (String × Json)} {values : List (String × Value)}
    (h : ConvertsFields fields values) : Converts (.object fields) (.object values)

/-- What native code gets for items. -/
inductive ConvertsItems : List Json → List Value → Prop where
  | nil : ConvertsItems [] []
  | cons {item : Json} {items : List Json} {value : Value} {values : List Value}
    (h : Converts item value) (hrest : ConvertsItems items values) :
    ConvertsItems (item :: items) (value :: values)

/-- What native code gets for fields. -/
inductive ConvertsFields : List (String × Json) → List (String × Value) → Prop where
  | nil : ConvertsFields [] []
  | cons {key : String} {field : Json} {fields : List (String × Json)} {value : Value}
    {values : List (String × Value)} (h : Converts field value)
    (hrest : ConvertsFields fields values) :
    ConvertsFields ((key, field) :: fields) ((key, value) :: values)

end

/-- What a property is set to: what the operand stands for, and `undefined` if there is none. -/
inductive Assigns : Option Json → Value → Prop where
  | absent : Assigns none .undefined
  | present {operand : Json} {value : Value} (h : Converts operand value) :
    Assigns (some operand) value

/-- What a method receives for an argument. An object whose only field marks it as a function, with
a whole number that is not negative, arrives as a callback. -/
inductive Received (c : ChannelId) : Value → Value → Prop where
  | function {number : Value} {n : Int64} (hnumber : number.word? = some n) (hn : 0 ≤ n) :
    Received c (.object [(ChannelId.callbackKey, number)]) (.callback ⟨n.toNatClampNeg, c⟩)
  | plain {value : Value} (h : ∀ number n, value = .object [(ChannelId.callbackKey, number)] →
    number.word? = some n → ¬ 0 ≤ n) : Received c value value

/-- Arguments as they are passed to a member of an arity: any number of them if it is variadic, and
else filled up with `undefined`, which no surplus of arguments can be. -/
inductive Fits : Option Nat → List Value → List Value → Prop where
  | variadic (args : List Value) : Fits none args args
  | filled (args : List Value) (missing : Nat) :
    Fits (some (args.length + missing)) args (args ++ List.replicate missing .undefined)

/-- The items of the operand, if it is an array. -/
def Request.items (request : Request) : List Json :=
  match request.operand with
  | some (.array items) => items
  | _ => []

/-- **What a request is entitled to**, given what has been declared of each type. -/
inductive Request.Entitles (declared : String → List Declaration) (c : ChannelId) (bound : Bound)
    (request : Request) : Execution → Prop where
  /-- A property that was declared once, and as writable, is written. -/
  | write {binding : Binding} {value : Value} (hcreate : request.opcode ≠ "+")
    (hdispose : request.opcode ≠ "-")
    (hlive : bound.instances.get? request.target = some binding)
    (hdeclared : Declares (declared binding.object.typeName) request.opcode (.property true))
    (hvalue : Assigns request.operand value) :
    Entitles declared c bound request (.write binding.object request.opcode value)
  /-- A method that was declared once is called. -/
  | call {binding : Binding} {arity : Option Nat} {returns : Bool}
    {items args fitted : List Value}
    (hcreate : request.opcode ≠ "+") (hdispose : request.opcode ≠ "-")
    (hlive : bound.instances.get? request.target = some binding)
    (hdeclared : Declares (declared binding.object.typeName) request.opcode
      (.method arity returns))
    (hitems : ConvertsItems request.items items) (hargs : List.Forall₂ (Received c) items args)
    (hfits : Fits arity args fitted) :
    Entitles declared c bound request (.call binding.object request.opcode fitted)
  /-- The initializer of the principal's type makes an instance, if it was declared once and no
  other member was declared without a name. -/
  | make {principal : Binding} {arity : Nat} {args fitted : List Value}
    (hcreate : request.opcode = "+") (htarget : 0 < request.target)
    (hprincipal : bound.instances.get? 0 = some principal)
    (hdeclared : Declares (declared principal.object.typeName) "" (.initializer arity))
    (hargs : ConvertsItems request.items args) (hfits : Fits (some arity) args fitted) :
    Entitles declared c bound request (.make principal.object.typeName fitted)

/-- What a message is entitled to on a channel. -/
def Bridge.Entitles (declared : String → List Declaration) (c : ChannelId) (message : Message)
    (bridge : Bridge σ) (execution : Execution) : Prop :=
  ∃ bound request, bridge.boundOf c = some bound ∧ message.request? = .ok request ∧
    request.Entitles declared c bound execution

/-! ## Converting -/

/-- There is a signed word for a whole number exactly if the number fits one. -/
theorem fitsWord_iff_exists {n : Int} : fitsWord n = true ↔ ∃ word : Int64, word.toInt = n := by
  rw [fitsWord_iff_between, leastWord, greatestWord]
  constructor
  · rintro ⟨hleast, hgreatest⟩
    exact ⟨Int64.ofInt n, Int64.toInt_ofInt_of_le hleast (by omega)⟩
  · rintro ⟨word, rfl⟩
    have hlt := word.toInt_lt
    exact ⟨word.le_toInt, by omega⟩

namespace Value

theorem ofJson_toInt (word : Int64) : ofJson (.int word.toInt) = .int word := by
  rw [ofJson, if_pos (fitsWord_iff_exists.mpr ⟨word, rfl⟩), Int64.ofInt_toInt]

mutual

/-- Data is converted. -/
theorem converts_ofJson : ∀ json : Json, Converts json (ofJson json)
  | .null => .null
  | .bool b => .bool b
  | .int n => by
    by_cases hword : ∃ word : Int64, word.toInt = n
    · obtain ⟨word, rfl⟩ := hword
      rw [ofJson_toInt]
      exact .word word
    · rw [ofJson, if_neg (fitsWord_iff_exists.not.mpr hword)]
      exact .beyond (not_exists.mp hword)
  | .float f => .float f
  | .string s => .string s
  | .array items => .array (converts_ofJsons items)
  | .object fields => .object (converts_ofJsonFields fields)

theorem converts_ofJsons : ∀ items : List Json, ConvertsItems items (ofJsons items)
  | [] => .nil
  | item :: items => .cons (converts_ofJson item) (converts_ofJsons items)

theorem converts_ofJsonFields :
    ∀ fields : List (String × Json), ConvertsFields fields (ofJsonFields fields)
  | [] => .nil
  | (_, field) :: fields => .cons (converts_ofJson field) (converts_ofJsonFields fields)

end

end Value

mutual

/-- Data is converted in one way only. -/
theorem Converts.eq_ofJson : ∀ {json : Json} {value : Value}, Converts json value →
    value = Value.ofJson json
  | _, _, .null | _, _, .bool _ | _, _, .float _ | _, _, .string _ => rfl
  | _, _, .word n => (Value.ofJson_toInt n).symm
  | _, _, @Converts.beyond n h => by
    rw [Value.ofJson, if_neg (fitsWord_iff_exists.not.mpr (not_exists.mpr h))]
  | _, _, .array h => congrArg Value.array h.eq_ofJsons
  | _, _, .object h => congrArg Value.object h.eq_ofJsonFields

theorem ConvertsItems.eq_ofJsons : ∀ {items : List Json} {values : List Value},
    ConvertsItems items values → values = Value.ofJsons items
  | _, _, .nil => rfl
  | _, _, .cons h hrest => by rw [Value.ofJsons, ← h.eq_ofJson, ← hrest.eq_ofJsons]

theorem ConvertsFields.eq_ofJsonFields :
    ∀ {fields : List (String × Json)} {values : List (String × Value)},
      ConvertsFields fields values → values = Value.ofJsonFields fields
  | _, _, .nil => rfl
  | _, _, .cons h hrest => by
    rw [Value.ofJsonFields, ← h.eq_ofJson, ← hrest.eq_ofJsonFields]

end

theorem Value.ofJsons_eq_map (items : List Json) : ofJsons items = items.map ofJson := by
  induction items with
  | nil => rfl
  | cons item items ih => rw [ofJsons, ih, List.map_cons]

theorem convertsItems_iff {items : List Json} {values : List Value} :
    ConvertsItems items values ↔ values = items.map Value.ofJson := by
  rw [← Value.ofJsons_eq_map]
  constructor
  · exact ConvertsItems.eq_ofJsons
  · rintro rfl
    exact Value.converts_ofJsons items

theorem assigns_iff {operand : Option Json} {value : Value} :
    Assigns operand value ↔ value = Value.ofOperand operand := by
  constructor
  · intro h
    cases h with
    | absent => rfl
    | present h => exact h.eq_ofJson
  · rintro rfl
    cases operand with
    | none => exact .absent
    | some operand => exact .present (Value.converts_ofJson operand)

/-! ## Fitting and receiving -/

theorem fitArguments_eq_ok_iff {name : String} {arity : Option Nat} {args fitted : List Value} :
    fitArguments name arity args = .ok fitted ↔ Fits arity args fitted := by
  cases arity with
  | none =>
    constructor
    · rintro ⟨⟩
      exact .variadic args
    · rintro ⟨⟩
      rfl
  | some arity =>
    constructor
    · intro h
      simp only [fitArguments] at h
      split at h
      · cases h
      · next hle =>
        cases h
        obtain ⟨missing, rfl⟩ := Nat.exists_eq_add_of_le (Nat.le_of_not_lt hle)
        rw [Value.padTo, Nat.add_sub_cancel_left]
        exact .filled args missing
    · rintro ⟨⟩
      next missing =>
        have hle : ¬ args.length + missing < args.length := by omega
        simp [fitArguments, hle, Value.padTo]

namespace ChannelId

variable {c : ChannelId}

theorem callback?_eq_some_iff {value : Value} {function : Callback} :
    callback? c value = some function ↔
      ∃ number n, value = .object [(callbackKey, number)] ∧ number.word? = some n ∧ 0 ≤ n ∧
        function = ⟨n.toNatClampNeg, c⟩ := by
  constructor
  · intro h
    unfold callback? at h
    split at h
    · next key number =>
      split at h
      · next hkey =>
        split at h
        · next n hn =>
          split at h
          · next hle =>
            cases h
            exact ⟨number, n, by rw [hkey], hn, hle, rfl⟩
          · cases h
        · cases h
      · cases h
    · cases h
  · rintro ⟨number, n, rfl, hn, hle, rfl⟩
    simp [callback?, hn, hle]

theorem received_iff {value arg : Value} :
    Received c value arg ↔ (match callback? c value with
      | some function => .callback function
      | none => value) = arg := by
  cases hcallback : callback? c value with
  | some function =>
    obtain ⟨number, n, rfl, hn, hle, rfl⟩ := callback?_eq_some_iff.mp hcallback
    constructor
    · intro hreceived
      cases hreceived with
      | function hn' _ =>
        rw [hn] at hn'
        cases hn'
        rfl
      | plain hplain => exact absurd hle (hplain number n rfl hn)
    · rintro rfl
      exact .function hn hle
  | none =>
    have hunmarked : ∀ number n, value = .object [(callbackKey, number)] →
        number.word? = some n → ¬ 0 ≤ n := by
      intro number n hvalue hn hle
      have hsome : callback? c value = some ⟨n.toNatClampNeg, c⟩ :=
        callback?_eq_some_iff.mpr ⟨number, n, hvalue, hn, hle, rfl⟩
      rw [hcallback] at hsome
      cases hsome
    constructor
    · intro hreceived
      cases hreceived with
      | function hn hle => exact absurd hle (hunmarked _ _ rfl hn)
      | plain _ => rfl
    · rintro rfl
      exact .plain hunmarked

/-- Attaching callbacks turns items into what is received for them. -/
theorem attach_eq_iff {items args : List Value} :
    attach c items = args ↔ List.Forall₂ (Received c) items args := by
  induction items generalizing args with
  | nil => cases args <;> simp [attach]
  | cons item items ih =>
    cases args with
    | nil => simp [attach]
    | cons arg args =>
      rw [List.forall₂_cons, ← ih, received_iff, attach, List.map_cons, List.cons.injEq]
      rfl

end ChannelId

theorem Request.argumentsOf_operand (request : Request) :
    Value.argumentsOf request.operand = request.items.map Value.ofJson := by
  unfold items
  rcases request.operand with - | (_ | _ | _ | _ | _ | items | _)
  case some.array => exact Value.ofJsons_eq_map items
  all_goals rfl

/-! ## What errands reach -/

/-- What is executed for a request, and not for a raw message. -/
def Execution.member? : Execution → Option Execution
  | .receive _ _ => none
  | execution => some execution

/-- What an errand executes, now or later. -/
def Errand.execution? (host : Host σ) : Errand → Option Execution
  | .refuse _ | .dispose _ => none
  | .hand task _ => task.execution? host
  | .await binding method args => host.calling? binding method args
  | .make _ _ typeName args => host.making? typeName args

/-- The member that an errand reaches. -/
def Errand.member? (host : Host σ) (errand : Errand) : Option Execution :=
  (errand.execution? host).bind Execution.member?

section Errands

variable {host : Host σ} {execution : Execution}

theorem Host.writing?_eq_some_iff {binding : Binding} {name : String} {value : Value} :
    host.writing? binding name value = some execution ↔
      (host.surfaceOf binding.object).member? name = some (.property true) ∧
        execution = .write binding.object name value := by
  unfold writing?
  rcases (host.surfaceOf binding.object).member? name with
    - | (⟨arity, returns⟩ | ⟨_ | _⟩ | arity) <;> simp [eq_comm]

/-- What is executed with arguments that have to fit. -/
private theorem fitting_eq_some_iff {name : String} {arity : Option Nat} {args : List Value}
    {f : List Value → Execution} :
    (match fitArguments name arity args with
      | .error _ => none
      | .ok fitted => some (f fitted)) = some execution ↔
      ∃ fitted, Fits arity args fitted ∧ execution = f fitted := by
  simp only [← @fitArguments_eq_ok_iff name]
  cases fitArguments name arity args with
  | error e => simp
  | ok fitted => simp [eq_comm]

theorem Host.calling?_eq_some_iff {binding : Binding} {name : String} {args : List Value} :
    host.calling? binding name args = some execution ↔
      ∃ arity returns fitted,
        (host.surfaceOf binding.object).member? name = some (.method arity returns) ∧
        Fits arity args fitted ∧ execution = .call binding.object name fitted := by
  unfold calling?
  rcases (host.surfaceOf binding.object).member? name with
    - | (⟨arity, returns⟩ | _ | _)
  case some.method =>
    refine fitting_eq_some_iff.trans ⟨?_, ?_⟩
    · rintro ⟨fitted, hfits, rfl⟩
      exact ⟨arity, returns, fitted, rfl, hfits, rfl⟩
    · rintro ⟨_, _, fitted, ⟨⟩, hfits, rfl⟩
      exact ⟨fitted, hfits, rfl⟩
  all_goals simp

theorem Host.making?_eq_some_iff {typeName : String} {args : List Value} :
    host.making? typeName args = some execution ↔
      ∃ arity fitted, (host.surface typeName).member? "" = some (.initializer arity) ∧
        Fits (some arity) args fitted ∧ execution = .make typeName fitted := by
  unfold making? Surface.initializer? Surface.defaultMember?
  rcases (host.surface typeName).member? "" with - | (_ | _ | arity)
  case some.initializer =>
    refine fitting_eq_some_iff.trans ⟨?_, ?_⟩
    · rintro ⟨fitted, hfits, rfl⟩
      exact ⟨arity, fitted, rfl, hfits, rfl⟩
    · rintro ⟨_, fitted, ⟨⟩, hfits, rfl⟩
      exact ⟨fitted, hfits, rfl⟩
  all_goals simp

/-- What is written, called or made is reached for a request. -/
theorem Execution.bind_member? {execution? : Option Execution}
    (h : ∀ execution, execution? = some execution → execution.member? = some execution) :
    execution?.bind member? = execution? := by
  cases execution? with
  | none => rfl
  | some execution => exact h execution rfl

namespace Errand

@[simp] theorem member?_set (binding : Binding) (name : String) (value : Value)
    (told : List Line) :
    (hand (.set binding name value) told).member? host = host.writing? binding name value := by
  refine Execution.bind_member? fun execution h ↦ ?_
  obtain ⟨-, rfl⟩ := Host.writing?_eq_some_iff.mp h
  rfl

@[simp] theorem member?_await (binding : Binding) (name : String) (args : List Value) :
    (await binding name args).member? host = host.calling? binding name args := by
  refine Execution.bind_member? fun execution h ↦ ?_
  obtain ⟨_, _, _, -, -, rfl⟩ := Host.calling?_eq_some_iff.mp h
  rfl

/-- The same is called whether or not it is waited for. -/
@[simp] theorem member?_invoke (binding : Binding) (name : String) (args : List Value)
    (told : List Line) :
    (hand (.invoke binding name args) told).member? host = host.calling? binding name args :=
  member?_await binding name args

@[simp] theorem member?_make (target : Int) (place typeName : String) (args : List Value) :
    (make target place typeName args).member? host = host.making? typeName args := by
  refine Execution.bind_member? fun execution h ↦ ?_
  obtain ⟨_, _, -, -, rfl⟩ := Host.making?_eq_some_iff.mp h
  rfl

end Errand

/-- A message that is forwarded reaches no member. -/
theorem Bridge.member?_forwarding {τ : Type} {host' : Host τ} (host : Host σ) (c : ChannelId)
    (message : Message) (told : List Line) (e : BridgeError) (bridge : Bridge σ) :
    (bridge.forwarding host c message told e).member? host' = none := by
  rcases bridge.forwarding_cases host c message told e with heq | ⟨object, heq⟩
  · rw [heq]
    rfl
  · rw [heq]
    rfl

/-- A member of an instance is written or called, as the surface has it. -/
theorem Host.member?_reaching (c : ChannelId) (binding : Binding) (name : String)
    (operand : Option Json) (waits : Bool) :
    (host.watched.reaching c binding name operand waits).member? host =
      (host.writing? binding name (Value.ofOperand operand)).or
        (host.calling? binding name (ChannelId.attach c (Value.argumentsOf operand))) := by
  unfold reaching
  rcases hmember : (host.surfaceOf binding.object).member? name with
    - | (⟨arity, returns⟩ | ⟨writable⟩ | arity) <;>
    simp only [Host.watched_surfaceOf, hmember]
  case some.method =>
    have hnothing : host.writing? binding name (Value.ofOperand operand) = none := by
      simp [writing?, hmember]
    rw [hnothing, Option.none_or]
    cases waits with
    | true => exact Errand.member?_await _ _ _
    | false => exact Errand.member?_invoke _ _ _ _
  case some.property =>
    have hnothing : host.calling? binding name
        (ChannelId.attach c (Value.argumentsOf operand)) = none := by
      simp [calling?, hmember]
    rw [hnothing, Option.or_none, Errand.member?_set]
  all_goals
    simp [Errand.member?, Errand.execution?, writing?, calling?, hmember]

theorem Opcode.ofString_of_ne {text : String} (hcreate : text ≠ "+") (hdispose : text ≠ "-") :
    Opcode.ofString text = .member text := by
  unfold ofString
  split
  · exact absurd rfl hcreate
  · exact absurd rfl hdispose
  · rfl

theorem Opcode.ofString_eq_create_iff {text : String} : ofString text = .create ↔ text = "+" := by
  unfold ofString
  split <;> simp_all

variable {declared : String → List Declaration} {c : ChannelId} {request : Request}

/-- Unless an instance is to be made, it takes a live one to be entitled to anything. -/
theorem Request.Entitles.live {bound : Bound}
    (h : request.Entitles declared c bound execution) (hcreate : request.opcode ≠ "+") :
    request.opcode ≠ "-" ∧ ∃ binding, bound.instances.get? request.target = some binding := by
  cases h with
  | write _ hdispose hlive _ _ => exact ⟨hdispose, _, hlive⟩
  | call _ hdispose hlive _ _ _ _ => exact ⟨hdispose, _, hlive⟩
  | make hcreate' _ _ _ _ _ => exact absurd hcreate' hcreate

variable
  (hsurface : ∀ typeName, host.surface typeName = .ofDeclarations typeName (declared typeName))
include hsurface

private theorem declares_iff {typeName name : String} {member : Member} :
    (host.surface typeName).member? name = some member ↔
      Declares (declared typeName) name member := by
  rw [hsurface, Surface.member?_ofDeclarations_eq_some_iff, Declares]

/-- A member of a live instance is reached as it was declared. -/
private theorem member?_reaching_eq_some_iff {bound : Bound} {binding : Binding} (waits : Bool)
    (hcreate : request.opcode ≠ "+") (hdispose : request.opcode ≠ "-")
    (hlive : bound.instances.get? request.target = some binding) :
    (host.watched.reaching c binding request.opcode request.operand waits).member? host =
      some execution ↔ request.Entitles declared c bound execution := by
  rw [Host.member?_reaching, Option.or_eq_some_iff, Host.writing?_eq_some_iff,
    Host.calling?_eq_some_iff, Host.surfaceOf, request.argumentsOf_operand]
  constructor
  · rintro (⟨hmember, rfl⟩ | ⟨-, arity, returns, fitted, hmember, hfits, rfl⟩)
    · exact .write hcreate hdispose hlive ((declares_iff hsurface).mp hmember)
        (assigns_iff.mpr rfl)
    · exact .call hcreate hdispose hlive ((declares_iff hsurface).mp hmember)
        (convertsItems_iff.mpr rfl) (ChannelId.attach_eq_iff.mp rfl) hfits
  · intro h
    cases h with
    | @write binding' value _ _ hlive' hdeclared hvalue =>
      rw [hlive] at hlive'
      cases hlive'
      exact .inl ⟨(declares_iff hsurface).mpr hdeclared, by rw [assigns_iff.mp hvalue]⟩
    | @call binding' arity returns items args fitted _ _ hlive' hdeclared hitems hargs hfits =>
      rw [hlive] at hlive'
      cases hlive'
      obtain rfl := convertsItems_iff.mp hitems
      have hmember := (declares_iff hsurface).mpr hdeclared
      refine .inr ⟨?_, arity, returns, fitted, hmember, ?_, rfl⟩
      · simp [Host.writing?, Host.surfaceOf, hmember]
      · rwa [ChannelId.attach_eq_iff.mpr hargs]
    | make hcreate' _ _ _ _ _ => exact absurd hcreate' hcreate

/-- An instance is made as the initializer was declared. -/
private theorem member?_creation_eq_some_iff {bridge : Bridge (σ × List Visit)}
    (hcreate : request.opcode = "+") :
    (bridge.creation c request).member? host = some execution ↔
      ∃ bound, bridge.boundOf c = some bound ∧ request.Entitles declared c bound execution := by
  constructor
  · intro h
    unfold Bridge.creation at h
    split at h
    · cases h
    · next htarget =>
      split at h
      · cases h
      · next bound hbound =>
        split at h
        · cases h
        · next principal hprincipal =>
          rw [Errand.member?_make] at h
          obtain ⟨arity, fitted, hmember, hfits, rfl⟩ := Host.making?_eq_some_iff.mp h
          rw [request.argumentsOf_operand] at hfits
          exact ⟨bound, hbound, .make hcreate (Int.not_le.mp htarget) hprincipal
            ((declares_iff hsurface).mp hmember) (convertsItems_iff.mpr rfl) hfits⟩
  · rintro ⟨bound, hbound, hentitles⟩
    cases hentitles with
    | write hother _ _ _ _ => exact absurd hcreate hother
    | call hother _ _ _ _ _ _ => exact absurd hcreate hother
    | @make principal arity _ fitted _ htarget hprincipal hdeclared hargs hfits =>
      obtain rfl := convertsItems_iff.mp hargs
      have hmaking : host.making? principal.object.typeName
          (Value.argumentsOf request.operand) = some (.make principal.object.typeName fitted) := by
        rw [request.argumentsOf_operand]
        exact Host.making?_eq_some_iff.mpr
          ⟨arity, fitted, (declares_iff hsurface).mpr hdeclared, hfits, rfl⟩
      simp only [Bridge.creation, Int.not_le.mpr htarget, if_false, hbound, Bound.principal?,
        hprincipal]
      rwa [Errand.member?_make]

/-- A request reaches what it is entitled to. -/
private theorem member?_requested_eq_some_iff (message : Message) (waits : Bool)
    (bridge : Bridge (σ × List Visit)) :
    (bridge.requested host.watched c message request waits).member? host = some execution ↔
      ∃ bound, bridge.boundOf c = some bound ∧ request.Entitles declared c bound execution := by
  unfold Bridge.requested
  dsimp only
  by_cases hcreate : request.opcode = "+"
  · have hopcode : Opcode.ofString request.opcode = .create := by
      rw [hcreate]
      rfl
    rw [if_pos hopcode]
    exact member?_creation_eq_some_iff hsurface hcreate
  rw [if_neg (Opcode.ofString_eq_create_iff.not.mpr hcreate)]
  cases hlive : (bridge.boundOf c).bind fun bound ↦ bound.instances.get? request.target with
  | none =>
    rw [bridge.member?_forwarding]
    constructor
    · rintro ⟨⟩
    · rintro ⟨bound, hbound, hentitles⟩
      obtain ⟨-, binding, hbinding⟩ := hentitles.live hcreate
      rw [hbound, Option.bind_some, hbinding] at hlive
      cases hlive
  | some binding =>
    obtain ⟨bound, hbound, hbinding⟩ := Option.bind_eq_some_iff.mp hlive
    simp only [hbound, Option.some.injEq, exists_eq_left']
    by_cases hdispose : request.opcode = "-"
    · rw [hdispose]
      constructor
      · rintro ⟨⟩
      · intro hentitles
        exact absurd hdispose (hentitles.live hcreate).1
    · rw [Opcode.ofString_of_ne hcreate hdispose]
      exact member?_reaching_eq_some_iff hsurface waits hcreate hdispose hbinding

/-- **What a message reaches is what it is entitled to.** -/
theorem Bridge.member?_errand_eq_some_iff (message : Message) (waits : Bool)
    (bridge : Bridge (σ × List Visit)) :
    (bridge.errand host.watched c message waits).member? host = some execution ↔
      bridge.Entitles declared c message execution := by
  unfold errand Entitles
  cases hrequest : message.request? with
  | error malformation =>
    have hnothing : ∀ {errand : Errand}, errand.member? host = none →
        (errand.member? host = some execution ↔ ∃ bound request, bridge.boundOf c = some bound ∧
          (Except.error malformation : Except Malformation Request) = .ok request ∧
            request.Entitles declared c bound execution) := by
      intro errand herrand
      simp [herrand]
    dsimp only
    split
    · exact hnothing rfl
    · exact hnothing (bridge.member?_forwarding _ _ _ _ _)
  | ok request =>
    rw [member?_requested_eq_some_iff hsurface]
    constructor
    · rintro ⟨bound, hbound, hentitles⟩
      exact ⟨bound, request, hbound, rfl, hentitles⟩
    · rintro ⟨bound, _, hbound, ⟨⟩, hentitles⟩
      exact ⟨bound, hbound, hentitles⟩

end Errands

end ScriptBridge
