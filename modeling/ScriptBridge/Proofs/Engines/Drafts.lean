import ScriptBridge.Proofs.Expressions.Steps
import ScriptBridge.Proofs.Tables.References

/-!
# Expressions before the engine is asked

An expression is text, and the engine has a say in it: it may claim octets for a literal of its own.
A *draft* is what the text is made from, which is found without asking the engine. That this is
possible is the point: no engine claims anything in which objects are referred to, so the tables
change in the same way whatever the engine, and the getters are run on the same objects in the same
order (`ChannelId.expression_eq`, `ChannelId.dispatchSync_eq`). What is left to the engine is the
text, and that is the same for all of them where there are no octets (`Draft.text_of_byteless`).
-/

namespace ScriptBridge

/-! ## Octets -/

namespace Value

mutual

/-- Whether there are octets in a value, at any depth. -/
def hasBytes : Value → Bool
  | .bytes _ => true
  | .array items => itemsHaveBytes items
  | .object fields => fieldsHaveBytes fields
  | _ => false

/-- Whether there are octets in any of some items. -/
def itemsHaveBytes : List Value → Bool
  | [] => false
  | item :: items => hasBytes item || itemsHaveBytes items

/-- Whether there are octets in any of some fields. -/
def fieldsHaveBytes : List (String × Value) → Bool
  | [] => false
  | (_, value) :: fields => hasBytes value || fieldsHaveBytes fields

end

mutual

/-- An engine claims nothing in which an object is referred to. -/
theorem referred_typedArrays : ∀ value : Value, value.referred .typedArrays = value.referred .plain
  | .array items => itemsReferred_typedArrays items
  | .object fields => fieldsReferred_typedArrays fields
  | .undefined | .null | .bool _ | .int _ | .float _ | .string _ | .date _ | .bytes _
  | .native _ | .callback _ | .described _ => rfl

theorem itemsReferred_typedArrays : ∀ items : List Value,
    itemsReferred .typedArrays items = itemsReferred .plain items
  | [] => rfl
  | item :: items => by
    rw [itemsReferred, itemsReferred, referred_typedArrays item, itemsReferred_typedArrays items]

theorem fieldsReferred_typedArrays : ∀ fields : List (String × Value),
    fieldsReferred .typedArrays fields = fieldsReferred .plain fields
  | [] => rfl
  | (_, value) :: fields => by
    rw [fieldsReferred, fieldsReferred, referred_typedArrays value,
      fieldsReferred_typedArrays fields]

end

variable {τ : Type} (resolve : Resolver τ)

mutual

/-- What has no octets is written in the same way for an engine that has typed arrays. -/
theorem literalWith_typedArrays : ∀ value : Value, value.hasBytes = false →
    literalWith .typedArrays resolve value = literalWith .plain resolve value
  | .array items, h => by
    simp only [literalWith, EngineLiterals.typedArrays, EngineLiterals.plain,
      itemLiterals_typedArrays items h]
  | .object fields, h => by
    simp only [literalWith, EngineLiterals.typedArrays, EngineLiterals.plain,
      fieldLiterals_typedArrays fields h]
  | .undefined, _ | .null, _ | .bool _, _ | .int _, _ | .float _, _ | .string _, _ | .date _, _
  | .native _, _ | .callback _, _ | .described _, _ => rfl

theorem itemLiterals_typedArrays : ∀ items : List Value, itemsHaveBytes items = false →
    itemLiterals .typedArrays resolve items = itemLiterals .plain resolve items
  | [], _ => rfl
  | item :: items, h => by
    obtain ⟨hitem, hitems⟩ := Bool.or_eq_false_iff.mp h
    rw [itemLiterals, itemLiterals, literalWith_typedArrays item hitem,
      itemLiterals_typedArrays items hitems]

theorem fieldLiterals_typedArrays : ∀ fields : List (String × Value),
    fieldsHaveBytes fields = false →
      fieldLiterals .typedArrays resolve fields = fieldLiterals .plain resolve fields
  | [], _ => rfl
  | (key, value) :: fields, h => by
    obtain ⟨hvalue, hfields⟩ := Bool.or_eq_false_iff.mp h
    rw [fieldLiterals, fieldLiterals, literalWith_typedArrays value hvalue,
      fieldLiterals_typedArrays fields hfields]

end

/-- What has no octets is written in the same way for all engines. -/
theorem literalWith_of_byteless {value : Value} (h : value.hasBytes = false) (engine : Engine) :
    literalWith engine.literals resolve value = literalWith .plain resolve value := by
  cases engine with
  | recording => rfl
  | running => exact literalWith_typedArrays resolve value h

end Value

namespace Bound

/-- **Whatever the engine, the same references are given away**, octets or no octets. -/
theorem literal_state_plain (engine : Engine) (value : Value) (bound : Bound) :
    (literal engine.literals value bound).2 = (literal .plain value bound).2 := by
  rw [literal_state, literal_state]
  cases engine with
  | recording => rfl
  | running => exact congrArg (referAll · bound) value.referred_typedArrays

theorem stubFor_state_plain (engine : Engine) (urlPrefix : String) (surface : Surface)
    (hooks : Hooks) (target : StubTarget) (place : String) (values : List (String × Value))
    (bound : Bound) :
    (stubFor engine.literals urlPrefix surface hooks target place values bound).2 =
      referAll (namedReferred .plain values) bound := by
  rw [stubFor_state]
  cases engine with
  | recording => rfl
  | running => exact congrArg (referAll · bound) (Value.fieldsReferred_typedArrays values)

/-- The literals of values without octets. -/
theorem literals_of_byteless (engine : Engine) {values : List (String × Value)}
    (h : ∀ entry ∈ values, entry.2.hasBytes = false) (bound : Bound) :
    literals engine.literals values bound = literals .plain values bound := by
  induction values generalizing bound with
  | nil => rfl
  | cons entry values ih =>
    have hvalue : literal engine.literals entry.2 = literal .plain entry.2 :=
      Value.literalWith_of_byteless resolve (h entry List.mem_cons_self) engine
    have hrest : literals engine.literals values = literals .plain values :=
      funext (ih fun other hother ↦ h other (List.mem_cons_of_mem _ hother))
    rw [literals, literals, hvalue, hrest]

end Bound

/-! ## Drafts -/

/-- What the source that installs an object is made from. -/
structure StubDraft where
  urlPrefix : String
  surface : Surface
  hooks : Hooks
  target : StubTarget
  place : String
  /-- The properties that it shows. -/
  values : List (String × Value)
  /-- The tables in which they are referred to. -/
  tables : Bound

/-- What an expression is made from, and the engine that it is for. -/
structure Draft where
  engine : Engine
  value : Value
  /-- The tables in which its objects are referred to, if the channel is bound. -/
  tables? : Option Bound
  stubs : List StubDraft

/-- The source that is made from a draft for an engine. -/
def StubDraft.source (engine : Engine) (draft : StubDraft) : Source :=
  (Bound.stubFor engine.literals draft.urlPrefix draft.surface draft.hooks draft.target draft.place
    draft.values draft.tables).1

/-- The literal of a value that is written with some tables, or with none. -/
def Engine.write (engine : Engine) (value : Value) : Option Bound → String
  | none => value.literalFor engine.literals
  | some bound => (Bound.literal engine.literals value bound).1

namespace Draft

/-- The expression that is made from the draft. -/
def expression (draft : Draft) : ChannelId.Expression where
  sources := draft.stubs.map (·.source draft.engine)
  literal := draft.engine.write draft.value draft.tables?

def text (draft : Draft) : String := draft.expression.text

/-- Neither in the value nor in a property that is shown are there octets. -/
structure Byteless (draft : Draft) : Prop where
  value : draft.value.hasBytes = false
  shown : ∀ stub ∈ draft.stubs, ∀ entry ∈ stub.values, entry.2.hasBytes = false

instance : DecidablePred Byteless := fun draft =>
  decidable_of_iff
    (draft.value.hasBytes = false ∧
      ∀ stub ∈ draft.stubs, ∀ entry ∈ stub.values, entry.2.hasBytes = false)
    ⟨fun h ↦ ⟨h.1, h.2⟩, fun h ↦ ⟨h.value, h.shown⟩⟩

end Draft

theorem StubDraft.source_of_byteless {draft : StubDraft}
    (h : ∀ entry ∈ draft.values, entry.2.hasBytes = false) (engine : Engine) :
    draft.source engine = draft.source .recording := by
  have hliterals := funext (Bound.literals_of_byteless engine h)
  rw [source, source, Bound.stubFor, Bound.stubFor, hliterals]
  rfl

theorem Engine.write_of_byteless {value : Value} (h : value.hasBytes = false) (engine : Engine)
    (tables? : Option Bound) :
    engine.write value tables? = Engine.recording.write value tables? := by
  cases tables? with
  | none =>
    rw [write, write, Value.literalFor, Value.literalFor, Value.literalWith_of_byteless _ h]
    rfl
  | some bound =>
    rw [write, write, Bound.literal, Bound.literal, Value.literalWith_of_byteless _ h]
    rfl

/-- **Where there are no octets the engine has no say in the text.** -/
theorem Draft.text_of_byteless {draft : Draft} (h : draft.Byteless) (engine : Engine) :
    { draft with engine := engine }.text = draft.text := by
  have hexpression : ∀ engine : Engine,
      { draft with engine := engine }.expression =
        { draft with engine := .recording }.expression := by
    intro engine
    have hsources : draft.stubs.map (·.source engine) = draft.stubs.map (·.source .recording) :=
      List.map_congr_left fun stub hstub ↦ StubDraft.source_of_byteless (h.shown stub hstub) engine
    simp only [expression, hsources, engine.write_of_byteless h.value]
  exact congrArg ChannelId.Expression.text
    ((hexpression engine).trans (hexpression draft.engine).symm)

/-- What a message that waits is answered with. -/
inductive Response where
  | nothing
  | thrown (text : String)
  | value (draft : Draft)

namespace Response

def text : Response → String
  | .nothing => "undefined"
  | .thrown text => ChannelId.throwing text
  | .value draft => draft.text

/-- If it is a value, neither in the value nor in a property that is shown are there octets. -/
def Byteless (response : Response) : Prop := ∀ draft, response = .value draft → draft.Byteless

instance : DecidablePred Byteless
  | .nothing => .isTrue nofun
  | .thrown _ => .isTrue nofun
  | .value draft => decidable_of_iff draft.Byteless
      ⟨fun h other hsame ↦ by cases hsame; exact h, fun h ↦ h draft rfl⟩

end Response

/-! ## Drafting -/

variable {σ : Type}

namespace ChannelId

/-- Refers to the objects of a value, and gives the tables from before it. -/
def refer (id : ChannelId) (value : Value) : Run σ (Option Bound) := do
  match ← Run.bound? id with
  | none => return none
  | some bound =>
    let bound' := (Bound.literal .plain value bound).2
    Run.setBound id (some bound')
    Run.sayAll (referenceLines (bound.allocatedSince bound'))
    return some bound

variable (host : Host σ) (answer : Answerer σ) (patience : Nat)

/-- Drafts the stub of an object, while the channel is bound. -/
def stubDraft? (id : ChannelId) (target : StubTarget) (binding : Binding)
    (values : List (String × Value)) : Run σ (Option StubDraft) := do
  let bridge ← get
  match bridge.channels.get? id with
  | none => return none
  | some channel =>
    match channel.bound with
    | none => return none
    | some bound =>
      let bound' := Bound.referAll (Bound.namedReferred .plain values) bound
      Run.setBound id (some bound')
      Run.sayAll (referenceLines (bound.allocatedSince bound'))
      return some {
        urlPrefix := channel.urlPrefix
        surface := host.surfaceOf binding.object
        hooks := host.hooks bridge.native binding.object
        target, place := binding.place, values, tables := bound }

/-- Drafts the stubs of all pending objects. -/
def stubDrafts (id : ChannelId) : Nat → Run σ (List StubDraft)
  | 0 => Run.stuck
  | patience + 1 => do
    match ← Run.bound? id with
    | none => return []
    | some bound =>
      match bound.pending with
      | [] => return []
      | next :: rest =>
        Run.setBound id (some { bound with pending := rest })
        let values ← next.binding.values host answer
        match ← stubDraft? host id (.reference next.owner next.id) next.binding values with
        | none => return []
        | some draft =>
          let drafts ← stubDrafts id patience
          return draft :: drafts

/-- Drafts the expression of a value. -/
def draft (id : ChannelId) (value : Value) : Run σ Draft := do
  let bridge ← get
  let tables? ← refer id value
  let stubs ← stubDrafts host answer id patience
  return { engine := bridge.engine, value, tables?, stubs }

/-- Takes a message and finds what it is answered with. -/
def respond (id : ChannelId) (message : Message) : Run σ Response := do
  match ← ask host answer id message with
  | .ok (some value) => return .value (← draft host answer patience id value)
  | .ok none => return .nothing
  | .error e => return .thrown e.message

variable {host answer patience}

theorem literal_eq (id : ChannelId) (engine : Engine) (value : Value) :
    (literal id engine.literals value : Run σ String) = do
      return engine.write value (← refer id value) := by
  unfold literal refer
  rw [bind_assoc]
  refine bind_congr fun bound? ↦ ?_
  cases bound? with
  | none => rfl
  | some bound =>
    have hliteral : Bound.literal engine.literals value bound =
        (engine.write value (some bound), (Bound.literal .plain value bound).2) :=
      Prod.ext rfl (Bound.literal_state_plain engine value bound)
    dsimp only
    rw [hliteral]
    rfl

theorem stub?_eq (id : ChannelId) (engine : Engine) (target : StubTarget) (binding : Binding)
    (values : List (String × Value)) :
    stub? host id engine.literals target binding values = do
      return (← stubDraft? host id target binding values).map (·.source engine) := by
  unfold stub? stubDraft?
  rw [bind_assoc]
  refine bind_congr fun bridge ↦ ?_
  cases bridge.channels.get? id with
  | none => rfl
  | some channel =>
    dsimp only
    cases channel.bound with
    | none => rfl
    | some bound =>
      have hstub : Bound.stubFor engine.literals channel.urlPrefix (host.surfaceOf binding.object)
          (host.hooks bridge.native binding.object) target binding.place values bound =
            (_, Bound.referAll (Bound.namedReferred .plain values) bound) :=
        Prod.ext rfl (Bound.stubFor_state_plain engine _ _ _ _ _ values bound)
      dsimp only
      rw [hstub]
      rfl

theorem drain_eq (id : ChannelId) (engine : Engine) (patience : Nat) :
    drain host answer id engine.literals patience = do
      return (← stubDrafts host answer id patience).map (·.source engine) := by
  induction patience with
  | zero => rfl
  | succ patience ih =>
    unfold drain stubDrafts
    rw [bind_assoc]
    refine bind_congr fun bound? ↦ ?_
    cases bound? with
    | none => rfl
    | some bound =>
      dsimp only
      cases bound.pending with
      | nil => rfl
      | cons next rest =>
        simp only [bind_assoc]
        refine bind_congr fun _ ↦ bind_congr fun values ↦ ?_
        rw [stub?_eq, bind_assoc]
        refine bind_congr fun draft? ↦ ?_
        cases draft? with
        | none => rfl
        | some draft =>
          rw [pure_bind]
          dsimp only [Option.map_some]
          rw [ih]
          simp only [bind_assoc, pure_bind, List.map_cons]

/-- **An expression is the draft, written for the engine of the context.** -/
theorem expression_eq (id : ChannelId) (value : Value) :
    expression host answer patience id value = do
      return (← draft host answer patience id value).expression := by
  funext frame bridge
  rw [expression, Run.bind_run Run.engineLiterals_run, literal_eq, drain_eq]
  simp only [draft, bind_assoc, pure_bind]
  rfl

/-- **A message is answered with the text of the response.** -/
theorem dispatchSync_eq (id : ChannelId) (message : Message) :
    dispatchSync host answer patience id message = do
      return (← respond host answer patience id message).text := by
  unfold dispatchSync respond
  rw [bind_assoc]
  refine bind_congr fun outcome ↦ ?_
  rcases outcome with e | (- | value)
  · rfl
  · rfl
  · dsimp only
    rw [expression_eq]
    simp only [bind_assoc, pure_bind]
    rfl

end ChannelId

end ScriptBridge
