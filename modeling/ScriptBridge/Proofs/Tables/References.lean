import ScriptBridge.Proofs.Tables.Coherent

/-!
# What a literal does to the tables

Writing a value as a literal visits its native objects from left to right, and the only thing it
does to the tables is to refer to them one after another. So a statement about literals is a
statement about a list of objects, and is proved by induction on that list instead of on values.
-/

namespace ScriptBridge

namespace Value

mutual

/-- The native objects that the literal of a value refers to, in order. What the engine claims for
a literal of its own is not looked into. -/
def referred (engine : EngineLiterals) : Value → List ObjectRef
  | .array items =>
    match engine (.array items) with
    | some _ => []
    | none => itemsReferred engine items
  | .object fields =>
    match engine (.object fields) with
    | some _ => []
    | none => fieldsReferred engine fields
  | .native ref =>
    match engine (.native ref) with
    | some _ => []
    | none => [ref]
  | _ => []

/-- The objects that items refer to. -/
def itemsReferred (engine : EngineLiterals) : List Value → List ObjectRef
  | [] => []
  | item :: items => referred engine item ++ itemsReferred engine items

/-- The objects that fields refer to. -/
def fieldsReferred (engine : EngineLiterals) : List (String × Value) → List ObjectRef
  | [] => []
  | (_, value) :: fields => referred engine value ++ fieldsReferred engine fields

end

mutual

/-- Only objects of the value are referred to. -/
theorem identity_mem_of_mem_referred {engine : EngineLiterals} {object : ObjectRef} :
    ∀ value : Value, object ∈ value.referred engine → object.identity ∈ value.identities
  | .array items, h => by
    simp only [referred] at h
    split at h
    · simp at h
    · exact identity_mem_of_mem_itemsReferred items h
  | .object fields, h => by
    simp only [referred] at h
    split at h
    · simp at h
    · exact identity_mem_of_mem_fieldsReferred fields h
  | .native ref, h => by
    simp only [referred] at h
    split at h
    · simp at h
    · simp only [List.mem_singleton] at h
      simp [identities, h]
  | .undefined, h | .null, h | .bool _, h | .int _, h | .float _, h | .string _, h | .date _, h
  | .bytes _, h | .callback _, h | .described _, h => by simp [referred] at h

theorem identity_mem_of_mem_itemsReferred {engine : EngineLiterals} {object : ObjectRef} :
    ∀ items : List Value, object ∈ itemsReferred engine items →
      object.identity ∈ itemIdentities items
  | [], h => by simp [itemsReferred] at h
  | item :: items, h => by
    simp only [itemsReferred, List.mem_append] at h
    simp only [itemIdentities, List.mem_append]
    exact h.imp (identity_mem_of_mem_referred item) (identity_mem_of_mem_itemsReferred items)

theorem identity_mem_of_mem_fieldsReferred {engine : EngineLiterals} {object : ObjectRef} :
    ∀ fields : List (String × Value), object ∈ fieldsReferred engine fields →
      object.identity ∈ fieldIdentities fields
  | [], h => by simp [fieldsReferred] at h
  | (_, value) :: fields, h => by
    simp only [fieldsReferred, List.mem_append] at h
    simp only [fieldIdentities, List.mem_append]
    exact h.imp (identity_mem_of_mem_referred value) (identity_mem_of_mem_fieldsReferred fields)

end

variable {σ : Type}

/-- The state of a resolver after it has been asked for objects in order. -/
def askAll (resolve : Resolver σ) (objects : List ObjectRef) (state : σ) : σ :=
  objects.foldl (fun state object ↦ (resolve object state).2) state

theorem askAll_append (resolve : Resolver σ) (a b : List ObjectRef) (state : σ) :
    askAll resolve (a ++ b) state = askAll resolve b (askAll resolve a state) :=
  List.foldl_append

/-- What holds no others is written without the resolver. -/
private theorem plain_state (claimed : Option String) (text : String) (state : σ) :
    ((match claimed with
      | some text => pure text
      | none => pure text : StateM σ String) state).2 = state := by
  cases claimed <;> rfl

mutual

/-- **A literal asks its resolver for the objects referred to, in order, and does nothing else.** -/
theorem literalWith_state (engine : EngineLiterals) (resolve : Resolver σ) :
    ∀ (value : Value) (state : σ),
      (literalWith engine resolve value state).2 = askAll resolve (value.referred engine) state
  | .array items, state => by
    simp only [literalWith, referred]
    cases engine (.array items) with
    | some text => rfl
    | none => exact itemLiterals_state engine resolve items state
  | .object fields, state => by
    simp only [literalWith, referred]
    cases engine (.object fields) with
    | some text => rfl
    | none => exact fieldLiterals_state engine resolve fields state
  | .native ref, state => by
    simp only [literalWith, referred]
    cases engine (.native ref) with
    | some text => rfl
    | none => rfl
  | .undefined, state | .null, state | .bool _, state | .int _, state | .float _, state
  | .string _, state | .date _, state | .bytes _, state | .callback _, state
  | .described _, state => by
    simp only [literalWith, referred]
    exact plain_state _ _ state

theorem itemLiterals_state (engine : EngineLiterals) (resolve : Resolver σ) :
    ∀ (items : List Value) (state : σ),
      (itemLiterals engine resolve items state).2 =
        askAll resolve (itemsReferred engine items) state
  | [], state => rfl
  | item :: items, state => by
    rw [itemsReferred, askAll_append, ← literalWith_state engine resolve item,
      ← itemLiterals_state engine resolve items]
    rfl

theorem fieldLiterals_state (engine : EngineLiterals) (resolve : Resolver σ) :
    ∀ (fields : List (String × Value)) (state : σ),
      (fieldLiterals engine resolve fields state).2 =
        askAll resolve (fieldsReferred engine fields) state
  | [], state => rfl
  | (key, value) :: fields, state => by
    rw [fieldsReferred, askAll_append, ← literalWith_state engine resolve value,
      ← fieldLiterals_state engine resolve fields]
    rfl

end

end Value

namespace Bound

/-- The tables after objects have been referred to in order. -/
def referAll (objects : List ObjectRef) (bound : Bound) : Bound :=
  Value.askAll resolve objects bound

@[simp] theorem referAll_nil (bound : Bound) : referAll [] bound = bound := rfl

@[simp] theorem referAll_cons (object : ObjectRef) (objects : List ObjectRef) (bound : Bound) :
    referAll (object :: objects) bound = referAll objects (resolve object bound).2 := rfl

theorem referAll_append (a b : List ObjectRef) (bound : Bound) :
    referAll (a ++ b) bound = referAll b (referAll a bound) :=
  Value.askAll_append resolve a b bound

/-- The objects that the literals of named values refer to. -/
def namedReferred (engine : EngineLiterals) (values : List (String × Value)) : List ObjectRef :=
  Value.fieldsReferred engine values

theorem literal_state (engine : EngineLiterals) (value : Value) (bound : Bound) :
    (literal engine value bound).2 = referAll (value.referred engine) bound :=
  Value.literalWith_state engine resolve value bound

theorem literals_state (engine : EngineLiterals) (values : List (String × Value)) (bound : Bound) :
    (literals engine values bound).2 = referAll (namedReferred engine values) bound := by
  induction values generalizing bound with
  | nil => rfl
  | cons entry values ih =>
    obtain ⟨name, value⟩ := entry
    rw [namedReferred, Value.fieldsReferred, referAll_append, ← literal_state, ← namedReferred,
      ← ih]
    rfl

theorem stubFor_state (engine : EngineLiterals) (urlPrefix : String) (surface : Surface)
    (hooks : Hooks) (target : StubTarget) (place : String) (values : List (String × Value))
    (bound : Bound) :
    (stubFor engine urlPrefix surface hooks target place values bound).2 =
      referAll (namedReferred engine values) bound := by
  rw [← literals_state]
  rfl

end Bound

end ScriptBridge
