import ScriptBridge.Proofs.Expressions.Steps
import ScriptBridge.Proofs.Runs.Lawful
import ScriptBridge.Proofs.Tables.Growth

/-!
# References are stable

A native object crosses to the script side as a text that refers to it, and scripts take two equal
texts for the same object. This file is about two moments of one binding at which objects are
serialized: the texts are equal exactly when the objects are the same, as long as the instance of
the first object stays where it is between the two. And a negative id that was given to an object is
never given to another one in the same binding, whether the object still has it or not.

## Moments

Texts are written in two places only, the literal of a value and the stub of an object, which holds
the literals of its properties. Replies, results of callbacks and values nested in others all come
down to these two, so `Bridge.Serializes` has a case for each. No native code runs within such a
moment, and what the bridge does between two of them is a sequence of changes of the tables.

What is written is read off the tables: `Value.literalWith_dictated` says that a literal is its
value with the answers of the resolver filled in, one for each occurrence of an object. So it is
enough to compare these answers, which are called the *namings* of what is written
(`Written.Tells`).

## Staying

`Changes.Sparing` follows an object through the changes between two moments. Most objects need not
be followed: an id that is not of the script's choice is given once, so if the instance of an object
still stands under such an id, it has stood there all the while (`Changes.sparing`).
-/

namespace ScriptBridge

variable {σ : Type} {known : σ → Nat → Prop}

/-! ## What a literal is told -/

/-- An object and the text that refers to it. -/
structure Naming where
  object : ObjectRef
  text : String
  deriving DecidableEq, Repr

/-- Equal texts are for the same object, and the same object has equal texts. -/
def Naming.Agrees (a b : Naming) : Prop :=
  a.text = b.text ↔ a.object.identity = b.object.identity

namespace Value

/-- What a resolver answers for objects, in order. -/
def answered (resolve : Resolver σ) : List ObjectRef → σ → List Naming
  | [], _ => []
  | ref :: refs, state =>
    ⟨ref, (resolve ref state).1⟩ :: answered resolve refs (resolve ref state).2

theorem answered_append (resolve : Resolver σ) (a b : List ObjectRef) (state : σ) :
    answered resolve (a ++ b) state =
      answered resolve a state ++ answered resolve b (askAll resolve a state) := by
  induction a generalizing state with
  | nil => rfl
  | cons ref a ih =>
    rw [List.cons_append, answered, ih]
    rfl

theorem map_object_answered (resolve : Resolver σ) (objects : List ObjectRef) (state : σ) :
    (answered resolve objects state).map Naming.object = objects := by
  induction objects generalizing state with
  | nil => rfl
  | cons object objects ih => rw [answered, List.map_cons, ih]

/-- Refers to objects by the texts that are dictated, one after the other. -/
def dictated : Resolver (List String) := fun _ texts ↦ (texts.headD "", texts.tail)

/-- What holds no others takes no dictation. -/
private theorem plain_dictated (claimed : Option String) (text : String) (state : σ)
    (texts : List String) :
    (match claimed with
      | some text => pure text
      | none => pure text : StateM (List String) String) texts =
        ((match claimed with
          | some text => pure text
          | none => pure text : StateM σ String) state |>.1, texts) := by
  cases claimed <;> rfl

variable (engine : EngineLiterals) (resolve : Resolver σ)

mutual

/-- **A literal is its value with the answers of the resolver filled in.** -/
theorem literalWith_dictated : ∀ (value : Value) (state : σ) (rest : List String),
    literalWith engine dictated value
        ((answered resolve (value.referred engine) state).map Naming.text ++ rest) =
      ((literalWith engine resolve value state).1, rest)
  | .array items, state, rest => by
    simp only [literalWith, referred]
    cases engine (.array items) with
    | some text => rfl
    | none =>
      have hitems := itemLiterals_dictated items state rest
      simp only [bind, StateT.bind, hitems]
      rfl
  | .object fields, state, rest => by
    simp only [literalWith, referred]
    cases engine (.object fields) with
    | some text => rfl
    | none =>
      have hfields := fieldLiterals_dictated fields state rest
      simp only [bind, StateT.bind, hfields]
      rfl
  | .native ref, state, rest => by
    simp only [literalWith, referred]
    cases engine (.native ref) with
    | some text => rfl
    | none => rfl
  | .undefined, state, rest | .null, state, rest | .bool _, state, rest | .int _, state, rest
  | .float _, state, rest | .string _, state, rest | .date _, state, rest | .bytes _, state, rest
  | .callback _, state, rest | .described _, state, rest => by
    simp only [literalWith, referred]
    exact plain_dictated _ _ state rest

theorem itemLiterals_dictated : ∀ (items : List Value) (state : σ) (rest : List String),
    itemLiterals engine dictated items
        ((answered resolve (itemsReferred engine items) state).map Naming.text ++ rest) =
      ((itemLiterals engine resolve items state).1, rest)
  | [], _, _ => rfl
  | item :: items, state, rest => by
    rw [itemsReferred, answered_append, List.map_append, List.append_assoc, itemLiterals]
    simp only [bind, StateT.bind, literalWith_dictated item]
    rw [← literalWith_state, itemLiterals_dictated items]
    rfl

theorem fieldLiterals_dictated :
    ∀ (fields : List (String × Value)) (state : σ) (rest : List String),
      fieldLiterals engine dictated fields
          ((answered resolve (fieldsReferred engine fields) state).map Naming.text ++ rest) =
        ((fieldLiterals engine resolve fields state).1, rest)
  | [], _, _ => rfl
  | (_, value) :: fields, state, rest => by
    rw [fieldsReferred, answered_append, List.map_append, List.append_assoc, fieldLiterals]
    simp only [bind, StateT.bind, literalWith_dictated value]
    rw [← literalWith_state, fieldLiterals_dictated fields]
    rfl

end

end Value

namespace Bound

/-- Objects referred to one after another, each with its text. -/
def namings (objects : List ObjectRef) (bound : Bound) : List Naming :=
  Value.answered resolve objects bound

/-- The literals of named values, their objects referred to as is dictated. -/
def dictatedLiterals (engine : EngineLiterals) (values : List (String × Value)) :
    StateM (List String) (List (String × String)) :=
  values.mapM fun (name, value) ↦ do
    let text ← value.literalWith engine Value.dictated
    pure (name, text)

/-- The literals of named values are the values with the texts of their objects filled in. -/
theorem literals_dictated (engine : EngineLiterals) (values : List (String × Value))
    (bound : Bound) (rest : List String) :
    dictatedLiterals engine values
        ((namings (namedReferred engine values) bound).map Naming.text ++ rest) =
      ((literals engine values bound).1, rest) := by
  induction values generalizing bound with
  | nil => rfl
  | cons entry values ih =>
    obtain ⟨name, value⟩ := entry
    rw [dictatedLiterals, namings, namedReferred, Value.fieldsReferred, Value.answered_append,
      List.map_append, List.append_assoc, List.mapM_cons]
    simp only [bind, StateT.bind, Value.literalWith_dictated]
    rw [← Value.literalWith_state, ← namedReferred, ← namings]
    exact (congrArg (fun r : List (String × String) × List String ↦
      ((name, (literal engine value bound).1) :: r.1, r.2)) (ih (literal engine value bound).2))

/-! ## Who is referred to by which text -/

variable {bound bound' : Bound} {a b : Naming} {objects : List ObjectRef}

/-- The object has an id, and its place is the text. -/
def Names (bound : Bound) (a : Naming) : Prop :=
  ∃ binding, bound.bindingOf? a.object = some binding ∧ binding.place = a.text

/-- Ids are written in decimal digits, from which they can be read back. -/
private theorem natText_injective {m n : Nat} (h : m.repr = n.repr) : m = n := by
  have hdigits : Nat.toDigits 10 m = Nat.toDigits 10 n := String.ofList_injective h
  have hread : ∀ n, Nat.ofDigitChars 10 (Nat.toDigits 10 n) 0 = n :=
    fun _ ↦ Nat.ofDigitChars_toDigits (by decide) (by decide)
  rw [← hread m, hdigits, hread]

/-- No digit is a sign. -/
private theorem natText_ne_signed (m n : Nat) : m.repr ≠ "-" ++ n.repr := by
  intro h
  have hsign : '-' ∈ Nat.toDigits 10 m := by
    have hchars := congrArg String.toList h
    simp only [Nat.repr, String.toList_append, String.toList_ofList] at hchars
    rw [hchars]
    exact List.mem_cons_self
  exact absurd (Nat.isDigit_of_mem_toDigits (by decide) (by decide) hsign) (by decide)

private theorem idText_injective {k l : Int} (h : toString k = toString l) : k = l := by
  cases k with
  | ofNat m =>
    cases l with
    | ofNat n => exact congrArg _ (natText_injective h)
    | negSucc n => exact absurd h (natText_ne_signed m (n + 1))
  | negSucc m =>
    cases l with
    | ofNat n => exact absurd h.symm (natText_ne_signed n (m + 1))
    | negSucc n =>
      have hsucc : m + 1 = n + 1 := natText_injective ((String.append_right_inj _).mp h)
      rw [Nat.succ.inj hsucc]

theorem placeOf_injective {k l : Int} (h : bound.placeOf k = bound.placeOf l) : k = l := by
  rw [placeOf, placeOf, String.append_left_inj, String.append_right_inj] at h
  exact idText_injective h

theorem place_ne_placeOf (bound : Bound) (k : Int) : bound.place ≠ bound.placeOf k := by
  intro h
  have hlength := congrArg String.length h
  have hopen : "[".length = 1 := rfl
  simp only [placeOf, String.length_append, hopen] at hlength
  omega

/-- Under coherent tables no two instances stand at the same place. -/
theorem Coherent.id_of_place (h : bound.Coherent) {k l : Int} {x y : Binding}
    (hx : bound.instances.get? k = some x) (hy : bound.instances.get? l = some y)
    (hplace : x.place = y.place) : k = l := by
  obtain ⟨principal, hprincipal⟩ := h.principal
  have hzero : ∀ z, bound.instances.get? 0 = some z → z.place = bound.place := by
    intro z hz
    rw [Option.some.inj (hz.symm.trans hprincipal)]
  by_cases hk : k = 0
  · by_cases hl : l = 0
    · rw [hk, hl]
    · rw [hzero x (hk ▸ hx), h.placed l y hl hy] at hplace
      exact absurd hplace (place_ne_placeOf bound l)
  · by_cases hl : l = 0
    · rw [hzero y (hl ▸ hy), h.placed k x hk hx] at hplace
      exact absurd hplace.symm (place_ne_placeOf bound k)
    · rw [h.placed k x hk hx, h.placed l y hl hy] at hplace
      exact placeOf_injective hplace

/-- The binding of an object is the instance that holds it. -/
theorem Coherent.bindingOf?_eq_some_iff (h : bound.Coherent) {object : ObjectRef}
    {binding : Binding} :
    bound.bindingOf? object = some binding ↔
      ∃ k, bound.instances.get? k = some binding ∧
        binding.object.identity = object.identity := by
  rw [bindingOf?, Option.bind_eq_some_iff]
  refine ⟨?_, ?_⟩
  · rintro ⟨k, hk, hbinding⟩
    obtain ⟨other, hother, hidentity⟩ := h.live _ k hk
    obtain rfl := Option.some.inj (hbinding.symm.trans hother)
    exact ⟨k, hbinding, hidentity⟩
  · rintro ⟨k, hbinding, hidentity⟩
    exact ⟨k, hidentity ▸ h.owned k binding hbinding, hbinding⟩

/-- **Texts that coherent tables give agree.** -/
theorem Names.agrees (h : bound.Coherent) (ha : bound.Names a) (hb : bound.Names b) :
    a.Agrees b := by
  obtain ⟨x, hx, hxtext⟩ := ha
  obtain ⟨y, hy, hytext⟩ := hb
  obtain ⟨k, hk, hxobject⟩ := h.bindingOf?_eq_some_iff.mp hx
  obtain ⟨l, hl, hyobject⟩ := h.bindingOf?_eq_some_iff.mp hy
  rw [Naming.Agrees, ← hxtext, ← hytext, ← hxobject, ← hyobject]
  refine ⟨fun hplace ↦ ?_, fun hidentity ↦ ?_⟩
  · obtain rfl := h.id_of_place hk hl hplace
    rw [Option.some.inj (hk.symm.trans hl)]
  · -- one object stands under one id only:
    have hid : some k = some l := by rw [← h.owned k x hk, hidentity, h.owned l y hl]
    obtain rfl := Option.some.inj hid
    rw [Option.some.inj (hk.symm.trans hl)]

theorem Names.extends (hext : bound.Extends bound') (ha : bound.Names a) : bound'.Names a := by
  obtain ⟨binding, hbinding, htext⟩ := ha
  exact ⟨binding, hext a.object binding hbinding, htext⟩

/-- The texts of objects that are referred to one after another are what the tables give in the
end. -/
theorem names_of_mem_namings (h : bound.Coherent) (ha : a ∈ namings objects bound) :
    (referAll objects bound).Names a := by
  induction objects generalizing bound with
  | nil => cases ha
  | cons object objects ih =>
    rcases List.mem_cons.mp ha with rfl | ha
    · exact Names.extends (referAll_extends (h.resolve object) objects)
        (resolve_bindingOf? object bound)
    · exact ih (h.resolve object) ha

end Bound

/-! ## Between two moments -/

/-- Every instance that holds the object stands where it stood. -/
def Bound.Spares (i : Nat) (bound bound' : Bound) : Prop :=
  ∀ k binding, bound.instances.get? k = some binding → binding.object.identity = i →
    bound'.instances.get? k = some binding

/-- Changes in one binding, none of which disposes of the instance of an object or replaces it. -/
inductive Changes.Sparing (known : σ → Nat → Prop) (i : Nat) : Scene σ → Scene σ → Prop where
  | refl (v : Scene σ) : Sparing known i v v
  | tail {u v w : Scene σ} {taken : List Pending} {bound bound' : Bound}
    (h : Sparing known i u v) (hlast : Change known v taken w) (hv : v.2 = some bound)
    (hw : w.2 = some bound') (hspares : bound.Spares i bound') : Sparing known i u w

theorem Changes.Sparing.names {u v : Scene σ} {a : Naming} {bound bound' : Bound}
    (h : Changes.Sparing known a.object.identity u v) (hu : u.2 = some bound)
    (hv : v.2 = some bound') (hcoherent : bound.Coherent) (ha : bound.Names a) :
    bound'.Coherent ∧ bound'.Names a := by
  induction h generalizing bound' with
  | refl =>
    obtain rfl := Option.some.inj (hu.symm.trans hv)
    exact ⟨hcoherent, ha⟩
  | tail _ hlast hbefore hafter hspares ih =>
    obtain ⟨hcoherent', binding, hbinding, htext⟩ := ih hbefore
    obtain rfl := Option.some.inj (hafter.symm.trans hv)
    have hcoherent'' := hlast.coherent
      (fun bound hbound ↦ Option.some.inj (hbefore.symm.trans hbound) ▸ hcoherent') _ hafter
    obtain ⟨k, hk, hidentity⟩ := hcoherent'.bindingOf?_eq_some_iff.mp hbinding
    refine ⟨hcoherent'', binding, ?_, htext⟩
    exact hcoherent''.bindingOf?_eq_some_iff.mpr ⟨k, hspares k binding hk hidentity, hidentity⟩

/-- An id that has been given away, and that is the object's as long as it is anyone's. -/
structure Bound.Spent (k : Int) (binding : Binding) (bound : Bound) : Prop where
  passed : bound.nextReference < k
  held : ∀ other, bound.instances.get? k = some other → other = binding

theorem Bound.Coherent.spent {bound : Bound} (h : bound.Coherent) {k : Int} (hk : k ≤ 0)
    {binding : Binding} (hbinding : bound.instances.get? k = some binding) :
    bound.Spent k binding where
  passed := by
    rcases Int.lt_or_eq_of_le hk with hneg | rfl
    · exact h.free k binding hneg hbinding
    · exact h.next_neg
  held other hother := Option.some.inj (hother.symm.trans hbinding)

/-- Ids are given away downwards, and those that scripts choose are positive. -/
theorem Change.spent {v w : Scene σ} {taken : List Pending} {k : Int} {binding : Binding}
    (h : Change known v taken w) (hk : k ≤ 0)
    (hv : ∀ bound, v.2 = some bound → bound.Spent k binding) :
    ∀ bound, w.2 = some bound → bound.Spent k binding := by
  cases h with
  | native t hmono => exact hv
  | refer bound hobject =>
    rintro _ ⟨⟩
    obtain ⟨hpassed, hheld⟩ := hv bound rfl
    unfold Bound.resolve
    split
    · exact ⟨hpassed, hheld⟩
    · refine ⟨?_, fun other hother ↦ ?_⟩
      · simp only [Bound.allocate]
        omega
      · have hne : k ≠ bound.nextReference := by omega
        simp only [Bound.allocate, Table.get?_insert, if_neg hne] at hother
        exact hheld other hother
  | take s hpending =>
    rintro _ ⟨⟩
    exact ⟨(hv _ rfl).passed, (hv _ rfl).held⟩
  | @put s bound target object htarget hobject hnew =>
    rintro _ ⟨⟩
    refine ⟨(hv bound rfl).passed, fun other hother ↦ ?_⟩
    have hne : k ≠ target := by omega
    simp only [Bound.put, Table.get?_insert, if_neg hne] at hother
    exact (hv bound rfl).held other hother
  | @remove bound target gone s htarget hgone =>
    rintro _ ⟨⟩
    refine ⟨(hv bound rfl).passed, fun other hother ↦ ?_⟩
    simp only [Bound.remove, Table.get?_erase] at hother
    split at hother
    · cases hother
    · exact (hv bound rfl).held other hother
  | unbind s bound => rintro _ ⟨⟩

/-- An id that has been given away is not given back: what stands under it has stood there
before. -/
theorem Change.stood {v w : Scene σ} {taken : List Pending} {bound bound' : Bound} {k : Int}
    {binding : Binding} (h : Change known v taken w) (hv : v.2 = some bound)
    (hw : w.2 = some bound') (hk : k ≤ 0) (hpassed : bound.nextReference < k)
    (hstands : bound'.instances.get? k = some binding) :
    bound.instances.get? k = some binding := by
  cases h with
  | native t hmono =>
    obtain rfl := Option.some.inj (hv.symm.trans hw)
    exact hstands
  | refer _ hobject =>
    cases hv
    cases hw
    unfold Bound.resolve at hstands
    split at hstands
    · exact hstands
    · have hne : k ≠ bound.nextReference := by omega
      simpa only [Bound.allocate, Table.get?_insert, if_neg hne] using hstands
  | take s hpending =>
    cases hv
    cases hw
    exact hstands
  | @put s _ target object htarget hobject hnew =>
    cases hv
    cases hw
    have hne : k ≠ target := by omega
    simpa only [Bound.put, Table.get?_insert, if_neg hne] using hstands
  | @remove _ target gone s htarget hgone =>
    cases hv
    cases hw
    simp only [Bound.remove, Table.get?_erase] at hstands
    split at hstands
    · cases hstands
    · exact hstands
  | unbind s bound => cases hw

section Since

variable {u v : Scene σ} {taken : List Pending} {bound bound' : Bound} {k : Int}
  {binding binding' : Binding} (h : Changes known u taken v) (hu : u.2 = some bound)
  (hcoherent : bound.Coherent) (hbinding : bound.instances.get? k = some binding)
include h hu hcoherent hbinding

theorem Changes.spent (hk : k ≤ 0) : ∀ bound', v.2 = some bound' → bound'.Spent k binding := by
  induction h with
  | refl =>
    intro other hother
    obtain rfl := Option.some.inj (hu.symm.trans hother)
    exact hcoherent.spent hk hbinding
  | tail _ hlast ih => exact hlast.spent hk ih

/-- **A negative id stays with its object**, whatever happens in the binding, and is given to no
other one when the object has lost it. -/
theorem Changes.negative_id (hv : v.2 = some bound') (hk : k < 0)
    (hbinding' : bound'.instances.get? k = some binding') : binding' = binding :=
  (h.spent hu hcoherent hbinding (Int.le_of_lt hk) bound' hv).held binding' hbinding'

/-- **An instance that still stands has stood all the while**, if its id is not of the script's
choice: nothing else has been under that id, and nothing has come back to it. -/
theorem Changes.sparing (hv : v.2 = some bound') (hk : k ≤ 0)
    (hstands : bound'.instances.get? k = some binding') :
    Changes.Sparing known binding.object.identity u v := by
  induction h generalizing bound' binding' with
  | refl => exact .refl _
  | @tail v w taken more h hlast ih =>
    obtain ⟨mid, hmid, -⟩ := (Changes.single hlast).same_binding hv
    have hspent := h.spent hu hcoherent hbinding hk mid hmid
    have hstood := hlast.stood hmid hv hk hspent.passed hstands
    refine .tail (ih hmid hstood) hlast hmid hv ?_
    obtain rfl := hspent.held _ hstood
    intro l other hother hidentity
    have hmidCoherent : mid.Coherent :=
      h.coherent (fun _ hsame ↦ Option.some.inj (hu.symm.trans hsame) ▸ hcoherent) mid hmid
    -- an object stands under one id only:
    have hid : some l = some k := by
      rw [← hmidCoherent.owned l other hother, hidentity, hmidCoherent.owned k _ hstood]
    obtain rfl := Option.some.inj hid
    rw [hstands, hother.symm.trans hstood]

end Since

/-- From one state to a later one the object has not been disposed of: its instance stands in both
under one id, which is not of the script's choice. -/
structure Bridge.Persists (known : σ → Nat → Prop) (c : ChannelId) (i : Nat)
    (bridge bridge' : Bridge σ) : Prop where
  changes : ∃ taken, Changes known (bridge.scene c) taken (bridge'.scene c)
  stands : ∃ bound bound' k binding binding', bridge.boundOf c = some bound ∧
    bridge'.boundOf c = some bound' ∧ k ≤ 0 ∧ bound.instances.get? k = some binding ∧
    binding.object.identity = i ∧ bound'.instances.get? k = some binding'

theorem Bridge.Persists.sparing {c : ChannelId} {i : Nat} {bridge bridge' : Bridge σ}
    (h : bridge.Persists known c i bridge')
    (hcoherent : ∀ bound, bridge.boundOf c = some bound → bound.Coherent) :
    Changes.Sparing known i (bridge.scene c) (bridge'.scene c) := by
  obtain ⟨⟨_, hchanges⟩, bound, bound', k, binding, binding', hbound, hbound', hk, hbinding, rfl,
    hstands⟩ := h
  exact hchanges.sparing hbound (hcoherent bound hbound) hbinding hbound' hk hstands

/-! ## Serializations -/

/-- What a channel writes when it serializes. -/
inductive Written where
  /-- The literal of a value. -/
  | literal (engine : EngineLiterals) (value : Value) (text : String)
  /-- The stub of an object, with the literals of its properties. -/
  | stub (engine : EngineLiterals) (target : StubTarget) (values : List (String × Value))
    (source : Source)

/-- **The namings are those of what is written**: one for each occurrence of an object, in order,
and the text is that of the values with the texts of the namings at these places. -/
inductive Written.Tells : Written → List Naming → Prop where
  | literal {engine : EngineLiterals} {value : Value} {text : String} {namings : List Naming}
    (hobjects : namings.map Naming.object = value.referred engine)
    (htext : value.literalWith engine Value.dictated (namings.map Naming.text) = (text, [])) :
    Tells (.literal engine value text) namings
  | stub {engine : EngineLiterals} {values : List (String × Value)} {stub : Stub}
    {amend : String → String → String} {place : String} {texts : List (String × String)}
    {namings : List Naming}
    (hobjects : namings.map Naming.object = Bound.namedReferred engine values)
    (htexts : Bound.dictatedLiterals engine values (namings.map Naming.text) = (texts, []))
    (hvalues : stub.values = Table.ofList texts) :
    Tells (.stub engine stub.target values ⟨stub.text amend, stub.sourceUrl, place⟩) namings

/-- The channel serializes while it is bound: it writes the literal of a value, or the stub of an
object with the literals of its properties. The namings are what these literals are told, in
order. -/
inductive Bridge.Serializes (host : Host σ) (c : ChannelId) (bridge : Bridge σ) :
    Written → List Naming → Bridge σ → Prop where
  | value {frame : Frame} {bound : Bound} {engine : EngineLiterals} {value : Value} {text : String}
    {bridge' : Bridge σ} (hbound : bridge.boundOf c = some bound)
    (h : ChannelId.literal c engine value frame bridge = some (text, bridge')) :
    Serializes host c bridge (.literal engine value text)
      (bound.namings (value.referred engine)) bridge'
  | stub {frame : Frame} {bound : Bound} {engine : EngineLiterals} {target : StubTarget}
    {binding : Binding} {values : List (String × Value)} {source : Source}
    {bridge' : Bridge σ} (hbound : bridge.boundOf c = some bound)
    (h : ChannelId.stub? host c engine target binding values frame bridge =
      some (some source, bridge')) :
    Serializes host c bridge (.stub engine target values source)
      (bound.namings (Bound.namedReferred engine values)) bridge'

variable {host : Host σ} {c : ChannelId} {bridge bridge' : Bridge σ} {written : Written}
  {namings : List Naming}

/-- A serialization refers to objects one after another, and that is all it does to the tables. -/
theorem Bridge.Serializes.referAll (h : bridge.Serializes host c written namings bridge') :
    ∃ bound objects, bridge.boundOf c = some bound ∧ namings = bound.namings objects ∧
      bridge'.boundOf c = some (Bound.referAll objects bound) := by
  cases h with
  | @value _ bound engine value _ _ hbound h =>
    rw [ChannelId.literal_run hbound] at h
    cases h
    refine ⟨bound, value.referred engine, hbound, rfl, ?_⟩
    rw [boundOf_logged, boundOf_withBound (by simp [hbound]), Bound.literal_state]
  | @stub _ bound engine _ _ values _ _ hbound h =>
    obtain ⟨channel, hchannel, hchannelBound⟩ := Option.bind_eq_some_iff.mp hbound
    rw [ChannelId.stub?_run hchannel hchannelBound] at h
    cases h
    refine ⟨bound, Bound.namedReferred engine values, hbound, rfl, ?_⟩
    rw [boundOf_logged, boundOf_withBound (by simp [hbound]), ChannelId.stubOf,
      Bound.stubFor_state]

/-- **What is written is the values with the texts of the namings.** -/
theorem Bridge.Serializes.tells (h : bridge.Serializes host c written namings bridge') :
    written.Tells namings := by
  cases h with
  | @value _ bound engine value _ _ hbound h =>
    rw [ChannelId.literal_run hbound] at h
    cases h
    have hdictated := Value.literalWith_dictated engine Bound.resolve value bound []
    rw [List.append_nil] at hdictated
    exact .literal (Value.map_object_answered _ _ _) hdictated
  | @stub _ bound engine target binding values _ _ hbound h =>
    obtain ⟨channel, hchannel, hchannelBound⟩ := Option.bind_eq_some_iff.mp hbound
    rw [ChannelId.stub?_run hchannel hchannelBound] at h
    cases h
    have hdictated := Bound.literals_dictated engine values bound []
    rw [List.append_nil] at hdictated
    let stub : Stub := {
      channel := (Bound.literals engine values bound).2.identifier
      target
      members := (host.surfaceOf binding.object).members
      values := Table.ofList (Bound.literals engine values bound).1
      urlPrefix := channel.urlPrefix
      description := (host.hooks bridge.native binding.object).description }
    exact @Written.Tells.stub engine values stub _ _ _ _ (Value.map_object_answered _ _ _)
      hdictated rfl

/-- **References are stable.** At two moments of one binding a channel serializes objects, each time
writing values with texts for the objects in them. These texts are equal exactly when the objects
are the same, whether they are written in one serialization or, with the instance of the first
object staying where it is meanwhile, in two. And a negative id that an object has at the first
moment is no other object's at any later one. -/
theorem Bridge.Serializes.references_stable {s : σ} {identifier place : String}
    {principal : ObjectRef} {taken : List Pending} {written written' : Written}
    {first second : List Naming} {bridge₁ bridge₁' bridge₂ bridge₂' : Bridge σ}
    (hsince : Changes known (s, some (.start identifier place principal)) taken (bridge₁.scene c))
    (hfirst : bridge₁.Serializes host c written first bridge₁')
    (hsecond : bridge₂.Serializes host c written' second bridge₂') :
    (written.Tells first ∧ written'.Tells second) ∧
      (∀ a ∈ first, (∀ b ∈ first, a.Agrees b) ∧
        (Changes.Sparing known a.object.identity (bridge₁'.scene c) (bridge₂.scene c) ∨
            bridge₁'.Persists known c a.object.identity bridge₂ →
          ∀ b ∈ second, a.Agrees b)) ∧
      ∀ bound k binding, bridge₁.boundOf c = some bound → k < 0 →
        bound.instances.get? k = some binding → ∀ later v bound' binding',
          Changes known (bridge₁.scene c) later v → v.2 = some bound' →
            bound'.instances.get? k = some binding' → binding'.object = binding.object := by
  have hcoherent : ∀ bound, bridge₁.boundOf c = some bound → bound.Coherent := by
    refine hsince.coherent ?_
    rintro _ ⟨⟩
    exact Bound.coherent_start identifier place principal
  refine ⟨⟨hfirst.tells, hsecond.tells⟩, ?_, ?_⟩
  · obtain ⟨bound₁, objects₁, hbound₁, rfl, hbound₁'⟩ := hfirst.referAll
    obtain ⟨bound₂, objects₂, hbound₂, rfl, -⟩ := hsecond.referAll
    have hcoherent₁ := hcoherent bound₁ hbound₁
    intro a ha
    have hnames := Bound.names_of_mem_namings hcoherent₁ ha
    have hcoherent₁' : ∀ bound, bridge₁'.boundOf c = some bound → bound.Coherent := by
      intro bound hbound
      obtain rfl := Option.some.inj (hbound₁'.symm.trans hbound)
      exact hcoherent₁.referAll objects₁
    refine ⟨fun b hb ↦ ?_, fun hpersists b hb ↦ ?_⟩
    · exact hnames.agrees (hcoherent₁.referAll objects₁) (Bound.names_of_mem_namings hcoherent₁ hb)
    · have hsparing : Changes.Sparing known a.object.identity (bridge₁'.scene c)
          (bridge₂.scene c) := hpersists.elim id fun h ↦ h.sparing hcoherent₁'
      -- what is written first is still so when the second serialization begins, and at its end:
      obtain ⟨hcoherent₂, hnames₂⟩ :=
        hsparing.names hbound₁' hbound₂ (hcoherent₁.referAll objects₁) hnames
      exact (hnames₂.extends (Bound.referAll_extends hcoherent₂ objects₂)).agrees
        (hcoherent₂.referAll objects₂) (Bound.names_of_mem_namings hcoherent₂ hb)
  · intro bound k binding hbound hk hbinding later v bound' binding' hlater hv hbinding'
    rw [hlater.negative_id hbound (hcoherent bound hbound) hbinding hv hk hbinding']

/-- Two objects are serialized, one of them twice; the other is disposed of, and both are serialized
again. The first is referred to as before, and the second by a new id. -/
theorem numbering_references_stable :
    let before : Value := .array [.native ⟨1, "Node"⟩, .native ⟨2, "Node"⟩, .native ⟨1, "Node"⟩]
    let after : Value := .array [.native ⟨1, "Node"⟩, .native ⟨2, "Node"⟩]
    let written : Written := .literal .plain before "[app[-1], app[-2], app[-1]]"
    let written' : Written := .literal .plain after "[app[-1], app[-3]]"
    ∃ (bridge₁ bridge₁' bridge₂ bridge₂' : Bridge Nat) (first second : List Naming),
      bridge₁.Serializes Host.numbering 0 written first bridge₁' ∧
      ChannelId.dispose 0 (-2) {} bridge₁' = some ((), bridge₂) ∧
      bridge₂.Serializes Host.numbering 0 written' second bridge₂' ∧
      first.map Naming.text = ["app[-1]", "app[-2]", "app[-1]"] ∧
      second.map Naming.text = ["app[-1]", "app[-3]"] ∧
      (written.Tells first ∧ written'.Tells second) ∧
      (∀ a ∈ first, ∀ b ∈ first, a.Agrees b) ∧
      ∀ a ∈ first, a.object.identity = 1 → ∀ b ∈ second, a.Agrees b := by
  intro before after written written'
  let bridge : Bridge Nat := {
    native := 3
    context := some {}
    channels := .ofList [(0, { worker := 0, bound := some (.start "1" "app" ⟨0, "Node"⟩) })] }
  let bridge' : Bridge Nat := ((ChannelId.literal 0 .plain before {} bridge).get rfl).2
  let bridge₂ : Bridge Nat := ((ChannelId.dispose 0 (-2) {} bridge').get rfl).2
  let bridge₂' : Bridge Nat := ((ChannelId.literal 0 .plain after {} bridge₂).get rfl).2
  have hfirst : bridge.Serializes Host.numbering 0 written _ bridge' :=
    @Bridge.Serializes.value _ _ _ _ {} _ .plain before _ _ rfl rfl
  have hsecond : bridge₂.Serializes Host.numbering 0 written' _ bridge₂' :=
    @Bridge.Serializes.value _ _ _ _ {} _ .plain after _ _ rfl rfl
  have hgone : Change (fun count i ↦ i < count) (bridge'.scene 0) [] (bridge₂.scene 0) :=
    .remove _ (by decide) rfl
  have hsince : Changes (fun count i ↦ i < count) (3, some (.start "1" "app" ⟨0, "Node"⟩)) []
    (bridge.scene 0) := .refl _
  obtain ⟨htells, hstable, -⟩ := Bridge.Serializes.references_stable hsince hfirst hsecond
  refine ⟨bridge, bridge', bridge₂, _, _, _, hfirst, rfl, hsecond, rfl, rfl, htells, ?_, ?_⟩
  · exact fun a ha ↦ (hstable a ha).1
  · intro a ha hone
    refine (hstable a ha).2 (.inr ⟨⟨_, .single hgone⟩, ?_⟩)
    -- the instance of the first object still stands:
    rw [hone]
    exact ⟨_, _, -1, _, _, rfl, rfl, by decide, rfl, rfl, rfl⟩

end ScriptBridge
