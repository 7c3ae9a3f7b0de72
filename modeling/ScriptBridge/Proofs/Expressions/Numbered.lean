import ScriptBridge.Proofs.Expressions.Occurrences

/-!
# Objects are numbered as they are met

A literal asks its resolver once for each occurrence it refers to, from left to right, and puts the
answers where it asked for them. The resolver is asked in its own state, so this is observable: in a
bound channel the objects that have no id yet get the next ids in the order of their first
occurrences.

The questions are made visible by a resolver that keeps them (`Resolver.traced`); it is a resolver
like any other, so that what holds of all literals holds of its own. For the numbers,
`Bound.newcomers` lists the objects in question, and `Bound.referAll_newcomers` says that they join
the tables in this order.
-/

namespace ScriptBridge

variable {σ : Type}

/-! ## What is asked -/

/-- A resolver that keeps what it is asked and what it answers. -/
def Resolver.traced (resolve : Resolver σ) : Resolver (σ × List Naming) :=
  fun object (state, calls) ↦
    ((resolve object state).1, (resolve object state).2,
      calls ++ [⟨object, (resolve object state).1⟩])

namespace Value

variable {engine : EngineLiterals} {value part : Value} {step : Step}

/-- Keeping the questions changes no answer. -/
theorem answered_traced (resolve : Resolver σ) (objects : List ObjectRef) (state : σ)
    (calls : List Naming) :
    answered resolve.traced objects (state, calls) = answered resolve objects state := by
  induction objects generalizing state calls with
  | nil => rfl
  | cons object objects ih => simp only [answered, Resolver.traced, ih]

theorem askAll_traced (resolve : Resolver σ) (objects : List ObjectRef) (state : σ)
    (calls : List Naming) :
    askAll resolve.traced objects (state, calls) =
      (askAll resolve objects state, calls ++ answered resolve objects state) := by
  induction objects generalizing state calls with
  | nil => simp [askAll, answered]
  | cons object objects ih =>
    rw [answered, List.append_cons]
    exact ih _ _

theorem answered_objects (resolve : Resolver σ) (objects : List ObjectRef) (state : σ) :
    (answered resolve objects state).map Naming.object = objects := by
  induction objects generalizing state with
  | nil => rfl
  | cons object objects ih => rw [answered, List.map_cons, ih]

/-- A literal is what the answers make of its value, and it leaves the resolver in the state after
the last one. -/
theorem literalWith_eq (engine : EngineLiterals) (resolve : Resolver σ) (value : Value)
    (state : σ) :
    literalWith engine resolve value state =
      ((literalWith engine dictated value
          ((answered resolve (value.referred engine) state).map Naming.text)).1,
        askAll resolve (value.referred engine) state) := by
  have hdictated := literalWith_dictated engine resolve value state []
  rw [List.append_nil] at hdictated
  rw [hdictated, ← literalWith_state]
  rfl

/-- The occurrences of a value, each with the text for its way. -/
def named (engine : EngineLiterals) (told : Way → String) (value : Value) : List Naming :=
  (value.mentions engine).map fun mention ↦ ⟨mention.2, told mention.1⟩

theorem exists_named_eq (engine : EngineLiterals) (h : value.Keyed) (resolve : Resolver σ)
    (state : σ) :
    ∃ told, value.named engine told = answered resolve (value.referred engine) state := by
  have hlength : ((answered resolve (value.referred engine) state).map Naming.text).length =
      (value.mentions engine).length := by
    rw [List.length_map, ← List.length_map Naming.object, answered_objects, ← mentions_objects,
      List.length_map]
  obtain ⟨told, htold⟩ := exists_textsOf h hlength
  refine ⟨told, ?_⟩
  -- both sides have the same objects and the same texts:
  have hpair : ∀ namings : List Naming,
      List.zipWith Naming.mk (namings.map Naming.object) (namings.map Naming.text) = namings := by
    intro namings
    rw [List.zipWith_map, List.zipWith_self, List.map_id']
  rw [← hpair (answered resolve _ state), ← htold, answered_objects, ← mentions_objects, textsOf,
    List.zipWith_map, List.zipWith_self, named]

/-- Where the answers are the texts for the ways, the literal has each of them at its way. -/
theorem literalWith_of_named_eq {resolve : Resolver σ} {state : σ} {told : Way → String}
    (h : value.named engine told = answered resolve (value.referred engine) state) :
    literalWith engine resolve value state =
      (value.writtenAs engine told, askAll resolve (value.referred engine) state) := by
  have htexts : (answered resolve (value.referred engine) state).map Naming.text =
      textsOf told (value.mentions engine) := by
    rw [← h, named, List.map_map]
    rfl
  have hwritten : literalWith engine dictated value (textsOf told (value.mentions engine) ++ []) =
      (value.writtenAs engine told, []) := literalWith_texts value told []
  rw [List.append_nil] at hwritten
  rw [literalWith_eq, htexts, hwritten]

theorem literalWith_traced {resolve : Resolver σ} {state : σ} {told : Way → String}
    (h : value.named engine told = answered resolve (value.referred engine) state)
    (calls : List Naming) :
    literalWith engine resolve.traced value (state, calls) =
      (value.writtenAs engine told, askAll resolve (value.referred engine) state,
        calls ++ value.named engine told) := by
  have htraced := h.trans (answered_traced resolve (value.referred engine) state calls).symm
  rw [literalWith_of_named_eq htraced, askAll_traced, h]

/-! ## Engines that claim nothing -/

/-- The engine claims nothing in the value. -/
def Declines (engine : EngineLiterals) (value : Value) : Prop :=
  ∀ way node, value.at? way = some node → engine node = none

theorem Declines.of_mem_parts (h : Declines engine value) (hkeyed : value.Keyed)
    (hpart : (step, part) ∈ value.parts) : Declines engine part ∧ part.Keyed := by
  have hpart' := hkeyed.mem_parts_iff.mp hpart
  refine ⟨fun way node hnode ↦ ?_, hkeyed.of_part? hpart'⟩
  exact h (step :: way) node ((at?_cons_of_part? hpart' way).trans hnode)

variable (resolve : Resolver σ)

mutual

/-- **An engine that claims nothing in a value might as well not be there.** -/
theorem literalWith_of_declines : ∀ value : Value, Declines engine value ∧ value.Keyed →
    literalWith engine resolve value = literalWith .plain resolve value
  | .array items, h => by
    have hitems : ∀ item ∈ items, Declines engine item ∧ item.Keyed := by
      intro item hitem
      obtain ⟨index, hindex⟩ := List.mem_iff_getElem?.mp hitem
      have hpart : (array items).part? (.item index) = some item := hindex
      exact h.1.of_mem_parts h.2 (h.2.mem_parts_iff.mpr hpart)
    simp only [literalWith, h.1 [] (.array items) rfl, EngineLiterals.plain,
      itemLiterals_of_declines items hitems]
  | .object fields, h => by
    have hfields : ∀ field ∈ fields, Declines engine field.2 ∧ field.2.Keyed := by
      intro field hfield
      exact h.1.of_mem_parts h.2 (List.mem_map_of_mem hfield)
    simp only [literalWith, h.1 [] (.object fields) rfl, EngineLiterals.plain,
      fieldLiterals_of_declines fields hfields]
  | .native ref, h => by
    simp only [literalWith, h.1 [] (.native ref) rfl, EngineLiterals.plain]
  | .undefined, h | .null, h | .bool _, h | .int _, h | .float _, h | .string _, h | .date _, h
  | .bytes _, h | .callback _, h | .described _, h => by
    simp only [literalWith, h.1 [] _ rfl, EngineLiterals.plain]

theorem itemLiterals_of_declines : ∀ items : List Value,
    (∀ item ∈ items, Declines engine item ∧ item.Keyed) →
      itemLiterals engine resolve items = itemLiterals .plain resolve items
  | [], _ => rfl
  | item :: items, h => by
    obtain ⟨hitem, hitems⟩ := List.forall_mem_cons.mp h
    rw [itemLiterals, itemLiterals, literalWith_of_declines item hitem,
      itemLiterals_of_declines items hitems]

theorem fieldLiterals_of_declines : ∀ fields : List (String × Value),
    (∀ field ∈ fields, Declines engine field.2 ∧ field.2.Keyed) →
      fieldLiterals engine resolve fields = fieldLiterals .plain resolve fields
  | [], _ => rfl
  | (key, value) :: fields, h => by
    obtain ⟨hvalue, hfields⟩ := List.forall_mem_cons.mp h
    rw [fieldLiterals, fieldLiterals, literalWith_of_declines value hvalue,
      fieldLiterals_of_declines fields hfields]

end

end Value

/-! ## The numbers of newcomers -/

theorem Pending.Numbered.id_of_getElem? {next : Int} {entries : List Pending}
    (h : Numbered next entries) {k : Nat} {entry : Pending} (hk : entries[k]? = some entry) :
    entry.id = next - k := by
  induction entries generalizing next k with
  | nil => cases hk
  | cons first entries ih =>
    cases k with
    | zero =>
      obtain rfl := Option.some.inj hk
      have hfirst := h.1
      omega
    | succ k =>
      have hrest := ih h.2 hk
      omega

namespace Bound

variable {bound : Bound}

/-- Which of the objects have no id yet, in the order of their first occurrences. -/
def newcomers (bound : Bound) (objects : List ObjectRef) : List Nat :=
  ((objects.filter fun object ↦ (bound.bindingOf? object).isNone).map
    ObjectRef.identity).eraseDups

theorem newcomers_cons_of_some {object : ObjectRef} {binding : Binding}
    (h : bound.bindingOf? object = some binding) (objects : List ObjectRef) :
    bound.newcomers (object :: objects) = bound.newcomers objects := by
  simp [newcomers, h]

/-- An object without an id is a newcomer, and then it is none any more. -/
theorem newcomers_cons_of_none (hcoherent : bound.Coherent) {object : ObjectRef}
    (h : bound.bindingOf? object = none) (objects : List ObjectRef) :
    bound.newcomers (object :: objects) =
      object.identity :: (resolve object bound).2.newcomers objects := by
  have hafter : (resolve object bound).2 = bound.allocate object := by simp [resolve, h]
  have hunknown : ∀ other : ObjectRef, ((bound.allocate object).bindingOf? other).isNone =
      ((bound.bindingOf? other).isNone && !other.identity == object.identity) := by
    intro other
    have hcoherent' := hcoherent.allocate h
    rw [Bool.eq_iff_iff, Bool.and_eq_true, Option.isNone_iff_eq_none, Option.isNone_iff_eq_none,
      hcoherent'.bindingOf?_eq_none_iff, hcoherent.bindingOf?_eq_none_iff, Bound.allocate,
      Table.get?_insert]
    split
    · next heq => simp [heq]
    · next hne => simp [hne]
  rw [hafter, newcomers, List.filter_cons_of_pos (by simp [h]), List.map_cons,
    List.eraseDups_cons, List.filter_map, List.filter_filter, newcomers]
  simp only [hunknown, Function.comp_def, Bool.and_comm]

/-- **Newcomers join the tables in the order of their first occurrences.** -/
theorem referAll_newcomers (h : bound.Coherent) (objects : List ObjectRef) :
    ∃ new, referAll objects bound = bound.grown new ∧ bound.Admits new ∧
      new.map Pending.identity = bound.newcomers objects := by
  induction objects generalizing bound with
  | nil => exact ⟨[], (grown_nil bound).symm, admits_nil bound, rfl⟩
  | cons object objects ih =>
    obtain ⟨rest, hrest, hadmits, hnew⟩ := ih (h.resolve object)
    cases hbinding : bound.bindingOf? object with
    | some binding =>
      have hstays : (resolve object bound).2 = bound := by simp [resolve, hbinding]
      rw [hstays] at hrest hadmits hnew
      refine ⟨rest, ?_, hadmits, hnew.trans (newcomers_cons_of_some hbinding objects).symm⟩
      rw [referAll_cons, hstays, hrest]
    | none =>
      have hgrown : (resolve object bound).2 = bound.grown [bound.entryFor object] := by
        simp [resolve, hbinding, allocate_eq_grown]
      have hfirst : bound.Admits [bound.entryFor object] :=
        ⟨⟨rfl, trivial⟩, by simp [entryFor],
          by simpa [entryFor] using h.bindingOf?_eq_none_iff.mp hbinding, by simp⟩
      refine ⟨bound.entryFor object :: rest, ?_, ?_, ?_⟩
      · rw [referAll_cons, hrest, hgrown, ← grown_append]
        rfl
      · exact hfirst.append (hgrown ▸ hadmits)
      · rw [newcomers_cons_of_none h hbinding, ← hnew]
        rfl

/-- The newcomers are given the ids from the next one downwards, and what is said of an object that
had no id is its new place, at every occurrence. -/
theorem newcomers_numbered (h : bound.Coherent) (objects : List ObjectRef) :
    (referAll objects bound).nextReference =
        bound.nextReference - (bound.newcomers objects).length ∧
      ∀ (k i : Nat), (bound.newcomers objects)[k]? = some i →
        (referAll objects bound).references.get? i = some (bound.nextReference - k) ∧
          ∀ a ∈ bound.namings objects, a.object.identity = i →
            a.text = bound.placeOf (bound.nextReference - k) := by
  obtain ⟨new, hgrown, hadmits, hnew⟩ := referAll_newcomers h objects
  refine ⟨by rw [hgrown, ← hnew, List.length_map]; rfl, fun k i hk ↦ ?_⟩
  rw [← hnew, List.getElem?_map, Option.map_eq_some_iff] at hk
  obtain ⟨entry, hentry, rfl⟩ := hk
  have hmem := List.mem_of_getElem? hentry
  have hid := hadmits.numbered.id_of_getElem? hentry
  obtain ⟨hinstance, hreference⟩ := hadmits.get?_of_mem hmem
  refine ⟨by rw [hgrown, hreference, hid], fun a ha hidentity ↦ ?_⟩
  obtain ⟨binding, hbinding, htext⟩ := names_of_mem_namings h ha
  rw [hgrown, bindingOf?, hidentity, hreference, Option.bind_some, hinstance] at hbinding
  rw [← htext, ← Option.some.inj hbinding, (hadmits.stands entry hmem).2, hid]

/-- What is said of an object that has an id already is its place. -/
theorem text_of_bindingOf? (h : bound.Coherent) {objects : List ObjectRef} {a : Naming}
    (ha : a ∈ bound.namings objects) {binding : Binding}
    (hbinding : bound.bindingOf? a.object = some binding) : a.text = binding.place := by
  obtain ⟨other, hother, htext⟩ := names_of_mem_namings h ha
  have hstays := referAll_extends h objects a.object binding hbinding
  rw [← htext, Option.some.inj (hother.symm.trans hstays)]

end Bound

/-! ## The order of visits -/

/-- What the tables and the texts for the ways are after a channel wrote the value: the newcomers
are given the next negative ids in the order of their first occurrences and are referred to by
their new places, and the others by the places they have. -/
structure Bound.Numbers (engine : EngineLiterals) (value : Value) (told : Value.Way → String)
    (bound bound' : Bound) : Prop where
  negative : bound.nextReference < 0
  next : bound'.nextReference = bound.nextReference -
    (bound.newcomers ((value.mentions engine).map Prod.snd)).length
  newcomer : ∀ (k i : Nat), (bound.newcomers ((value.mentions engine).map Prod.snd))[k]? = some i →
    bound'.references.get? i = some (bound.nextReference - k) ∧
      ∀ way object, value.Mentions engine way object → object.identity = i →
        told way = bound.placeOf (bound.nextReference - k)
  known : ∀ way object binding, value.Mentions engine way object →
    bound.bindingOf? object = some binding → told way = binding.place

theorem Bound.Coherent.numbers {bound : Bound} (hcoherent : bound.Coherent)
    {engine : EngineLiterals} {value : Value} (hkeyed : value.Keyed) {told : Value.Way → String}
    (htold : value.named engine told = bound.namings (value.referred engine)) :
    bound.Numbers engine value told (Bound.referAll (value.referred engine) bound) := by
  have hnaming : ∀ way object, value.Mentions engine way object →
      ⟨object, told way⟩ ∈ bound.namings (value.referred engine) := by
    intro way object hmentions
    rw [← htold]
    exact List.mem_map_of_mem ((Value.mem_mentions_iff hkeyed).mpr hmentions)
  obtain ⟨hnext, hnumbered⟩ := newcomers_numbered hcoherent (value.referred engine)
  refine ⟨hcoherent.next_neg, ?_, ?_, ?_⟩
  · rw [Value.mentions_objects, hnext]
  · rw [Value.mentions_objects]
    intro k i hk
    obtain ⟨hreference, htexts⟩ := hnumbered k i hk
    exact ⟨hreference, fun way object hmentions ↦ htexts _ (hnaming way object hmentions)⟩
  · intro way object binding hmentions hbinding
    exact text_of_bindingOf? hcoherent (hnaming way object hmentions) hbinding

/-- **Objects are met from left to right.** What the literal of a value refers to are the
occurrences that the engine claims neither themselves nor with something they lie in, in the order
of their ways; the resolver is asked once for each of them, and each answer stands, as it is, where
it was asked for. So in a channel that has been bound the objects that have no id yet are given the
next negative ids in the order of their first occurrences, and all occurrences of one of them carry
the same text. An engine that claims nothing in the value changes nothing. -/
theorem Value.met_in_order (engine : EngineLiterals) {value : Value} (h : value.Keyed) :
    (∀ way object,
        (way, object) ∈ value.mentions engine ↔ value.Mentions engine way object) ∧
      ((value.mentions engine).Pairwise fun a b ↦ Way.Before a.1 b.1) ∧
      (∀ {σ : Type} (resolve : Resolver σ) (s : σ), ∃ told : Way → String,
        (value.literalWith engine resolve s).1 = value.writtenAs engine told ∧
          ∀ calls, value.literalWith engine resolve.traced (s, calls) =
            (value.writtenAs engine told, (value.literalWith engine resolve s).2,
              calls ++ (value.mentions engine).map fun mention ↦
                ⟨mention.2, told mention.1⟩)) ∧
      (∀ {σ : Type} {known : σ → Nat → Prop} {s : σ} {identifier place : String}
        {principal : ObjectRef} {taken : List Pending} {bridge : Bridge σ} {c : ChannelId}
        {bound : Bound},
        Changes known (s, some (.start identifier place principal)) taken (bridge.scene c) →
        bridge.boundOf c = some bound → ∀ frame, ∃ told bridge' bound',
          ChannelId.literal c engine value frame bridge =
              some (value.writtenAs engine told, bridge') ∧
            bridge'.boundOf c = some bound' ∧ bound.Numbers engine value told bound') ∧
      (Declines engine value → ∀ {σ : Type} (resolve : Resolver σ),
        value.literalWith engine resolve = value.literalWith .plain resolve) := by
  refine ⟨fun _ _ ↦ mem_mentions_iff h, mentions_ordered h, ?_, ?_, ?_⟩
  · intro σ resolve s
    obtain ⟨told, htold⟩ := exists_named_eq engine h resolve s
    rw [literalWith_of_named_eq htold]
    exact ⟨told, rfl, literalWith_traced htold⟩
  · intro σ known s identifier place principal taken bridge c bound hsince hbound frame
    have hcoherent : bound.Coherent := by
      refine hsince.coherent ?_ bound hbound
      rintro _ ⟨⟩
      exact Bound.coherent_start identifier place principal
    obtain ⟨told, htold⟩ := exists_named_eq engine h Bound.resolve bound
    have hrun : ChannelId.literal c engine value frame bridge = _ :=
      ChannelId.literal_run hbound engine value
    rw [Bound.literal, literalWith_of_named_eq htold] at hrun
    refine ⟨told, _, _, hrun, ?_, hcoherent.numbers h htold⟩
    rw [Bridge.boundOf_logged, Bridge.boundOf_withBound (by simp [hbound])]
    rfl
  · exact fun hdeclines σ resolve ↦ literalWith_of_declines resolve value ⟨hdeclines, h⟩

/-- Two objects, one of which occurs again later, next to octets that the engine claims. -/
theorem numbering_met_in_order :
    ∃ (value : Value) (told : Value.Way → String) (bridge bridge' : Bridge Nat)
      (bound bound' : Bound), value.Keyed ∧
      value.mentions .typedArrays =
        [([.field "a", .item 0], ⟨2, "Node"⟩), ([.field "a", .item 1], ⟨1, "Node"⟩),
          ([.field "b"], ⟨2, "Node"⟩)] ∧
      bridge.boundOf 0 = some bound ∧
      ChannelId.literal 0 .typedArrays value {} bridge =
        some (value.writtenAs .typedArrays told, bridge') ∧
      bound.Numbers .typedArrays value told bound' ∧
      told [.field "a", .item 0] = "app[-1]" ∧ told [.field "a", .item 1] = "app[-2]" ∧
      told [.field "b"] = "app[-1]" := by
  let value : Value := .object
    [("a", .array [.native ⟨2, "Node"⟩, .native ⟨1, "Node"⟩, .bytes [3]]),
      ("b", .native ⟨2, "Node"⟩)]
  let bridge : Bridge Nat := {
    native := 3
    context := some {}
    channels := .ofList [(0, { worker := 0, bound := some (.start "1" "app" ⟨0, "Node"⟩) })] }
  have hleaf : ∀ ref, (Value.native ref).Keyed :=
    fun ref ↦ Value.keyed_of_parts nofun nofun
  have hoctets : (Value.bytes [3]).Keyed := Value.keyed_of_parts nofun nofun
  have hordered : "a" < "b" := by decide +kernel
  have hkeyed : value.Keyed :=
    Value.keyed_object (List.pairwise_pair.mpr hordered)
      (by simp [Value.keyed_array, hleaf, hoctets])
  have hmentions : value.mentions .typedArrays =
      [([.field "a", .item 0], ⟨2, "Node"⟩), ([.field "a", .item 1], ⟨1, "Node"⟩),
        ([.field "b"], ⟨2, "Node"⟩)] := rfl
  have hsince : Changes (fun count i ↦ i < count) (3, some (.start "1" "app" ⟨0, "Node"⟩)) []
    (bridge.scene 0) := .refl _
  obtain ⟨hexact, -, -, hchannel, -⟩ := Value.met_in_order .typedArrays hkeyed
  obtain ⟨told, bridge', bound', hrun, -, hnumbers⟩ := hchannel hsince rfl {}
  have htold : ∀ (k : Nat) way (object : ObjectRef),
      (way, object) ∈ value.mentions .typedArrays →
      (Bound.newcomers (.start "1" "app" ⟨0, "Node"⟩)
        ((value.mentions .typedArrays).map Prod.snd))[k]? = some object.identity →
      told way = Bound.placeOf (.start "1" "app" ⟨0, "Node"⟩) (-1 - k) :=
    fun k way object hmem hk ↦
      (hnumbers.newcomer k _ hk).2 way object ((hexact way object).mp hmem) rfl
  refine ⟨value, told, bridge, bridge', _, bound', hkeyed, hmentions, rfl, hrun, hnumbers,
    htold 0 _ ⟨2, "Node"⟩ ?_ rfl, htold 1 _ ⟨1, "Node"⟩ ?_ rfl, htold 0 _ ⟨2, "Node"⟩ ?_ rfl⟩
  all_goals simp [hmentions]

end ScriptBridge
