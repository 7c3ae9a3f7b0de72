import ScriptBridge.Proofs.Stubs.Lines

/-!
# What a hook sees of a stub

The object of a stub may amend its fragments through a hook. A hook may keep a state, and what it
answers may depend on all that it was asked before, so what matters is the sequence of its calls.
`Stub.recorded` is a hook that does what another one does and writes its calls down.

The stub is put together from what the hook answers, and the hook is called for nothing else
(`Stub.PutTogether`): for the lines, for what the proxy is based on, for the line that names the
source, for the lines together, and for the whole. But what the proxy is based on goes through the
hook only if it is nothing. The tag of an initializer, and the object itself as a function, are put
into the stub as they are (`Stub.passes_hook`).

That calls are made one after the other is said by `Stub.Adds`, which has a rule for each way in
which the generator is put together.
-/

namespace ScriptBridge

variable {σ α β : Type}

/-! ## Records -/

/-- A call of a hook, with its answer. -/
structure HookCall where
  key : String
  fragment : String
  answer : String
  deriving DecidableEq, Repr

/-- What the hook was asked. -/
def HookCall.asked (call : HookCall) : String × String := (call.key, call.fragment)

namespace Stub

/-- The hook, with a record of its calls. -/
def recorded (hook : String → String → StateM σ String) (key fragment : String) :
    StateM (σ × List HookCall) String := fun (state, calls) ↦
  let (answer, state) := (hook key fragment).run state
  (answer, (state, calls ++ [⟨key, fragment, answer⟩]))

/-- From a state, the program comes to a result and another state, and the program with a record
comes to the same and adds these calls. -/
def Adds (program : StateM σ α) (withRecord : StateM (σ × List HookCall) α) (calls : List HookCall)
    (state : σ) (result : α) (state' : σ) : Prop :=
  program.run state = (result, state') ∧
    ∀ before, withRecord.run (state, before) = (result, (state', before ++ calls))

namespace Adds

theorem pure (result : α) (state : σ) :
    Adds (Pure.pure result) (Pure.pure result) [] state result state :=
  ⟨rfl, fun before ↦ by rw [List.append_nil]; rfl⟩

theorem bind {program : StateM σ α} {withRecord : StateM (σ × List HookCall) α}
    {next : α → StateM σ β} {nextWithRecord : α → StateM (σ × List HookCall) β}
    {calls calls' : List HookCall} {state state' state'' : σ} {a : α} {b : β}
    (h : Adds program withRecord calls state a state')
    (h' : Adds (next a) (nextWithRecord a) calls' state' b state'') :
    Adds (program >>= next) (withRecord >>= nextWithRecord) (calls ++ calls') state b state'' := by
  constructor
  · rw [StateT.run_bind, h.1]
    exact h'.1
  · intro before
    rw [StateT.run_bind, h.2, ← List.append_assoc]
    exact h'.2 (before ++ calls)

/-- What is made of the result is not in the record. -/
theorem bind_pure {program : StateM σ α} {withRecord : StateM (σ × List HookCall) α}
    {calls : List HookCall} {state state' : σ} {a : α}
    (h : Adds program withRecord calls state a state') (f : α → β) :
    Adds (program >>= fun a ↦ Pure.pure (f a)) (withRecord >>= fun a ↦ Pure.pure (f a)) calls state
      (f a) state' := by
  have hbind : Adds (program >>= fun a ↦ Pure.pure (f a)) (withRecord >>= fun a ↦ Pure.pure (f a))
      (calls ++ []) state (f a) state' := h.bind (Adds.pure (f a) state')
  rwa [List.append_nil] at hbind

/-- A call of the hook is in the record. -/
theorem call (hook : String → String → StateM σ String) (key fragment : String) (state : σ) :
    ∃ call state', Adds (hook key fragment) (recorded hook key fragment) [call] state call.answer
      state' ∧ call.asked = (key, fragment) :=
  ⟨⟨key, fragment, ((hook key fragment).run state).1⟩, ((hook key fragment).run state).2,
    ⟨rfl, fun _ ↦ rfl⟩, rfl⟩

end Adds

/-! ## Parts of stubs -/

variable (hook : String → String → StateM σ String)

/-- The lines that were answered, each with its end. -/
def joined : List HookCall → String
  | [] => ""
  | call :: calls => call.answer ++ "\n" ++ joined calls

/-- The hook is called for each fragment in turn. -/
theorem lines_adds (fragments : List (String × String)) (state : σ) :
    ∃ calls state', Adds (lines hook fragments) (lines (recorded hook) fragments) calls state
      (joined calls) state' ∧ calls.map HookCall.asked = fragments := by
  induction fragments generalizing state with
  | nil => exact ⟨[], state, .pure "" state, rfl⟩
  | cons fragment fragments ih =>
    obtain ⟨key, fragment⟩ := fragment
    obtain ⟨call, state₁, hcall, hasked⟩ := Adds.call hook key fragment state
    obtain ⟨calls, state₂, hcalls, hfragments⟩ := ih state₁
    refine ⟨call :: calls, state₂, hcall.bind (hcalls.bind_pure _), ?_⟩
    rw [List.map_cons, hasked, hfragments]

/-- The hook is called for what the proxy is based on if that is nothing. -/
theorem base_adds (stub : Stub) (state : σ) :
    ∃ (call : Option HookCall) (state' : σ),
      Adds (stub.base hook) (stub.base (recorded hook)) call.toList state
        ((call.map HookCall.answer).getD stub.ownBase) state' ∧
      call.map HookCall.asked =
        if stub.defaultMember?.isNone then some (baseKey, stub.ownBase) else none := by
  unfold base ownBase
  match stub.defaultMember? with
  | none =>
    obtain ⟨call, state', hcall, hasked⟩ := Adds.call hook baseKey "null" state
    exact ⟨some call, state', hcall, by rw [Option.map_some, hasked]; rfl⟩
  | some (.initializer _) | some (.method _ _) | some (.property _) =>
    exact ⟨none, state, .pure _ _, rfl⟩

/-! ## The whole -/

/-- **A stub that is put together from the answers of calls.** -/
inductive PutTogether (stub : Stub) : List HookCall → String → Prop where
  | parts {lines : List HookCall} {base : Option HookCall} {url body whole : HookCall}
    (hlines : lines.map HookCall.asked =
      stub.shown.map fun entry ↦ (entry.1, stub.line entry))
    (hbase : base.map HookCall.asked =
      if stub.defaultMember?.isNone then some (baseKey, stub.ownBase) else none)
    (hurl : url.asked = (sourceUrlKey, "\n//# sourceURL=" ++ stub.sourceUrl))
    (hbody : body.asked = (localKey, joined lines))
    (hwhole : whole.asked = (globalKey,
      "(function(exports) \x7b\n" ++ body.answer ++ "\x7d)(" ++
        stub.factory ((base.map HookCall.answer).getD stub.ownBase) ++ ");\n" ++ url.answer)) :
    PutTogether stub (lines ++ (base.toList ++ [url, body, whole])) whole.answer

theorem generate_adds (stub : Stub) (state : σ) :
    ∃ calls text state', Adds (stub.generate hook) (stub.generate (recorded hook)) calls state text
      state' ∧ stub.PutTogether calls text := by
  obtain ⟨lines, state₁, hlines, hfragments⟩ := lines_adds hook stub.fragments state
  obtain ⟨base, state₂, hbase, hown⟩ := base_adds hook stub state₁
  obtain ⟨url, state₃, hurl, haskedUrl⟩ := Adds.call hook sourceUrlKey
    ("\n//# sourceURL=" ++ stub.sourceUrl) state₂
  obtain ⟨body, state₄, hbody, haskedBody⟩ := Adds.call hook localKey (joined lines) state₃
  obtain ⟨whole, state₅, hwhole, haskedWhole⟩ := Adds.call hook globalKey
    ("(function(exports) \x7b\n" ++ body.answer ++ "\x7d)(" ++
      stub.factory ((base.map HookCall.answer).getD stub.ownBase) ++ ");\n" ++ url.answer) state₄
  exact ⟨_, _, state₅, hlines.bind (hbase.bind (hurl.bind (hbody.bind hwhole))),
    .parts (hfragments.trans stub.fragments_eq) hown haskedUrl haskedBody haskedWhole⟩

/-- The keys of all fragments: the names of the members that are shown, and the four of what the
lines are put into. -/
def allKeys (stub : Stub) : List String :=
  stub.shown.map Prod.fst ++ [baseKey, localKey, sourceUrlKey, globalKey]

namespace PutTogether

variable {stub : Stub} {calls : List HookCall} {text : String}

/-- The keys of the calls, in the order of the calls. -/
theorem keys (h : stub.PutTogether calls text) : calls.map HookCall.key =
    stub.shown.map Prod.fst ++
      ((if stub.defaultMember?.isNone then [baseKey] else []) ++
        [sourceUrlKey, localKey, globalKey]) := by
  obtain ⟨hlines, hbase, hurl, hbody, hwhole⟩ := h
  next lines base url body whole =>
  have hfst : HookCall.key = Prod.fst ∘ HookCall.asked := rfl
  have hkeys : lines.map HookCall.key = stub.shown.map Prod.fst := by
    rw [hfst, ← List.map_map, hlines, List.map_map]
    rfl
  have hbaseKey : base.toList.map HookCall.key =
      if stub.defaultMember?.isNone then [baseKey] else [] := by
    rw [hfst, ← List.map_map, ← Option.toList_map, hbase]
    split <;> rfl
  have hurlKey : url.key = sourceUrlKey := congrArg Prod.fst hurl
  have hbodyKey : body.key = localKey := congrArg Prod.fst hbody
  have hwholeKey : whole.key = globalKey := congrArg Prod.fst hwhole
  have hrest : [url, body, whole].map HookCall.key = [sourceUrlKey, localKey, globalKey] := by
    rw [List.map_cons, List.map_cons, List.map_singleton, hurlKey, hbodyKey, hwholeKey]
  rw [List.map_append, List.map_append, hkeys, hbaseKey, hrest]

/-- All keys are there if there is no default member. -/
theorem keys_perm_iff (h : stub.PutTogether calls text) :
    (calls.map HookCall.key).Perm stub.allKeys ↔ stub.defaultMember? = none := by
  rw [h.keys, allKeys, List.perm_append_left_iff, ← Option.isNone_iff_eq_none]
  cases stub.defaultMember?.isNone with
  | true => exact iff_of_true (by decide) rfl
  | false => exact iff_of_false (by decide) Bool.false_ne_true

end PutTogether

/-- **A stub passes through the hook** fragment by fragment, but for what the proxy is based on if
there is a default member: the record has each call, and the stub is put together from the answers.
So the keys of all fragments are in the record just if there is no default member. -/
theorem passes_hook (stub : Stub) (state : σ) :
    ∃ calls text state',
      (stub.generate hook).run state = (text, state') ∧
      (stub.generate (recorded hook)).run (state, []) = (text, (state', calls)) ∧
      stub.PutTogether calls text ∧
      ((calls.map HookCall.key).Perm stub.allKeys ↔ stub.defaultMember? = none) := by
  obtain ⟨calls, text, state', ⟨hplain, hrecord⟩, htogether⟩ := generate_adds hook stub state
  exact ⟨calls, text, state', hplain, hrecord [], htogether, htogether.keys_perm_iff⟩

/-- The stub of a type that scripts can make instances of, and that has no other member. -/
def ofInitializer : Stub where
  channel := "7"
  target := .plugin "Counter"
  members := Table.empty.insert "" (.initializer 1)
  values := .empty
  urlPrefix := "io.latch.plugin."
  description := "Counter"

/-- **The tag of an initializer is kept from the hook.** -/
theorem not_every_fragment_passed :
    ¬ ∀ (stub : Stub) (hook : String → String → StateM Unit String) (calls : List HookCall)
      (text : String) (state' : Unit),
      (stub.generate (recorded hook)).run ((), []) = (text, (state', calls)) →
      (calls.map HookCall.key).Perm stub.allKeys := by
  intro hall
  obtain ⟨calls, text, state', hadds, htogether⟩ :=
    generate_adds (fun _ fragment ↦ (pure fragment : StateM Unit String)) ofInitializer ()
  have hnone : ofInitializer.defaultMember? = none :=
    htogether.keys_perm_iff.mp (hall _ _ calls text state' (hadds.2 []))
  exact absurd hnone (by decide)

end Stub

end ScriptBridge
