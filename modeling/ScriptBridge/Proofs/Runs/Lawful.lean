import ScriptBridge.Proofs.Runs.Leads

/-!
# Lawful native code

Native code is arbitrary, but not everything it could write down in this model makes sense: a
program could return an object that does not exist. `Native.Lawful` says what is expected of a
program, as a condition folded over its tree, with every answer of the bridge and every later state
allowed for.

## The discipline

* No write lets an object go out of existence.
* Whatever is handed to the bridge exists, and so does whatever is returned.
* A program does not bind the channel under consideration. It may call the bridge in every other
  way, this channel included.
* An initializer returns a *fresh* object, one that came into existence after the program last heard
  from the bridge. What is made before a call can be handed over in the call, and would then already
  stand in the tables.

The last point is why the condition keeps two states, the one in which the program last got control,
the *base*, and the current one.
-/

namespace ScriptBridge

/-- The identities of the native objects that a call hands over. -/
def BridgeCall.identities : BridgeCall → List Nat
  | .bind _ object _ => [object.identity]
  | .serialize _ value => value.identities
  | .complete _ (.ok value) => value.identities
  | _ => []

/-- The call does not bind a channel. -/
def BridgeCall.Avoids (c : ChannelId) (request : BridgeCall) : Prop :=
  ∀ object place, request ≠ .bind c object place

variable {σ α : Type}

/-- A program keeps to the discipline from a base and a current state, and ends as `ends` says. -/
def Native.Lawful (known : σ → Nat → Prop) (c : ChannelId) (ends : σ → σ → α → Prop) :
    Native σ α → σ → σ → Prop
  | .done a, base, s => ends base s a
  | .read next, base, s => (next s).Lawful known c ends base s
  | .write s' next, base, s => (∀ i, known s i → known s' i) ∧ next.Lawful known c ends base s'
  | .thread next, base, s => ∀ name, (next name).Lawful known c ends base s
  | .log _ next, base, s => next.Lawful known c ends base s
  | .defer _ next, base, s => next.Lawful known c ends base s
  | .call request next, _, s =>
    request.Avoids c ∧ (∀ i ∈ request.identities, known s i) ∧
      ∀ reply s', (∀ i, known s i → known s' i) → (next reply).Lawful known c ends s' s'

/-- How a member ends whose result is of no concern. -/
def Native.Anyhow (_base _state : σ) (_ : α) : Prop := True

/-- The result of a getter exists. -/
def Native.EndsKnown (known : σ → Nat → Prop) (_base s : σ) (value : Value) : Prop :=
  ∀ i ∈ value.identities, known s i

/-- The result of a method exists, if the method gives one. -/
def Native.ReturnsKnown (known : σ → Nat → Prop) (base s : σ) :
    Finish (Except BridgeError Value) → Prop
  | .returned (.ok value) => Native.EndsKnown known base s value
  | _ => True

/-- The object that an initializer made exists and is fresh. -/
def Native.ReturnsFresh (known : σ → Nat → Prop) (base s : σ) :
    Finish (Except BridgeError ObjectRef) → Prop
  | .returned (.ok object) => known s object.identity ∧ ¬ known base object.identity
  | _ => True

/-- All native code keeps to the discipline, as far as a channel is concerned. The arguments of
members come from scripts and hold no native objects. -/
structure Host.Lawful (known : σ → Nat → Prop) (c : ChannelId) (host : Host σ) : Prop where
  get : ∀ object name s, (host.get object name).Lawful known c (Native.EndsKnown known) s s
  set : ∀ object name value s, value.identities = [] →
    (host.set object name value).Lawful known c Native.Anyhow s s
  invoke : ∀ object name args s, Value.itemIdentities args = [] →
    (host.invoke object name args).Lawful known c (Native.ReturnsKnown known) s s
  construct : ∀ typeName args s, Value.itemIdentities args = [] →
    (host.construct typeName args).Lawful known c (Native.ReturnsFresh known) s s
  receive : ∀ object message s,
    (host.receive object message).Lawful known c Native.Anyhow s s

/-- A host whose objects are numbered in the order in which they are made. Each shows the newest
one, and scripts can make more of them in both ways. -/
def Host.numbering : Host Nat where
  surface typeName := ⟨typeName, .ofList
    [("", .initializer 0), ("newest", .property false), ("spawn", .method (some 0) true)]⟩
  hooks _ object := { description := object.typeName }
  get object _ := .read fun count ↦ .done <|
    match count with
    | 0 => .undefined
    | count + 1 => .native ⟨count, object.typeName⟩
  set _ _ _ := .done (.returned (.ok ()))
  invoke object _ _ := .read fun count ↦ .write (count + 1) <|
    .done (.returned (.ok (.native ⟨count, object.typeName⟩)))
  construct typeName _ := .read fun count ↦ .write (count + 1) <|
    .done (.returned (.ok ⟨count, typeName⟩))
  receive _ _ := .done (.returned ())

theorem Host.numbering_lawful (c : ChannelId) :
    Host.numbering.Lawful (fun count i ↦ i < count) c where
  get object name count := by
    intro i hi
    cases count with
    | zero => simp [Value.identities] at hi
    | succ count =>
      simp only [Value.identities, List.mem_singleton] at hi
      omega
  set _ _ _ _ _ := trivial
  invoke object name args count _ := by
    refine ⟨fun i hi ↦ Nat.lt_succ_of_lt hi, ?_⟩
    intro i hi
    simp only [Value.identities, List.mem_singleton] at hi
    omega
  construct typeName args count _ :=
    ⟨fun i hi ↦ Nat.lt_succ_of_lt hi, Nat.lt_succ_self count, Nat.lt_irrefl count⟩
  receive _ _ _ := trivial

open Bridge (Sound Moves Settled)
open Changes (Grounded)

/-- Calls of the bridge that do not bind the channel are calm moves of its scene. -/
def Answerer.Lawful (known : σ → Nat → Prop) (c : ChannelId) (answer : Answerer σ) : Prop :=
  ∀ request frame bridge, request.Avoids c → (∀ i ∈ request.identities, known bridge.native i) →
    (answer request).Leads known c True frame bridge fun _ _ ↦ True

variable {known : σ → Nat → Prop} {c : ChannelId} {answer : Answerer σ} {frame : Frame}
  {bridge : Bridge σ}

/-- Native code changes its state. -/
theorem Native.write_leads {calm : Prop} {s : σ} (h : ∀ i, known bridge.native i → known s i) :
    (modify (fun bridge : Bridge σ ↦ { bridge with native := s }) : Run σ Unit).Leads known c calm
      frame bridge fun _ bridge' ↦ bridge' = { bridge with native := s } := by
  rintro hsound _ _ ⟨⟩
  have hchange : Change known (bridge.scene c) [] (s, bridge.boundOf c) := .native _ h
  refine ⟨⟨hchange.grounded hsound.grounded, hsound.waiting⟩, ⟨⟨[], .single hchange⟩, ?_⟩, rfl⟩
  exact fun _ hsettled ↦ hsettled

/-- Native code leaves work for the background. -/
theorem Native.defer_leads {calm : Prop} (work : Deferred σ) :
    (modify (fun bridge : Bridge σ ↦ { bridge with background := bridge.background ++ [work] }) :
      Run σ Unit).Leads known c calm frame bridge fun _ bridge' ↦
        bridge' = { bridge with background := bridge.background ++ [work] } :=
  .modify rfl rfl rfl rfl

/-- **A lawful program moves the scene**, and leaves the references of the channel as they were when
it last got control. -/
theorem Native.run_leads {ends : σ → σ → α → Prop} (hanswer : answer.Lawful known c)
    (program : Native σ α) {base : σ} (hbase : Grounded known (base, bridge.boundOf c))
    (h : program.Lawful known c ends base bridge.native) :
    (program.run answer).Leads known c True frame bridge fun a bridge' ↦
      ∃ base, Grounded known (base, bridge'.boundOf c) ∧ ends base bridge'.native a := by
  induction program generalizing base bridge with
  | done a => exact .pure ⟨base, hbase, h⟩
  | read next ih => exact .get_bind (ih bridge.native hbase h)
  | write s next ih =>
    refine (Native.write_leads h.1).bind ?_
    rintro _ _ - - rfl
    exact ih hbase h.2
  | thread next ih =>
    refine Run.Leads.threadName.bind ?_
    rintro name _ - - rfl
    exact ih name hbase (h name)
  | log line next ih =>
    refine Run.Leads.sayAll.bind ?_
    rintro _ _ - - rfl
    exact ih hbase h
  | defer work next ih =>
    refine (Native.defer_leads work).bind ?_
    rintro _ _ - - rfl
    exact ih hbase h
  | call request next ih =>
    -- the answer may put objects into the tables, so the base moves on to the state after it:
    obtain ⟨havoids, hidentities, hnext⟩ := h
    refine (hanswer request frame bridge havoids hidentities).bind ?_
    intro reply bridge' hsound hmoves _
    exact ih reply hsound.grounded (hnext reply bridge'.native hmoves.known_mono)

end ScriptBridge
