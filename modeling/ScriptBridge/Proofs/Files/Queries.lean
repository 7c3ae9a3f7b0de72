import ScriptBridge.Catalogue.Programs
import ScriptBridge.Proofs.Messages.Completed

/-!
# Questions to a store, now and later

Scripts can ask a content store for three things in two ways each. A script that waits gets an
expression in reply. One that does not wait hands in a callback, and some time later its function is
completed. The two ways have code of their own for everything but the store, so that they agree is
something to be proved (`FileSystem.Query.answers_alike`).

What they have in common is the outcome of the store, and each way has its own text for it,
`Query.reply` and `Query.completion`. That the texts say the same is a fact about texts. That these
are the texts is a statement about runs, one about a single run for the reply (`Query.Replies`), and
one about three runs, which may be far apart, for the completion (`Query.Completes`): a message
hands in a call, the call leaves work for the background, and the work evaluates the text. Both
speak of a channel with no stubs left to be made, and so every operation leaves it
(`Bridge.Reached.tidy`); only while an object is being written is there more to send than a literal.
-/

namespace ScriptBridge

variable {σ : Type} {host : Host σ} {answer : Answerer σ} {c : ChannelId} {frame : Frame}
  {bridge : Bridge σ}

/-! ## Questions -/

namespace FileSystem

/-- What a store can be asked for now or later. -/
inductive Query where
  | stat
  | directory
  | content
  deriving DecidableEq, Repr

/-- The object is served by the plugin in the native state. -/
structure Serves (host : Host σ) (object : ObjectRef) (store : ContentStore σ) (s : σ) :
    Prop where
  surface : host.surfaceOf object = .ofDeclarations object.typeName declarations
  invoke : ∀ (method : String) (args : List Value) (answer : Answerer σ) (frame : Frame)
    (bridge : Bridge σ), bridge.native = s →
      (host.invoke object method args).run answer frame bridge =
        (do return .returned (← FileSystem.invoke store method args) :
          Native σ (Finish (Except BridgeError Value))).run answer frame bridge

theorem Serves.member? {object : ObjectRef} {store : ContentStore σ} {s : σ}
    (h : Serves host object store s) (name : String) :
    (host.surfaceOf object).member? name =
      (Surface.ofDeclarations object.typeName declarations).member? name :=
  congrArg (·.member? name) h.surface

namespace Query

/-- The method for scripts that wait. -/
def method : Query → String
  | .stat => "stat"
  | .directory => "getDirectory"
  | .content => "getContent"

/-- The method for scripts that have a callback. -/
def later : Query → String
  | .stat => "statAsync"
  | .directory => "getDirectoryAsync"
  | .content => "getContentAsync"

/-- What the store answers. -/
def ask (store : ContentStore σ) : Query → σ → String → Except ContentError Value
  | .stat => fun s path ↦ (store.stat s path).map statValue
  | .directory => fun s path ↦ (store.list s path).map Value.ofStrings
  | .content => fun s path ↦ (store.read s path).map textValue

/-- An argument for the path: a text, or, where content is asked for with a callback, an object
with the text as its path. -/
inductive Says (path : String) : Query → Json → Prop where
  | text (query : Query) : Says path query (.string path)
  | item {fields : List (String × Json)}
    (hpath : Entries.find? "path" fields = some (.string path)) :
    Says path .content (.object fields)

variable {query : Query} {store : ContentStore σ} {path : String} {item : Json} {s : σ}
  {value : Value} {binding : Binding} {id : Nat}

/-! ### Texts for an outcome -/

/-- The literal or the throw that a script gets that waits. -/
def reply (engine : EngineLiterals) : Except ContentError Value → String
  | .ok value => value.literalFor engine
  | .error e => ChannelId.throwing (BridgeError.nativeFailure e.message).message

/-- The text that completes the function of a script. -/
def completion (engine : EngineLiterals) (function : Nat) : Except ContentError Value → String
  | .ok value => ChannelId.completion function "null" (value.literalFor engine)
  | .error e => ChannelId.failing function e.message

theorem completion_eq_null_iff {engine : EngineLiterals} (h : engine.NeverOpens) (function : Nat)
    (outcome : Except ContentError Value) (value : Value) :
    completion engine function outcome =
        ChannelId.completion function "null" (value.literalFor engine) ↔
      reply engine outcome = value.literalFor engine := by
  cases outcome with
  | ok result => exact ChannelId.completion_null_inj
  | error e =>
    refine iff_of_false (ChannelId.completion_null_ne_failing function _ _).symm fun hreply ↦ ?_
    -- no literal is a throw:
    exact Value.not_opens_literalFor h value (hreply ▸ opens_throwing _)

theorem completion_eq_failing_iff {engine : EngineLiterals} (h : engine.NeverOpens)
    (function : Nat) (outcome : Except ContentError Value) (text : String) :
    completion engine function outcome = ChannelId.failing function text ↔
      reply engine outcome = ChannelId.throwing ("native invocation failed: " ++ text) := by
  cases outcome with
  | ok result =>
    refine iff_of_false (ChannelId.completion_null_ne_failing function _ _) fun hreply ↦ ?_
    refine Value.not_opens_literalFor h result ?_
    have hthrown : Opens (reply engine (.ok result)) := hreply ▸ opens_throwing _
    exact hthrown
  | error e =>
    have hwrapped : (BridgeError.nativeFailure e.message).message =
        "native invocation failed: " ++ text ↔ e.message = text := String.append_right_inj _
    exact (ChannelId.failing_injective function).eq_iff.trans
      (ChannelId.throwing_injective.eq_iff.trans hwrapped).symm

/-! ### Answers -/

theorem identities_statValue (metadata : Metadata) : (statValue metadata).identities = [] := by
  refine Value.identities_ofFields ?_
  have hsize : (Value.ofUnsigned metadata.size).identities = [] := by
    unfold Value.ofUnsigned
    split <;> rfl
  simp [Value.identities, hsize]

/-- No answer holds an object. -/
theorem identities_of_ask (h : query.ask store s path = .ok value) : value.identities = [] := by
  have hmap : ∀ {α : Type} (toValue : α → Value) (outcome : Except ContentError α),
      (∀ a, (toValue a).identities = []) → outcome.map toValue = .ok value →
        value.identities = [] := by
    intro α toValue outcome hvalues houtcome
    cases outcome with
    | error e => cases houtcome
    | ok a =>
      cases houtcome
      exact hvalues a
  cases query with
  | stat => exact hmap statValue _ identities_statValue h
  | directory =>
    refine hmap Value.ofStrings _ (fun names ↦ ?_) h
    rw [Value.ofStrings, Value.ofList, Value.identities]
    induction names with
    | nil => rfl
    | cons name names ih => exact ih
  | content => exact hmap textValue _ (fun _ ↦ rfl) h

/-- A method that is waited for gives what the store answers, and changes nothing. -/
theorem invoke_method_run {object : ObjectRef} (h : Serves host object store bridge.native) :
    (host.invoke object query.method [.string path]).run answer frame bridge =
      some (.returned (native (query.ask store bridge.native path)), bridge) := by
  rw [h.invoke _ _ _ _ _ rfl]
  cases query <;> rfl

/-- What a method with a callback leaves for the background. -/
def deferred (store : ContentStore σ) (query : Query) (path : String) (function : Callback) :
    Deferred σ where
  function
  outcome s := (query.ask store s path).mapError ContentError.message

theorem itemPath_of_item {fields : List (String × Json)}
    (hpath : Entries.find? "path" fields = some (.string path)) (args : List Value) :
    itemPath (Value.ofJson (.object fields) :: args) = .ok path := by
  have hfound : Entries.find? "path" (Value.ofJsonFields fields) = some (.string path) := by
    induction fields with
    | nil => cases hpath
    | cons field fields ih =>
      obtain ⟨key, json⟩ := field
      simp only [Value.ofJsonFields, Entries.find?] at hpath ⊢
      split
      · next hlt =>
        rw [if_pos hlt] at hpath
        cases hpath
      · next hnlt =>
        rw [if_neg hnlt] at hpath
        split
        · next hgt =>
          rw [if_pos hgt] at hpath
          exact ih hpath
        · next hngt =>
          rw [if_neg hngt] at hpath
          rw [Option.some.inj hpath]
          rfl
  simp [itemPath, Value.ofJson, hfound]
  rfl

/-- A method with a callback leaves one piece of work for the background, and does nothing else. -/
theorem invoke_later_run {object : ObjectRef} (h : Serves host object store bridge.native)
    (hitem : query.Says path item) (function : Callback) :
    (host.invoke object query.later [Value.ofJson item, .callback function]).run answer frame
        bridge =
      some (.returned (.ok .undefined), bridge.deferring (query.deferred store path function)) := by
  rw [h.invoke _ _ _ _ _ rfl]
  cases hitem with
  | text => cases query <;> rfl
  | item hpath =>
    simp only [later, FileSystem.invoke, answerLater, itemPath_of_item hpath]
    rfl

/-! ### Calls that are waited for -/

theorem method_ne (query : Query) : query.method ≠ "+" ∧ query.method ≠ "-" := by
  cases query <;> decide

theorem later_ne (query : Query) : query.later ≠ "+" ∧ query.later ≠ "-" := by
  cases query <;> decide

theorem member?_method {object : ObjectRef} (h : Serves host object store s) (query : Query) :
    (host.surfaceOf object).member? query.method = some (.method (some 1) true) := by
  rw [h.member?]
  cases query <;> rfl

theorem member?_later {object : ObjectRef} (h : Serves host object store s) (query : Query) :
    (host.surfaceOf object).member? query.later = some (.method (some 2) false) := by
  rw [h.member?]
  cases query <;> rfl

/-- A script that waits gets the text in reply. When the calls that waited before have run, the
outcome of the store decides, and what else is going on does not matter. -/
def Replies (host : Host σ) (c : ChannelId) (target : Int) (binding : Binding)
    (store : ContentStore σ) (query : Query) (path : String) (engine : Engine)
    (outcome : Except ContentError Value) (reply : String) : Prop :=
  ∀ {answer : Answerer σ} {frame : Frame} {bridge mid : Bridge σ} {channel : Channel}
    {message : Message}, bridge.Carries c channel target binding →
    message.Calls target query.method [.string path] → frame.Outside channel.worker →
    Task.runAll host answer (bridge.waitingOf channel.worker) (frame.enter channel.worker)
      ((bridge.logged (ChannelId.received channel)).withWaiting channel.worker []) =
        some ((), mid) →
    Serves host binding.object store mid.native → mid.Settled c → mid.engine = engine →
    query.ask store mid.native path = outcome → ∀ patience, ∃ after,
      ChannelId.dispatchSync host answer (patience + 1) c message frame bridge =
        some (reply, after)

theorem replies (host : Host σ) (c : ChannelId) (target : Int) (binding : Binding)
    (store : ContentStore σ) (query : Query) (path : String) (engine : Engine)
    (outcome : Except ContentError Value) :
    Replies host c target binding store query path engine outcome
      (reply engine.literals outcome) := by
  intro answer frame bridge mid channel message hcarries hcalls hframe hwaited hserves hsettled
    hengine houtcome patience
  have hmember := member?_method hserves query
  have hfits : fitArguments query.method (some 1) [.string path] = .ok [.string path] := rfl
  have hinvoke : binding.invoke host answer query.method [.string path]
      (frame.enter channel.worker) mid = some (.returned (native outcome), mid) := by
    rw [Binding.invoke_eq hmember hfits, invoke_method_run hserves, houtcome]
  have hsync : Run.sync host answer channel.worker
      (binding.invoke host answer query.method [.string path]) frame
        (bridge.logged (ChannelId.received channel)) =
          some (.ok (.returned (native outcome)), mid) := by
    rw [Run.sync_run hframe]
    exact (Run.bind_run hwaited).trans (Run.bind_run hinvoke)
  have hhandle : ChannelId.handle host answer c message true frame bridge =
      some ((native outcome).map some, mid) := by
    rw [ChannelId.handle_run hcarries.known,
      hcarries.errand hcalls query.method_ne.1 query.method_ne.2 hmember]
    exact Run.bind_run hsync
  cases outcome with
  | ok value =>
    have hexpression : ChannelId.expression host answer (patience + 1) c value frame mid = _ :=
      ChannelId.expression_run_of_objectless (identities_of_ask houtcome) hsettled patience
    refine ⟨mid, ?_⟩
    rw [ChannelId.dispatchSync_run_of_some hhandle hexpression, hengine]
    rfl
  | error e => exact ⟨_, ChannelId.dispatchSync_run_of_error _ hhandle⟩

/-! ### Calls with a callback -/

/-- The call that the message comes to. -/
def task (binding : Binding) (query : Query) (item : Json) (function : Callback) : Task :=
  .invoke binding query.later [Value.ofJson item, .callback function]

/-- What says the path is left as it is when arguments are turned into callbacks. -/
theorem attach_marked (hitem : query.Says path item) {c : ChannelId} {marked : Json}
    {function : Callback} (hmarked : ChannelId.callback? c (Value.ofJson marked) = some function) :
    ChannelId.attach c ([item, marked].map Value.ofJson) =
      [Value.ofJson item, .callback function] := by
  have hfirst : ChannelId.callback? c (Value.ofJson item) = none := by
    cases hitem with
    | text => rfl
    | @item fields hpath =>
      -- a marker has no path
      refine Option.eq_none_iff_forall_not_mem.mpr fun function hfunction ↦ ?_
      obtain ⟨number, n, heq, -⟩ := ChannelId.callback?_eq_some_iff.mp hfunction
      have hmarker := itemPath_of_item hpath []
      rw [heq] at hmarker
      cases hmarker
  simp [ChannelId.attach, hfirst, hmarked]

/-- A natural number below 2 ^ 63 marks the function that is kept under it. -/
theorem callback?_marker_of_lt (hid : id < 2 ^ 63) (c : ChannelId) :
    ChannelId.callback? c (Value.ofJson (Json.int id).marker) = some ⟨id, c⟩ := by
  have hword : fitsWord id = true := fitsWord_iff.mpr (by omega)
  refine ((Json.IsNumber.int ?_).callback?_marker ?_ c ⟨id, c⟩).mpr ⟨rfl, rfl⟩
  · rw [Json.NumberText.IsWord, leastWord, Json.NumberText.greatestUnsigned]
    omega
  · intro n hn
    obtain rfl : (id : Int) = n := Rat.intCast_injective (Option.some.inj hn)
    exact hword

/-- A callback is completed with the text for the outcome. -/
theorem complete_eq_evaluate {channel : Channel} (hchannel : bridge.channels.get? c = some channel)
    (hheld : channel.held = true) (hcontext : bridge.context.isSome)
    (hsettled : bridge.Settled c) {outcome : Except ContentError Value}
    (houtcome : query.ask store s path = outcome) (id patience : Nat) :
    ChannelId.complete host answer (patience + 1) ⟨id, c⟩ (outcome.mapError ContentError.message)
        frame bridge =
      ChannelId.evaluate answer (completion bridge.engine.literals id outcome) frame bridge := by
  rw [ChannelId.complete_run hchannel hheld hcontext]
  cases outcome with
  | ok value =>
    have hexpression : ChannelId.expression host answer (patience + 1) c value frame bridge = _ :=
      ChannelId.expression_run_of_objectless (identities_of_ask houtcome) hsettled patience
    simp only [Except.mapError]
    rw [Run.bind_run hexpression]
    rfl
  | error e => rfl

/-- A message for a method with a callback hands in a call with what it brings. -/
theorem dispatch_run_later {channel : Channel} {message : Message} {target : Int}
    {items : List Json} (hserves : Serves host binding.object store s)
    (hcarries : bridge.Carries c channel target binding)
    (hcalls : message.Calls target query.later items) :
    ChannelId.dispatch host answer c message frame bridge =
      some ((), (bridge.logged (ChannelId.received channel)).submitted channel.worker
        (.invoke binding query.later (ChannelId.attach c (items.map Value.ofJson)))) := by
  have hhandle : ChannelId.handle host answer c message false frame bridge = some (.ok none,
      (bridge.logged (ChannelId.received channel)).submitted channel.worker
        (.invoke binding query.later (ChannelId.attach c (items.map Value.ofJson)))) := by
    rw [ChannelId.handle_run hcarries.known,
      hcarries.errand hcalls query.later_ne.1 query.later_ne.2 (member?_later hserves query)]
    refine (Errand.hand_run channel.worker _ []).trans ?_
    rw [Bridge.logged_nil]
  exact Run.bind_run hhandle

/-- The message of a call with a callback hands in the call, and does nothing else. -/
theorem dispatch_run_of_marked {channel : Channel} {message : Message} {target : Int}
    {marked : Json} {function : Callback} (hitem : query.Says path item)
    (hmarked : ChannelId.callback? c (Value.ofJson marked) = some function)
    (hserves : Serves host binding.object store s)
    (hcarries : bridge.Carries c channel target binding)
    (hcalls : message.Calls target query.later [item, marked]) :
    ChannelId.dispatch host answer c message frame bridge =
      some ((), (bridge.logged (ChannelId.received channel)).submitted channel.worker
        (task binding query item function)) := by
  rw [dispatch_run_later hserves hcarries hcalls, attach_marked hitem hmarked]
  rfl

/-- The call leaves one piece of work for the background, and does nothing else. -/
theorem task_run (hitem : query.Says path item)
    (hserves : Serves host binding.object store bridge.native) (function : Callback) :
    (task binding query item function).run host answer frame bridge =
      some ((), bridge.deferring (query.deferred store path function)) := by
  have hfits : fitArguments query.later (some 2) [Value.ofJson item, .callback function] =
      .ok [Value.ofJson item, .callback function] := rfl
  have hinvoke : binding.invoke host answer query.later [Value.ofJson item, .callback function]
      frame bridge = some (.returned (.ok .undefined),
        bridge.deferring (query.deferred store path function)) := by
    rw [Binding.invoke_eq (member?_later hserves query) hfits]
    exact invoke_later_run hserves hitem function
  exact Run.bind_run hinvoke

/-- The work evaluates one text, and does nothing else. -/
theorem runDeferred_run {channel : Channel} (hchannel : bridge.channels.get? c = some channel)
    (hheld : channel.held = true) (hcontext : bridge.context.isSome) (hsettled : bridge.Settled c)
    {outcome : Except ContentError Value} (houtcome : query.ask store bridge.native path = outcome)
    (id : Nat) :
    Bridge.runDeferred host (query.deferred store path ⟨id, c⟩) frame bridge =
      Bridge.deliver host (completion bridge.engine.literals id outcome) frame bridge := by
  have hcomplete : ChannelId.complete host (Bridge.answer host (Bridge.levels - 1))
      (Bridge.levels - 2 + 1) ⟨id, c⟩ (outcome.mapError ContentError.message)
        { thread := .background } bridge = _ :=
    complete_eq_evaluate hchannel hheld hcontext hsettled houtcome id _
  refine Bridge.runDeferred_run ?_
  have hwork : (query.deferred store path ⟨id, c⟩).outcome bridge.native =
      outcome.mapError ContentError.message := by
    rw [← houtcome]
    rfl
  rw [hwork]
  exact hcomplete

/-- A call with a callback leads to one evaluation of the text. Its message hands in a call and does
nothing else; the call leaves one piece of work for the background and does nothing else; and the
work evaluates the text, once. A context that keeps texts has one more of them in the end. -/
structure Completes (host : Host σ) (c : ChannelId) (target : Int) (binding : Binding)
    (store : ContentStore σ) (query : Query) (path : String) (item : Json) (id : Nat)
    (engine : Engine) (outcome : Except ContentError Value) (text : String) : Prop where
  handed : ∀ {answer : Answerer σ} {frame : Frame} {bridge : Bridge σ} {channel : Channel}
    {message : Message} {s : σ}, Serves host binding.object store s →
    bridge.Carries c channel target binding →
    message.Calls target query.later [item, (Json.int id).marker] →
    ChannelId.dispatch host answer c message frame bridge =
      some ((), (bridge.logged (ChannelId.received channel)).submitted channel.worker
        (task binding query item ⟨id, c⟩))
  left : ∀ {answer : Answerer σ} {frame : Frame} {bridge : Bridge σ},
    Serves host binding.object store bridge.native →
    (task binding query item ⟨id, c⟩).run host answer frame bridge =
      some ((), bridge.deferring (query.deferred store path ⟨id, c⟩))
  evaluated : ∀ {frame : Frame} {bridge : Bridge σ} {channel : Channel} {context : Context},
    bridge.channels.get? c = some channel → channel.held = true →
    bridge.context = some context → context.engine = engine → bridge.Settled c →
    query.ask store bridge.native path = outcome →
    Bridge.runDeferred host (query.deferred store path ⟨id, c⟩) frame bridge =
        Bridge.deliver host text frame bridge ∧
      (engine = .recording → Bridge.deliver host text frame bridge = some ((), { bridge with
        context := some { context with evaluated := context.evaluated ++ [text] } }))

theorem completes (host : Host σ) (c : ChannelId) (target : Int) (binding : Binding)
    (store : ContentStore σ) (hitem : query.Says path item) (hid : id < 2 ^ 63) (engine : Engine)
    (outcome : Except ContentError Value) :
    Completes host c target binding store query path item id engine outcome
      (completion engine.literals id outcome) where
  handed hserves hcarries hcalls :=
    dispatch_run_of_marked hitem (callback?_marker_of_lt hid c) hserves hcarries hcalls
  left hserves := task_run hitem hserves ⟨id, c⟩
  evaluated {frame bridge channel context} hchannel hheld hcontext hengine hsettled houtcome := by
    have hbackground : bridge.engine = engine := by
      rw [Bridge.engine, hcontext]
      exact hengine
    refine ⟨?_, fun hrecording ↦ Bridge.deliver_run hcontext (hengine.trans hrecording) _⟩
    rw [← hbackground]
    exact runDeferred_run hchannel hheld (by simp [hcontext]) hsettled houtcome id

/-- **What is asked for now and later is answered alike.** Whatever the outcome of the store is,
there is one text for scripts that wait and one for those that have a callback. The second completes
the function with a result just if the first is the literal of that result, and with a failure just
if the first throws it. -/
theorem answers_alike (host : Host σ) (c : ChannelId) (target : Int) (binding : Binding)
    (store : ContentStore σ) (hitem : query.Says path item) (hid : id < 2 ^ 63) (engine : Engine)
    (outcome : Except ContentError Value) :
    ∃ text reply, Completes host c target binding store query path item id engine outcome text ∧
      Replies host c target binding store query path engine outcome reply ∧
      (∀ value : Value,
        text = ChannelId.completion id "null" (value.literalFor engine.literals) ↔
          reply = value.literalFor engine.literals) ∧
      ∀ m, text = ChannelId.completion id ("new Error(" ++ quote m ++ ")") "undefined" ↔
        reply = ChannelId.throwing ("native invocation failed: " ++ m) :=
  ⟨_, _, completes host c target binding store hitem hid engine outcome,
    replies host c target binding store query path engine outcome,
    completion_eq_null_iff engine.literals_neverOpens id outcome,
    completion_eq_failing_iff engine.literals_neverOpens id outcome⟩

end Query

end FileSystem

/-! ## Stores of the catalogue -/

namespace Catalogue

open FileSystem (Serves Query)

variable {names : TypeNames} {draw : Nat → String} {ref : ObjectRef} {stock : Stock}

/-- A shelf of the catalogue is served by the plugin. -/
theorem serves_shelf {shelf : Shelf} (hkind : names.kind? ref.typeName = some .shelf)
    (hobject : stock.object? ref = some (.shelf shelf)) :
    Serves (Catalogue.host names draw) ref (Stock.shelfStore ref) stock where
  surface := by
    change names.surface ref.typeName = _
    rw [TypeNames.surface, hkind]
    rfl
  invoke method args answer frame bridge hnative := by
    subst hnative
    have hget : (MonadState.get : Run Stock (Bridge Stock)) frame bridge = some (bridge, bridge) :=
      rfl
    refine (Run.bind_run hget).trans ?_
    simp only [Native.bind, hobject]

/-- A shelf with one item. -/
def oneItem : Stock where
  objects := .ofList [(1, .shelf { items := .ofList [("a", { octets := [104, 105] })] })]

/-- A channel whose principal is the shelf. -/
def shelfBridge : Bridge Stock where
  native := oneItem
  context := some {}
  channels := .ofList [(0, { worker := 0, bound := some (.start "1" "fs" ⟨1, "MemFs"⟩) })]
  workers := .ofList [(0, { label := "queue", kind := .queue })]

/-- Only shelves have a name that matters. -/
def shelfNames : TypeNames
  | .shelf => "MemFs"
  | _ => "Other"

/-- A script asks what the item holds, and waits. -/
def getContent : Message :=
  ⟨"1", some (.object
    [(opcodeKey, .string "getContent"), (operandKey, .array [.string "a"])])⟩

/-- A script asks the same with the answer to a question about the item, and with a callback. -/
def getContentLater : Message :=
  ⟨"1", some (.object
    [(opcodeKey, .string "getContentAsync"),
      (operandKey, .array [.object [("path", .string "a")], (Json.int 5).marker])])⟩

/-- What the shelf holds is given in reply to one script, and to the function of another one. -/
theorem shelf_answers_alike :
    let host := Catalogue.host shelfNames toString
    ∃ (text reply : String) (task : Task) (work : Deferred Stock) (after : Bridge Stock),
      ChannelId.dispatchSync host (Bridge.answer host 1) 1 0 getContent {} shelfBridge =
        some (reply, after) ∧
      ChannelId.dispatch host (Bridge.answer host 1) 0 getContentLater {} shelfBridge =
        some ((), shelfBridge.submitted 0 task) ∧
      task.run host (Bridge.answer host 1) {} shelfBridge =
        some ((), shelfBridge.deferring work) ∧
      Bridge.runDeferred host work {} shelfBridge =
        some ((), { shelfBridge with context := some { evaluated := [text] } }) ∧
      reply = "\"hi\"" ∧ text = ChannelId.completion 5 "null" "\"hi\"" := by
  intro host
  let binding : Binding := ⟨"fs", ⟨1, "MemFs"⟩⟩
  let store := Stock.shelfStore ⟨1, "MemFs"⟩
  let channel : Channel := { worker := 0, bound := some (.start "1" "fs" ⟨1, "MemFs"⟩) }
  have hserves : Serves host binding.object store shelfBridge.native :=
    serves_shelf rfl rfl
  have hcarries : shelfBridge.Carries 0 channel 0 binding := ⟨rfl, _, rfl, rfl⟩
  have hsettled : shelfBridge.Settled 0 := by
    rintro _ ⟨⟩
    rfl
  have houtcome : Query.content.ask store shelfBridge.native "a" = .ok (.string "hi") := rfl
  have hitem : Query.Says "a" .content (.object [("path", .string "a")]) := .item rfl
  have hid : 5 < 2 ^ 63 := by decide
  obtain ⟨text, reply, hcompletes, hreplies, hresult, -⟩ :=
    Query.answers_alike host 0 0 binding store hitem hid .recording (.ok (.string "hi"))
  have hreply : ∃ after, ChannelId.dispatchSync host (Bridge.answer host 1) (0 + 1) 0 getContent {}
      shelfBridge = some (reply, after) :=
    hreplies hcarries ⟨"1", rfl⟩ ⟨by decide, by decide⟩ rfl hserves hsettled rfl houtcome 0
  obtain ⟨after, hreply⟩ := hreply
  have hcomputed : ChannelId.dispatchSync host (Bridge.answer host 1) 1 0 getContent {}
      shelfBridge = some ("\"hi\"", shelfBridge) := rfl
  have hhi : reply = "\"hi\"" :=
    (Prod.mk.inj (Option.some.inj (hreply.symm.trans hcomputed))).1
  have hhanded : ChannelId.dispatch host (Bridge.answer host 1) 0 getContentLater {} shelfBridge =
      some ((), shelfBridge.submitted 0 _) := hcompletes.handed hserves hcarries ⟨"1", rfl⟩
  obtain ⟨hdelivered, hkept⟩ := hcompletes.evaluated hcarries.known rfl rfl rfl hsettled houtcome
  refine ⟨text, reply, _, _, after, hreply, hhanded, hcompletes.left hserves, ?_, hhi, ?_⟩
  · exact hdelivered.trans (hkept rfl)
  · exact (hresult (.string "hi")).mpr hhi

end Catalogue

end ScriptBridge
