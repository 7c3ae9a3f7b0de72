import Mathlib.Data.List.Forall2
import ScriptBridge.Proofs.Data.Encodings
import ScriptBridge.Proofs.Files.Callbacks

/-!
# What scripts write they can read

Scripts write text, or octets as a list of numbers. Either way the store is given octets, and it is
octets that it gives back, which scripts get as text or as they are. A text survives this because
its octets are read as the text that they were made of (`Utf8.decodeLossy_encode`). A list survives
if its items are octets: each item is compared with all the octets there are as a number, so that it
does not matter how the number is written (`FileSystem.octet?_ofJson`). Everything else is turned
down before the store is asked, and the whole list with one item of it.

The store itself is only asked to give back what has been written to it (`Outlet.Keeps`).
-/

namespace ScriptBridge

variable {σ : Type}

/-- A program that is continued, once it is known where it leads. -/
theorem Native.bind_run {α β : Type} {answer : Answerer σ} {frame : Frame} {program : Native σ α}
    {next : α → Native σ β} {a : α} {bridge bridge' : Bridge σ}
    (h : program.run answer frame bridge = some (a, bridge')) :
    (program >>= next).run answer frame bridge = (next a).run answer frame bridge' := by
  induction program generalizing bridge with
  | done b =>
    cases h
    rfl
  | read more ih => exact ih _ h
  | write s more ih => exact ih h
  | thread more ih =>
    obtain ⟨name, mid, hname, hrest⟩ := Run.of_bind_run h
    exact (Run.bind_run hname).trans (ih _ hrest)
  | log line more ih => exact ih h
  | defer work more ih => exact ih h
  | call request more ih =>
    obtain ⟨reply, mid, hreply, hrest⟩ := Run.of_bind_run h
    exact (Run.bind_run hreply).trans (ih _ hrest)

/-! ## Content as data -/

/-- The data stands for these octets, as text or as a list of numbers. -/
inductive Json.Contains : Json → List UInt8 → Prop where
  | text (text : String) : Contains (.string text) (Utf8.encode text)
  | octets {items : List Json} {octets : List UInt8}
    (h : List.Forall₂ (fun item octet ↦ item.number? = some (octet.toNat : ℚ)) items octets) :
    Contains (.array items) octets

/-- The integers in a list are words, as they are in data that is read from text. -/
def Json.ListsWords (json : Json) : Prop :=
  ∀ items n, json = .array items → .int n ∈ items → Json.NumberText.IsWord n

namespace FileSystem

theorem octet?_eq_some_iff {value : Value} {octet : UInt8} :
    octet? value = some octet ↔ value.word?.map Int64.toInt = some (octet.toNat : ℤ) := by
  have hbound : octet.toNat < 256 := octet.toNat_lt
  cases hword : value.word? with
  | none => simp [octet?, hword]
  | some n =>
    have hn : n.toNatClampNeg = n.toInt.toNat := (Int64.toNat_toInt n).symm
    have hrange : 0 ≤ n ∧ n < 256 ↔ 0 ≤ n.toInt ∧ n.toInt < 256 := by
      rw [Int64.le_iff_toInt_le, Int64.lt_iff_toInt_lt]
      rfl
    simp only [octet?, hword, Option.bind_eq_bind, Option.bind_some, hrange, hn, Option.map_some,
      Option.some.injEq]
    split
    · next hrange =>
      have hnat : (UInt8.ofNat n.toInt.toNat).toNat = n.toInt.toNat := Utf8.toNat_octet (by omega)
      rw [Option.some.injEq, ← UInt8.toNat_inj, hnat]
      omega
    · next hout =>
      refine iff_of_false (Option.some_ne_none octet).symm fun heq ↦ hout ?_
      omega

/-- An item is an octet if it is that number. -/
theorem octet?_ofJson {item : Json} (hword : ∀ n, item = .int n → Json.NumberText.IsWord n)
    {octet : UInt8} :
    octet? (Value.ofJson item) = some octet ↔ item.number? = some (octet.toNat : ℚ) := by
  have hnumber : item.IsNumber → (octet? (Value.ofJson item) = some octet ↔
      item.number? = some (octet.toNat : ℚ)) := by
    intro h
    have hbound : octet.toNat < 256 := octet.toNat_lt
    rw [octet?_eq_some_iff, h.word?_ofJson]
    constructor
    · rintro ⟨n, hn, hnearest⟩
      rw [toInt_nearestWord, leastWord, greatestWord] at hnearest
      have hsame : n = (octet.toNat : ℤ) := by omega
      rw [hn, hsame]
      rfl
    · intro hoctet
      refine ⟨octet.toNat, hoctet, toInt_nearestWord_of_fitsWord (fitsWord_iff.mpr ?_)⟩
      omega
  have hneither : octet? (Value.ofJson item) = none → item.number? = none →
      (octet? (Value.ofJson item) = some octet ↔ item.number? = some (octet.toNat : ℚ)) := by
    intro hnone hnone'
    rw [hnone, hnone']
    exact iff_of_false (Option.some_ne_none _).symm (Option.some_ne_none _).symm
  cases item with
  | int n => exact hnumber (.int (hword n rfl))
  | float f => exact hnumber (.float f)
  | null => exact hneither rfl rfl
  | bool b => exact hneither rfl rfl
  | string s => exact hneither rfl rfl
  | array items => exact hneither rfl rfl
  | object fields => exact hneither rfl rfl

/-- A list is read just if each of its items is an octet. -/
theorem mapM_octet?_eq_some_iff {items : List Json}
    (hwords : ∀ n, Json.int n ∈ items → Json.NumberText.IsWord n) {octets : List UInt8} :
    (items.map Value.ofJson).mapM octet? = some octets ↔
      List.Forall₂ (fun item octet ↦ item.number? = some (octet.toNat : ℚ)) items octets := by
  induction items generalizing octets with
  | nil => cases octets <;> simp
  | cons item items ih =>
    have hitem : ∀ n, item = .int n → Json.NumberText.IsWord n :=
      fun n hn ↦ hwords n (hn ▸ List.mem_cons_self)
    have hitems := fun n hn ↦ hwords n (List.mem_cons_of_mem item hn)
    rw [List.map_cons, List.mapM_cons]
    cases octets with
    | nil => simp [Option.bind_eq_some_iff]
    | cons octet octets =>
      rw [List.forall₂_cons, ← octet?_ofJson hitem, ← ih hitems]
      simp [Option.bind_eq_some_iff]

/-- Content is refused as an argument of the native code. -/
theorem exists_of_content_eq_error {args : List Value} {e : BridgeError}
    (h : content args = .error e) : ∃ text, e = .nativeFailure text := by
  unfold content at h
  split at h
  · cases h
  · cases h
  · split at h
    · cases h
    · cases h
      exact ⟨_, rfl⟩
  · cases h
    exact ⟨_, rfl⟩

/-- **The store is given the octets that the data stands for**, if there are any. -/
theorem content_attach_eq_ok_iff {json : Json} (hwords : json.ListsWords) (c : ChannelId)
    (path : String) {octets : List UInt8} :
    content (ChannelId.attach c ([.string path, json].map Value.ofJson)) = .ok octets ↔
      json.Contains octets := by
  have hrefused : (∃ e, content (ChannelId.attach c ([.string path, json].map Value.ofJson)) =
      .error e) → (¬ ∃ octets, json.Contains octets) →
        (content (ChannelId.attach c ([.string path, json].map Value.ofJson)) = .ok octets ↔
          json.Contains octets) := by
    rintro ⟨e, he⟩ hnone
    rw [he]
    exact iff_of_false (by rintro ⟨⟩) fun hcontains ↦ hnone ⟨octets, hcontains⟩
  cases json with
  | string text =>
    change Except.ok (Utf8.encode text) = .ok octets ↔ _
    constructor
    · rintro ⟨⟩
      exact .text text
    · rintro ⟨⟩
      rfl
  | array items =>
    have hread : (Value.ofJsons items).mapM octet? = some octets ↔
        (Json.array items).Contains octets := by
      rw [Value.ofJsons_eq_map, mapM_octet?_eq_some_iff fun n ↦ hwords items n rfl]
      constructor
      · exact .octets
      · rintro ⟨⟩
        assumption
    have hargs : ChannelId.attach c ([.string path, .array items].map Value.ofJson) =
        [.string path, .array (Value.ofJsons items)] := rfl
    rw [← hread, hargs]
    cases hoctets : (Value.ofJsons items).mapM octet? <;> simp [content, badArgument, hoctets]
  | null => exact hrefused ⟨_, rfl⟩ (by rintro ⟨_, ⟨⟩⟩)
  | bool b => exact hrefused ⟨_, rfl⟩ (by rintro ⟨_, ⟨⟩⟩)
  | float f => exact hrefused ⟨_, rfl⟩ (by rintro ⟨_, ⟨⟩⟩)
  | int n =>
    refine hrefused ?_ (by rintro ⟨_, ⟨⟩⟩)
    simp only [List.map_cons, List.map_nil, Value.ofJson]
    split <;> exact ⟨_, rfl⟩
  | object fields =>
    refine hrefused ?_ (by rintro ⟨_, ⟨⟩⟩)
    -- what marks a function is one by now
    simp only [List.map_cons, List.map_nil, ChannelId.attach]
    cases ChannelId.callback? c (Value.ofJson (.object fields)) <;> exact ⟨_, rfl⟩

/-! ### What the methods do -/

section Runs

variable {store : ContentStore σ} {args : List Value} {path : String} {answer : Answerer σ}
  {frame : Frame} {bridge : Bridge σ} (hpath : FileSystem.path args = .ok path)
include hpath

/-- What is asked for is answered, and nothing changes. -/
theorem answer_run (ask : σ → String → Except ContentError Value) :
    (FileSystem.answer args ask).run answer frame bridge =
      some (native (ask bridge.native path), bridge) := by
  rw [FileSystem.answer, hpath]
  rfl

/-- Octets are handed on to the store. -/
theorem write_run {octets : List UInt8} (hcontent : content args = .ok octets) :
    (FileSystem.write store args).run answer frame bridge =
      match store.write bridge.native path octets with
      | .ok s' => some (.ok (.bool true), { bridge with native := s' })
      | .error e => some (.error (.nativeFailure e.message), bridge) := by
  have hstate : Native.state.run answer frame bridge = some (bridge.native, bridge) := rfl
  simp only [FileSystem.write, hpath, hcontent]
  rw [Native.bind_run hstate]
  cases store.write bridge.native path octets <;> rfl

/-- What is no octets is not. -/
theorem write_run_of_error {e : BridgeError} (hcontent : content args = .error e) :
    (FileSystem.write store args).run answer frame bridge = some (.error e, bridge) := by
  simp only [FileSystem.write, hpath, hcontent]
  rfl

end Runs

/-! ## Calls that are waited for -/

namespace Outlet

variable (outlet : Outlet σ) {s s' : σ} {engine : Engine}

/-- A script that waits gets the text in reply, and the store is left in another state. What waited
before has run by then; what else is going on does not matter. -/
def Answers (engine : Engine) (method : String) (items : List Json) (s : σ) (reply : String)
    (s' : σ) : Prop :=
  ∀ (answer : Answerer σ) (frame : Frame) (bridge mid : Bridge σ) (message : Message),
    bridge.Carries outlet.id outlet.channel outlet.target outlet.binding →
    message.Calls outlet.target method items → frame.Outside outlet.channel.worker →
    Task.runAll outlet.host answer (bridge.waitingOf outlet.channel.worker)
      (frame.enter outlet.channel.worker)
      ((bridge.logged (ChannelId.received outlet.channel)).withWaiting outlet.channel.worker []) =
        some ((), mid) →
    mid.native = s → mid.Settled outlet.id → mid.engine = engine → ∀ patience, ∃ after,
      ChannelId.dispatchSync outlet.host answer (patience + 1) outlet.id message frame bridge =
        some (reply, after) ∧ after.native = s'

/-- The text for what a method comes to. -/
def replyFor (engine : EngineLiterals) : Except BridgeError Value → String
  | .ok value => value.literalFor engine
  | .error e => if e.surfaces then ChannelId.throwing e.message else "undefined"

variable {outlet}

/-- A method that returns a value answers with what the plugin makes of its arguments. -/
theorem answers_of_invoke (method : String) (items : List Json) {arity : Nat} {fitted : List Value}
    {outcome : Except BridgeError Value} (hstate : outlet.states s) (hcreate : method ≠ "+")
    (hdispose : method ≠ "-")
    (hmember : (Surface.ofDeclarations outlet.binding.object.typeName declarations).member? method =
      some (.method (some arity) true))
    (hfits : fitArguments method (some arity) (ChannelId.attach outlet.id (items.map Value.ofJson)) =
      .ok fitted)
    (hinvoke : ∀ (answer : Answerer σ) (frame : Frame) (bridge : Bridge σ), bridge.native = s →
      (FileSystem.invoke outlet.store method fitted).run answer frame bridge =
        some (outcome, { bridge with native := s' }))
    (hobjectless : ∀ value, outcome = .ok value → value.identities = []) :
    outlet.Answers engine method items s (replyFor engine.literals outcome) s' := by
  intro answer frame bridge mid message hcarries hcalls hframe hwaited hmid hsettled hengine
    patience
  have hserves := outlet.serves s hstate
  have hmember' := (hserves.member? method).trans hmember
  have hran : outlet.binding.invoke outlet.host answer method
      (ChannelId.attach outlet.id (items.map Value.ofJson)) (frame.enter outlet.channel.worker)
        mid = some (.returned outcome, { mid with native := s' }) := by
    rw [Binding.invoke_eq hmember' hfits, hserves.invoke _ _ _ _ _ hmid]
    exact Native.bind_run (hinvoke answer _ mid hmid)
  have hsync : Run.sync outlet.host answer outlet.channel.worker
      (outlet.binding.invoke outlet.host answer method
        (ChannelId.attach outlet.id (items.map Value.ofJson))) frame
        (bridge.logged (ChannelId.received outlet.channel)) =
          some (.ok (.returned outcome), { mid with native := s' }) := by
    rw [Run.sync_run hframe]
    exact (Run.bind_run hwaited).trans (Run.bind_run hran)
  have hhandle : ChannelId.handle outlet.host answer outlet.id message true frame bridge =
      some (outcome.map some, { mid with native := s' }) := by
    rw [ChannelId.handle_run hcarries.known, hcarries.errand hcalls hcreate hdispose hmember']
    exact Run.bind_run hsync
  cases outcome with
  | ok value =>
    have hsettled' : Bridge.Settled outlet.id { mid with native := s' } := hsettled
    have hexpression : ChannelId.expression outlet.host answer (patience + 1) outlet.id value frame
        { mid with native := s' } = _ :=
      ChannelId.expression_run_of_objectless (hobjectless value rfl) hsettled' patience
    refine ⟨{ mid with native := s' }, ?_, rfl⟩
    rw [ChannelId.dispatchSync_run_of_some hhandle hexpression, ← hengine]
    rfl
  | error e => exact ⟨_, ChannelId.dispatchSync_run_of_error _ hhandle, rfl⟩

/-- What a script is given for octets. -/
def octetsReply : Engine → List UInt8 → String
  | .recording, octets => quote (Utf8.decodeLossy octets)
  | .running, octets =>
    "new Uint8Array([" ++ ", ".intercalate (octets.map (toString ·.toNat)) ++ "])"

/-- Octets that the store holds are read as text and as they are. -/
theorem answers_of_read {path : String} {octets : List UInt8} (hstate : outlet.states s)
    (hread : outlet.store.read s path = .ok octets) :
    outlet.Answers engine "getContent" [.string path] s (quote (Utf8.decodeLossy octets)) s ∧
      outlet.Answers engine "getContentBytes" [.string path] s (octetsReply engine octets) s := by
  have hran : ∀ (toValue : List UInt8 → Value) (answer : Answerer σ) (frame : Frame)
      (bridge : Bridge σ), bridge.native = s →
      (FileSystem.answer [.string path] fun state path ↦
        (outlet.store.read state path).map toValue).run answer frame bridge =
          some (.ok (toValue octets), { bridge with native := s }) := by
    rintro toValue answer frame bridge rfl
    rw [answer_run rfl, hread]
    rfl
  have htext : quote (Utf8.decodeLossy octets) =
      replyFor engine.literals (.ok (textValue octets)) := by
    cases engine <;> rfl
  have hbytes : octetsReply engine octets = replyFor engine.literals (.ok (.bytes octets)) := by
    cases engine <;> rfl
  rw [htext, hbytes]
  constructor
  · refine answers_of_invoke "getContent" [.string path] hstate (by decide) (by decide) rfl rfl
      (hran textValue) ?_
    rintro _ ⟨⟩
    rfl
  · refine answers_of_invoke "getContentBytes" [.string path] hstate (by decide) (by decide) rfl rfl
      (hran .bytes) ?_
    rintro _ ⟨⟩
    rfl

/-- A script that writes is told what comes of it. -/
theorem answers_of_write {path : String} {json : Json} {outcome : Except BridgeError Value}
    (hstate : outlet.states s)
    (hran : ∀ (answer : Answerer σ) (frame : Frame) (bridge : Bridge σ), bridge.native = s →
      (FileSystem.write outlet.store (ChannelId.attach outlet.id
        ([.string path, json].map Value.ofJson))).run answer frame bridge =
          some (outcome, { bridge with native := s' }))
    (hobjectless : ∀ value, outcome = .ok value → value.identities = []) :
    outlet.Answers engine "writeContent" [.string path, json] s (replyFor engine.literals outcome)
      s' :=
  answers_of_invoke "writeContent" [.string path, json] hstate (by decide) (by decide) rfl rfl hran
    hobjectless

/-! ## What is written is read -/

/-- The store gives back what has been written to it, and it stays where it is. -/
structure Keeps (outlet : Outlet σ) : Prop where
  stays : ∀ {s s' : σ} {path : String} {octets : List UInt8}, outlet.states s →
    outlet.store.write s path octets = .ok s' → outlet.states s'
  read : ∀ {s s' : σ} {path : String} {octets : List UInt8}, outlet.states s →
    outlet.store.write s path octets = .ok s' → outlet.store.read s' path = .ok octets

theorem throwing_ne_true (text : String) : ChannelId.throwing text ≠ "true" := by
  intro heq
  have hopens : Opens "true" := heq ▸ opens_throwing text
  exact Value.not_opens_literalFor Engine.recording.literals_neverOpens (.bool true) hopens

/-- **What scripts write they can read.** A script that writes what stands for octets is told
whether the store took them. If so, what it holds is read as their text and as the octets
themselves, and a text is read as it was written; if not, nothing has changed. What stands for no
octets is turned down with an error, and nothing has changed. -/
theorem written_comes_back (outlet : Outlet σ) (hkeeps : outlet.Keeps) (engine : Engine) {s : σ}
    (hstate : outlet.states s) (path : String) {json : Json} (hwords : json.ListsWords) :
    (∀ octets, json.Contains octets → ∃ reply s',
      outlet.Answers engine "writeContent" [.string path, json] s reply s' ∧
      (reply = "true" ↔ outlet.store.write s path octets = .ok s') ∧
      (reply = "true" →
        (∀ text, json = .string text → octets = Utf8.encode text ∧
          outlet.Answers engine "getContent" [.string path] s' (quote text) s') ∧
        outlet.Answers engine "getContent" [.string path] s' (quote (Utf8.decodeLossy octets)) s' ∧
        outlet.Answers engine "getContentBytes" [.string path] s' (octetsReply engine octets) s') ∧
      (reply ≠ "true" → s' = s ∧ ∃ e, outlet.store.write s path octets = .error e ∧
        reply = ChannelId.throwing ("native invocation failed: " ++ e.message))) ∧
    ((∀ octets, ¬ json.Contains octets) → ∃ text,
      outlet.Answers engine "writeContent" [.string path, json] s
        (ChannelId.throwing ("native invocation failed: " ++ text)) s) := by
  constructor
  · intro octets hcontains
    have hcontent := (content_attach_eq_ok_iff hwords outlet.id path).mpr hcontains
    cases hwrite : outlet.store.write s path octets with
    | ok s' =>
      have hwritten : outlet.Answers engine "writeContent" [.string path, json] s
          (replyFor engine.literals (.ok (.bool true))) s' := by
        refine answers_of_write hstate ?_ ?_
        · rintro answer frame bridge rfl
          rw [write_run rfl hcontent, hwrite]
        · rintro _ ⟨⟩
          rfl
      have htrue : replyFor engine.literals (.ok (.bool true)) = "true" := by
        cases engine <;> rfl
      obtain ⟨htext, hbytes⟩ : outlet.Answers engine "getContent" [.string path] s' _ s' ∧
          outlet.Answers engine "getContentBytes" [.string path] s' _ s' :=
        answers_of_read (hkeeps.stays hstate hwrite) (hkeeps.read hstate hwrite)
      refine ⟨_, s', htrue ▸ hwritten, iff_of_true rfl rfl, fun _ ↦ ⟨?_, htext, hbytes⟩,
        fun hne ↦ absurd rfl hne⟩
      rintro text rfl
      cases hcontains
      rw [Utf8.decodeLossy_encode] at htext
      exact ⟨rfl, htext⟩
    | error e =>
      have hfailed : outlet.Answers engine "writeContent" [.string path, json] s
          (replyFor engine.literals (.error (.nativeFailure e.message))) s := by
        refine answers_of_write hstate ?_ (by rintro _ ⟨⟩)
        rintro answer frame bridge rfl
        rw [write_run rfl hcontent, hwrite]
      have hne := throwing_ne_true ("native invocation failed: " ++ e.message)
      exact ⟨_, s, hfailed, iff_of_false hne (by rintro ⟨⟩), fun heq ↦ absurd heq hne,
        fun _ ↦ ⟨rfl, e, rfl, rfl⟩⟩
  · intro hnone
    obtain ⟨e, hcontent⟩ : ∃ e, content
        (ChannelId.attach outlet.id ([.string path, json].map Value.ofJson)) = .error e := by
      cases hcontent : content
          (ChannelId.attach outlet.id ([.string path, json].map Value.ofJson)) with
      | ok octets =>
        exact absurd ((content_attach_eq_ok_iff hwords _ _).mp hcontent) (hnone octets)
      | error e => exact ⟨e, rfl⟩
    obtain ⟨text, rfl⟩ := exists_of_content_eq_error hcontent
    have hrefused : outlet.Answers engine "writeContent" [.string path, json] s
        (replyFor engine.literals (.error (.nativeFailure text))) s := by
      refine answers_of_write hstate ?_ (by rintro _ ⟨⟩)
      rintro answer frame bridge rfl
      exact write_run_of_error rfl hcontent
    exact ⟨text, hrefused⟩

end Outlet

end FileSystem

/-! ## Shelves -/

/-- An item that can be worked with is not broken. -/
theorem Shelf.whole_of_find {shelf : Shelf} {path : String} {item : ShelfItem}
    (h : shelf.find path = .ok item) : item.broken = none := by
  unfold Shelf.find at h
  split at h
  · cases h
  · split at h
    · cases h
    · cases h
      assumption

/-- **A shelf gives back what has been written to it.** -/
theorem Shelf.read_of_write {shelf shelf' : Shelf} {path : String} {octets : List UInt8}
    (h : shelf.write path octets = .ok shelf') : shelf'.read path = .ok octets := by
  have hinserted : ∀ item : ShelfItem, item.broken = none → item.octets = octets →
      Shelf.read ⟨shelf.items.insert path item⟩ path = .ok octets := by
    rintro item hwhole rfl
    have hfind : Shelf.find ⟨shelf.items.insert path item⟩ path = .ok item := by
      simp only [Shelf.find, Table.get?_insert, if_true, hwhole]
    rw [Shelf.read, hfind]
    rfl
  unfold Shelf.write at h
  split at h
  · cases h
  · cases h
    exact hinserted _ rfl rfl
  · next item hfind =>
    cases h
    have hwhole : item.broken = none := whole_of_find hfind
    exact hinserted _ hwhole rfl

namespace Catalogue

open FileSystem (Outlet)

/-- The shelf, whatever is on it. -/
def anyShelfOutlet : Outlet Stock :=
  { shelfOutlet with
    states := fun stock ↦ ∃ shelf, stock.object? ⟨1, "MemFs"⟩ = some (.shelf shelf)
    serves := fun _ ⟨_, hobject⟩ ↦ serves_shelf rfl hobject }

theorem anyShelfOutlet_written {stock stock' : Stock} {path : String} {octets : List UInt8}
    (h : anyShelfOutlet.store.write stock path octets = .ok stock') :
    ∃ shelf, stock'.object? ⟨1, "MemFs"⟩ = some (.shelf shelf) ∧ shelf.read path = .ok octets := by
  change (((stock.shelf? ⟨1, "MemFs"⟩).getD {}).write path octets).map _ = _ at h
  cases hwrite : ((stock.shelf? ⟨1, "MemFs"⟩).getD {}).write path octets with
  | error e =>
    rw [hwrite] at h
    cases h
  | ok shelf =>
    rw [hwrite] at h
    cases h
    refine ⟨shelf, ?_, Shelf.read_of_write hwrite⟩
    simp [Stock.object?, Stock.setObject, Table.get?_insert]

theorem anyShelfOutlet_keeps : anyShelfOutlet.Keeps where
  stays _ hwrite := by
    obtain ⟨shelf, hobject, -⟩ := anyShelfOutlet_written hwrite
    exact ⟨shelf, hobject⟩
  read {s s' path octets} _ hwrite := by
    obtain ⟨shelf, hobject, hread⟩ := anyShelfOutlet_written hwrite
    change ((Stock.shelf? s' ⟨1, "MemFs"⟩).getD {}).read path = _
    rw [Stock.shelf?, hobject]
    exact hread

/-- A script writes to an item, and waits. -/
def writeContent (content : Json) : Message :=
  ⟨"1", some (.object
    [(opcodeKey, .string "writeContent"), (operandKey, .array [.string "a", content])])⟩

/-- A text is written to the shelf and read again. A list with something else than octets is not
written. -/
theorem shelf_written_comes_back :
    let host := anyShelfOutlet.host
    ∃ (text : String) (written read refused : Bridge Stock),
      ChannelId.dispatchSync host (Bridge.answer host 1) 1 0 (writeContent (.string "é")) {}
        shelfBridge = some ("true", written) ∧
      ChannelId.dispatchSync host (Bridge.answer host 1) 1 0 getContent {}
        { shelfBridge with native := written.native } = some ("\"é\"", read) ∧
      ChannelId.dispatchSync host (Bridge.answer host 1) 1 0
        (writeContent (.array [.int 104, .int 256])) {} shelfBridge =
          some (ChannelId.throwing ("native invocation failed: " ++ text), refused) ∧
      refused.native = oneItem := by
  intro host
  have hstate : anyShelfOutlet.states oneItem := ⟨_, rfl⟩
  have hcarries : shelfBridge.Carries 0 anyShelfOutlet.channel 0 anyShelfOutlet.binding :=
    ⟨rfl, _, rfl, rfl⟩
  have hsettled : shelfBridge.Settled 0 := by
    rintro _ ⟨⟩
    rfl
  have hnoList : (Json.string "é").ListsWords := by rintro _ _ ⟨⟩
  have hwords : (Json.array [.int 104, .int 256]).ListsWords := by
    rintro items n ⟨⟩ hn
    simp only [List.mem_cons, Json.int.injEq, List.not_mem_nil, or_false] at hn
    rcases hn with rfl | rfl <;> exact ⟨by decide, by decide⟩
  have hnone : ∀ octets, ¬ (Json.array [.int 104, .int 256]).Contains octets := by
    rintro _ (_ | ⟨_ | ⟨-, _ | ⟨hoctet, -⟩⟩⟩)
    next octet _ =>
    have hbeyond : (256 : ℚ) = (octet.toNat : ℚ) := Option.some.inj hoctet
    have hbound : octet.toNat < 256 := octet.toNat_lt
    have hnat : 256 = octet.toNat := by exact_mod_cast hbeyond
    omega
  obtain ⟨hwritten, -⟩ := Outlet.written_comes_back anyShelfOutlet anyShelfOutlet_keeps .recording
    hstate "a" hnoList
  obtain ⟨-, hrefused⟩ := Outlet.written_comes_back anyShelfOutlet anyShelfOutlet_keeps .recording
    hstate "a" hwords
  obtain ⟨reply, s', hwrites, -, hreads, -⟩ := hwritten _ (.text "é")
  obtain ⟨text, hrefuses⟩ := hrefused hnone
  have houtside : Frame.Outside 0 {} := ⟨by decide, by decide⟩
  obtain ⟨written, hwrite, rfl⟩ := hwrites (Bridge.answer host 1) {} shelfBridge shelfBridge
    (writeContent (.string "é")) hcarries ⟨"1", rfl⟩ houtside rfl rfl hsettled rfl 0
  obtain ⟨refused, hrefuse, hunchanged⟩ := hrefuses (Bridge.answer host 1) {} shelfBridge
    shelfBridge (writeContent (.array [.int 104, .int 256])) hcarries ⟨"1", rfl⟩ houtside rfl rfl
    hsettled rfl 0
  have hcomputed : (ChannelId.dispatchSync host (Bridge.answer host 1) 1 0
      (writeContent (.string "é")) {} shelfBridge).map Prod.fst = some "true" := rfl
  have htrue : reply = "true" :=
    Option.some.inj ((congrArg (Option.map Prod.fst) hwrite).symm.trans hcomputed)
  subst htrue
  obtain ⟨-, hanswers⟩ := (hreads rfl).1 "é" rfl
  obtain ⟨read, hread, -⟩ := hanswers (Bridge.answer host 1) {}
    { shelfBridge with native := written.native } { shelfBridge with native := written.native }
    getContent ⟨rfl, _, rfl, rfl⟩ ⟨"1", rfl⟩ houtside rfl rfl hsettled rfl 0
  exact ⟨text, written, read, refused, hwrite, hread, hrefuse, hunchanged⟩

end Catalogue

end ScriptBridge
