import ScriptBridge.Content.Rooted
import ScriptBridge.Proofs.Files.Pieces

/-!
# Files under a root

A store with a root takes a path for the names that it holds, one after the other, and a path that
goes up is refused before the files are looked at. So what a path means is the root or lies below
it, and all spellings of a path mean the same (`RootedStore.resolve_confined`). Below is meant as
paths have it: the parts of the one path are the first parts of the other. Where links lead is not a
matter of paths.

What is written to is found from what the path means, by taking its parent for a directory to stage
the file in. A path without names means the root itself, and the parent of the root is not below it:
this is the one case in which something is written elsewhere (`RootedStore.write_confined_iff`).
-/

namespace ScriptBridge

/-! ## Names and spellings -/

namespace Path

/-- The name that a part is. -/
def Component.name? : Component → Option String
  | .name text => some text
  | _ => none

/-- The names in a path, in order. -/
def names (path : String) : List String := (components path).filterMap Component.name?

theorem isName_of_mem_names {name path : String} (h : name ∈ names path) : IsName name := by
  obtain ⟨part, hpart, hname⟩ := List.mem_filterMap.mp h
  cases part with
  | name other =>
    obtain rfl := Option.some.inj hname
    exact isName_of_mem_components hpart
  | root | here | up => cases hname

theorem names_eq (path : String) : names path = (steps path).filterMap Component.name? := by
  rw [names]
  rcases components_eq_steps path with heq | heq | heq <;> rw [heq] <;> rfl

theorem up_mem_components_iff {path : String} :
    .up ∈ components path ↔ Component.up ∈ steps path := by
  rcases components_eq_steps path with heq | heq | heq <;> simp [heq]

/-- Spellings of one path: separators may be added at the start, at the end and where there is one
already, and a single dot may be put in as a part of its own. -/
inductive Respelled : String → String → Prop where
  | refl (path : String) : Respelled path path
  | separatorFirst (path : String) : Respelled path ("/" ++ path)
  | separatorAgain (before after : String) :
    Respelled (before ++ "/" ++ after) (before ++ "//" ++ after)
  | separatorLast (path : String) : Respelled path (path ++ "/")
  | dotFirst (path : String) : Respelled path ("./" ++ path)
  | dotBetween (before after : String) :
    Respelled (before ++ "/" ++ after) (before ++ "/./" ++ after)
  | dotLast (path : String) : Respelled path (path ++ "/.")
  | symm {path other : String} (h : Respelled path other) : Respelled other path
  | trans {path other third : String} (h : Respelled path other) (h' : Respelled other third) :
    Respelled path third

/-- **Spellings of one path have the same steps.** -/
theorem Respelled.steps_eq {path other : String} (h : Respelled path other) :
    steps other = steps path := by
  have hempty : steps "" = [] := rfl
  have hdot : steps "." = [] := rfl
  induction h with
  | refl path => rfl
  | separatorFirst path =>
    have hsplit : "/" ++ path = "" ++ "/" ++ path := rfl
    rw [hsplit, steps_append, hempty, List.nil_append]
  | separatorAgain before after =>
    have hsplit : before ++ "//" ++ after = before ++ "/" ++ "" ++ "/" ++ after := by
      simp only [String.append_assoc]
      rfl
    rw [hsplit, steps_append, steps_append, steps_append, hempty, List.append_nil]
  | separatorLast path =>
    have hsplit : path ++ "/" = path ++ "/" ++ "" := (String.append_empty).symm
    rw [hsplit, steps_append, hempty, List.append_nil]
  | dotFirst path =>
    have hsplit : "./" ++ path = "." ++ "/" ++ path := rfl
    rw [hsplit, steps_append, hdot, List.nil_append]
  | dotBetween before after =>
    have hsplit : before ++ "/./" ++ after = before ++ "/" ++ "." ++ "/" ++ after := by
      simp only [String.append_assoc]
      rfl
    rw [hsplit, steps_append, steps_append, steps_append, hdot, List.append_nil]
  | dotLast path =>
    have hsplit : path ++ "/." = path ++ "/" ++ "." := by
      rw [String.append_assoc]
      rfl
    rw [hsplit, steps_append, hdot, List.append_nil]
  | symm _ ih => exact ih.symm
  | trans _ _ ih ih' => exact ih'.trans ih

/-- The path is the other one or lies below it. -/
def IsBelow (base path : String) : Prop := components base <+: components path

end Path

open ScriptBridge.Path (Component components names IsBelow)

namespace RootedStore

/-! ## What a path means -/

/-- The parts of a path say nothing but names, unless one of them goes up. -/
theorem extend_eq (path : String) (parts : List Component) :
    extend path parts =
      if .up ∈ parts then none
      else some ((parts.filterMap Component.name?).foldl Path.push path) := by
  induction parts generalizing path with
  | nil => rfl
  | cons part parts ih =>
    cases part with
    | up => simp [extend]
    | root | here | name _ => simp [extend, ih, List.filterMap_cons, Component.name?]

/-- A store with a root. -/
def under (root : String) : RootedStore := { root := some root }

variable {root path resolved : String}

theorem resolve_under (root path : String) :
    (under root).resolve path =
      if .up ∈ components path then .error (.notFound path)
      else .ok ((names path).foldl Path.push root) := by
  have hextend := extend_eq root (components path)
  by_cases hup : .up ∈ components path
  · rw [if_pos hup] at hextend ⊢
    simp only [resolve, under, hextend]
  · rw [if_neg hup] at hextend ⊢
    simp only [resolve, under, hextend, names]

theorem resolve_under_eq_ok_iff : (under root).resolve path = .ok resolved ↔
    .up ∉ components path ∧ (names path).foldl Path.push root = resolved := by
  rw [resolve_under]
  split
  · next hup => simp [hup]
  · next hup => simp [hup]

/-- A path is refused: nothing is there, every operation fails in one way, and this is so whatever
files there are. -/
structure Refuses (store : RootedStore) (path : String) : Prop where
  resolve : store.resolve path = .error (.notFound path)
  holds : ∀ tree, store.holds tree path = false
  stat : ∀ tree, store.stat tree path = .error (.notFound path)
  read : ∀ tree, store.read tree path = .error (.notFound path)
  list : ∀ tree, store.list tree path = .error (.notFound path)
  write : ∀ tree octets, store.write tree path octets = .error (.notFound path)

/-- What cannot be resolved is refused by every operation, before it comes to the files. -/
theorem refuses_iff {store : RootedStore} :
    store.Refuses path ↔ store.resolve path = .error (.notFound path) := by
  refine ⟨Refuses.resolve, fun h ↦ ?_⟩
  have hat : ∀ {α : Type} (act : String → Except Fault α),
      store.atPath path act = .error (.notFound path) := by
    intro α act
    rw [atPath, h]
    rfl
  refine ⟨h, fun tree ↦ ?_, fun tree ↦ ?_, fun tree ↦ hat _, fun tree ↦ hat _,
    fun tree octets ↦ ?_⟩
  · rw [holds, hat]
  · rw [stat, hat]
    rfl
  · rw [write, h]
    rfl

/-- A path means the root followed by the names of the path. -/
structure Means (root path resolved : String) : Prop where
  resolve : (under root).resolve path = .ok resolved
  text : resolved = (names path).foldl Path.push root
  parts : components resolved = components root ++ (names path).map .name
  below : IsBelow root resolved

theorem means_iff : Means root path resolved ↔ (under root).resolve path = .ok resolved := by
  refine ⟨Means.resolve, fun h ↦ ?_⟩
  obtain ⟨-, rfl⟩ := resolve_under_eq_ok_iff.mp h
  have hnames : ∀ name ∈ names path, Path.IsName name := fun _ ↦ Path.isName_of_mem_names
  have hparts := Path.components_foldl_push hnames root
  refine ⟨h, rfl, hparts, ?_⟩
  rw [IsBelow, hparts]
  exact List.prefix_append _ _

/-- **A store with a root is confined to it.** A path that goes up anywhere is refused, and every
other one means the root followed by the names of the path. All spellings of a path mean the
same. -/
theorem resolve_confined (root path : String) :
    ((under root).Refuses path ↔ .up ∈ components path) ∧
      ((∃ resolved, Means root path resolved) ↔ .up ∉ components path) ∧
      ∀ other, Path.Respelled path other →
        ((under root).Refuses other ↔ (under root).Refuses path) ∧
          ∀ resolved, Means root other resolved ↔ Means root path resolved := by
  have hrefuses : ∀ path, (under root).Refuses path ↔ .up ∈ components path := by
    intro path
    rw [refuses_iff, resolve_under]
    split
    · next hup => simp [hup]
    · next hup => simp [hup]
  refine ⟨hrefuses path, ?_, fun other hother ↦ ⟨?_, fun resolved ↦ ?_⟩⟩
  · simp only [means_iff, resolve_under_eq_ok_iff, exists_and_left, exists_eq', and_true]
  · rw [hrefuses, hrefuses, Path.up_mem_components_iff, Path.up_mem_components_iff,
      hother.steps_eq]
  · rw [means_iff, means_iff, resolve_under_eq_ok_iff, resolve_under_eq_ok_iff,
      Path.up_mem_components_iff, Path.up_mem_components_iff, Path.names_eq, Path.names_eq,
      hother.steps_eq]

/-- A path is spelled in a roundabout way, another one goes up and comes back. -/
theorem resolve_confined_website :
    Means "srv/www" "/./img//logo.png/" "srv/www/img/logo.png" ∧
      (under "srv/www").Refuses "img/../index.html" := by
  obtain ⟨-, -, hspelled⟩ := resolve_confined "srv/www" "img/logo.png"
  have hother : Path.Respelled "img/logo.png" "/./img//logo.png/" :=
    .trans (.separatorAgain "img" "logo.png") <| .trans (.dotFirst _) <|
      .trans (.separatorFirst _) (.separatorLast _)
  refine ⟨((hspelled _ hother).2 _).mpr (means_iff.mpr rfl), ?_⟩
  exact (resolve_confined "srv/www" "img/../index.html").1.mpr (by decide +kernel)

/-! ## What is written to -/

/-- Writes a file by way of a directory in which it is staged. -/
def writeBy (tree : Tree) (staging file : String) (octets : List UInt8) :
    Except ContentError Tree := do
  discard <| (tree.directoryFor staging stagedNameSize).mapError (ContentError.ofFault staging)
  (tree.replace file octets .epoch).mapError (ContentError.ofFault file)

/-- Writing a file stages it in one place and replaces another, and looks at no third one. -/
theorem write_eq {store : RootedStore} (h : store.resolve path = .ok resolved) (tree : Tree)
    (octets : List UInt8) :
    store.write tree path octets = writeBy tree (stagingDirectory resolved) resolved octets := by
  rw [write, h]
  rfl

theorem components_dot : components "." = [.here] := by decide +kernel

/-- A file is staged in the parent, and where there is none in the working directory. -/
theorem components_stagingDirectory (path : String) :
    (components (stagingDirectory path) = [.here] ∧ (components path).length ≤ 1) ∨
      components (stagingDirectory path) ≠ [] ∧
        ∃ part, components path = components (stagingDirectory path) ++ [part] := by
  rcases Path.components_parent? path with ⟨hnone, hparts⟩ | ⟨parent, part, hsome, hparts⟩
  · have hstaging : stagingDirectory path = "." := by rw [stagingDirectory, hnone]
    refine .inl ⟨hstaging ▸ components_dot, ?_⟩
    rcases hparts with hparts | hparts <;> simp [hparts]
  · by_cases hparent : parent = ""
    · have hstaging : stagingDirectory path = "." := by
        rw [stagingDirectory, hsome, hparent]
        rfl
      refine .inl ⟨hstaging ▸ components_dot, ?_⟩
      rw [hparts, hparent]
      exact Nat.le_refl _
    · have hstaging : stagingDirectory path = parent := by
        rw [stagingDirectory, hsome]
        split <;> simp_all
      rw [hstaging]
      exact .inr ⟨mt Path.components_eq_nil_iff.mp hparent, part, hparts⟩

/-- Where a file is staged, seen from the root. -/
theorem isBelow_stagingDirectory_iff (h : Means root path resolved) :
    IsBelow root (stagingDirectory resolved) ↔
      names path ≠ [] ∨ components root = [] ∨ components root = [.here] := by
  have hparts := h.parts
  rw [IsBelow]
  rcases components_stagingDirectory resolved with ⟨hstaging, hlength⟩ | ⟨hsome, part, hstaging⟩
  · rw [hparts, List.length_append, List.length_map] at hlength
    have hprefix :
        components root <+: [.here] ↔ components root = [] ∨ components root = [.here] := by
      simp [List.prefix_cons_iff]
    rw [hstaging, hprefix]
    constructor
    · exact .inr
    · rintro (hnames | hroot)
      · -- there is room for one part only, and it is a name
        have hpositive := List.length_pos_iff.mpr hnames
        exact .inl (List.length_eq_zero_iff.mp (by omega))
      · exact hroot
  · rw [hparts] at hstaging
    rcases List.eq_nil_or_concat' (names path) with hnames | ⟨before, name, hnames⟩
    · -- the root itself is resolved, and its parent is shorter
      rw [hnames, List.map_nil, List.append_nil] at hstaging
      rw [hstaging, hnames]
      constructor
      · intro hprefix
        have hlength := hprefix.length_le
        rw [List.length_append, List.length_singleton] at hlength
        omega
      · rintro (hne | hnil | hhere)
        · exact absurd rfl hne
        · simp at hnil
        · exact absurd (List.append_eq_singleton_iff.mp hhere) (by simp [hsome])
    · rw [hnames, List.map_append, ← List.append_assoc] at hstaging
      have hbefore := (List.append_inj' hstaging rfl).1
      rw [← hbefore, hnames]
      simp

/-- **What a store with a root writes to**: it stages a file in one directory and puts it in the
place of another one, whatever files there are. The file is the root or lies below it. The directory
does so, too, if the path has a name in it; the root itself is staged outside of it, unless the root
is the working directory. -/
theorem write_confined_iff (h : (under root).resolve path = .ok resolved) :
    (∀ tree octets, (under root).write tree path octets =
      writeBy tree (stagingDirectory resolved) resolved octets) ∧
    IsBelow root resolved ∧
    (IsBelow root (stagingDirectory resolved) ↔
      names path ≠ [] ∨ components root = [] ∨ components root = [.here]) :=
  have hmeans : Means root path resolved := means_iff.mpr h
  ⟨write_eq h, hmeans.below, isBelow_stagingDirectory_iff hmeans⟩

/-- A file of a website is staged beside the one that it replaces. -/
theorem write_confined_website :
    (under "srv/www").resolve "img//logo.png" = .ok "srv/www/img/logo.png" ∧
      stagingDirectory "srv/www/img/logo.png" = "srv/www/img" ∧
      IsBelow "srv/www" (stagingDirectory "srv/www/img/logo.png") := by
  have hresolve : (under "srv/www").resolve "img//logo.png" = .ok "srv/www/img/logo.png" := rfl
  have hnames : names "img//logo.png" ≠ [] := by decide +kernel
  exact ⟨hresolve, by decide +kernel, (write_confined_iff hresolve).2.2.mpr (.inl hnames)⟩

/-- Not everything that is written to is the root or lies below it: the file that stands at the root
is staged in the directory above. -/
theorem not_always_confined :
    ¬ ∀ root path resolved, (under root).resolve path = .ok resolved →
      IsBelow root resolved ∧ IsBelow root (stagingDirectory resolved) := by
  intro h
  have hbelow := (h "srv/www" "/" "srv/www" rfl).2
  have hstaging : stagingDirectory "srv/www" = "srv" := by decide +kernel
  have hnot : ¬ components "srv/www" <+: components "srv" := by decide +kernel
  exact hnot (hstaging ▸ hbelow)

end RootedStore

end ScriptBridge
