import Mathlib.Data.List.DropRight
import ScriptBridge.Files.Path

/-!
# Paths and their pieces

A path is its pieces, with separators between them. Cutting the text at a separator cuts the list of
pieces (`segments_append`), and pieces that hold no separator can be put together again
(`segments_intercalate`), so what is said about the text of a path comes down to lists of pieces.

The first piece plays a part of its own: where it is empty the path starts at the root, and where it
is a dot the path starts at the working directory. What follows a first piece does not depend on it
(`partsOf_cons`). From this it is read off what adding a name and taking the last part away do to
the parts of a path, whatever the path looks like.
-/

namespace ScriptBridge.Path

/-! ## Pieces -/

/-- A character that is no separator joins the first piece. -/
theorem split_cons {c : Char} (hc : c ≠ '/') {text piece : List Char} {pieces : List (List Char)}
    (h : split text = piece :: pieces) : split (c :: text) = (c :: piece) :: pieces := by
  rw [split.eq_3 c text hc, h]

theorem split_append (a b : List Char) : split (a ++ '/' :: b) = split a ++ split b := by
  induction a with
  | nil => rfl
  | cons c a ih =>
    obtain ⟨piece, pieces, hpieces⟩ := List.exists_cons_of_ne_nil (split_ne_nil a)
    by_cases hc : c = '/'
    · subst hc
      rw [List.cons_append, split, split, ih, List.cons_append]
    · rw [hpieces] at ih
      -- the character joins the first piece of the whole as it joins that of the first part
      exact (split_cons hc ih).trans (congrArg (· ++ split b) (split_cons hc hpieces).symm)

theorem split_of_notMem {text : List Char} (h : '/' ∉ text) : split text = [text] := by
  induction text with
  | nil => rfl
  | cons c text ih =>
    have hc : c ≠ '/' := (List.ne_of_not_mem_cons h).symm
    exact split_cons hc (ih (List.not_mem_of_not_mem_cons h))

theorem separator_notMem_of_mem_split {text piece : List Char} (h : piece ∈ split text) :
    '/' ∉ piece := by
  induction text generalizing piece with
  | nil =>
    rw [split, List.mem_singleton] at h
    rw [h]
    exact List.not_mem_nil
  | cons c text ih =>
    obtain ⟨first, pieces, hpieces⟩ := List.exists_cons_of_ne_nil (split_ne_nil text)
    rw [hpieces] at ih
    by_cases hc : c = '/'
    · subst hc
      rw [split, hpieces] at h
      rcases List.mem_cons.mp h with rfl | h
      · exact List.not_mem_nil
      · exact ih h
    · rw [split_cons hc hpieces] at h
      rcases List.mem_cons.mp h with rfl | h
      · exact List.not_mem_cons_of_ne_of_not_mem (Ne.symm hc) (ih List.mem_cons_self)
      · exact ih (List.mem_cons_of_mem _ h)

theorem segments_append (a b : String) : segments (a ++ "/" ++ b) = segments a ++ segments b := by
  have hchars : (a ++ "/" ++ b).toList = a.toList ++ '/' :: b.toList := by
    simp only [String.toList_append, List.append_assoc]
    rfl
  rw [segments, hchars, split_append, List.map_append]
  rfl

theorem segments_of_notMem {piece : String} (h : '/' ∉ piece.toList) :
    segments piece = [piece] := by
  rw [segments, split_of_notMem h]
  exact congrArg ([·]) String.ofList_toList

theorem segments_ne_nil (path : String) : segments path ≠ [] :=
  fun h ↦ split_ne_nil _ (List.map_eq_nil_iff.mp h)

theorem separator_notMem_of_mem_segments {path piece : String} (h : piece ∈ segments path) :
    '/' ∉ piece.toList := by
  obtain ⟨chars, hchars, rfl⟩ := List.mem_map.mp h
  rw [String.toList_ofList]
  exact separator_notMem_of_mem_split hchars

/-- Pieces that are put together are found again. -/
theorem segments_intercalate {first : String} {pieces : List String}
    (h : ∀ piece ∈ first :: pieces, '/' ∉ piece.toList) :
    segments ("/".intercalate (first :: pieces)) = first :: pieces := by
  induction pieces generalizing first with
  | nil =>
    rw [String.intercalate_singleton]
    exact segments_of_notMem (h first List.mem_cons_self)
  | cons next pieces ih =>
    rw [String.intercalate_cons_cons, segments_append,
      segments_of_notMem (h first List.mem_cons_self),
      ih fun piece hpiece ↦ h piece (List.mem_cons_of_mem _ hpiece), List.singleton_append]

/-- Only the empty path is a single empty piece. -/
theorem segments_eq_singleton_empty_iff {path : String} : segments path = [""] ↔ path = "" := by
  refine ⟨fun h ↦ ?_, by rintro rfl; rfl⟩
  cases hchars : path.toList with
  | nil => exact String.toList_eq_nil_iff.mp hchars
  | cons c chars =>
    obtain ⟨piece, pieces, hpieces⟩ := List.exists_cons_of_ne_nil (split_ne_nil chars)
    rw [segments, hchars] at h
    by_cases hc : c = '/'
    · subst hc
      rw [split, hpieces] at h
      cases h
    · rw [split_cons hc hpieces] at h
      exact absurd (congrArg String.toList (List.cons.inj h).1) (by simp)

/-- A path that is not empty starts with a piece that is not empty, or has several of them. -/
theorem first_or_rest {path first : String} {rest : List String} (hpath : path ≠ "")
    (hpieces : segments path = first :: rest) : first ≠ "" ∨ rest ≠ [] := by
  rw [← not_and_or]
  rintro ⟨rfl, rfl⟩
  exact hpath (segments_eq_singleton_empty_iff.mp hpieces)

/-! ## Parts -/

/-- The parts that pieces of a whole path name: the first piece may say where the path starts. -/
def partsOf : List String → List Component
  | [""] => []
  | "" :: rest => .root :: componentsOf rest
  | "." :: rest => .here :: componentsOf rest
  | pieces => componentsOf pieces

theorem components_eq (path : String) : components path = partsOf (segments path) := rfl

/-- What the first piece of a path of several pieces says. -/
def lead (first : String) : List Component :=
  if first = "" then [.root] else if first = "." then [.here] else componentsOf [first]

theorem componentsOf_append (a b : List String) :
    componentsOf (a ++ b) = componentsOf a ++ componentsOf b := by
  induction a with
  | nil => rfl
  | cons piece a ih =>
    simp only [List.cons_append, componentsOf]
    split
    · exact ih
    · split <;> rw [ih, List.cons_append]

/-- **What follows the first piece does not depend on it.** -/
theorem partsOf_cons {first : String} {rest : List String} (h : first ≠ "" ∨ rest ≠ []) :
    partsOf (first :: rest) = lead first ++ componentsOf rest := by
  rw [lead]
  unfold partsOf
  split
  · next heq =>
    obtain ⟨rfl, rfl⟩ := List.cons.inj heq
    simp at h
  · next rest' _ heq =>
    obtain ⟨rfl, rfl⟩ := List.cons.inj heq
    rfl
  · next rest' heq =>
    obtain ⟨rfl, rfl⟩ := List.cons.inj heq
    rfl
  · next hempty hdot =>
    have hfirst : first ≠ "" := fun heq ↦ hempty rest (heq ▸ rfl)
    have hfirst' : first ≠ "." := fun heq ↦ hdot rest (heq ▸ rfl)
    rw [if_neg hfirst, if_neg hfirst', ← componentsOf_append, List.singleton_append]

/-- A name of an item: a piece that says something and does not go up. -/
structure IsName (name : String) : Prop where
  ne_empty : name ≠ ""
  ne_dot : name ≠ "."
  ne_up : name ≠ ".."
  separator_notMem : '/' ∉ name.toList

theorem IsName.componentsOf {name : String} (h : IsName name) :
    Path.componentsOf [name] = [.name name] := by
  simp [Path.componentsOf, h.ne_empty, h.ne_dot, h.ne_up]

theorem IsName.partsOf {name : String} (h : IsName name) : Path.partsOf [name] = [.name name] := by
  rw [partsOf_cons (.inl h.ne_empty), lead, if_neg h.ne_empty, if_neg h.ne_dot, h.componentsOf]
  rfl

theorem isName_of_mem_componentsOf {name : String} {pieces : List String}
    (hpieces : ∀ piece ∈ pieces, '/' ∉ piece.toList)
    (h : Component.name name ∈ componentsOf pieces) : IsName name := by
  induction pieces with
  | nil => cases h
  | cons piece pieces ih =>
    have hrest := ih fun other hother ↦ hpieces other (List.mem_cons_of_mem _ hother)
    simp only [componentsOf] at h
    split at h
    · exact hrest h
    · next hshown =>
      split at h
      · exact hrest (List.mem_of_ne_of_mem (by simp) h)
      · next hup =>
        rcases List.mem_cons.mp h with heq | h
        · cases heq
          rw [not_or] at hshown
          exact ⟨hshown.1, hshown.2, hup, hpieces _ List.mem_cons_self⟩
        · exact hrest h

/-! ## Parts of a path, wherever it starts -/

/-- The parts of a path but for where it starts. -/
def steps (path : String) : List Component := componentsOf (segments path)

theorem steps_append (a b : String) : steps (a ++ "/" ++ b) = steps a ++ steps b := by
  rw [steps, segments_append, componentsOf_append]
  rfl

/-- A path has its steps for parts, behind what says where it starts. -/
theorem components_eq_steps (path : String) :
    components path = steps path ∨ components path = .root :: steps path ∨
      components path = .here :: steps path := by
  rw [components_eq, steps]
  obtain ⟨first, rest, hpieces⟩ := List.exists_cons_of_ne_nil (segments_ne_nil path)
  rw [hpieces]
  by_cases hlone : first ≠ "" ∨ rest ≠ []
  · rw [partsOf_cons hlone, lead]
    split
    · next hfirst =>
      subst hfirst
      exact .inr (.inl rfl)
    · split
      · next hfirst =>
        subst hfirst
        exact .inr (.inr rfl)
      · exact .inl (componentsOf_append [first] rest).symm
  · rw [not_or, not_not, not_not] at hlone
    obtain ⟨rfl, rfl⟩ := hlone
    exact .inl rfl

theorem isName_of_mem_components {name path : String} (h : Component.name name ∈ components path) :
    IsName name := by
  suffices hstep : Component.name name ∈ steps path from
    isName_of_mem_componentsOf (fun _ ↦ separator_notMem_of_mem_segments) hstep
  rcases components_eq_steps path with heq | heq | heq <;> rw [heq] at h
  · exact h
  · exact List.mem_of_ne_of_mem (by simp) h
  · exact List.mem_of_ne_of_mem (by simp) h

/-! ## Adding a name -/

theorem partsOf_segments_append {path name : String} (hpath : path ≠ "") (hname : IsName name) :
    partsOf (segments path ++ [name]) = components path ++ [.name name] := by
  obtain ⟨first, rest, hpieces⟩ := List.exists_cons_of_ne_nil (segments_ne_nil path)
  have hlone : first ≠ "" ∨ rest ≠ [] := first_or_rest hpath hpieces
  rw [components_eq, hpieces, List.cons_append, partsOf_cons hlone, partsOf_cons (.inr (by simp)),
    componentsOf_append, hname.componentsOf, List.append_assoc]

/-- A separator that stands at the end already is the one that is wanted. -/
theorem partsOf_segments_append_of_separator {path name : String} (hname : IsName name) :
    partsOf (segments path ++ [name]) = components (path ++ "/") ++ [.name name] := by
  obtain ⟨first, rest, hpieces⟩ := List.exists_cons_of_ne_nil (segments_ne_nil path)
  have hseparated : segments (path ++ "/") = first :: (rest ++ [""]) := by
    rw [← String.append_empty (s := path ++ "/"), segments_append, hpieces]
    rfl
  have hblank : componentsOf [""] = [] := rfl
  rw [components_eq, hseparated, hpieces, List.cons_append, partsOf_cons (.inr (by simp)),
    partsOf_cons (.inr (by simp)), componentsOf_append, componentsOf_append, hname.componentsOf,
    hblank, List.append_nil, List.append_assoc]

/-- **A name that is added is a part of its own, behind all others.** -/
theorem components_push {name : String} (hname : IsName name) (path : String) :
    components (push path name) = components path ++ [.name name] := by
  have hsegments : segments name = [name] := segments_of_notMem hname.separator_notMem
  unfold push
  split
  · next hpath =>
    rw [hpath, components_eq, hsegments, hname.partsOf]
    rfl
  · next hpath =>
    split
    · next hends =>
      obtain ⟨chars, hchars⟩ := List.getLast?_eq_some_iff.mp hends
      obtain rfl : path = String.ofList chars ++ "/" := by
        rw [← String.toList_inj, hchars]
        simp
      rw [components_eq, segments_append, hsegments]
      exact partsOf_segments_append_of_separator hname
    · rw [components_eq, segments_append, hsegments]
      exact partsOf_segments_append hpath hname

/-- Names that are added one after another. -/
theorem components_foldl_push {names : List String} (h : ∀ name ∈ names, IsName name)
    (path : String) :
    components (names.foldl push path) = components path ++ names.map .name := by
  induction names generalizing path with
  | nil => rw [List.foldl_nil, List.map_nil, List.append_nil]
  | cons name names ih =>
    rw [List.foldl_cons, ih fun other hother ↦ h other (List.mem_cons_of_mem _ hother),
      components_push (h name List.mem_cons_self), List.map_cons, List.append_assoc,
      List.singleton_append]

/-! ## Taking the last part away -/

/-- Pieces that say nothing. -/
def isBlank (piece : String) : Bool := piece = "" ∨ piece = "."

theorem trimEnd_cons (first : String) (rest : List String) :
    trimEnd (first :: rest) = first :: rest.rdropWhile isBlank := rfl

theorem componentsOf_of_isBlank {piece : String} (h : isBlank piece) :
    componentsOf [piece] = [] := by
  rw [componentsOf, if_pos (of_decide_eq_true h), componentsOf]

theorem exists_componentsOf_of_not_isBlank {piece : String} (h : ¬ isBlank piece) :
    ∃ part, componentsOf [piece] = [part] := by
  have hshown : ¬ (piece = "" ∨ piece = ".") := fun hblank ↦ h (decide_eq_true hblank)
  rw [componentsOf, if_neg hshown]
  split
  · exact ⟨_, rfl⟩
  · exact ⟨_, rfl⟩

/-- Pieces that say nothing may be left out at the end. -/
theorem componentsOf_rdropWhile (pieces : List String) :
    componentsOf (pieces.rdropWhile isBlank) = componentsOf pieces := by
  induction pieces using List.reverseRecOn with
  | nil => rfl
  | append_singleton pieces piece ih =>
    rw [List.rdropWhile_concat]
    split
    · next hblank => rw [ih, componentsOf_append, componentsOf_of_isBlank hblank, List.append_nil]
    · rfl

theorem exists_lead_of_ne_empty {first : String} (h : first ≠ "") :
    ∃ part, lead first = [part] := by
  rw [lead, if_neg h]
  split
  · exact ⟨_, rfl⟩
  · next hdot => exact exists_componentsOf_of_not_isBlank (by simp [isBlank, h, hdot])

/-- Only the empty path has no parts. -/
theorem components_eq_nil_iff {path : String} : components path = [] ↔ path = "" := by
  refine ⟨fun h ↦ ?_, by rintro rfl; rfl⟩
  obtain ⟨first, rest, hpieces⟩ := List.exists_cons_of_ne_nil (segments_ne_nil path)
  by_contra hpath
  have hlone : first ≠ "" ∨ rest ≠ [] := first_or_rest hpath hpieces
  rw [components_eq, hpieces, partsOf_cons hlone] at h
  have hlead : lead first = [] := (List.append_eq_nil_iff.mp h).1
  by_cases hfirst : first = ""
  · rw [lead, if_pos hfirst] at hlead
    cases hlead
  · obtain ⟨part, hpart⟩ := exists_lead_of_ne_empty hfirst
    rw [hpart] at hlead
    cases hlead

/-- The path of pieces names what they name. -/
theorem components_join {first : String} {rest : List String}
    (h : ∀ piece ∈ first :: rest, '/' ∉ piece.toList) :
    components (join (first :: rest)) = lead first ++ componentsOf rest := by
  rw [join]
  split
  · next heq =>
    obtain ⟨rfl, rfl⟩ := List.cons.inj heq
    rfl
  · next hne =>
    rw [components_eq, segments_intercalate h, partsOf_cons]
    rw [← not_and_or]
    rintro ⟨rfl, rfl⟩
    exact hne rfl

section Parent

variable {path first last : String} {rest : List String}

theorem parent?_of_single (h : trimEnd (segments path) = [first]) :
    parent? path = if first = "" then none else some "" := by
  rw [parent?, h, List.reverse_singleton]
  split <;> simp_all

theorem parent?_of_several (h : trimEnd (segments path) = first :: (rest ++ [last])) :
    parent? path = some (join (trimEnd (first :: rest))) := by
  have hreverse : (trimEnd (segments path)).reverse = last :: (rest.reverse ++ [first]) := by
    rw [h]
    simp
  have hbefore : (rest.reverse ++ [first]).reverse = first :: rest := by simp
  have hsome : rest.reverse ++ [first] ≠ [] := by simp
  rw [parent?, hreverse, ← hbefore]
  generalize rest.reverse ++ [first] = before at hsome
  split <;> simp_all

end Parent

/-- **The parent of a path has all its parts but the last.** Only a path without parts and the root
have no parent. -/
theorem components_parent? (path : String) :
    (parent? path = none ∧ (components path = [] ∨ components path = [.root])) ∨
      ∃ parent part, parent? path = some parent ∧
        components path = components parent ++ [part] := by
  obtain ⟨first, rest, hpieces⟩ := List.exists_cons_of_ne_nil (segments_ne_nil path)
  have htrimmed : trimEnd (segments path) = first :: rest.rdropWhile isBlank := by
    rw [hpieces, trimEnd_cons]
  have hseparators : ∀ piece ∈ first :: rest, '/' ∉ piece.toList :=
    fun piece hpiece ↦ separator_notMem_of_mem_segments (hpieces ▸ hpiece)
  have hsteps := componentsOf_rdropWhile rest
  rcases List.eq_nil_or_concat' (rest.rdropWhile isBlank) with hkept | ⟨before, last, hkept⟩
  · -- nothing but the first piece says anything
    rw [hkept] at htrimmed hsteps
    have hparent := parent?_of_single htrimmed
    by_cases hfirst : first = ""
    · refine .inl ⟨by rw [hparent, if_pos hfirst], ?_⟩
      rw [components_eq, hpieces, hfirst]
      cases rest with
      | nil => exact .inl rfl
      | cons _ _ => exact .inr ((partsOf_cons (.inr (List.cons_ne_nil _ _))).trans (hsteps ▸ rfl))
    · obtain ⟨part, hpart⟩ := exists_lead_of_ne_empty hfirst
      refine .inr ⟨"", part, by rw [hparent, if_neg hfirst], ?_⟩
      rw [components_eq, hpieces, partsOf_cons (.inl hfirst), hpart, ← hsteps]
      rfl
  · rw [hkept] at htrimmed hsteps
    have hlast : ¬ isBlank last := by
      have hne : rest.rdropWhile isBlank ≠ [] := by simp [hkept]
      have hnot := List.rdropWhile_last_not isBlank rest hne
      simpa [hkept] using hnot
    obtain ⟨part, hpart⟩ := exists_componentsOf_of_not_isBlank hlast
    have hsome : rest ≠ [] := by
      rintro rfl
      simp at hkept
    refine .inr ⟨_, part, parent?_of_several htrimmed, ?_⟩
    have hbefore : ∀ piece ∈ first :: before.rdropWhile isBlank, '/' ∉ piece.toList := by
      intro piece hpiece
      refine hseparators piece (List.mem_cons.mpr ?_)
      refine (List.mem_cons.mp hpiece).imp_right fun hmem ↦ ?_
      have hkeptMem : piece ∈ rest.rdropWhile isBlank :=
        hkept ▸ List.mem_append_left _ ((List.rdropWhile_prefix _ _).mem hmem)
      exact (List.rdropWhile_prefix _ _).mem hkeptMem
    rw [trimEnd_cons, components_join hbefore, componentsOf_rdropWhile, components_eq, hpieces,
      partsOf_cons (.inr hsome), ← hsteps, componentsOf_append, hpart, List.append_assoc]

end ScriptBridge.Path
