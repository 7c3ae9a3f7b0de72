import ScriptBridge.Surface.Declared

/-!
# What declarations put on a surface

Declarations are taken one by one, into a table of members and a table of names declared before. For
a single name the two tables come down to one of three standings: it has not been declared, it has
been declared once, or it is ambiguous. A declaration moves the standing of its own name and no
other (`Declared.standing_declare`), so the standing at the end depends on the declarations of that
name alone, and a surface has the members that were declared once. Their order is of no account, and
each name that was declared again is warned about once (`Surface.ofDeclarations_counted`).
-/

namespace ScriptBridge

/-! ## Tables -/

namespace Table

variable {α β : Type} [LT α] [DecidableLT α] [KeyOrder α] [DecidableEq α]

theorem mem_keys_iff {table : Table α β} {key : α} :
    key ∈ table.keys ↔ table.contains key = true := by
  rw [keys, List.mem_map, contains, Option.isSome_iff_exists]
  constructor
  · rintro ⟨⟨k, value⟩, hmem, rfl⟩
    exact ⟨value, get?_eq_some_iff.mpr hmem⟩
  · rintro ⟨value, hget⟩
    exact ⟨(key, value), get?_eq_some_iff.mp hget, rfl⟩

omit [DecidableLT α] [DecidableEq α] in
/-- No key is there twice. -/
theorem nodup_keys (table : Table α β) : table.keys.Nodup := by
  refine List.pairwise_map.mpr (table.ordered.imp fun hlt heq ↦ ?_)
  exact KeyOrder.irrefl _ (heq ▸ hlt)

/-- The values that remain when keys have been taken out. -/
theorem get?_foldl_erase (keys : List α) (table : Table α β) (key : α) :
    (keys.foldl erase table).get? key = if key ∈ keys then none else table.get? key := by
  induction keys generalizing table with
  | nil => simp
  | cons k keys ih =>
    rw [List.foldl_cons, ih, get?_erase]
    by_cases hmem : key ∈ keys
    · simp [hmem]
    · by_cases hk : key = k
      · simp [hk]
      · simp [hmem, hk]

/-- A table without values is the set of its keys. -/
theorem eq_of_contains {a b : Table α Unit} (h : ∀ key, a.contains key = b.contains key) :
    a = b := by
  refine ext_get? fun key ↦ ?_
  have hkey : (a.get? key).isSome = (b.get? key).isSome := h key
  match ha : a.get? key, hb : b.get? key with
  | none, none | some (), some () => rfl
  | none, some _ | some _, none =>
    rw [ha, hb] at hkey
    cases hkey

end Table

/-! ## Standings -/

/-- What declarations have made of a name. -/
inductive Standing where
  | undeclared
  | once (member : Member)
  | ambiguous

namespace Standing

/-- The standing of a name that is declared again. -/
def declare : Standing → Declaration → Standing
  | .undeclared, d => .once d.member
  | .once _, _ | .ambiguous, _ => .ambiguous

/-- The member that is reached by the name in the end. -/
def member? : Standing → Option Member
  | .once member => some member
  | .undeclared | .ambiguous => none

theorem member?_eq_some_iff {standing : Standing} {member : Member} :
    standing.member? = some member ↔ standing = .once member := by
  cases standing <;> simp [member?]

theorem foldl_declare_ambiguous (declarations : List Declaration) :
    declarations.foldl declare ambiguous = ambiguous := by
  induction declarations with
  | nil => rfl
  | cons d declarations ih => exact ih

/-- The standing that declarations of one name give it. -/
def ofList : List Declaration → Standing
  | [] => .undeclared
  | [d] => .once d.member
  | _ :: _ :: _ => .ambiguous

theorem foldl_declare_undeclared (declarations : List Declaration) :
    declarations.foldl declare undeclared = ofList declarations := by
  match declarations with
  | [] | [_] => rfl
  | _ :: _ :: declarations => exact foldl_declare_ambiguous declarations

/-- Of declarations of one name, a single one counts. -/
theorem ofList_eq_once_iff {declarations : List Declaration} {member : Member} :
    ofList declarations = once member ↔ ∃ d, declarations = [d] ∧ d.member = member := by
  match declarations with
  | [] | [_] | _ :: _ :: _ => simp [ofList]

theorem ofList_eq_ambiguous_iff {declarations : List Declaration} :
    ofList declarations = ambiguous ↔ 2 ≤ declarations.length := by
  match declarations with
  | [] | [_] | _ :: _ :: _ => simp [ofList]

/-- Their order is of no account. -/
theorem ofList_perm {declarations declarations' : List Declaration}
    (h : declarations.Perm declarations') : ofList declarations = ofList declarations' := by
  match declarations, declarations' with
  | [], _ => rw [List.nil_perm.mp h]
  | [d], _ => rw [List.singleton_perm.mp h]
  | _ :: _ :: _, _ :: _ :: _ => rfl
  | _ :: _ :: _, [] | _ :: _ :: _, [_] => simpa using h.length_eq

end Standing

namespace Declared

/-- The standing of a name. -/
def standing (declared : Declared) (name : String) : Standing :=
  if declared.ambiguous.contains name then .ambiguous
  else
    match declared.members.get? name with
    | none => .undeclared
    | some member => .once member

/-- **A declaration moves the standing of its name**, and no other. -/
theorem standing_declare (declared : Declared) (d : Declaration) (name : String) :
    (declared.declare d).standing name =
      if d.name = name then (declared.standing name).declare d else declared.standing name := by
  unfold standing declare Table.contains
  by_cases hname : d.name = name
  · subst hname
    by_cases hambiguous : (declared.ambiguous.get? d.name).isSome = true
    · cases declared.members.get? d.name with
      | none => simp [hambiguous, Standing.declare]
      | some member => simp [Table.get?_insert, hambiguous, Standing.declare]
    · cases declared.members.get? d.name with
      | none => simp [Table.get?_insert, hambiguous, Standing.declare]
      | some member => simp [Table.get?_insert, hambiguous, Standing.declare]
  · have hother : name ≠ d.name := Ne.symm hname
    rw [if_neg hname]
    cases declared.members.get? d.name with
    | none => simp [Table.get?_insert, hother]
    | some member => simp [Table.get?_insert, hother]

/-- The standing in the end depends on the declarations of the name alone. -/
theorem standing_foldl_declare (declarations : List Declaration) (declared : Declared)
    (name : String) :
    (declarations.foldl declare declared).standing name =
      (declarations.filter (·.name = name)).foldl Standing.declare (declared.standing name) := by
  induction declarations generalizing declared with
  | nil => rfl
  | cons d declarations ih =>
    rw [List.foldl_cons, ih, standing_declare, List.filter_cons]
    by_cases hname : d.name = name
    · simp [hname]
    · simp [hname]

/-- **What a name comes to** are the declarations of that name. -/
theorem standing_ofList (declarations : List Declaration) (name : String) :
    (ofList declarations).standing name = .ofList (declarations.filter (·.name = name)) := by
  rw [← Standing.foldl_declare_undeclared]
  exact standing_foldl_declare declarations {} name

theorem get?_remaining (declared : Declared) (name : String) :
    declared.remaining.get? name = (declared.standing name).member? := by
  rw [remaining, Table.get?_foldl_erase, withdrawn, standing]
  simp only [Table.mem_keys_iff]
  by_cases hambiguous : declared.ambiguous.contains name = true
  · rw [if_pos hambiguous, if_pos hambiguous]
    rfl
  · rw [if_neg hambiguous, if_neg hambiguous]
    cases declared.members.get? name with
    | none => rfl
    | some member => rfl

end Declared

/-- A declaration that is the only one of a name has that name. -/
theorem name_of_filter_eq_singleton {declarations : List Declaration} {name : String}
    {d : Declaration} (h : declarations.filter (·.name = name) = [d]) : d.name = name := by
  have hmem : d ∈ declarations.filter (·.name = name) := h ▸ List.mem_singleton_self d
  simpa using (List.mem_filter.mp hmem).2

/-- **A surface has the members whose names were declared once.** -/
theorem Surface.member?_ofDeclarations_eq_some_iff {typeName name : String}
    {declarations : List Declaration} {member : Member} :
    (ofDeclarations typeName declarations).member? name = some member ↔
      declarations.filter (·.name = name) = [⟨name, member⟩] := by
  rw [member?, ofDeclarations, Declared.get?_remaining, Standing.member?_eq_some_iff,
    Declared.standing_ofList, Standing.ofList_eq_once_iff]
  constructor
  · rintro ⟨d, hsole, rfl⟩
    rw [hsole, ← name_of_filter_eq_singleton hsole]
  · intro hsole
    exact ⟨_, hsole, rfl⟩

/-! ## Order and number -/

namespace Declared

variable {declarations declarations' : List Declaration}

theorem contains_ambiguous_iff {declared : Declared} {name : String} :
    declared.ambiguous.contains name = true ↔ declared.standing name = .ambiguous := by
  unfold standing
  by_cases hambiguous : declared.ambiguous.contains name = true
  · simp [hambiguous]
  · rw [if_neg hambiguous]
    cases declared.members.get? name <;> simp [hambiguous]

/-- A name is withdrawn just if it was declared more than once. -/
theorem mem_withdrawn_iff {name : String} : name ∈ (ofList declarations).withdrawn ↔
    2 ≤ declarations.countP (·.name = name) := by
  rw [withdrawn, Table.mem_keys_iff, contains_ambiguous_iff, standing_ofList,
    Standing.ofList_eq_ambiguous_iff, List.countP_eq_length_filter]

theorem standing_perm (h : declarations.Perm declarations') (name : String) :
    (ofList declarations).standing name = (ofList declarations').standing name := by
  rw [standing_ofList, standing_ofList, Standing.ofList_perm (h.filter _)]

theorem remaining_perm (h : declarations.Perm declarations') :
    (ofList declarations).remaining = (ofList declarations').remaining := by
  refine Table.ext_get? fun name ↦ ?_
  rw [get?_remaining, get?_remaining, standing_perm h]

/-- The names that are withdrawn do not depend on the order. -/
theorem withdrawn_perm (h : declarations.Perm declarations') :
    (ofList declarations).withdrawn = (ofList declarations').withdrawn := by
  have hcontains (name : String) : (ofList declarations).ambiguous.contains name =
      (ofList declarations').ambiguous.contains name := by
    rw [Bool.eq_iff_iff, contains_ambiguous_iff, contains_ambiguous_iff, standing_perm h]
  have hambiguous : (ofList declarations).ambiguous = (ofList declarations').ambiguous :=
    Table.eq_of_contains hcontains
  rw [withdrawn, withdrawn, hambiguous]

/-- No name is withdrawn twice. -/
theorem nodup_withdrawn (declared : Declared) : declared.withdrawn.Nodup :=
  Table.nodup_keys declared.ambiguous

/-- **A withdrawn name is warned about once.** -/
theorem countP_warnings (name : String) :
    (ofList declarations).warnings.countP (·.member = name) =
      if 2 ≤ declarations.countP (·.name = name) then 1 else 0 := by
  have hcount : (ofList declarations).warnings.countP (·.member = name) =
      (ofList declarations).withdrawn.count name := by
    rw [warnings, List.countP_map, List.count_eq_countP]
    exact List.countP_congr fun _ _ ↦ by simp
  rw [hcount, (nodup_withdrawn _).count]
  simp only [mem_withdrawn_iff]

end Declared

namespace Surface

/-- A single declaration of a name declares a single member. -/
theorem exists_declared_iff {declarations : List Declaration} {name : String} :
    (∃ member, declarations.filter (·.name = name) = [⟨name, member⟩]) ↔
      declarations.countP (·.name = name) = 1 := by
  rw [List.countP_eq_length_filter, List.length_eq_one_iff]
  constructor
  · rintro ⟨member, hsole⟩
    exact ⟨_, hsole⟩
  · rintro ⟨d, hsole⟩
    obtain rfl := name_of_filter_eq_singleton hsole
    exact ⟨d.member, hsole⟩

theorem isConstructible_iff {surface : Surface} :
    surface.isConstructible = true ↔ ∃ arity, surface.member? "" = some (.initializer arity) := by
  unfold isConstructible initializer? defaultMember?
  cases surface.member? "" with
  | none => simp
  | some member => cases member <;> simp

/-- **A surface depends on how often names were declared**, and not on when: it has the members that
were declared once, each as it was declared, while a name that was declared again is gone and was
warned about once. -/
theorem ofDeclarations_counted (typeName : String) :
    (∀ declarations declarations' : List Declaration, declarations.Perm declarations' →
      ofDeclarations typeName declarations = ofDeclarations typeName declarations' ∧
      (Declared.ofList declarations).warnings = (Declared.ofList declarations').warnings) ∧
    ∀ declarations : List Declaration,
      (∀ name member, (ofDeclarations typeName declarations).member? name = some member ↔
        declarations.filter (·.name = name) = [⟨name, member⟩]) ∧
      (∀ name, ((ofDeclarations typeName declarations).member? name).isSome = true ↔
        declarations.countP (·.name = name) = 1) ∧
      (∀ name, (Declared.ofList declarations).warnings.countP (·.member = name) =
        if 2 ≤ declarations.countP (·.name = name) then 1 else 0) ∧
      ((ofDeclarations typeName declarations).isConstructible = true ↔
        ∃ arity, declarations.filter (·.name = "") = [.initializer arity]) := by
  refine ⟨fun declarations declarations' hperm ↦ ⟨?_, ?_⟩,
    fun declarations ↦ ⟨fun name member ↦ member?_ofDeclarations_eq_some_iff, fun name ↦ ?_,
      Declared.countP_warnings, ?_⟩⟩
  · rw [ofDeclarations, ofDeclarations, Declared.remaining_perm hperm]
  · rw [Declared.warnings, Declared.warnings, Declared.withdrawn_perm hperm]
  · rw [Option.isSome_iff_exists, ← exists_declared_iff]
    exact exists_congr fun member ↦ member?_ofDeclarations_eq_some_iff
  · simp only [isConstructible_iff, member?_ofDeclarations_eq_some_iff]
    rfl

end Surface

/-- Declarations of several kinds. Two of them have no name, and two have the name `twice`. -/
def shadowed : List Declaration :=
  [.command "twice" 0, .initializer 0, .method "twice" 1, .variadicMethod "any",
    .writableProperty "size", .call 1]

/-- In the other order they give the same surface. -/
theorem shadowed_counted :
    shadowed.Perm shadowed.reverse ∧
      Surface.ofDeclarations "shadowed" shadowed =
        Surface.ofDeclarations "shadowed" shadowed.reverse ∧
      (Declared.ofList shadowed).warnings = (Declared.ofList shadowed.reverse).warnings ∧
      (Declared.ofList shadowed).warnings.countP (·.member = "twice") = 1 := by
  obtain ⟨hperm, hcounted⟩ := Surface.ofDeclarations_counted "shadowed"
  have hreverse : shadowed.Perm shadowed.reverse := (List.reverse_perm shadowed).symm
  obtain ⟨hsurface, hwarnings⟩ := hperm _ _ hreverse
  exact ⟨hreverse, hsurface, hwarnings, (hcounted shadowed).2.2.1 "twice"⟩

end ScriptBridge
