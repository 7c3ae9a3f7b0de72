import ScriptBridge.Json.NumberText
import Mathlib.Tactic.IntervalCases

/-!
# Whole numbers in data text

A whole number is written in decimal digits, the first of which is a zero only if it is the only
one, with a minus in front if it is negative. The reader scans such a text to its end, whatever
follows, as long as what follows does not go on with the number (`NumberText.Ends`), and takes it
for the integer that was written, provided that one of the two kinds of 64-bit word holds it.

## Digits

Digits are characters on one side and numbers below ten on the other. `digits_append` says that
the reader takes all leading digits, `ofDigits_digitValues` that it makes of them the number that
they are the digits of.
-/

namespace ScriptBridge.Json.NumberText

/-- Nothing here goes on with a number. -/
def Ends (rest : List Char) : Prop :=
  ∀ c ∈ rest.head?, digit? c = none ∧ c ≠ '.' ∧ c ≠ 'e' ∧ c ≠ 'E'

theorem ends_nil : Ends [] := by simp [Ends]

theorem ends_cons {c : Char} {rest : List Char} (hdigit : digit? c = none) (hpoint : c ≠ '.')
    (hlower : c ≠ 'e') (hupper : c ≠ 'E') : Ends (c :: rest) := by
  intro d hd
  obtain rfl : c = d := by simpa using hd
  exact ⟨hdigit, hpoint, hlower, hupper⟩

/-! ## Digits -/

/-- The number that a character stands for among digits. -/
def digitValue (c : Char) : Nat := c.toNat - '0'.toNat

theorem digit?_of_isDigit {c : Char} (h : c.isDigit = true) : digit? c = some (digitValue c) := by
  have hrange : '0' ≤ c ∧ c ≤ '9' := by
    rw [Char.isDigit, Bool.and_eq_true, decide_eq_true_eq, decide_eq_true_eq] at h
    exact h
  rw [digit?, if_pos hrange]
  rfl

/-- All leading digits are taken, and nothing else. -/
theorem digits_append {ds rest : List Char} (hds : ∀ c ∈ ds, c.isDigit = true)
    (hrest : ∀ c ∈ rest.head?, digit? c = none) :
    digits (ds ++ rest) = (ds.map digitValue, rest) := by
  induction ds with
  | nil =>
    cases rest with
    | nil => rfl
    | cons c rest =>
      have hnone : digit? c = none := hrest c (by simp)
      simp [digits, hnone]
  | cons d ds ih =>
    have hd : digit? d = some (digitValue d) := digit?_of_isDigit (hds d List.mem_cons_self)
    have htail := ih fun c hc ↦ hds c (List.mem_cons_of_mem d hc)
    simp only [List.cons_append, digits, hd, htail, List.map_cons]

theorem isDigit_of_mem_toDigits {n : Nat} : ∀ c ∈ Nat.toDigits 10 n, c.isDigit = true :=
  fun _ ↦ Nat.isDigit_of_mem_toDigits (by decide) (by decide)

/-- The digits of a number denote it. -/
theorem ofDigits_digitValues (n : Nat) : ofDigits ((Nat.toDigits 10 n).map digitValue) = n := by
  have hfold : ofDigits ((Nat.toDigits 10 n).map digitValue) =
      Nat.ofDigitChars 10 (Nat.toDigits 10 n) 0 := by
    rw [ofDigits, List.foldl_map, Nat.ofDigitChars_eq_foldl]
    congr 1
    funext sofar c
    rw [Nat.mul_comm, digitValue]
  rw [hfold, Nat.ofDigitChars_ten_toDigits]

/-- The first digit of a positive number is no zero. -/
theorem head_toDigits_pos {n : Nat} (hn : 0 < n) :
    ∃ d ds, Nat.toDigits 10 n = d :: ds ∧ digitValue d ≠ 0 := by
  induction n using Nat.strongRecOn with
  | ind n ih =>
    by_cases hlt : n < 10
    · refine ⟨Nat.digitChar n, [], Nat.toDigits_of_lt_base hlt, ?_⟩
      interval_cases n <;> decide
    · have hdiv : 0 < n / 10 := by omega
      obtain ⟨d, ds, hds, hd⟩ := ih (n / 10) (by omega) hdiv
      refine ⟨d, ds ++ [Nat.digitChar (n % 10)], ?_, hd⟩
      rw [Nat.toDigits_of_base_le (by decide) (by omega), hds, List.cons_append]

/-- Digits of a number are the part of a numeral before the point. -/
theorem scanWhole?_toDigits (n : Nat) {rest : List Char} (hrest : Ends rest) :
    scanWhole? (Nat.toDigits 10 n ++ rest) =
      some ((Nat.toDigits 10 n).map digitValue, rest) := by
  have hdigits := digits_append (isDigit_of_mem_toDigits (n := n)) fun c hc ↦ (hrest c hc).1
  rw [scanWhole?, someDigits?, hdigits]
  by_cases hn : n = 0
  · subst hn
    rfl
  · obtain ⟨d, ds, hds, hd⟩ := head_toDigits_pos (Nat.pos_of_ne_zero hn)
    rw [hds, List.map_cons]
    dsimp only
    split
    · next heq =>
      have hzero : digitValue d = 0 := by simp_all
      exact absurd hzero hd
    · rfl

theorem scanFraction?_of_ends {rest : List Char} (h : Ends rest) :
    scanFraction? rest = some (none, rest) := by
  unfold scanFraction?
  split
  · exact absurd rfl (h '.' (by simp)).2.1
  · rfl

theorem scanExponent?_of_ends {rest : List Char} (h : Ends rest) :
    scanExponent? rest = some (none, rest) := by
  cases rest with
  | nil => rfl
  | cons c rest =>
    obtain ⟨-, -, hlower, hupper⟩ := h c (by simp)
    simp only [scanExponent?, hlower, hupper, or_self, if_false]

/-! ## Numerals -/

/-- The numeral of a whole number, as it is scanned. -/
def ofInt (n : Int) : NumberText where
  negative := n < 0
  whole := (Nat.toDigits 10 n.natAbs).map digitValue
  fraction := none
  exponent := none

/-- A whole number as it is written: digits, behind a minus if it is negative. -/
theorem toList_toString (n : Int) :
    (toString n).toList = (if n < 0 then ['-'] else []) ++ Nat.toDigits 10 n.natAbs := by
  rw [Int.toString_eq_repr, Int.repr_eq_if]
  by_cases hn : 0 ≤ n
  · have habs : n.toNat = n.natAbs := by omega
    rw [if_pos hn, if_neg (by omega), habs, Nat.repr_eq_ofList_toDigits, String.toList_ofList,
      List.nil_append]
  · have habs : (-n).toNat = n.natAbs := by omega
    rw [if_neg hn, if_pos (by omega), habs, String.toList_append, Nat.repr_eq_ofList_toDigits]
    exact congrArg (['-'] ++ ·) String.toList_ofList

/-- The first character of a numeral is a minus or a digit. -/
theorem head_toString (n : Int) :
    ∃ c text, (toString n).toList = c :: text ∧ (c = '-' ∨ c.isDigit = true) := by
  rw [toList_toString]
  by_cases hn : n < 0
  · exact ⟨'-', _, by rw [if_pos hn]; rfl, .inl rfl⟩
  · obtain ⟨d, ds, hds⟩ :=
      List.exists_cons_of_ne_nil (Nat.toDigits_ne_nil (n := n.natAbs) (b := 10))
    refine ⟨d, ds, by rw [if_neg hn, hds]; rfl, .inr ?_⟩
    exact isDigit_of_mem_toDigits d (by rw [hds]; exact List.mem_cons_self)

/-- A written number is scanned to its end. -/
theorem scan?_toString (n : Int) {rest : List Char} (hrest : Ends rest) :
    scan? ((toString n).toList ++ rest) = some (ofInt n, rest) := by
  have hwhole := scanWhole?_toDigits n.natAbs hrest
  have hfraction := scanFraction?_of_ends hrest
  have hexponent := scanExponent?_of_ends hrest
  rw [toList_toString]
  by_cases hn : n < 0
  · rw [if_pos hn]
    simp only [List.cons_append, List.nil_append, scan?, hwhole, hfraction, hexponent,
      Option.bind_eq_bind, Option.bind_some, Option.pure_def, ofInt, hn, decide_true]
  · rw [if_neg hn, List.nil_append]
    -- without a minus in front, the digits are what is scanned:
    have hplain : ∀ tail, Nat.toDigits 10 n.natAbs ++ rest ≠ '-' :: tail := by
      intro tail heq
      obtain ⟨d, ds, hds⟩ :=
        List.exists_cons_of_ne_nil (Nat.toDigits_ne_nil (n := n.natAbs) (b := 10))
      have hdigit := isDigit_of_mem_toDigits d (by rw [hds]; exact List.mem_cons_self)
      rw [hds, List.cons_append, List.cons.injEq] at heq
      rw [heq.1] at hdigit
      exact absurd hdigit (by decide)
    unfold scan?
    split
    next negative text hsign =>
    split at hsign
    · next heq => exact absurd heq (hplain _)
    · obtain ⟨rfl, rfl⟩ := Prod.mk.inj hsign
      simp only [hwhole, hfraction, hexponent, Option.bind_eq_bind, Option.bind_some,
        Option.pure_def, ofInt, hn, decide_false]

/-- One of the two kinds of word holds the number. -/
def IsWord (n : Int) : Prop := leastWord ≤ n ∧ n ≤ (greatestUnsigned : Int)

/-- A written number that fits a word is read as the integer that it is. -/
theorem value?_ofInt {n : Int} (h : IsWord n) : (ofInt n).value? = some (.int n) := by
  have hfits : n.natAbs ≤ greatestUnsigned := by
    obtain ⟨hleast, hgreatest⟩ := h
    unfold leastWord at hleast
    unfold greatestUnsigned at hgreatest ⊢
    omega
  have hparts : (ofInt n).fraction.isNone = true ∧ (ofInt n).exponent.isNone = true ∧
      n.natAbs ≤ greatestUnsigned := ⟨rfl, rfl, hfits⟩
  have hwhole : ofDigits (ofInt n).whole = n.natAbs := ofDigits_digitValues n.natAbs
  rw [value?, hwhole, if_pos hparts]
  by_cases hn : n < 0
  · have hnegative : (ofInt n).negative = true := decide_eq_true hn
    have hback : -(n.natAbs : Int) = n := by omega
    have hleast : 0 < n.natAbs ∧ leastWord ≤ -(n.natAbs : Int) :=
      ⟨by omega, by rw [hback]; exact h.1⟩
    rw [if_neg (by simp [hnegative]), if_pos hleast, hback]
  · have hnonnegative : (ofInt n).negative = false := decide_eq_false hn
    have hback : (n.natAbs : Int) = n := by omega
    rw [if_pos (by simp [hnonnegative]), hback]

end ScriptBridge.Json.NumberText
