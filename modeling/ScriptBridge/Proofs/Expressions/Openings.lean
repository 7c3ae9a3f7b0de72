import ScriptBridge.Bridge.Completion
import ScriptBridge.Proofs.Data.Numerals

/-!
# How expressions begin

A script that waits for a reply gets an expression: the literal of a value, or one that throws. A
completion says which of the two it is by its arguments. So in both forms a result can be told from
a failure, and one result or failure from another one, by looking at the text. An expression that
throws begins with a parenthesis, and no literal does (`Value.not_opens_literalFor`). In completions
the first argument is `null` or begins with `new`.
-/

namespace ScriptBridge

/-- The text begins with a parenthesis. -/
def Opens (text : String) : Prop := text.toList.head? = some '('

instance (text : String) : Decidable (Opens text) :=
  inferInstanceAs (Decidable (text.toList.head? = some '('))

theorem Opens.append {text : String} (h : Opens text) (rest : String) : Opens (text ++ rest) := by
  rw [Opens, String.toList_append, List.head?_append, h]
  rfl

theorem not_opens_of_head {text : String} {c : Char} {rest : List Char}
    (h : text.toList = c :: rest) (hc : c ≠ '(') : ¬ Opens text := by
  rw [Opens, h, List.head?_cons, Option.some.injEq]
  exact hc

/-- What comes first decides. -/
theorem not_opens_append {c : Char} {text : String} (h : text.toList.head? = some c) (hc : c ≠ '(')
    (rest : String) : ¬ Opens (text ++ rest) := by
  rw [Opens, String.toList_append, List.head?_append, h, Option.some_or, Option.some.injEq]
  exact hc

theorem opens_throwing (text : String) : Opens (ChannelId.throwing text) := by
  have hopens : Opens "(function() \x7b throw new Error(" := rfl
  exact (hopens.append (quote text)).append _

/-! ## Quoted text -/

theorem quote_injective : Function.Injective quote := by
  intro s t h
  have hmarked : Quoted.encode s.toList ++ ['"'] = Quoted.encode t.toList ++ ['"'] :=
    (List.cons.inj (String.ofList_injective h)).2
  have hread := congrArg Quoted.decode? hmarked
  rw [Quoted.decode?_encode_append, Quoted.decode?_encode_append] at hread
  exact String.toList_injective (Prod.mk.inj (Option.some.inj hread)).1

theorem not_opens_quote (text : String) : ¬ Opens (quote text) :=
  not_opens_of_head String.toList_ofList (by decide)

/-! ## Numbers -/

/-- A character with which a numeral begins. -/
private theorem ne_parenthesis_of_isDigit {c : Char} (h : c.isDigit = true) : c ≠ '(' := by
  rintro rfl
  exact absurd h (by decide)

theorem not_opens_toString (n : Int) : ¬ Opens (toString n) := by
  obtain ⟨c, text, htext, hc⟩ := Json.NumberText.head_toString n
  refine not_opens_of_head htext ?_
  rcases hc with rfl | hdigit
  · decide
  · exact ne_parenthesis_of_isDigit hdigit

/-- A positive decimal that is printed positionally begins with a digit. -/
theorem NumberLayout.head_printPositional (layout : NumberLayout) {digits : List Char}
    (hne : digits ≠ []) (hdigits : ∀ c ∈ digits, c.isDigit = true) (exponent : Int) :
    ∃ c rest, layout.printPositional digits exponent = c :: rest ∧ c.isDigit = true := by
  obtain ⟨d, ds, rfl⟩ := List.exists_cons_of_ne_nil hne
  have hd : d.isDigit = true := hdigits d List.mem_cons_self
  unfold printPositional
  split
  · exact ⟨d, _, rfl, hd⟩
  · dsimp only
    split
    · next hplaces =>
      obtain ⟨k, hk⟩ : ∃ k, (d :: ds).length - (-exponent).toNat = k + 1 :=
        Nat.exists_eq_succ_of_ne_zero (by omega)
      rw [hk]
      exact ⟨d, _, rfl, hd⟩
    · exact ⟨'0', _, rfl, rfl⟩

theorem NumberLayout.not_opens_print (f : Float) : ¬ Opens (literal.print f) := by
  unfold print
  cases Binary64.ofFloat f with
  | nan => exact (by decide : ¬ Opens literal.nan)
  | infinite negative =>
    cases negative with
    | true => exact (by decide : ¬ Opens literal.negativeInfinity)
    | false => exact (by decide : ¬ Opens literal.infinity)
  | finite negative significand exponent =>
    cases negative with
    | true => exact not_opens_of_head String.toList_ofList (by decide)
    | false =>
      obtain ⟨c, rest, hprinted, hc⟩ : ∃ c rest, (if significand = 0 then
          '0' :: literal.wholeTail.toList
          else literal.printDecimal
            (Decimal.shortest literal.tie literal.choice significand exponent)) = c :: rest ∧
          c.isDigit = true := by
        split
        · exact ⟨'0', _, rfl, rfl⟩
        · exact head_printPositional literal Nat.toDigits_ne_nil
            Json.NumberText.isDigit_of_mem_toDigits _
      refine not_opens_of_head (String.toList_ofList.trans hprinted) ?_
      exact ne_parenthesis_of_isDigit hc

/-! ## Literals -/

/-- Nothing that the engine claims begins with a parenthesis. -/
def EngineLiterals.NeverOpens (engine : EngineLiterals) : Prop :=
  ∀ value text, engine value = some text → ¬ Opens text

theorem Engine.literals_neverOpens (engine : Engine) : engine.literals.NeverOpens := by
  intro value text htext
  cases engine with
  | recording => cases htext
  | running =>
    cases value with
    | bytes octets =>
      obtain rfl := Option.some.inj htext
      rw [String.append_assoc]
      exact not_opens_append (c := 'n') rfl (by decide) _
    | _ => cases htext

namespace Value

theorem not_opens_leafLiteral (value : Value) : ¬ Opens value.leafLiteral := by
  cases value with
  | null => exact (by decide : ¬ Opens "null")
  | bool b =>
    cases b with
    | true => exact (by decide : ¬ Opens "true")
    | false => exact (by decide : ¬ Opens "false")
  | int n => exact not_opens_toString n.toInt
  | float f => exact NumberLayout.not_opens_print f
  | string s => exact not_opens_quote s
  | date t => exact not_opens_quote _
  | bytes octets => exact not_opens_quote _
  | described text => exact not_opens_quote text
  | _ => exact (by decide : ¬ Opens "undefined")

/-- What the engine claims, and what is written otherwise. -/
private theorem not_opens_claimed (claimed : Option String) (otherwise : StateM Unit String) :
    (∀ text, claimed = some text → ¬ Opens text) → ¬ Opens (otherwise ()).1 →
      ¬ Opens ((match claimed with
        | some text => pure text
        | none => otherwise : StateM Unit String).run ()).1 := by
  intro hclaimed hotherwise
  cases claimed with
  | some text => exact hclaimed text rfl
  | none => exact hotherwise

private theorem not_opens_plain (claimed : Option String) (text : String) :
    (∀ text, claimed = some text → ¬ Opens text) → ¬ Opens text →
      ¬ Opens ((match claimed with
        | some text => pure text
        | none => pure text : StateM Unit String).run ()).1 :=
  not_opens_claimed claimed (pure text)

/-- **No literal begins with a parenthesis.** -/
theorem not_opens_literalFor {engine : EngineLiterals} (h : engine.NeverOpens) :
    ∀ value : Value, ¬ Opens (value.literalFor engine)
  | .array items => by
    simp only [literalFor, literalWith]
    refine not_opens_claimed _ _ (h _) ?_
    change ¬ Opens ("[" ++ _ ++ "]")
    rw [String.append_assoc]
    exact not_opens_append (c := '[') rfl (by decide) _
  | .object fields => by
    simp only [literalFor, literalWith]
    refine not_opens_claimed _ _ (h _) ?_
    change ¬ Opens ("\x7b" ++ _ ++ "\x7d")
    rw [String.append_assoc]
    exact not_opens_append (c := '\x7b') rfl (by decide) _
  | .native ref => by
    simp only [literalFor, literalWith]
    exact not_opens_claimed _ _ (h _) (not_opens_quote _)
  | .undefined | .null | .bool _ | .int _ | .float _ | .string _ | .date _ | .bytes _
  | .callback _ | .described _ => by
    simp only [literalFor, literalWith]
    exact not_opens_plain _ _ (h _) (not_opens_leafLiteral _)

end Value

/-! ## Completions -/

namespace ChannelId

/-- The completion of a function with a failure. -/
def failing (function : Nat) (text : String) : String :=
  completion function ("new Error(" ++ quote text ++ ")") "undefined"

theorem completion_null_inj {function : Nat} {a b : String} :
    completion function "null" a = completion function "null" b ↔ a = b := by
  rw [completion, completion, String.append_left_inj, String.append_right_inj]

theorem failing_injective (function : Nat) : Function.Injective (failing function) := by
  intro a b h
  unfold failing completion at h
  simp only [String.append_left_inj, String.append_right_inj] at h
  exact quote_injective h

/-- What is completed with a result is not completed with a failure. -/
theorem completion_null_ne_failing (function : Nat) (result text : String) :
    completion function "null" result ≠ failing function text := by
  intro h
  simp only [failing, completion, String.append_assoc, String.append_right_inj] at h
  -- the words `null` and `new` differ in their second letters
  have hletters := congrArg (fun s ↦ s.toList[1]?) h
  simp only [String.toList_append] at hletters
  exact absurd hletters (by simp)

theorem throwing_injective : Function.Injective throwing := by
  intro a b h
  unfold throwing at h
  simp only [String.append_left_inj, String.append_right_inj] at h
  exact quote_injective h

end ChannelId

end ScriptBridge
