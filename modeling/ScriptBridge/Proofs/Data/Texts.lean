import ScriptBridge.Proofs.Data.Written

/-!
# Data texts at large

What a text of data may look like, whoever has written it: blanks around everything, characters as
they are or escaped, numbers with fractions and exponents.
-/

namespace ScriptBridge

namespace Quoted

/-! ## Between quotation marks -/

/-- What may stand between quotation marks. Escapes are well formed, but what they stand for need
not be text. -/
inductive IsBody : List Char → Prop where
  | nil : IsBody []
  | plain {c : Char} {body : List Char} (hmark : c ≠ '"') (hslash : c ≠ '\\') (hc : 32 ≤ c.toNat)
    (h : IsBody body) : IsBody (c :: body)
  | short {c e : Char} {body : List Char} (he : shortEscape? c = some e) (h : IsBody body) :
    IsBody ('\\' :: c :: body)
  | code {a b c d : Char} {n : Nat} {body : List Char} (hn : hex4? a b c d = some n)
    (h : IsBody body) : IsBody ('\\' :: 'u' :: a :: b :: c :: d :: body)

/-- The text is spelled so between quotation marks. -/
inductive Spells : List Char → List Char → Prop where
  | nil : Spells [] []
  | plain {c : Char} {body text : List Char} (hmark : c ≠ '"') (hslash : c ≠ '\\')
    (hc : 32 ≤ c.toNat) (h : Spells body text) : Spells (c :: body) (c :: text)
  | short {c e : Char} {body text : List Char} (he : shortEscape? c = some e)
    (h : Spells body text) : Spells ('\\' :: c :: body) (e :: text)
  | code {a b c d : Char} {n : Nat} {body text : List Char} (hn : hex4? a b c d = some n)
    (hlow : isLowSurrogate n = false) (hhigh : isHighSurrogate n = false)
    (h : Spells body text) : Spells ('\\' :: 'u' :: a :: b :: c :: d :: body) (.ofNat n :: text)
  | pair {a b c d e f g h : Char} {n m : Nat} {body text : List Char} (hn : hex4? a b c d = some n)
    (hhigh : isHighSurrogate n = true) (hm : hex4? e f g h = some m)
    (hlow : isLowSurrogate m = true) (hbody : Spells body text) :
    Spells ('\\' :: 'u' :: a :: b :: c :: d :: '\\' :: 'u' :: e :: f :: g :: h :: body)
      (pairChar n m :: text)

theorem Spells.isBody {body text : List Char} (h : Spells body text) : IsBody body := by
  induction h with
  | nil => exact .nil
  | plain hmark hslash hc _ ih => exact .plain hmark hslash hc ih
  | short he _ ih => exact .short he ih
  | code hn _ _ _ ih => exact .code hn ih
  | pair hn _ hm _ _ ih => exact .code hn (.code hm ih)

theorem not_low_of_high {n : Nat} (h : isHighSurrogate n = true) : isLowSurrogate n = false := by
  simp only [isHighSurrogate, Bool.and_eq_true, decide_eq_true_eq] at h
  simp only [isLowSurrogate, Bool.and_eq_false_iff, decide_eq_false_iff_not]
  omega

theorem ne_u_of_shortEscape? {c e : Char} (he : shortEscape? c = some e) : c ≠ 'u' := by
  rintro rfl
  cases he

/-- Every way to spell a text is read as that text. -/
theorem Spells.decode?_append {body text : List Char} (h : Spells body text) (rest : List Char) :
    decode? (body ++ '"' :: rest) = some (text, rest) := by
  induction h with
  | nil => simp [decode?]
  | plain hmark hslash hc _ ih => simp [decode?, hslash, Nat.not_lt.mpr hc, ih]
  | short he _ ih =>
    have hu := ne_u_of_shortEscape? he
    simp [decode?, hu, he, ih]
  | code hn hlow hhigh _ ih =>
    simp [decode?, hn, hlow, hhigh, ih]
  | pair hn hhigh hm hlow _ ih =>
    simp [decode?, hn, hhigh, not_low_of_high hhigh, hm, hlow, ih]

/-- What stands between quotation marks is passed over. -/
theorem IsBody.skip?_append {body : List Char} (h : IsBody body) (rest : List Char) :
    skip? (body ++ '"' :: rest) = some rest := by
  induction h with
  | nil => simp [skip?]
  | plain hmark hslash hc _ ih => simp [skip?, hslash, Nat.not_lt.mpr hc, ih]
  | short he _ ih =>
    have hu := ne_u_of_shortEscape? he
    simp [skip?, hu, he, ih]
  | code hn _ ih => simp [skip?, hn, ih]

theorem exists_of_bind_pure {f : List Char → List Char} {read? : Option (List Char × List Char)}
    {text after : List Char}
    (h : (do let (text, rest) ← read?; return (f text, rest)) = some (text, after)) :
    ∃ more, read? = some (more, after) ∧ text = f more := by
  cases read? with
  | none => cases h
  | some read =>
    cases h
    exact ⟨_, rfl, rfl⟩

/-- Nothing is read as text but what spells it. -/
theorem exists_spells_of_decode? {text read after : List Char}
    (h : decode? text = some (read, after)) :
    ∃ body, text = body ++ '"' :: after ∧ Spells body read := by
  induction text using decode?.induct generalizing read with
  | case1 => cases h
  | case2 rest =>
    cases h
    exact ⟨[], rfl, .nil⟩
  | case3 a b c d rest ihpair ih =>
    rw [decode?] at h
    obtain ⟨n, hn, h⟩ := Option.bind_eq_some_iff.mp h
    split at h
    · cases h
    next hlow =>
    split at h
    · next hhigh =>
      split at h
      · next e f g h' rest =>
        obtain ⟨m, hm, h⟩ := Option.bind_eq_some_iff.mp h
        split at h
        · next hlow' =>
          obtain ⟨more, hmore, rfl⟩ := exists_of_bind_pure h
          obtain ⟨body, rfl, hbody⟩ := ihpair hmore
          exact ⟨_, rfl, .pair hn hhigh hm hlow' hbody⟩
        · cases h
      · cases h
    · next hhigh =>
      obtain ⟨more, hmore, rfl⟩ := exists_of_bind_pure h
      obtain ⟨body, rfl, hbody⟩ := ih hmore
      exact ⟨_, rfl, .code hn (by simpa using hlow) (by simpa using hhigh) hbody⟩
  | case4 c rest hne ih =>
    rw [decode?.eq_4 _ _ hne] at h
    obtain ⟨e, he, h⟩ := Option.bind_eq_some_iff.mp h
    obtain ⟨more, hmore, rfl⟩ := exists_of_bind_pure h
    obtain ⟨body, rfl, hbody⟩ := ih hmore
    exact ⟨_, rfl, .short he hbody⟩
  | case5 c rest hmark hcode hshort hbad =>
    rw [decode?.eq_5 _ _ hmark hcode hshort, if_pos hbad] at h
    cases h
  | case6 c rest hmark hcode hshort hgood ih =>
    rw [decode?.eq_5 _ _ hmark hcode hshort, if_neg hgood] at h
    obtain ⟨more, hmore, rfl⟩ := exists_of_bind_pure h
    obtain ⟨body, rfl, hbody⟩ := ih hmore
    obtain ⟨hslash, hc⟩ := not_or.mp hgood
    exact ⟨_, rfl, .plain hmark hslash (Nat.le_of_not_lt hc) hbody⟩

/-- Whatever is read between quotation marks, it is all that stands there. -/
theorem IsBody.of_decode? {body : List Char} (h : IsBody body) {rest text after : List Char}
    (hread : decode? (body ++ '"' :: rest) = some (text, after)) :
    after = rest ∧ Spells body text := by
  obtain ⟨body', heq, hspells⟩ := exists_spells_of_decode? hread
  have hpassed := h.skip?_append rest
  rw [heq, hspells.isBody.skip?_append after] at hpassed
  obtain rfl := Option.some.inj hpassed
  exact ⟨rfl, List.append_cancel_right heq ▸ hspells⟩

/-- What stands between quotation marks is read as the same text, if as any, whatever follows. -/
theorem IsBody.decode?_append {body : List Char} (h : IsBody body) :
    ∃ read? : Option (List Char), ∀ rest,
      decode? (body ++ '"' :: rest) = read?.map fun text ↦ (text, rest) := by
  by_cases hspells : ∃ text, Spells body text
  · obtain ⟨text, hspells⟩ := hspells
    exact ⟨some text, hspells.decode?_append⟩
  · refine ⟨none, fun rest ↦ Option.eq_none_iff_forall_ne_some.mpr fun read hread ↦ ?_⟩
    exact hspells ⟨read.1, (h.of_decode? hread).2⟩

theorem Spells.of_decode? {body text : List Char}
    (h : decode? (body ++ ['"']) = some (text, [])) : Spells body text := by
  obtain ⟨body', hbody, hspells⟩ := exists_spells_of_decode? h
  exact List.append_cancel_right hbody ▸ hspells

/-- Text is spelled as it is written. -/
theorem spells_encode (text : List Char) : Spells (encode text) text :=
  .of_decode? (decode?_encode_append text [])

end Quoted

namespace Json

namespace NumberText

/-! ## Numerals -/

/-- Digits, of which there is one. -/
def AreDigits (ds : List Char) : Prop := ds ≠ [] ∧ ∀ c ∈ ds, c.isDigit = true

/-- Digits without a zero in front, unless it is the only one. -/
inductive IsWhole : List Char → Prop where
  | zero : IsWhole ['0']
  | positive {c : Char} {ds : List Char} (hc : c.isDigit = true) (hzero : c ≠ '0')
    (hds : ∀ d ∈ ds, d.isDigit = true) : IsWhole (c :: ds)

inductive IsFraction : List Char → Prop where
  | absent : IsFraction []
  | present {ds : List Char} (h : AreDigits ds) : IsFraction ('.' :: ds)

inductive IsExponent : List Char → Prop where
  | absent : IsExponent []
  | present {e : Char} {sign ds : List Char} (he : e = 'e' ∨ e = 'E')
    (hsign : sign = [] ∨ sign = ['+'] ∨ sign = ['-']) (h : AreDigits ds) :
    IsExponent (e :: (sign ++ ds))

/-- What a number looks like. -/
inductive IsNumeral : List Char → Prop where
  | mk {minus whole fraction exponent : List Char} (hminus : minus = [] ∨ minus = ['-'])
    (hwhole : IsWhole whole) (hfraction : IsFraction fraction) (hexponent : IsExponent exponent) :
    IsNumeral (minus ++ (whole ++ (fraction ++ exponent)))

/-- What follows does not go on with digits. -/
def NoDigit (rest : List Char) : Prop := ∀ c ∈ rest.head?, digit? c = none

theorem Ends.noDigit {rest : List Char} (h : Ends rest) : NoDigit rest := fun c hc ↦ (h c hc).1

variable {rest : List Char}

theorem someDigits?_append {ds : List Char} (h : AreDigits ds) (hrest : NoDigit rest) :
    someDigits? (ds ++ rest) = some (ds.map digitValue, rest) := by
  obtain ⟨hne, hds⟩ := h
  obtain ⟨d, ds, rfl⟩ := List.exists_cons_of_ne_nil hne
  rw [someDigits?, digits_append hds hrest]
  rfl

theorem ne_sign_of_isDigit {c : Char} (hc : c.isDigit = true) : c ≠ '-' ∧ c ≠ '+' := by
  constructor <;>
  · rintro rfl
    exact absurd hc (by decide)

theorem digitValue_ne_zero {c : Char} (hc : c.isDigit = true) (hzero : c ≠ '0') :
    digitValue c ≠ 0 := by
  rw [Char.isDigit, Bool.and_eq_true, decide_eq_true_eq, decide_eq_true_eq] at hc
  have hleast : '0'.toNat ≤ c.toNat := hc.1
  rw [digitValue]
  exact fun hvalue ↦ hzero (Char.toNat_inj.mp (by omega))

theorem IsWhole.head {whole : List Char} (h : IsWhole whole) :
    ∃ c ds, whole = c :: ds ∧ c.isDigit = true := by
  cases h with
  | zero => exact ⟨_, _, rfl, rfl⟩
  | positive hc _ _ => exact ⟨_, _, rfl, hc⟩

theorem scanWhole?_append {whole : List Char} (h : IsWhole whole) (hrest : NoDigit rest) :
    scanWhole? (whole ++ rest) = some (whole.map digitValue, rest) := by
  cases h with
  | zero =>
    rw [scanWhole?,
      someDigits?_append ⟨List.cons_ne_nil _ _, List.forall_mem_singleton.mpr rfl⟩ hrest]
    rfl
  | @positive c ds hc hzero hds =>
    have hdigits : AreDigits (c :: ds) :=
      ⟨List.cons_ne_nil _ _, List.forall_mem_cons.mpr ⟨hc, hds⟩⟩
    rw [scanWhole?, someDigits?_append hdigits hrest, List.map_cons]
    split
    · next heq =>
      obtain ⟨hvalue, -⟩ := List.cons.inj (Prod.mk.inj (Option.some.inj heq)).1
      exact absurd hvalue (digitValue_ne_zero hc hzero)
    · rfl

theorem scanFraction?_append {fraction : List Char} (h : IsFraction fraction) :
    ∃ read, ∀ {rest : List Char}, NoDigit rest → rest.head? ≠ some '.' →
      scanFraction? (fraction ++ rest) = some (read, rest) := by
  cases h with
  | absent =>
    refine ⟨none, fun {rest} _ hpoint ↦ ?_⟩
    rw [List.nil_append]
    unfold scanFraction?
    split
    · exact absurd rfl hpoint
    · rfl
  | @present ds h =>
    refine ⟨some (ds.map digitValue), fun {rest} hrest _ ↦ ?_⟩
    change (someDigits? (ds ++ rest)).map _ = _
    rw [someDigits?_append h hrest]
    rfl

theorem scanExponent?_append {exponent : List Char} (h : IsExponent exponent) :
    ∃ read, ∀ {rest : List Char}, Ends rest →
      scanExponent? (exponent ++ rest) = some (read, rest) := by
  cases h with
  | absent => exact ⟨none, fun hrest ↦ scanExponent?_of_ends hrest⟩
  | @present e sign ds he hsign h =>
    rcases hsign with rfl | rfl | rfl
    · obtain ⟨d, ds, rfl⟩ := List.exists_cons_of_ne_nil h.1
      obtain ⟨hminus, hplus⟩ := ne_sign_of_isDigit (h.2 d List.mem_cons_self)
      refine ⟨some (false, (d :: ds).map digitValue), fun {rest} hrest ↦ ?_⟩
      have hdigits := someDigits?_append h hrest.noDigit
      rw [List.cons_append] at hdigits
      simp [scanExponent?, he, hdigits, hminus, hplus]
    · refine ⟨some (false, ds.map digitValue), fun {rest} hrest ↦ ?_⟩
      simp [scanExponent?, he, someDigits?_append h hrest.noDigit]
    · refine ⟨some (true, ds.map digitValue), fun {rest} hrest ↦ ?_⟩
      simp [scanExponent?, he, someDigits?_append h hrest.noDigit]

theorem IsExponent.noDigit {exponent : List Char} (h : IsExponent exponent) (hrest : Ends rest) :
    NoDigit (exponent ++ rest) ∧ (exponent ++ rest).head? ≠ some '.' := by
  cases h with
  | absent => exact ⟨hrest.noDigit, fun hpoint ↦ (hrest '.' hpoint).2.1 rfl⟩
  | present he hsign h =>
    constructor
    · rintro c ⟨⟩
      rcases he with rfl | rfl <;> rfl
    · intro hpoint
      rcases he with rfl | rfl <;> cases hpoint

theorem IsFraction.noDigit {fraction : List Char} (h : IsFraction fraction)
    (hrest : NoDigit rest) : NoDigit (fraction ++ rest) := by
  cases h with
  | absent => exact hrest
  | present h =>
    rintro c ⟨⟩
    rfl

/-- A numeral is scanned to its end, if what follows does not go on with it, and always as the same
number. -/
theorem scan?_append {text : List Char} (h : IsNumeral text) :
    ∃ number, ∀ {rest : List Char}, Ends rest → scan? (text ++ rest) = some (number, rest) := by
  obtain ⟨hminus, hwhole, hfraction, hexponent⟩ := h
  next minus whole fraction exponent =>
  obtain ⟨e, he⟩ := scanExponent?_append hexponent
  obtain ⟨f, hf⟩ := scanFraction?_append hfraction
  refine ⟨⟨decide (minus = ['-']), whole.map digitValue, f, e⟩, fun {rest} hrest ↦ ?_⟩
  obtain ⟨hnoDigit, hnoPoint⟩ := hexponent.noDigit hrest
  have hw := scanWhole?_append hwhole (hfraction.noDigit hnoDigit)
  simp only [List.append_assoc]
  rcases hminus with rfl | rfl
  · obtain ⟨c, ds, rfl, hc⟩ := hwhole.head
    rw [List.nil_append]
    unfold scan?
    split
    next negative text hsign =>
    split at hsign
    · next heq => exact absurd (List.cons.inj heq).1 (ne_sign_of_isDigit hc).1
    · obtain ⟨rfl, rfl⟩ := Prod.mk.inj hsign
      simp only [hw, hf hnoDigit hnoPoint, he hrest, Option.bind_eq_bind, Option.bind_some,
        Option.pure_def]
      rfl
  · simp only [List.cons_append, List.nil_append, scan?, hw, hf hnoDigit hnoPoint, he hrest,
      Option.bind_eq_bind, Option.bind_some, Option.pure_def, decide_true]

theorem IsNumeral.head {text : List Char} (h : IsNumeral text) :
    ∃ c more, text = c :: more ∧ Reader.Numeric c := by
  obtain ⟨rfl | rfl, hwhole, _, _⟩ := h
  · obtain ⟨c, ds, rfl, hc⟩ := hwhole.head
    exact ⟨c, _, rfl, .inr hc⟩
  · exact ⟨'-', _, rfl, .inl rfl⟩

/-- A natural number as it is written. -/
theorem isNumeral_toDigits (n : Nat) : IsNumeral (Nat.toDigits 10 n) := by
  have hwhole : IsWhole (Nat.toDigits 10 n) := by
    rcases Nat.eq_zero_or_pos n with rfl | hn
    · exact .zero
    · obtain ⟨d, ds, hds, hd⟩ := head_toDigits_pos hn
      have hdigits := isDigit_of_mem_toDigits (n := n)
      rw [hds] at hdigits ⊢
      obtain ⟨hdigit, hdigits⟩ := List.forall_mem_cons.mp hdigits
      exact .positive hdigit (fun hzero ↦ hd (hzero ▸ rfl)) hdigits
  have hnumeral := IsNumeral.mk (.inl rfl) hwhole .absent .absent
  rwa [List.nil_append, List.append_nil, List.append_nil] at hnumeral

end NumberText

/-! ## Values -/

open NumberText (Ends IsNumeral)
open Reader (isBlank dropBlanks)

/-- What a stretch of text is. -/
inductive Part where
  | value
  /-- Items, of which there is one, and the closing bracket. -/
  | items
  /-- Members, of which there is one, and the closing brace. -/
  | members

/-- The text begins so, with what follows behind it. A number is a whole one: what follows does not
go on with it. -/
inductive Begins : Part → List Char → List Char → Prop where
  | null {rest : List Char} : Begins .value ('n' :: 'u' :: 'l' :: 'l' :: rest) rest
  | true {rest : List Char} : Begins .value ('t' :: 'r' :: 'u' :: 'e' :: rest) rest
  | false {rest : List Char} : Begins .value ('f' :: 'a' :: 'l' :: 's' :: 'e' :: rest) rest
  | number {text rest : List Char} (h : IsNumeral text) (hrest : Ends rest) :
    Begins .value (text ++ rest) rest
  | string {body rest : List Char} (h : Quoted.IsBody body) :
    Begins .value ('"' :: (body ++ '"' :: rest)) rest
  | noItems {text rest : List Char} (h : dropBlanks text = ']' :: rest) :
    Begins .value ('[' :: text) rest
  | array {text rest : List Char} (h : Begins .items text rest) : Begins .value ('[' :: text) rest
  | noMembers {text rest : List Char} (h : dropBlanks text = '\x7d' :: rest) :
    Begins .value ('\x7b' :: text) rest
  | object {text rest : List Char} (h : Begins .members text rest) :
    Begins .value ('\x7b' :: text) rest
  | lastItem {text after rest : List Char} (h : Begins .value text after)
    (hclose : dropBlanks after = ']' :: rest) : Begins .items text rest
  | item {text after more rest : List Char} (h : Begins .value text after)
    (hnext : dropBlanks after = ',' :: more) (hmore : Begins .items more rest) :
    Begins .items text rest
  | lastMember {key between text after rest : List Char} (hkey : Quoted.IsBody key)
    (hcolon : dropBlanks between = ':' :: text) (h : Begins .value text after)
    (hclose : dropBlanks after = '\x7d' :: rest) :
    Begins .members ('"' :: (key ++ '"' :: between)) rest
  | member {key between text after more rest : List Char} (hkey : Quoted.IsBody key)
    (hcolon : dropBlanks between = ':' :: text) (h : Begins .value text after)
    (hnext : dropBlanks after = ',' :: more) (hmore : Begins .members more rest) :
    Begins .members ('"' :: (key ++ '"' :: between)) rest
  | blank {part : Part} {c : Char} {text rest : List Char} (hc : isBlank c = .true)
    (h : Begins part text rest) : Begins part (c :: text) rest

/-- The text is one value. -/
def IsText (text : List Char) : Prop := Begins .value text []

/-- No value, and nothing that there is inside of one, begins with a closing mark. -/
theorem Begins.head {part : Part} {text rest : List Char} (h : Begins part text rest) :
    ∃ c more, dropBlanks text = c :: more ∧ c ≠ ']' ∧ c ≠ '\x7d' := by
  induction h with
  | null | true | false | noItems | noMembers | string | array | object | lastMember | member =>
    exact ⟨_, _, rfl, by decide, by decide⟩
  | number h _ =>
    obtain ⟨c, more, rfl, hc⟩ := h.head
    rw [List.cons_append, Reader.dropBlanks_numeric hc]
    refine ⟨c, _, rfl, ?_, ?_⟩
    all_goals
      rintro rfl
      exact absurd hc (by unfold Reader.Numeric; decide)
  | lastItem _ _ ih | item _ _ _ ih _ => exact ih
  | blank hc _ ih =>
    rw [Reader.dropBlanks_blank hc]
    exact ih

/-- Blanks before it may be left out. -/
theorem Begins.unblanked {part : Part} {text rest : List Char} (h : Begins part text rest) :
    Begins part (dropBlanks text) rest := by
  induction h with
  | null => exact .null
  | true => exact .true
  | false => exact .false
  | number h hrest =>
    obtain ⟨c, more, rfl, hc⟩ := h.head
    rw [List.cons_append, Reader.dropBlanks_numeric hc]
    exact .number h hrest
  | string h => exact .string h
  | noItems h => exact .noItems h
  | array h _ => exact .array h
  | noMembers h => exact .noMembers h
  | object h _ => exact .object h
  | lastItem _ hclose ih => exact .lastItem ih hclose
  | item _ hnext hmore ih _ => exact .item ih hnext hmore
  | lastMember hkey hcolon h hclose _ => exact .lastMember hkey hcolon h hclose
  | member hkey hcolon h hnext hmore _ _ => exact .member hkey hcolon h hnext hmore
  | blank hc _ ih =>
    rw [Reader.dropBlanks_blank hc]
    exact ih

theorem Ends.append {rest more : List Char} (h : Ends rest) (hmore : rest = [] → Ends more) :
    Ends (rest ++ more) := by
  cases rest with
  | nil => exact hmore rfl
  | cons c rest => exact h

theorem ne_nil_of_dropBlanks {c : Char} {text rest : List Char}
    (h : dropBlanks text = c :: rest) : text ≠ [] := by
  rintro rfl
  cases h

/-- More may follow, unless it goes on with a number. -/
theorem Begins.append {part : Part} {text rest : List Char} (h : Begins part text rest)
    {more : List Char} (hmore : rest = [] → Ends more) :
    Begins part (text ++ more) (rest ++ more) := by
  induction h with
  | null => exact .null
  | true => exact .true
  | false => exact .false
  | number h hrest =>
    rw [List.append_assoc]
    exact .number h (Ends.append hrest hmore)
  | string h =>
    rw [List.cons_append, List.append_assoc, List.cons_append]
    exact .string h
  | noItems h => exact .noItems (Reader.dropBlanks_append h more)
  | array _ ih => exact .array (ih hmore)
  | noMembers h => exact .noMembers (Reader.dropBlanks_append h more)
  | object _ ih => exact .object (ih hmore)
  | lastItem _ hclose ih =>
    exact .lastItem (ih fun hnil ↦ absurd hnil (ne_nil_of_dropBlanks hclose))
      (Reader.dropBlanks_append hclose more)
  | item _ hnext _ ih ihmore =>
    exact .item (ih fun hnil ↦ absurd hnil (ne_nil_of_dropBlanks hnext))
      (Reader.dropBlanks_append hnext more) (ihmore hmore)
  | lastMember hkey hcolon _ hclose ih =>
    rw [List.cons_append, List.append_assoc, List.cons_append]
    exact .lastMember hkey (Reader.dropBlanks_append hcolon more)
      (ih fun hnil ↦ absurd hnil (ne_nil_of_dropBlanks hclose))
      (Reader.dropBlanks_append hclose more)
  | member hkey hcolon _ hnext _ ih ihmore =>
    rw [List.cons_append, List.append_assoc, List.cons_append]
    exact .member hkey (Reader.dropBlanks_append hcolon more)
      (ih fun hnil ↦ absurd hnil (ne_nil_of_dropBlanks hnext))
      (Reader.dropBlanks_append hnext more) (ihmore hmore)
  | blank hc _ ih => exact .blank hc (ih hmore)

end Json

end ScriptBridge
