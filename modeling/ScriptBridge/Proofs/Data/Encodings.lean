import Mathlib.Algebra.Group.Nat.Defs
import ScriptBridge.Script.Text
import ScriptBridge.Text.Utf8

/-!
# Texts in octets and in units

## Octets

Tables are kept in the order of their keys, and texts are compared character by character. That is
the order of their octets as well: of two characters, the lesser one has the lesser octets, and it
is seen before either of them ends (`encodeChar_append_lt`), so that it does not matter that
characters differ in how many octets they have.

No replacement character is put into a text that is read back from its own octets
(`decodeLossy_encode`). The first octet of a character says how many are missing, and it leaves a
range for the next one; the octets behind it have six bits each (`scan_tailOctets`).
-/

namespace ScriptBridge

namespace Utf8

/-- Of two characters the lesser one has the lesser octets, whatever follows. -/
theorem encodeChar_append_lt {c d : Char} (h : c < d) (x y : List UInt8) :
    String.utf8EncodeChar c ++ x < String.utf8EncodeChar d ++ y := by
  have hlt : c.val.toNat < d.val.toNat := h
  have hd : d.val.toNat < 0x110000 := by
    have hvalid : d.val.toNat < 0xD800 ∨ 0xDFFF < d.val.toNat ∧ d.val.toNat < 0x110000 := d.valid
    omega
  unfold String.utf8EncodeChar
  generalize c.val.toNat = m at hlt
  generalize d.val.toNat = n at hlt hd
  dsimp only
  have hbits : ∀ k, (k % 64 + 128) % 256 = k % 64 + 128 := fun k ↦ by omega
  have hfirst : ∀ k, (k % 8 + 240) % 256 = k % 8 + 240 := fun k ↦ by omega
  have hsecond : ∀ k, k / 4096 = k / 64 / 64 := fun k ↦ by omega
  have hthird : ∀ k, k / 262144 = k / 64 / 64 / 64 := fun k ↦ by omega
  -- the number of octets grows with the character, and with that number the first octet
  repeat' split
  all_goals
    simp only [List.cons_append, List.cons_lt_cons_iff, UInt8.lt_iff_toNat_lt, ← UInt8.toNat_inj,
      UInt8.toNat_ofNat', Nat.reducePow, hbits, hfirst, hsecond, hthird]
    omega

/-- **The order of texts is that of their octets.** -/
theorem encode_lt_encode {a b : String} (h : a < b) : encode a < encode b := by
  have hchars : a.toList < b.toList := h
  rw [encode, encode]
  generalize a.toList = s at hchars
  generalize b.toList = t at hchars
  induction hchars with
  | nil =>
    next d t =>
    obtain ⟨octet, octets, hoctets⟩ :=
      List.exists_cons_of_ne_nil (String.utf8EncodeChar_ne_nil (c := d))
    rw [List.flatMap_cons, hoctets]
    exact .nil
  | rel hlt =>
    rw [List.flatMap_cons, List.flatMap_cons]
    exact encodeChar_append_lt hlt _ _
  | cons _ ih =>
    rw [List.flatMap_cons, List.flatMap_cons]
    exact List.append_left_lt ih

/-! ### Texts are read back -/

theorem toNat_octet {k : Nat} (h : k < 256) : (UInt8.ofNat k).toNat = k :=
  UInt8.toNat_ofNat_of_lt h

/-- The last octets of a character, six bits of its number in each. -/
def tailOctets : Nat → Nat → List UInt8
  | 0, _ => []
  | missing + 1, n => .ofNat (n / 64 ^ missing % 64 + 0x80) :: tailOctets missing n

/-- A character that is under way is read to its end. -/
theorem scan_tailOctets (missing n : Nat) {least greatest : Nat}
    (hleast : least ≤ n / 64 ^ missing % 64 + 0x80)
    (hgreatest : n / 64 ^ missing % 64 + 0x80 ≤ greatest) (rest : List UInt8) :
    scan (some ⟨missing + 1, n / 64 ^ (missing + 1), least, greatest⟩)
        (tailOctets (missing + 1) n ++ rest) = some (Char.ofNat n) :: scan none rest := by
  induction missing generalizing least greatest with
  | zero =>
    have hoctet : (UInt8.ofNat (n / 64 ^ 0 % 64 + 0x80)).toNat = n / 64 ^ 0 % 64 + 0x80 :=
      toNat_octet (by omega)
    have hbits : n / 64 * 64 + n % 64 = n := by omega
    simp only [tailOctets, List.cons_append, List.nil_append, scan, Pending.extend, hoctet]
    rw [if_neg (by omega)]
    simp [hbits]
  | succ missing ih =>
    have hoctet : (UInt8.ofNat (n / 64 ^ (missing + 1) % 64 + 0x80)).toNat =
        n / 64 ^ (missing + 1) % 64 + 0x80 :=
      toNat_octet (by omega)
    have hbits : n / 64 ^ (missing + 2) * 64 + n / 64 ^ (missing + 1) % 64 =
        n / 64 ^ (missing + 1) := by
      rw [Nat.pow_succ 64 (missing + 1), ← Nat.div_div_eq_div_mul]
      omega
    rw [tailOctets, List.cons_append, scan, Pending.extend]
    simp only [hoctet, Nat.add_sub_cancel, hbits]
    rw [if_neg (by omega), if_neg (by omega)]
    exact ih (by omega) (by omega)

theorem begin_two (n : Nat) (hleast : 0x80 ≤ n) (hgreatest : n < 0x800) :
    begin (.ofNat (n / 64 + 0xC0)) = .part ⟨1, n / 64, 0x80, 0xBF⟩ := by
  have hoctet : (UInt8.ofNat (n / 64 + 0xC0)).toNat = n / 64 + 0xC0 :=
    toNat_octet (by omega)
  simp only [begin, hoctet, Nat.add_sub_cancel]
  rw [if_neg (by omega), if_neg (by omega), if_pos (by omega)]

/-- The first octet of three leaves a range for the second one in which it is, since the character
is no surrogate and could not be said in two octets. -/
theorem begin_three (n : Nat) (hleast : 0x800 ≤ n) (hgreatest : n < 0x10000)
    (hvalid : n < 0xD800 ∨ 0xDFFF < n) :
    ∃ least greatest, begin (.ofNat (n / 4096 + 0xE0)) = .part ⟨2, n / 4096, least, greatest⟩ ∧
      least ≤ n / 64 % 64 + 0x80 ∧ n / 64 % 64 + 0x80 ≤ greatest := by
  have hoctet : (UInt8.ofNat (n / 4096 + 0xE0)).toNat = n / 4096 + 0xE0 :=
    toNat_octet (by omega)
  have hlead : ¬ n / 4096 + 0xE0 < 0xE0 := by omega
  simp only [begin, hoctet, Nat.add_sub_cancel]
  rw [if_neg (by omega), if_neg (by omega), if_neg hlead]
  split
  · next hlow => exact ⟨_, _, by rw [show n / 4096 = 0 by omega], by omega, by omega⟩
  split
  · next hhigh => exact ⟨_, _, by rw [show n / 4096 = 0xD by omega], by omega, by omega⟩
  · rw [if_pos (by omega)]
    exact ⟨_, _, rfl, by omega, by omega⟩

/-- The same for four octets, since the character could not be said in three and is none beyond the
last one. -/
theorem begin_four (n : Nat) (hleast : 0x10000 ≤ n) (hgreatest : n < 0x110000) :
    ∃ least greatest, begin (.ofNat (n / 262144 + 0xF0)) = .part ⟨3, n / 262144, least, greatest⟩ ∧
      least ≤ n / 4096 % 64 + 0x80 ∧ n / 4096 % 64 + 0x80 ≤ greatest := by
  have hoctet : (UInt8.ofNat (n / 262144 + 0xF0)).toNat = n / 262144 + 0xF0 :=
    toNat_octet (by omega)
  have hlead : ¬ n / 262144 + 0xF0 < 0xF0 := by omega
  simp only [begin, hoctet, Nat.add_sub_cancel]
  rw [if_neg (by omega), if_neg (by omega), if_neg (by omega), if_neg (by omega),
    if_neg (by omega), if_neg hlead]
  split
  · next hlow => exact ⟨_, _, by rw [show n / 262144 = 0 by omega], by omega, by omega⟩
  split
  · exact ⟨_, _, rfl, by omega, by omega⟩
  · rw [if_pos (by omega)]
    exact ⟨_, _, by rw [show n / 262144 = 4 by omega], by omega, by omega⟩

/-- A character is read back from its octets, whatever follows. -/
theorem scan_encodeChar_append (c : Char) (rest : List UInt8) :
    scan none (String.utf8EncodeChar c ++ rest) = some c :: scan none rest := by
  have hvalid : c.val.toNat < 0xD800 ∨ 0xDFFF < c.val.toNat ∧ c.val.toNat < 0x110000 := c.valid
  have hchar : Char.ofNat c.val.toNat = c := Char.ofNat_toNat c
  unfold String.utf8EncodeChar
  generalize c.val.toNat = n at hvalid hchar
  dsimp only
  split
  · next hn =>
    have hoctet : (UInt8.ofNat n).toNat = n :=
      toNat_octet (by omega)
    have hbegin : begin (.ofNat n) = .whole c := by
      rw [begin, hoctet, if_pos (by omega), hchar]
    rw [List.singleton_append, scan, hbegin]
  split
  · have hlead : n / 64 % 32 + 192 = n / 64 + 0xC0 := by omega
    have htail := scan_tailOctets 0 n (show 0x80 ≤ _ by omega) (show _ ≤ 0xBF by omega) rest
    rw [hlead, List.cons_append, scan, begin_two n (by omega) (by omega), ← hchar]
    simpa only [tailOctets, Nat.reduceAdd, Nat.reducePow, Nat.div_one] using htail
  split
  · have hlead : n / 4096 % 16 + 224 = n / 4096 + 0xE0 := by omega
    obtain ⟨least, greatest, hbegin, hleast, hgreatest⟩ :=
      begin_three n (by omega) (by omega) (by omega)
    have htail := scan_tailOctets 1 n hleast hgreatest rest
    rw [hlead, List.cons_append, scan, hbegin, ← hchar]
    simpa only [tailOctets, Nat.reduceAdd, Nat.reducePow, Nat.div_one] using htail
  · have hlead : n / 262144 % 8 + 240 = n / 262144 + 0xF0 := by omega
    obtain ⟨least, greatest, hbegin, hleast, hgreatest⟩ := begin_four n (by omega) (by omega)
    have htail := scan_tailOctets 2 n hleast hgreatest rest
    rw [hlead, List.cons_append, scan, hbegin, ← hchar]
    simpa only [tailOctets, Nat.reduceAdd, Nat.reducePow, Nat.div_one] using htail

/-- **A text is read back from its octets.** -/
theorem decodeLossy_encode (text : String) : decodeLossy (encode text) = text := by
  have hscan : ∀ chars : List Char,
      scan none (chars.flatMap String.utf8EncodeChar) = chars.map some := by
    intro chars
    induction chars with
    | nil => rfl
    | cons c chars ih => rw [List.flatMap_cons, scan_encodeChar_append, ih, List.map_cons]
  rw [decodeLossy, encode, hscan, List.map_map]
  exact (congrArg String.ofList (List.map_id _)).trans String.ofList_toList

end Utf8

/-!
## Units

Scripts see texts as 16-bit units. The units of characters are those of no other characters, so
that a script that cuts a text between two characters gets texts that are whole again. A unit below
the surrogates is looked for without regard to what is around it.
-/

namespace Script.Text

/-- The character is read back that its units were made of. -/
theorem characters?_unitsOf_append (c : Char) (rest : List Nat) :
    characters? (unitsOf c ++ rest) = (characters? rest).map (c :: ·) := by
  have hvalid : c.toNat < 0xD800 ∨ 0xDFFF < c.toNat ∧ c.toNat < 0x110000 := c.valid
  have hchar : Char.ofNat c.toNat = c := Char.ofNat_toNat c
  unfold unitsOf
  dsimp only
  split
  · have hhigh : Quoted.isHighSurrogate c.toNat = false := by
      simp only [Quoted.isHighSurrogate, Bool.and_eq_false_iff, decide_eq_false_iff_not]
      omega
    have hlow : Quoted.isLowSurrogate c.toNat = false := by
      simp only [Quoted.isLowSurrogate, Bool.and_eq_false_iff, decide_eq_false_iff_not]
      omega
    cases rest <;> simp [characters?, hhigh, hlow, hchar]
  · have hhigh : Quoted.isHighSurrogate (0xD800 + (c.toNat - 0x10000) / 0x400) = true := by
      simp only [Quoted.isHighSurrogate, Bool.and_eq_true, decide_eq_true_eq]
      omega
    have hlow : Quoted.isLowSurrogate (0xDC00 + (c.toNat - 0x10000) % 0x400) = true := by
      simp only [Quoted.isLowSurrogate, Bool.and_eq_true, decide_eq_true_eq]
      omega
    have hpair : Quoted.pairChar (0xD800 + (c.toNat - 0x10000) / 0x400)
        (0xDC00 + (c.toNat - 0x10000) % 0x400) = c := by
      have hnumber : (0xD800 + (c.toNat - 0x10000) / 0x400 - 0xD800) * 0x400 +
          (0xDC00 + (c.toNat - 0x10000) % 0x400 - 0xDC00) + 0x10000 = c.toNat := by omega
      rw [Quoted.pairChar, hnumber, hchar]
    simp [characters?, hhigh, hlow, hpair]

/-- **A text is read back from its units.** -/
theorem ofUnits_units (s : String) : ofUnits (whole s).units = whole s := by
  have hread : ∀ chars : List Char, characters? (chars.flatMap unitsOf) = some chars := by
    intro chars
    induction chars with
    | nil => rfl
    | cons c chars ih => rw [List.flatMap_cons, characters?_unitsOf_append, ih, Option.map_some]
  rw [ofUnits, units, hread]
  exact congrArg whole String.ofList_toList

/-- The units of two texts, one after the other. -/
theorem units_append (s t : String) :
    (whole (s ++ t)).units = (whole s).units ++ (whole t).units := by
  simp [units, String.toList_append, List.flatMap_append]

/-- A unit that stands for itself is no part of another character. -/
theorem not_mem_units {c : Char} (hc : c.toNat < 0xD800) {s : String} (h : c ∉ s.toList) :
    c.toNat ∉ (whole s).units := by
  rw [units, List.mem_flatMap]
  rintro ⟨d, hd, hmem⟩
  unfold unitsOf at hmem
  dsimp only at hmem
  split at hmem
  · have hsame : c = d := by
      rw [List.mem_singleton] at hmem
      exact Char.toNat_inj.mp hmem
    exact h (hsame ▸ hd)
  · simp only [List.mem_cons, List.not_mem_nil, or_false] at hmem
    omega

/-- A unit is last found where no other one of its kind follows. -/
theorem lastPositionFrom?_append {unit : Nat} {after : List Nat} (hafter : unit ∉ after)
    (before : List Nat) (i : Nat) :
    lastPositionFrom? [unit] i (before ++ unit :: after) = some (i + before.length) := by
  have hnone : ∀ i, lastPositionFrom? [unit] i after = none := by
    induction after with
    | nil => exact fun _ ↦ rfl
    | cons other after ih =>
      have hne : other ≠ unit := fun heq ↦ hafter (heq ▸ List.mem_cons_self)
      intro i
      rw [lastPositionFrom?, ih fun hmem ↦ hafter (List.mem_cons_of_mem _ hmem)]
      simp [startsWith, hne]
  induction before generalizing i with
  | nil =>
    rw [List.nil_append, lastPositionFrom?, hnone]
    simp [startsWith]
  | cons other before ih =>
    rw [List.cons_append, lastPositionFrom?, ih, List.length_cons]
    exact congrArg some (by omega)

end Script.Text

end ScriptBridge
