import PredictionMarket.Text
import Mathlib.Algebra.Ring.Nat
import Mathlib.Data.List.Basic

/-!
# Texts are told apart by what is written of them

Octets determine the text that they encode, and numerals the number that they denote, also where
something else follows. So texts and numbers that are written one after another can be read back.
-/

namespace PredictionMarket

/-- A list is determined by what its items are spelled as, if each spelling is not empty and can be
told from all that may follow it. -/
theorem flatMap_injective {α β : Type} {spell : α → List β} (hne : ∀ a, spell a ≠ [])
    (hspell : ∀ {a b : α} {r s : List β}, spell a ++ r = spell b ++ s → a = b ∧ r = s) :
    Function.Injective (List.flatMap spell) := by
  intro first
  induction first with
  | nil =>
    rintro (_ | ⟨b, second⟩) h
    · rfl
    · simp only [List.flatMap_nil, List.flatMap_cons] at h
      exact absurd (List.append_eq_nil_iff.1 h.symm).1 (hne b)
  | cons a first ih =>
    rintro (_ | ⟨b, second⟩) h
    · simp only [List.flatMap_nil, List.flatMap_cons] at h
      exact absurd (List.append_eq_nil_iff.1 h).1 (hne a)
    · simp only [List.flatMap_cons] at h
      obtain ⟨rfl, hrest⟩ := hspell h
      rw [ih hrest]

/-- What stands before a mark is determined if the mark does not stand in it. -/
theorem append_cons_inj {α : Type} {mark : α} {first second r s : List α} (hfirst : mark ∉ first)
    (hsecond : mark ∉ second) (h : first ++ mark :: r = second ++ mark :: s) :
    first = second ∧ r = s := by
  induction first generalizing second with
  | nil =>
    cases second with
    | nil => exact ⟨rfl, (List.cons.inj h).2⟩
    | cons b second => exact absurd (List.cons.inj h).1 (List.ne_of_not_mem_cons hsecond)
  | cons a first ih =>
    cases second with
    | nil => exact absurd (List.cons.inj h).1.symm (List.ne_of_not_mem_cons hfirst)
    | cons b second =>
      obtain ⟨rfl, hrest⟩ := List.cons.inj h
      obtain ⟨rfl, rfl⟩ := ih (List.not_mem_of_not_mem_cons hfirst)
        (List.not_mem_of_not_mem_cons hsecond) hrest
      exact ⟨rfl, rfl⟩

/-! ## Octets -/

namespace CodePoint

/-- The octets of a code point, of which the first says how many there are, and how the code point
is read off them. -/
theorem utf8_cases (c : CodePoint) :
    (∃ a, c.utf8 = [a] ∧ a.toNat < 0x80 ∧ c.val = a.toNat) ∨
    (∃ a b, c.utf8 = [a, b] ∧ (0xC0 ≤ a.toNat ∧ a.toNat < 0xE0) ∧
      c.val = (a.toNat - 0xC0) * 64 + (b.toNat - 0x80)) ∨
    (∃ a b d, c.utf8 = [a, b, d] ∧ (0xE0 ≤ a.toNat ∧ a.toNat < 0xF0) ∧
      c.val = ((a.toNat - 0xE0) * 64 + (b.toNat - 0x80)) * 64 + (d.toNat - 0x80)) ∨
    ∃ a b d e, c.utf8 = [a, b, d, e] ∧ 0xF0 ≤ a.toNat ∧
      c.val = (((a.toNat - 0xF0) * 64 + (b.toNat - 0x80)) * 64 + (d.toNat - 0x80)) * 64 +
        (e.toNat - 0x80) := by
  have hc := c.isLt
  unfold utf8
  dsimp only
  split
  · refine .inl ⟨_, rfl, ?_⟩
    simp only [UInt8.toNat_ofNat']
    omega
  · split
    · refine .inr (.inl ⟨_, _, rfl, ?_⟩)
      simp only [UInt8.toNat_ofNat']
      omega
    · split
      · refine .inr (.inr (.inl ⟨_, _, _, rfl, ?_⟩))
        simp only [UInt8.toNat_ofNat']
        omega
      · refine .inr (.inr (.inr ⟨_, _, _, _, rfl, ?_⟩))
        simp only [UInt8.toNat_ofNat']
        omega

/-- The octets of a code point can be told from all that may follow them. -/
theorem utf8_append_inj {c d : CodePoint} {r s : List UInt8} (h : c.utf8 ++ r = d.utf8 ++ s) :
    c = d ∧ r = s := by
  rw [Fin.ext_iff]
  rcases c.utf8_cases with ⟨_, hc, hcs⟩ | ⟨_, _, hc, hcs⟩ | ⟨_, _, _, hc, hcs⟩ |
      ⟨_, _, _, _, hc, hcs⟩ <;>
    rcases d.utf8_cases with ⟨_, hd, hds⟩ | ⟨_, _, hd, hds⟩ | ⟨_, _, _, hd, hds⟩ |
      ⟨_, _, _, _, hd, hds⟩ <;>
    simp only [hc, hd, List.cons_append, List.nil_append, List.cons.injEq] at h <;>
    obtain ⟨rfl, h⟩ := h
  -- Forms of different lengths differ in the first octet; in one form, octet after octet agrees.
  all_goals first
    | omega
    | exact ⟨by omega, h⟩
    | (obtain ⟨rfl, h⟩ := h; exact ⟨by omega, h⟩)
    | (obtain ⟨rfl, rfl, h⟩ := h; exact ⟨by omega, h⟩)
    | (obtain ⟨rfl, rfl, rfl, h⟩ := h; exact ⟨by omega, h⟩)

/-- There is at least one octet. -/
theorem utf8_ne_nil (c : CodePoint) : c.utf8 ≠ [] := by
  rcases c.utf8_cases with ⟨_, h, -⟩ | ⟨_, _, h, -⟩ | ⟨_, _, _, h, -⟩ | ⟨_, _, _, _, h, -⟩ <;>
    simp [h]

/-- Characters are told apart by their code points. -/
theorem ofChar_injective : Function.Injective ofChar := by
  intro a b h
  have hval : a.val.toNat = b.val.toNat := congrArg (fun c : CodePoint => c.val) h
  exact Char.ext (UInt32.toNat_inj.1 hval)

/-- A hexadecimal digit has its value. -/
theorem hexValue?_ofDigit {d : Nat} (hd : d < 16) : (ofDigit d).hexValue? = some d := by
  have hall : ∀ d : Fin 16, (ofDigit d).hexValue? = some d.val := by decide
  exact hall ⟨d, hd⟩

/-- A digit of a decimal numeral is one of the ten. -/
theorem isAsciiDigit_ofChar {c : Char} (h : c.isDigit = true) : (ofChar c).isAsciiDigit = true := by
  simp only [Char.isDigit, Bool.and_eq_true, decide_eq_true_eq, UInt32.le_iff_toNat_le] at h
  unfold isAsciiDigit
  rw [Bool.and_eq_true, decide_eq_true_eq, decide_eq_true_eq]
  exact h

end CodePoint

namespace Text

/-- Texts are told apart by their octets. -/
theorem utf8?_inj {t u : Text} {octets : List UInt8} (ht : t.utf8? = some octets)
    (hu : u.utf8? = some octets) : t = u := by
  unfold utf8? at ht hu
  split at ht
  · cases ht
  · split at hu
    · cases hu
    · cases ht
      exact (flatMap_injective CodePoint.utf8_ne_nil CodePoint.utf8_append_inj
        (Option.some.inj hu)).symm

/-- A text has a surrogate if one of its parts has. -/
theorem hasSurrogate_append (t u : Text) :
    (t ++ u).hasSurrogate = (t.hasSurrogate || u.hasSurrogate) :=
  List.any_append

/-- A string has no surrogate, since no character is one. -/
@[simp] theorem hasSurrogate_ofString (s : String) : (ofString s).hasSurrogate = false := by
  refine List.any_eq_false.2 fun c hc => ?_
  obtain ⟨char, -, rfl⟩ := List.mem_map.1 hc
  have hvalid : char.val.toNat < 0xD800 ∨ 0xDFFF < char.val.toNat ∧ char.val.toNat < 0x110000 :=
    char.valid
  simp only [CodePoint.isSurrogate, CodePoint.ofChar, Bool.and_eq_true]
  rintro ⟨hlow, hhigh⟩
  have hlow := of_decide_eq_true hlow
  have hhigh := of_decide_eq_true hhigh
  omega

/-! ## Numerals -/

/-- A decimal numeral is made of digits. -/
theorem isAsciiDigit_of_mem_ofNat {n : Nat} {c : CodePoint} (h : c ∈ ofNat n) :
    c.isAsciiDigit = true := by
  obtain ⟨digit, hdigit, rfl⟩ := List.mem_map.1 h
  exact CodePoint.isAsciiDigit_ofChar
    (Nat.isDigit_of_mem_toDigits (by decide) (Nat.le_refl 10) hdigit)

/-- Natural numbers are told apart by their numerals. -/
theorem ofNat_injective : Function.Injective ofNat := by
  intro m n h
  have hdigits : Nat.toDigits 10 m = Nat.toDigits 10 n :=
    List.map_injective_iff.2 CodePoint.ofChar_injective h
  rw [← Nat.ofDigitChars_ten_toDigits (n := m), hdigits, Nat.ofDigitChars_ten_toDigits]

/-- Integers are told apart by their numerals. -/
theorem ofInt_injective : Function.Injective ofInt := by
  have hsign (m n : Nat) : ofNat m ≠ "-" ++ ofNat n := by
    intro h
    have hmem : CodePoint.ofChar '-' ∈ ofNat m := by
      rw [h]
      exact List.mem_append_left _ (List.mem_singleton_self _)
    exact absurd (isAsciiDigit_of_mem_ofNat hmem) (by decide)
  rintro (m | m) (n | n) h
  · exact congrArg Int.ofNat (ofNat_injective h)
  · exact absurd h (hsign _ _)
  · exact absurd h.symm (hsign _ _)
  · have hsame := ofNat_injective (List.append_cancel_left h)
    rw [Nat.succ.inj hsame]

/-- A numeral is made of digits and the minus sign. -/
theorem mem_ofInt {n : Int} {c : CodePoint} (h : c ∈ ofInt n) :
    c.isAsciiDigit = true ∨ c = CodePoint.ofChar '-' := by
  cases n with
  | ofNat n => exact .inl (isAsciiDigit_of_mem_ofNat h)
  | negSucc n =>
    rcases List.mem_append.1 h with hminus | hdigit
    · exact .inr (List.mem_singleton.1 hminus)
    · exact .inl (isAsciiDigit_of_mem_ofNat hdigit)

/-- A numeral can be encoded. -/
theorem hasSurrogate_ofInt (n : Int) : (ofInt n).hasSurrogate = false := by
  refine List.any_eq_false.2 fun c hc => ?_
  rcases mem_ofInt hc with hdigit | rfl
  · simp only [CodePoint.isAsciiDigit, Bool.and_eq_true, decide_eq_true_eq] at hdigit
    simp only [CodePoint.isSurrogate, Bool.and_eq_true, decide_eq_true_eq]
    omega
  · decide

/-- A numeral in base sixteen can be encoded. -/
theorem hasSurrogate_hex (width n : Nat) : (hex width n).hasSurrogate = false := by
  have hdigit : ∀ d : Fin 16, (CodePoint.ofDigit d).isSurrogate = false := by decide
  induction width generalizing n with
  | zero => rfl
  | succ width ih =>
    rw [hex, hasSurrogate_append, ih]
    simpa [hasSurrogate] using hdigit ⟨n % 16, Nat.mod_lt _ (by decide)⟩

/-- A numeral of some width in base sixteen can be told from all that may follow it. -/
theorem hex_append_inj {width m n : Nat} {r s : Text} (hm : m < 16 ^ width) (hn : n < 16 ^ width)
    (h : hex width m ++ r = hex width n ++ s) : m = n ∧ r = s := by
  induction width generalizing m n r s with
  | zero =>
    rw [pow_zero] at hm hn
    exact ⟨by omega, h⟩
  | succ width ih =>
    simp only [hex, List.append_assoc, List.singleton_append] at h
    rw [pow_succ] at hm hn
    obtain ⟨hhigh, hlow⟩ := ih (by omega) (by omega) h
    obtain ⟨hdigit, hrest⟩ := List.cons.inj hlow
    have hvalue := congrArg CodePoint.hexValue? hdigit
    rw [CodePoint.hexValue?_ofDigit (by omega), CodePoint.hexValue?_ofDigit (by omega)] at hvalue
    have hlow := Option.some.inj hvalue
    exact ⟨by omega, hrest⟩

end Text

end PredictionMarket
