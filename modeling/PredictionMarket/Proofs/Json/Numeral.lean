import PredictionMarket.Json.Reader
import PredictionMarket.Proofs.Text
import Mathlib.Algebra.Ring.Int.Defs
import Mathlib.Data.List.Induction
import Mathlib.Data.List.TakeDrop

/-!
# Decimal numerals are read back

The numeral of a natural number has at least one digit, no needless zero in front, and the value
that it was written for. Digits without a needless zero in front are the numeral of the number that
they denote. So numerals and natural numbers determine each other.
-/

namespace PredictionMarket

namespace Text

/-- A number below a power of ten has no more digits than the exponent says. -/
theorem length_ofNat_le {n e : Nat} (he : 0 < e) (hn : n < 10 ^ e) : (ofNat n).length ≤ e := by
  rw [ofNat, List.length_map]
  exact (Nat.length_toDigits_le_iff (by decide) he).2 hn

/-- An integer can be written exactly if it is below the power of ten that has too many digits. -/
theorem canWrite_iff {n : Int} : canWrite n = true ↔ n.natAbs < 10 ^ digitLimit := by
  rw [canWrite, decide_eq_true_iff, ofNat, List.length_map]
  exact Nat.length_toDigits_le_iff (by decide) (by decide)

/-- An integer of few digits can be written. -/
theorem canWrite_of_lt {n : Int} {e : Nat} (he : e ≤ digitLimit) (h : n.natAbs < 10 ^ e) :
    canWrite n = true :=
  canWrite_iff.2 (Nat.lt_of_lt_of_le h (Nat.pow_le_pow_right (by decide) he))

/-- An integer that is not below the least of too many digits cannot be written. -/
theorem canWrite_of_le {n : Int} (h : 10 ^ digitLimit ≤ n) : canWrite n = false := by
  have hcast : ((10 ^ digitLimit : Nat) : Int) = 10 ^ digitLimit := Int.natCast_pow 10 digitLimit
  rw [← hcast] at h
  rw [Bool.eq_false_iff, Ne, canWrite_iff]
  generalize 10 ^ digitLimit = bound at *
  omega

/-- The least integer of too many digits cannot be written. -/
theorem canWrite_pow_digitLimit : canWrite (10 ^ digitLimit) = false :=
  canWrite_of_le (Int.le_refl _)

/-- The sign does not matter. -/
theorem canWrite_neg (n : Int) : canWrite (-n) = canWrite n := by
  rw [canWrite, canWrite, Int.natAbs_neg]

/-- A numeral has a digit in front, which is a zero only if it stands alone. -/
theorem ofNat_eq_cons (n : Nat) :
    ∃ first more, ofNat n = first :: more ∧ first.isAsciiDigit = true ∧
      (first = CodePoint.ofChar '0' → more = []) := by
  induction n using Nat.strongRecOn with
  | ind n ih =>
    rcases Nat.lt_or_ge n 10 with hsmall | hlarge
    · have hdigit : ofNat n = [CodePoint.ofChar n.digitChar] := by
        rw [ofNat, Nat.toDigits_of_lt_base hsmall]
        rfl
      exact ⟨_, [], hdigit, isAsciiDigit_of_mem_ofNat (hdigit ▸ List.mem_cons_self), fun _ => rfl⟩
    · -- The first digit is that of a tenth of the number, which is not zero.
      obtain ⟨first, more, hfirst, hdigit, hzero⟩ := ih (n / 10) (by omega)
      refine ⟨first, more ++ [CodePoint.ofChar (n % 10).digitChar], ?_, hdigit, fun hlead => ?_⟩
      · rw [ofNat, Nat.toDigits_of_base_le (by decide) hlarge, List.map_append]
        show ofNat (n / 10) ++ _ = _
        rw [hfirst]
        rfl
      · rw [hzero hlead, hlead] at hfirst
        have htenth : n / 10 = 0 := ofNat_injective hfirst
        omega

end Text

namespace Json

/-- The digits of a number denote it. -/
theorem digitsValue_ofNat (n : Nat) : digitsValue (Text.ofNat n) = n := by
  have hdigits : digitsValue (Text.ofNat n) = Nat.ofDigitChars 10 (Nat.toDigits 10 n) 0 := by
    rw [digitsValue, Text.ofDigitValues, Text.ofNat, List.map_map, List.foldl_map,
      Nat.ofDigitChars_eq_foldl]
    rfl
  rw [hdigits, Nat.ofDigitChars_ten_toDigits]

/-- One more digit makes ten times the number, and the digit. -/
theorem digitsValue_append (digits : Text) (c : CodePoint) :
    digitsValue (digits ++ [c]) = 10 * digitsValue digits + (c.val - 48) := by
  simp only [digitsValue, Text.ofDigitValues, List.map_append, List.foldl_append, List.map_cons,
    List.map_nil, List.foldl_cons, List.foldl_nil]

/-- A digit is what its value is written as. -/
theorem ofChar_digitChar {c : CodePoint} (h : c.isAsciiDigit = true) :
    c.val - 48 < 10 ∧ CodePoint.ofChar (c.val - 48).digitChar = c := by
  rw [CodePoint.isAsciiDigit, Bool.and_eq_true, decide_eq_true_eq, decide_eq_true_eq] at h
  have hall : ∀ d : Fin 10, (CodePoint.ofChar d.val.digitChar).val = 48 + d.val := by decide
  have hlt : c.val - 48 < 10 := by omega
  have hdigit := hall ⟨c.val - 48, hlt⟩
  exact ⟨hlt, Fin.ext (by simp only at hdigit; omega)⟩

/-- Digits without a needless zero in front are the numeral of what they denote. -/
theorem ofNat_digitsValue {t : Text} (hne : t ≠ []) (hdigits : ∀ c ∈ t, c.isAsciiDigit = true)
    (hlead : ¬(1 < t.length ∧ t.head? = some (CodePoint.ofChar '0'))) :
    Text.ofNat (digitsValue t) = t := by
  induction t using List.reverseRecOn with
  | nil => exact absurd rfl hne
  | append_singleton t c ih =>
    obtain ⟨hlt, hchar⟩ := ofChar_digitChar (hdigits c (by simp))
    rw [digitsValue_append]
    rcases t with _ | ⟨first, more⟩
    · show Text.ofNat (10 * 0 + (c.val - 48)) = [c]
      rw [Nat.mul_zero, Nat.zero_add, Text.ofNat, Nat.toDigits_of_lt_base hlt]
      exact congrArg (fun d => [d]) hchar
    · -- The digits before the last do not begin with a zero, so they do not denote zero.
      have hfirst : first ≠ CodePoint.ofChar '0' := by
        rintro rfl
        exact hlead ⟨by simp, rfl⟩
      have hmore : Text.ofNat (digitsValue (first :: more)) = first :: more :=
        ih (List.cons_ne_nil _ _) (fun d hd => hdigits d (List.mem_append_left _ hd))
          fun h => hfirst (Option.some.inj h.2)
      have hpos : digitsValue (first :: more) ≠ 0 := by
        intro hzero
        rw [hzero] at hmore
        exact hfirst (List.cons.inj hmore).1.symm
      have hdiv : (10 * digitsValue (first :: more) + (c.val - 48)) / 10 =
          digitsValue (first :: more) := by omega
      have hmod : (10 * digitsValue (first :: more) + (c.val - 48)) % 10 = c.val - 48 := by omega
      rw [Text.ofNat, Nat.toDigits_of_base_le (by decide) (by omega), hdiv, hmod, List.map_append]
      show Text.ofNat (digitsValue (first :: more)) ++ [CodePoint.ofChar _] = _
      rw [hmore, hchar]

/-- The digits in front of a text are read up to something that is no digit. -/
theorem readDigits_append {digits rest : Text} (hdigits : ∀ c ∈ digits, c.isAsciiDigit = true)
    (hrest : ∀ c ∈ rest.head?, c.isAsciiDigit = false) :
    readDigits (digits ++ rest) = (digits, rest) := by
  have hstop : rest.takeWhile CodePoint.isAsciiDigit = [] ∧
      rest.dropWhile CodePoint.isAsciiDigit = rest := by
    rcases rest with _ | ⟨c, rest⟩
    · exact ⟨rfl, rfl⟩
    · have hc : ¬CodePoint.isAsciiDigit c = true := Bool.eq_false_iff.1 (hrest c rfl)
      exact ⟨List.takeWhile_cons_of_neg hc, List.dropWhile_cons_of_neg hc⟩
  rw [readDigits, List.span_eq_takeWhile_dropWhile, List.takeWhile_append_of_pos hdigits,
    List.dropWhile_append_of_pos hdigits, hstop.1, hstop.2, List.append_nil]

end Json

end PredictionMarket
