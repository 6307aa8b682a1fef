import PredictionMarket.Message.Part
import PredictionMarket.Proofs.Guard
import PredictionMarket.Proofs.Json.Numeral

/-!
# Amounts have one spelling

An amount on the wire is a text of decimal digits. Digits of other scripts are digits as well, so
that the text is made of digits is not enough: they must be ASCII digits, and no zero may stand in
front of others. What is left are the numerals of the natural numbers, each number with one. So a
text is read as an amount exactly if it is the numeral of the amount, and what is refused is refused
for one of four causes.
-/

namespace PredictionMarket

namespace CodePoint

/-- The ASCII digits are the digits of any script among the first 128 code points. -/
theorem isAsciiDigit_iff {c : CodePoint} :
    c.isAsciiDigit = true ↔ c.isDigit = true ∧ c.val < 128 := by
  -- The scripts are listed in a table, so each of the 128 code points is looked up in it.
  have hsame : ∀ n : Fin 128,
      isAsciiDigit (n.castLE (by decide)) = isDigit (n.castLE (by decide)) := by decide +kernel
  constructor
  · intro hdigit
    have hsmall : c.val < 128 := by
      rw [isAsciiDigit, Bool.and_eq_true, decide_eq_true_eq, decide_eq_true_eq] at hdigit
      omega
    exact ⟨(hsame ⟨c.val, hsmall⟩).symm.trans hdigit, hsmall⟩
  · rintro ⟨hdigit, hsmall⟩
    exact (hsame ⟨c.val, hsmall⟩).trans hdigit

end CodePoint

namespace Text

/-- A text of digits, all of which are ASCII. -/
def IsAsciiDigits (t : Text) : Prop :=
  t.isDigits = true ∧ ∀ c ∈ t, c.val < 128

/-- Such a text has a digit, and nothing else than ASCII digits. -/
theorem isAsciiDigits_iff {t : Text} :
    t.IsAsciiDigits ↔ t ≠ [] ∧ ∀ c ∈ t, c.isAsciiDigit = true := by
  rw [IsAsciiDigits, isDigits, Bool.and_eq_true, List.all_eq_true, and_assoc, ← forall₂_and]
  refine and_congr ?_ (forall₂_congr fun c _ => CodePoint.isAsciiDigit_iff.symm)
  cases t <;> simp

/-- Digits with a zero in front that they do not need. -/
def HasNeedlessZero (t : Text) : Prop :=
  1 < t.length ∧ t.head? = some (CodePoint.ofChar '0')

/-- How natural numbers are spelled: by ASCII digits, without a needless zero. -/
structure IsNumeral (t : Text) : Prop where
  /-- There are ASCII digits only. -/
  digits : t.IsAsciiDigits
  /-- No zero stands in front of other digits. -/
  no_needless_zero : ¬t.HasNeedlessZero

/-- The numeral of a number is spelled so. -/
theorem isNumeral_ofNat (n : Nat) : (ofNat n).IsNumeral := by
  obtain ⟨first, more, hfirst, -, hzero⟩ := ofNat_eq_cons n
  constructor
  · apply isAsciiDigits_iff.2
    refine ⟨?_, fun c hc => isAsciiDigit_of_mem_ofNat hc⟩
    rw [hfirst]
    exact List.cons_ne_nil first more
  · rintro ⟨hlong, hhead⟩
    rw [hfirst] at hlong hhead
    rw [hzero (Option.some.inj hhead)] at hlong
    exact Nat.lt_irrefl 1 hlong

/-- What is spelled so is the numeral of the number that its digits denote. -/
theorem IsNumeral.eq_ofNat {t : Text} (h : t.IsNumeral) : t = ofNat (Json.digitsValue t) := by
  obtain ⟨hne, hdigits⟩ := isAsciiDigits_iff.1 h.digits
  exact (Json.ofNat_digitsValue hne hdigits h.no_needless_zero).symm

/-- The numeral of an integer that is not negative has no sign. -/
theorem ofInt_natCast (n : Nat) : ofInt n = ofNat n := rfl

/-- The texts that are spelled so are the numerals of the integers that are not negative. -/
theorem isNumeral_iff {t : Text} : t.IsNumeral ↔ ∃ n : Int, 0 ≤ n ∧ t = ofInt n := by
  constructor
  · intro h
    exact ⟨Json.digitsValue t, Int.natCast_nonneg _, h.eq_ofNat⟩
  · rintro ⟨n, hn, rfl⟩
    obtain ⟨k, rfl⟩ := Int.eq_ofNat_of_zero_le hn
    exact isNumeral_ofNat k

/-- Every text is of one of three sorts. -/
theorem spelling_cases (t : Text) :
    ¬t.IsAsciiDigits ∨ (t.IsAsciiDigits ∧ t.HasNeedlessZero) ∨ ∃ n, t = ofNat n := by
  by_cases hdigits : t.IsAsciiDigits
  · by_cases hzero : t.HasNeedlessZero
    · exact .inr (.inl ⟨hdigits, hzero⟩)
    · exact .inr (.inr ⟨_, IsNumeral.eq_ofNat ⟨hdigits, hzero⟩⟩)
  · exact .inl hdigits

end Text

namespace Part

variable {name t : Text} {bound : Int}

/-! ## The three sorts of texts -/

/-- The first guard lets ASCII digits pass, and nothing else. -/
theorem not_digits_iff :
    (t.isEmpty = true ∨ ¬t.all CodePoint.isAsciiDigit = true) ↔ ¬t.IsAsciiDigits := by
  rw [Text.isAsciiDigits_iff, not_and_or, not_ne_iff, List.isEmpty_iff, List.all_eq_true]

/-- What is not made of ASCII digits is refused as such. -/
theorem readNumeral_of_not_digits (h : ¬t.IsAsciiDigits) :
    readNumeral name bound (.text t) = .error (.needsNumeral name) := by
  rw [readNumeral, refuseIf_bind, if_pos (not_digits_iff.2 h)]

/-- A needless zero is refused as such. -/
theorem readNumeral_of_needless_zero (h : t.IsAsciiDigits) (hzero : t.HasNeedlessZero) :
    readNumeral name bound (.text t) = .error (.leadingZero name) := by
  have hpass := mt not_digits_iff.1 (not_not.2 h)
  have hstop : 1 < t.length ∧ t.head? = some (CodePoint.ofChar '0') := hzero
  rw [readNumeral, refuseIf_bind, if_neg hpass, refuseIf_bind, if_pos hstop]

/-- The numeral of a number is read as the number, unless it is too long or the number is above the
bound. -/
theorem readNumeral_ofNat (name : Text) (bound : Int) (n : Nat) :
    readNumeral name bound (.text (Text.ofNat n)) =
      if Text.digitLimit < (Text.ofNat n).length then .error .unreadableNumeral
      else if bound < n then .error (.exceeds name bound)
      else .ok (n : Int) := by
  have hnumeral := Text.isNumeral_ofNat n
  have hpass := mt not_digits_iff.1 (not_not.2 hnumeral.digits)
  have hzero : ¬(1 < (Text.ofNat n).length ∧
      (Text.ofNat n).head? = some (CodePoint.ofChar '0')) := hnumeral.no_needless_zero
  -- Both guards on the spelling are passed, and the digits denote the number again.
  rw [readNumeral, refuseIf_bind, if_neg hpass, refuseIf_bind, if_neg hzero, refuseIf_bind,
    refuseIf_bind, Json.digitsValue_ofNat]
  rfl

/-! ## All texts -/

/-- Why a text is refused as an amount up to a bound. -/
inductive NumeralRefused (name : Text) (bound : Int) (t : Text) : PartError → Prop
  /-- It is not made of ASCII digits. -/
  | notDigits (h : ¬t.IsAsciiDigits) : NumeralRefused name bound t (.needsNumeral name)
  /-- It is made of ASCII digits, with a needless zero in front. -/
  | needlessZero (hdigits : t.IsAsciiDigits) (hzero : t.HasNeedlessZero) :
    NumeralRefused name bound t (.leadingZero name)
  /-- It is a numeral that is too long. -/
  | tooLong (hnumeral : t.IsNumeral) (hlong : Text.digitLimit < t.length) :
    NumeralRefused name bound t .unreadableNumeral
  /-- It is the numeral of a number above the bound. -/
  | aboveBound {n : Int} (hn : 0 ≤ n) (hnumeral : t = Text.ofInt n)
    (hshort : t.length ≤ Text.digitLimit) (habove : bound < n) :
    NumeralRefused name bound t (.exceeds name bound)

/-- A text is refused for a cause that it gives, or read as the amount whose numeral it is. -/
theorem readNumeral_ends (name : Text) (bound : Int) (t : Text) :
    Ends (NumeralRefused name bound t)
      (fun n => (0 ≤ n ∧ n ≤ bound) ∧ t = Text.ofInt n ∧ t.length ≤ Text.digitLimit)
      (readNumeral name bound (.text t)) := by
  rcases t.spelling_cases with hdigits | ⟨hdigits, hzero⟩ | ⟨k, rfl⟩
  · exact .of_error (readNumeral_of_not_digits hdigits) (.notDigits hdigits)
  · exact .of_error (readNumeral_of_needless_zero hdigits hzero) (.needlessZero hdigits hzero)
  · have hread := readNumeral_ofNat name bound k
    have hk : (0 : Int) ≤ k := Int.natCast_nonneg k
    split at hread
    · next hlong => exact .of_error hread (.tooLong (Text.isNumeral_ofNat k) hlong)
    · next hshort =>
      have hshort := Nat.not_lt.1 hshort
      split at hread
      · next habove => exact .of_error hread (.aboveBound hk rfl hshort habove)
      · next hmost => exact .of_ok hread ⟨⟨hk, Int.not_lt.1 hmost⟩, rfl, hshort⟩

/-- A text is read as an amount exactly if it is the numeral of the amount, not too long, and the
amount is not above the bound. -/
theorem readNumeral_text_eq_ok {n : Int} :
    readNumeral name bound (.text t) = .ok n ↔
      (0 ≤ n ∧ n ≤ bound) ∧ t = Text.ofInt n ∧ t.length ≤ Text.digitLimit := by
  constructor
  · intro h
    exact (readNumeral_ends name bound t).ok n h
  · rintro ⟨⟨hn, hmost⟩, rfl, hshort⟩
    obtain ⟨k, rfl⟩ := Int.eq_ofNat_of_zero_le hn
    rw [Text.ofInt_natCast] at hshort ⊢
    rw [readNumeral_ofNat, if_neg (Nat.not_lt.2 hshort), if_neg (Int.not_lt.2 hmost)]

/-- A text is refused exactly for the cause that it gives. -/
theorem readNumeral_text_eq_error {e : PartError} :
    readNumeral name bound (.text t) = .error e ↔ NumeralRefused name bound t e := by
  constructor
  · intro h
    exact (readNumeral_ends name bound t).error e h
  · intro h
    cases h with
    | notDigits hdigits => exact readNumeral_of_not_digits hdigits
    | needlessZero hdigits hzero => exact readNumeral_of_needless_zero hdigits hzero
    | tooLong hnumeral hlong =>
      rw [hnumeral.eq_ofNat] at hlong ⊢
      rw [readNumeral_ofNat, if_pos hlong]
    | @aboveBound n hn hnumeral hshort habove =>
      obtain ⟨k, rfl⟩ := Int.eq_ofNat_of_zero_le hn
      rw [hnumeral, Text.ofInt_natCast] at hshort ⊢
      rw [readNumeral_ofNat, if_neg (Nat.not_lt.2 hshort), if_pos habove]

/-- **Amounts have one spelling**: a text is read as an amount up to a bound exactly if it is the
decimal numeral of the amount, with as many digits as can be read, and every other text is refused
for its cause. The numerals are the texts of ASCII digits without a needless zero. So every amount
in range is read from its numeral, and from no other text. -/
theorem amounts_have_one_spelling (name : Text) (bound : Int) :
    (∀ t n, readNumeral name bound (.text t) = .ok n ↔
      (0 ≤ n ∧ n ≤ bound) ∧ t = Text.ofInt n ∧ t.length ≤ Text.digitLimit) ∧
    (∀ t e, readNumeral name bound (.text t) = .error e ↔ NumeralRefused name bound t e) ∧
    (∀ t : Text, (∃ n : Int, 0 ≤ n ∧ t = Text.ofInt n) ↔ t.IsNumeral) ∧
    (∀ n : Int, 0 ≤ n → n ≤ bound → (Text.ofInt n).length ≤ Text.digitLimit →
      readNumeral name bound (.text (Text.ofInt n)) = .ok n) ∧
    ∀ t u n, readNumeral name bound (.text t) = .ok n → readNumeral name bound (.text u) = .ok n →
      t = u := by
  refine ⟨fun t n => readNumeral_text_eq_ok, fun t e => readNumeral_text_eq_error,
    fun t => Text.isNumeral_iff.symm, fun n hn hmost hshort => ?_, fun t u n ht hu => ?_⟩
  · exact readNumeral_text_eq_ok.2 ⟨⟨hn, hmost⟩, rfl, hshort⟩
  · obtain ⟨-, htext, -⟩ := readNumeral_text_eq_ok.1 ht
    obtain ⟨-, hutext, -⟩ := readNumeral_text_eq_ok.1 hu
    rw [htext, hutext]

/-- Ninety is read from its numeral, and from no spelling with another digit, sign, blank or mark.
Above the bound, it is refused. -/
theorem ninety_has_one_spelling :
    (0 ≤ (90 : Int) ∧ 90 ≤ maxTime ∧ (Text.ofInt 90).length ≤ Text.digitLimit) ∧
      readNumeral "amount" maxTime (.text "90") = .ok 90 ∧
      (∀ t, readNumeral "amount" maxTime (.text t) = .ok 90 → t = "90") ∧
      readNumeral "amount" maxTime (.text "090") = .error (.leadingZero "amount") ∧
      readNumeral "amount" 89 (.text "90") = .error (.exceeds "amount" 89) ∧
      ∀ t ∈ ([[], "+90", "-90", " 90", "9_0", "٩٠", "9⁰", "90.0"] : List Text),
        readNumeral "amount" maxTime (.text t) = .error (.needsNumeral "amount") := by
  obtain ⟨-, -, -, hread, hunique⟩ := amounts_have_one_spelling "amount" maxTime
  have hninety := hread 90 (by decide) (by decide) (by decide)
  refine ⟨⟨by decide, by decide, by decide⟩, hninety, fun t ht => hunique t _ 90 ht hninety, ?_, ?_,
    ?_⟩
  · decide
  · decide
  · decide

end Part

end PredictionMarket
