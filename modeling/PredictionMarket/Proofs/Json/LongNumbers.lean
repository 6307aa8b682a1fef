import PredictionMarket.Json.Reader
import PredictionMarket.Proofs.Guard
import Mathlib.Data.List.TakeDrop
import Mathlib.Data.List.TakeWhile

/-!
# Where reading finds too many digits

Reading goes through a text from its beginning to its end, so all that is left of the text at any
time is an end of it. It fails for too many digits only at digits that stand in the text in a row,
more of them than an integer may have.
-/

namespace PredictionMarket

/-- More digits stand in a row in a text than an integer may have. -/
def Text.HasLongNumber (t : Text) : Prop :=
  ∃ digits : Text, digits <:+: t ∧ (∀ c ∈ digits, c.isAsciiDigit = true) ∧
    Text.digitLimit < digits.length

/-- They stand in the whole text if they stand in an end of it. -/
theorem Text.HasLongNumber.of_suffix {t u : Text} (h : t.HasLongNumber) (htu : t <:+ u) :
    u.HasLongNumber := by
  obtain ⟨digits, hinfix, hdigits, hmany⟩ := h
  exact ⟨digits, hinfix.trans htu.isInfix, hdigits, hmany⟩

namespace Json

/-! ## What is left of a text -/

/-- Behind blanks an end of the text is left. -/
theorem skipBlanks_suffix (t : Text) : skipBlanks t <:+ t :=
  List.dropWhile_suffix _

/-- Behind a beginning an end of the text is left. -/
theorem suffix_of_after? {beginning t rest : Text} (h : after? beginning t = some rest) :
    rest <:+ t := by
  rw [after?, Option.ite_none_right_eq_some, Option.some.injEq] at h
  exact h.2 ▸ List.drop_suffix _ _

/-- Behind a string an end of the text is left. -/
theorem suffix_of_readString {t : Text} {done : List Piece} {s rest : Text}
    (h : readString t done = some (s, rest)) : rest <:+ t := by
  fun_induction readString t done with
  | case2 done t =>
    cases h
    exact List.suffix_cons _ _
  | case4 _ a b c d t p _ _ ih => exact (ih h).trans (List.suffix_append [_, _, a, b, c, d] t)
  | case7 _ letter t _ p _ _ ih => exact (ih h).trans (List.suffix_append [_, letter] t)
  | case10 _ c t _ _ _ ih => exact (ih h).trans (List.suffix_cons c t)
  | _ => cases h

/-- Digits, and the end of the text that is left behind them. -/
theorem readDigits_spec {t digits rest : Text} (h : readDigits t = (digits, rest)) :
    t = digits ++ rest ∧ ∀ c ∈ digits, c.isAsciiDigit = true := by
  rw [readDigits, List.span_eq_takeWhile_dropWhile, Prod.mk.injEq] at h
  obtain ⟨rfl, rfl⟩ := h
  exact ⟨List.takeWhile_append_dropWhile.symm, fun c hc => List.mem_takeWhile_imp hc⟩

/-- Behind a fraction an end of the text is left. -/
theorem readFraction_suffix (t : Text) : (readFraction t).2 <:+ t := by
  unfold readFraction
  split
  · exact List.suffix_rfl
  · next c rest =>
    split
    · split
      · exact List.suffix_rfl
      · next digits rest' _ hdigits =>
        obtain ⟨hrest, -⟩ := readDigits_spec hdigits
        rw [hrest]
        exact (List.suffix_append _ _).trans (List.suffix_cons _ _)
    · exact List.suffix_rfl

/-- Behind an exponent an end of the text is left. -/
theorem readExponent_suffix (t : Text) : (readExponent t).2 <:+ t := by
  unfold readExponent
  split
  · exact List.suffix_rfl
  · next c rest =>
    split
    · split
      next sign unsigned hsign =>
      have hunsigned : unsigned <:+ rest := by
        split at hsign
        · split at hsign
          · cases hsign
            exact List.suffix_cons _ _
          · cases hsign
            exact List.suffix_rfl
        · cases hsign
          exact List.suffix_rfl
      split
      · exact List.suffix_rfl
      · next hdigits =>
        rw [(readDigits_spec hdigits).1] at hunsigned
        exact ((List.suffix_append _ _).trans hunsigned).trans (List.suffix_cons _ _)
    · exact List.suffix_rfl

/-! ## Reading -/

/-- An answer of a reader to a text: a value, and an end of the text that is left; or an error,
which is that of too many digits only if more of them than an integer may have stand in the text. -/
def Answers (t : Text) : Except ReadError (Value × Text) → Prop :=
  Ends (fun e => e = .tooManyDigits → t.HasLongNumber) fun result => result.2 <:+ t

/-- What is malformed has not too many digits. -/
theorem answers_malformed (t : Text) : Answers t (.error .malformed) :=
  .of_error rfl nofun

/-- An answer to an end of a text is an answer to the text. -/
theorem Answers.of_suffix {t u : Text} {x : Except ReadError (Value × Text)} (h : Answers t x)
    (htu : t <:+ u) : Answers u x where
  error e he hdigits := (h.error e he hdigits).of_suffix htu
  ok result hresult := (h.ok result hresult).trans htu

/-- An unsigned number is read off an end of the text, and its digits stand in a row. -/
theorem answers_readUnsigned (sign t : Text) : Answers t (readUnsigned sign t) := by
  unfold readUnsigned
  split
  · exact answers_malformed t
  · next first more rest hdigits =>
    obtain ⟨rfl, hall⟩ := readDigits_spec hdigits
    split
    next digits behind hlead =>
    have hparts : first :: more ++ rest = digits ++ behind ∧ digits <:+: first :: more := by
      split at hlead
      · cases hlead
        exact ⟨rfl, (List.prefix_append [first] more).isInfix⟩
      · cases hlead
        exact ⟨rfl, List.infix_rfl⟩
    have hbehind : behind <:+ first :: more ++ rest := hparts.1 ▸ List.suffix_append _ _
    have hfraction := (readFraction_suffix behind).trans hbehind
    have hexponent := (readExponent_suffix (readFraction behind).2).trans hfraction
    dsimp only
    split
    · split
      · next hmany =>
        refine .of_error rfl fun _ => ⟨digits, ?_, ?_, hmany⟩
        · exact hparts.1 ▸ (List.prefix_append digits behind).isInfix
        · exact fun c hc => hall c (hparts.2.subset hc)
      · exact .of_ok rfl hexponent
    · exact .of_ok rfl hexponent

/-- So is a number. -/
theorem answers_readNumber (t : Text) : Answers t (readNumber t) := by
  unfold readNumber
  split
  · exact answers_malformed []
  · next c rest =>
    split
    · exact (answers_readUnsigned [c] rest).of_suffix (List.suffix_cons c rest)
    · exact answers_readUnsigned [] (c :: rest)

/-- A word is a beginning of the text. -/
theorem answers_readScalar (t : Text) : Answers t (readScalar t) := by
  unfold readScalar
  split
  · next result hword =>
    obtain ⟨⟨word, v⟩, -, hresult⟩ := List.exists_of_findSome?_eq_some hword
    obtain ⟨rest, hrest, rfl⟩ := Option.map_eq_some_iff.1 hresult
    exact .of_ok rfl (suffix_of_after? hrest)
  · exact answers_readNumber t

/-- Behind the first of a text's code points, a bracket with nothing in it, or what is read within.
-/
theorem answers_bracket {beginning t : Text} {c : CodePoint} {empty : Value}
    {within : Except ReadError (Value × Text)} (hwithin : Answers (skipBlanks t) within) :
    Answers (c :: t) (match after? beginning (skipBlanks t) with
      | some rest => .ok (empty, rest)
      | none => within) := by
  have hblanks : skipBlanks t <:+ c :: t := (skipBlanks_suffix t).trans (List.suffix_cons c t)
  split
  · next rest hrest => exact .of_ok rfl ((suffix_of_after? hrest).trans hblanks)
  · exact hwithin.of_suffix hblanks

/-- Behind an item or a member, the end of the whole, or what is read of the further ones. -/
theorem answers_further {rest t : Text} (hrest : rest <:+ t) {close : CodePoint} {whole : Value}
    {further : Text → Except ReadError (Value × Text)} (hfurther : ∀ u, Answers u (further u)) :
    Answers t (match skipBlanks rest with
      | [] => .error .malformed
      | c :: rest =>
        if c = close then .ok (whole, rest)
        else if c = CodePoint.ofChar ',' then further (skipBlanks rest)
        else .error .malformed) := by
  have hblanks : skipBlanks rest <:+ t := (skipBlanks_suffix rest).trans hrest
  split
  · exact answers_malformed t
  · next c behind hbehind =>
    have hafter : behind <:+ t := (List.suffix_cons c behind).trans (hbehind ▸ hblanks)
    split
    · exact .of_ok rfl hafter
    · split
      · exact (hfurther _).of_suffix ((skipBlanks_suffix behind).trans hafter)
      · exact answers_malformed t

/-- What is read in each step is read off an end of the text, with as much fuel as there is. -/
theorem answers_read (fuel : Nat) :
    (∀ t, Answers t (readValue fuel t)) ∧ (∀ t done, Answers t (readItems fuel t done)) ∧
      ∀ t done, Answers t (readMembers fuel t done) := by
  induction fuel with
  | zero =>
    refine ⟨fun t => ?_, fun t done => ?_, fun t done => ?_⟩
    · rw [readValue]
      exact answers_malformed t
    · rw [readItems]
      exact answers_malformed t
    · rw [readMembers]
      exact answers_malformed t
  | succ fuel ih =>
    obtain ⟨hvalue, hitems, hmembers⟩ := ih
    refine ⟨fun t => ?_, fun t done => ?_, fun t done => ?_⟩
    · cases t with
      | nil =>
        rw [readValue]
        exact answers_malformed []
      | cons c t =>
        rw [readValue]
        split
        · split
          · next s rest hstring =>
            exact .of_ok rfl ((suffix_of_readString hstring).trans (List.suffix_cons c t))
          · exact answers_malformed (c :: t)
        · split
          · exact answers_bracket (hitems _ [])
          · split
            · exact answers_bracket (hmembers _ [])
            · exact answers_readScalar (c :: t)
    · rw [readItems]
      split
      · next e hfailed => exact hfailed ▸ hvalue t
      · next v rest hread =>
        exact answers_further ((hvalue t).ok _ hread) fun u => hitems u (v :: done)
    · rw [readMembers]
      split
      · exact answers_malformed t
      · next key rest hkey =>
        obtain ⟨quoted, hquote, hstring⟩ := Option.bind_eq_some_iff.1 hkey
        have hrest : rest <:+ t :=
          (suffix_of_readString hstring).trans (suffix_of_after? hquote)
        split
        · exact answers_malformed t
        · next behind hcolon =>
          have hbehind : skipBlanks behind <:+ t :=
            (skipBlanks_suffix behind).trans
              (((suffix_of_after? hcolon).trans (skipBlanks_suffix rest)).trans hrest)
          split
          · next e hfailed => exact hfailed ▸ (hvalue _).of_suffix hbehind
          · next v rest' hread =>
            exact answers_further (((hvalue _).ok _ hread).trans hbehind)
              fun u => hmembers u (Value.put key v done)

/-- **Too many digits** are met only where more of them than an integer may have stand in a row. -/
theorem hasLongNumber_of_read {t : Text} (h : read t = .error .tooManyDigits) :
    t.HasLongNumber := by
  unfold read at h
  split at h
  · split at h <;> cases h
  · next e hread =>
    cases h
    exact (((answers_read _).1 _).error _ hread rfl).of_suffix (skipBlanks_suffix t)

end Json

end PredictionMarket
