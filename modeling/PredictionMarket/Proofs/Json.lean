import PredictionMarket.Json.Reader
import PredictionMarket.Json.Writer
import PredictionMarket.Proofs.Text
import Mathlib.Tactic.SplitIfs

/-!
# Reading what was written

A string that was written can be read back, whatever follows it. So strings and numerals that are
written in a row are told apart by the text that results.
-/

namespace PredictionMarket.Json

/-- The code point of the four digits of its number. -/
theorem hexPoint?_hex {n : Nat} (hn : n < 0x10000) :
    hexPoint? (CodePoint.ofDigit (n / 16 / 16 / 16 % 16)) (CodePoint.ofDigit (n / 16 / 16 % 16))
      (CodePoint.ofDigit (n / 16 % 16)) (CodePoint.ofDigit (n % 16)) =
        some (Fin.ofNat 0x110000 n) := by
  have hvalue : ((n / 16 / 16 / 16 % 16 * 16 + n / 16 / 16 % 16) * 16 + n / 16 % 16) * 16 + n % 16 =
      n := by omega
  simp only [hexPoint?, CodePoint.hexValue?_ofDigit (Nat.mod_lt _ (by decide : 0 < 16)),
    Option.bind_eq_bind, Option.bind_some, hvalue]
  rfl

/-- A text that is read denotes a value. -/
theorem read?_eq_some {t : Text} {v : Value} : read? t = some v ↔ read t = .ok v := by
  rw [read?]
  cases read t with
  | error e => exact ⟨nofun, nofun⟩
  | ok w => simp [Except.toOption]

/-! ## Strings -/

/-- A quotation mark ends a string. -/
theorem readString_mark (t : Text) (done : List Piece) :
    readString (CodePoint.ofChar '"' :: t) done = some (Piece.textOf done, t) := by
  rw [readString.eq_def]
  exact if_pos rfl

/-- A code point that needs no escape is read as it stands. -/
theorem readString_plain {c : CodePoint} (hmark : c ≠ CodePoint.ofChar '"')
    (hbackslash : c ≠ CodePoint.ofChar '\\') (hc : 0x20 ≤ c.val) (t : Text) (done : List Piece) :
    readString (c :: t) done = readString t (⟨c, false⟩ :: done) := by
  rw [readString.eq_def]
  simp only [if_neg hmark, if_neg hbackslash, if_neg (Nat.not_lt.2 hc)]

/-- An escape by a letter is read as what the letter stands for. -/
theorem readString_letter {letter p : CodePoint} (h : escapeLetter? letter = some p) (t : Text)
    (done : List Piece) :
    readString (CodePoint.ofChar '\\' :: letter :: t) done = readString t (⟨p, false⟩ :: done) := by
  have hletter : letter ≠ CodePoint.ofChar 'u' := by
    rintro rfl
    cases h
  have hmark : CodePoint.ofChar '\\' ≠ CodePoint.ofChar '"' := by decide
  rw [readString.eq_def]
  simp only [if_neg hmark, if_true, if_neg hletter, h]

/-- An escape by a number is read as the code point with the number. -/
theorem readString_number {n : Nat} (hn : n < 0x10000) (t : Text) (done : List Piece) :
    readString ("\\u" ++ Text.hex 4 n ++ t) done =
      readString t (⟨Fin.ofNat 0x110000 n, true⟩ :: done) := by
  show readString (CodePoint.ofChar '\\' :: CodePoint.ofChar 'u' :: _ :: _ :: _ :: _ :: t) done = _
  have hmark : CodePoint.ofChar '\\' ≠ CodePoint.ofChar '"' := by decide
  rw [readString.eq_def]
  simp only [if_neg hmark, if_true, hexPoint?_hex hn]

/-- A code point inside a string is read as one piece, which is no half of a pair. -/
theorem readString_stringPoint (c : CodePoint) :
    ∃ p : Piece, p.point = c ∧ p.isHigh = false ∧ ∀ t done,
      readString (stringPoint false c ++ t) done = readString t (p :: done) := by
  have letter {l p : CodePoint} (h : escapeLetter? l = some p) (hp : p.val = c.val) :
      ∃ q : Piece, q.point = c ∧ q.isHigh = false ∧ ∀ t done,
        readString ([CodePoint.ofChar '\\', l] ++ t) done = readString t (q :: done) :=
    ⟨⟨p, false⟩, Fin.ext hp, rfl, readString_letter h⟩
  simp only [stringPoint, Bool.false_and, Bool.false_eq_true, if_false, Bool.or_eq_true,
    decide_eq_true_eq, escapePoint]
  split_ifs with hitself hb ht hn hf hr hlow hsmall
  · rcases hitself with rfl | rfl <;> exact letter (by decide) rfl
  · exact letter (l := CodePoint.ofChar 'b') (p := 8) rfl hb.symm
  · exact letter (l := CodePoint.ofChar 't') (p := 9) rfl ht.symm
  · exact letter (l := CodePoint.ofChar 'n') (p := 10) rfl hn.symm
  · exact letter (l := CodePoint.ofChar 'f') (p := 12) rfl hf.symm
  · exact letter (l := CodePoint.ofChar 'r') (p := 13) rfl hr.symm
  · have hpoint : Fin.ofNat 0x110000 c.val = c := Fin.ext (Nat.mod_eq_of_lt c.isLt)
    refine ⟨⟨c, true⟩, rfl, ?_, fun t done => ?_⟩
    · simp only [Piece.isHigh, Bool.true_and, Bool.and_eq_false_iff, decide_eq_false_iff_not]
      omega
    · rw [readString_number hsmall, hpoint]
  · omega
  · rw [not_or] at hitself
    exact ⟨⟨c, false⟩, rfl, rfl, readString_plain hitself.1 hitself.2 (Nat.not_lt.1 hlow)⟩

/-- Pieces none of which is the first half of a pair are one code point each. -/
theorem Piece.textOf_eq {done : List Piece} (h : ∀ p ∈ done, p.isHigh = false) :
    textOf done = (done.map Piece.point).reverse := by
  have hplace (p : Piece) (hp : p.isHigh = false) (rest : List Piece) :
      p.place rest = p :: rest := by
    cases rest <;> simp [place, hp]
  have hfold (rest : List Piece) :
      done.foldl (fun rest p => p.place rest) rest = done.reverse ++ rest := by
    induction done generalizing rest with
    | nil => rfl
    | cons p done ih =>
      rw [List.foldl_cons, hplace p (h p List.mem_cons_self),
        ih fun q hq => h q (List.mem_cons_of_mem _ hq)]
      simp
  rw [textOf, hfold, List.append_nil, List.map_reverse]

/-- The rest of a string is read onto the pieces that were read before. -/
theorem readString_flatMap (t rest : Text) {done : List Piece}
    (h : ∀ p ∈ done, p.isHigh = false) :
    readString (t.flatMap (stringPoint false) ++ CodePoint.ofChar '"' :: rest) done =
      some ((done.map Piece.point).reverse ++ t, rest) := by
  induction t generalizing done with
  | nil =>
    rw [List.flatMap_nil, List.nil_append, readString_mark, Piece.textOf_eq h, List.append_nil]
  | cons c t ih =>
    obtain ⟨p, rfl, hp, hread⟩ := readString_stringPoint c
    have hdone : ∀ q ∈ p :: done, q.isHigh = false := by
      intro q hq
      rcases List.mem_cons.1 hq with rfl | hq
      · exact hp
      · exact h q hq
    rw [List.flatMap_cons, List.append_assoc, hread, ih hdone]
    simp

/-- Strings can be told from all that may follow them. -/
theorem string_append_inj {t u r s : Text} (h : string false t ++ r = string false u ++ s) :
    t = u ∧ r = s := by
  simp only [string, List.cons_append, List.append_assoc, List.nil_append,
    List.cons.injEq, true_and] at h
  have hread := congrArg (readString · []) h
  simp only [readString_flatMap _ _ (List.forall_mem_nil _)] at hread
  simpa using hread

/-- What a code point is written as can be encoded if the code point can. -/
theorem hasSurrogate_stringPoint {c : CodePoint} (h : c.isSurrogate = false) :
    (stringPoint false c).hasSurrogate = false := by
  have hescape : Text.hasSurrogate "\\u" = false := by decide
  have hbackslash : CodePoint.isSurrogate (CodePoint.ofChar '\\') = false := by decide
  simp only [stringPoint, escapePoint, Bool.false_and, Bool.false_eq_true, if_false]
  split_ifs with hitself hb ht hn hf hr hlow hsmall
  · simp [Text.hasSurrogate, hbackslash, h]
  · rfl
  · rfl
  · rfl
  · rfl
  · rfl
  · rw [Text.hasSurrogate_append, hescape, Text.hasSurrogate_hex, Bool.or_false]
  · omega
  · simp [Text.hasSurrogate, h]

/-- A string can be encoded if the text in it can. -/
theorem hasSurrogate_string {t : Text} (h : t.hasSurrogate = false) :
    (string false t).hasSurrogate = false := by
  have hmark : CodePoint.isSurrogate (CodePoint.ofChar '"') = false := by decide
  unfold Text.hasSurrogate at h ⊢
  simp only [string, List.any_cons, List.any_append, List.any_flatMap, hmark, List.any_nil,
    Bool.or_false, Bool.false_or, List.any_eq_false, List.any_eq_true] at h ⊢
  intro c hc hany
  have hpoint := hasSurrogate_stringPoint (Bool.eq_false_iff.2 (h c hc))
  exact absurd (List.any_eq_true.2 hany) (Bool.eq_false_iff.1 hpoint)

end PredictionMarket.Json
