import PredictionMarket.Proofs.Json
import PredictionMarket.Proofs.Json.Grammar
import PredictionMarket.Proofs.Json.Numeral

/-!
# What is spelled is read

A text that spells a value by the grammar is read as the value. The proof follows the grammar. What
is claimed of a stretch of text leaves open what follows it, what was read before it, and how much
fuel there is, if only twice as much as the stretch is long. Behind a value no number may go on,
since a number ends only where its text does.
-/

namespace PredictionMarket.Json

/-! ## Strings -/

/-- A hexadecimal digit is read as its number. -/
theorem SpellsDigit.hexValue? {d : Nat} {c : CodePoint} (h : SpellsDigit d c) :
    c.hexValue? = some d := by
  unfold CodePoint.hexValue?
  simp only [Bool.and_eq_true, decide_eq_true_eq]
  rcases h with ⟨hd, hc⟩ | ⟨hten, hd, hc | hc⟩
  · rw [if_pos (by omega), hc, Nat.add_sub_cancel_left]
  · rw [if_neg (by omega), if_pos (by omega), hc]
    exact congrArg some (by omega)
  · rw [if_neg (by omega), if_neg (by omega), if_pos (by omega), hc]
    exact congrArg some (by omega)

/-- An escape by a number is read as one piece, which may be half of a pair. -/
theorem SpellsUnit.readString {n : Nat} {t : Text} (h : SpellsUnit n t) (rest : Text)
    (done : List Piece) :
    Json.readString (t ++ rest) done =
      Json.readString rest (⟨Fin.ofNat 0x110000 n, true⟩ :: done) := by
  cases h with
  | @digits a b c d w x y z ha hb hc hd =>
    have hpoint : hexPoint? w x y z =
        some (Fin.ofNat 0x110000 (((a * 16 + b) * 16 + c) * 16 + d)) := by
      simp only [hexPoint?, ha.hexValue?, hb.hexValue?, hc.hexValue?, hd.hexValue?,
        Option.bind_eq_bind, Option.bind_some]
      rfl
    have hmark : CodePoint.ofChar '\\' ≠ CodePoint.ofChar '"' := by decide
    rw [List.cons_append, List.cons_append, readString.eq_def]
    simp only [if_neg hmark, if_true, List.cons_append, List.nil_append, hpoint]

/-- What is written in a string as some code points is read as pieces that come to them, whatever
comes later. -/
def ReadAs (s t : Text) : Prop :=
  ∃ pieces : List Piece,
    (∀ rest done, readString (t ++ rest) done = readString rest (pieces ++ done)) ∧
      ∀ later : List Piece, (pieces.foldl (fun rest p => p.place rest) later).map Piece.point =
        s ++ later.map Piece.point

/-- One text is read after another. -/
theorem ReadAs.append {s s' t t' : Text} (h : ReadAs s t) (h' : ReadAs s' t') :
    ReadAs (s ++ s') (t ++ t') := by
  obtain ⟨pieces, hread, hpoints⟩ := h
  obtain ⟨pieces', hread', hpoints'⟩ := h'
  refine ⟨pieces' ++ pieces, fun rest done => ?_, fun later => ?_⟩
  · rw [List.append_assoc, hread, hread', List.append_assoc]
  · rw [List.foldl_append, hpoints, hpoints', List.append_assoc]

/-- A single piece that is no first half of a pair is its code point. -/
theorem ReadAs.of_piece {p : Piece} {t : Text} (hhigh : p.isHigh = false)
    (hread : ∀ rest done, readString (t ++ rest) done = readString rest (p :: done)) :
    ReadAs [p.point] t := by
  refine ⟨[p], hread, fun later => ?_⟩
  show (p.place later).map Piece.point = _
  cases later with
  | nil => rfl
  | cons q later =>
    simp only [Piece.place, hhigh, Bool.false_and, Bool.false_eq_true, if_false]
    rfl

/-- A code point that is no surrogate is no half of a pair, even if it is escaped. -/
theorem Piece.isHigh_of_whole {c : CodePoint} (h : c.isSurrogate = false) (escaped : Bool) :
    Piece.isHigh ⟨c, escaped⟩ = false := by
  rw [CodePoint.isSurrogate, Bool.and_eq_false_iff, decide_eq_false_iff_not,
    decide_eq_false_iff_not] at h
  simp only [Piece.isHigh, Bool.and_eq_false_iff, decide_eq_false_iff_not]
  omega

/-- The letters of escapes are read as the table says. -/
theorem escapeLetter?_of_mem {l c : Char} (h : (l, c) ∈ escapes) :
    escapeLetter? (CodePoint.ofChar l) = some (CodePoint.ofChar c) := by
  have hall : ∀ e ∈ escapes,
      escapeLetter? (CodePoint.ofChar e.1) = some (CodePoint.ofChar e.2) := by decide
  exact hall _ h

/-- The numbers of the two halves of a code point are read as the code point. -/
theorem readAs_pair {c : CodePoint} {high low : Nat} {t u : Text} (hhigh : SpellsUnit high t)
    (hlow : SpellsUnit low u) (hhighs : 0xD800 ≤ high ∧ high ≤ 0xDBFF)
    (hlows : 0xDC00 ≤ low ∧ low ≤ 0xDFFF)
    (hpair : c.val = 0x10000 + (high - 0xD800) * 0x400 + (low - 0xDC00)) :
    ReadAs [c] (t ++ u) := by
  have hhighval : (Fin.ofNat 0x110000 high).val = high := Nat.mod_eq_of_lt (by omega)
  have hlowval : (Fin.ofNat 0x110000 low).val = low := Nat.mod_eq_of_lt (by omega)
  refine ⟨[⟨Fin.ofNat 0x110000 low, true⟩, ⟨Fin.ofNat 0x110000 high, true⟩],
    fun rest done => ?_, fun later => ?_⟩
  · rw [List.append_assoc, hhigh.readString, hlow.readString]
    rfl
  · -- The second half stays as it is before what comes later, and the first half joins it.
    have hsecond : Piece.place ⟨Fin.ofNat 0x110000 low, true⟩ later =
        ⟨Fin.ofNat 0x110000 low, true⟩ :: later := by
      have hnot : Piece.isHigh ⟨Fin.ofNat 0x110000 low, true⟩ = false := by
        simp only [Piece.isHigh, Bool.and_eq_false_iff, decide_eq_false_iff_not, hlowval]
        omega
      cases later with
      | nil => rfl
      | cons q later => simp only [Piece.place, hnot, Bool.false_and, Bool.false_eq_true, if_false]
    have hhalves : (Piece.isHigh ⟨Fin.ofNat 0x110000 high, true⟩ &&
        Piece.isLow ⟨Fin.ofNat 0x110000 low, true⟩) = true := by
      simp only [Piece.isHigh, Piece.isLow, hhighval, hlowval, Bool.true_and, Bool.and_eq_true,
        decide_eq_true_eq]
      omega
    have hpoint : Fin.ofNat 0x110000
        (0x10000 + (high - 0xD800) * 0x400 + (low - 0xDC00)) = c := by
      rw [← hpair]
      exact Fin.ext (Nat.mod_eq_of_lt c.isLt)
    rw [List.foldl_cons, List.foldl_cons, List.foldl_nil, hsecond, Piece.place, if_pos hhalves,
      List.map_cons, hhighval, hlowval, hpoint]
    rfl

/-- However a code point is written, it is read. -/
theorem SpellsPoint.readAs {c : CodePoint} {t : Text} (h : SpellsPoint c t) : ReadAs [c] t := by
  cases h with
  | plain hmark hbackslash hc hwhole =>
    exact .of_piece (p := ⟨c, false⟩) rfl (readString_plain hmark hbackslash hc)
  | @letter l c h =>
    exact .of_piece (p := ⟨CodePoint.ofChar c, false⟩) rfl
      (readString_letter (escapeLetter?_of_mem h))
  | number h hwhole =>
    have hpoint : Fin.ofNat 0x110000 c.val = c := Fin.ext (Nat.mod_eq_of_lt c.isLt)
    have hread := h.readString
    rw [hpoint] at hread
    exact .of_piece (p := ⟨c, true⟩) (Piece.isHigh_of_whole hwhole true) hread
  | pair hhigh hlow hhighs hlows hpair => exact readAs_pair hhigh hlow hhighs hlows hpair

/-- However a text is written in a string, it is read. -/
theorem SpellsText.readAs {s t : Text} (h : SpellsText s t) : ReadAs s t := by
  induction h with
  | nil => exact ⟨[], fun _ _ => rfl, fun _ => rfl⟩
  | cons hpoint _ ih => exact hpoint.readAs.append ih

/-- A string is read up to its closing mark. -/
theorem SpellsText.readString {s t : Text} (h : SpellsText s t) (rest : Text) :
    Json.readString (t ++ CodePoint.ofChar '"' :: rest) [] = some (s, rest) := by
  obtain ⟨pieces, hread, hpoints⟩ := h.readAs
  have htext : Piece.textOf (pieces ++ []) = s := by
    rw [List.append_nil, Piece.textOf, hpoints, List.map_nil, List.append_nil]
  rw [hread, readString_mark, htext]

/-! ## Tokens -/

/-- What follows a beginning is what is left after it. -/
theorem after?_append (beginning t : Text) : after? beginning (beginning ++ t) = some t := by
  rw [after?, if_pos (List.isPrefixOf_iff_prefix.2 (List.prefix_append _ _)), List.drop_left]

/-- Nothing is left after a beginning that differs in its first code point. -/
theorem after?_of_ne {b c : CodePoint} (h : b ≠ c) (bs t : Text) :
    after? (b :: bs) (c :: t) = none := by
  have hdiffer : (b == c) = false := beq_eq_false_iff_ne.2 h
  rw [after?, List.isPrefixOf, hdiffer]
  rfl

/-- Blanks are passed over. -/
theorem Blanks.skip {b : Text} (h : Blanks b) (t : Text) : skipBlanks (b ++ t) = skipBlanks t := by
  refine List.dropWhile_append_of_pos fun c hc => ?_
  simp only [isBlank, Bool.or_eq_true, decide_eq_true_eq]
  have hblank := h c hc
  omega

/-- A text that begins with a token, which closes no list and no dictionary. -/
def Begins (t : Text) : Prop :=
  ∃ c more, t = c :: more ∧
    isBlank c = false ∧ c ≠ CodePoint.ofChar ']' ∧ c ≠ CodePoint.ofChar '\x7d'

namespace Begins

variable {t : Text}

/-- What begins so goes on with anything. -/
theorem append (h : Begins t) (rest : Text) : Begins (t ++ rest) := by
  obtain ⟨c, more, rfl, hc⟩ := h
  exact ⟨c, more ++ rest, rfl, hc⟩

/-- Nothing is passed over before a token. -/
theorem skip (h : Begins t) : skipBlanks t = t := by
  obtain ⟨c, more, rfl, hc, -⟩ := h
  exact List.dropWhile_cons_of_neg (Bool.eq_false_iff.1 hc)

/-- A list is not over where an item begins. -/
theorem after?_bracket (h : Begins t) : after? "]" t = none := by
  obtain ⟨c, more, rfl, -, hc, -⟩ := h
  exact after?_of_ne hc.symm [] more

/-- A dictionary is not over where a member begins. -/
theorem after?_brace (h : Begins t) : after? "\x7d" t = none := by
  obtain ⟨c, more, rfl, -, -, hc⟩ := h
  exact after?_of_ne hc.symm [] more

/-- A text has at least one code point where something begins. -/
theorem length_pos (h : Begins t) : 0 < t.length := by
  obtain ⟨c, more, rfl, -⟩ := h
  exact Nat.succ_pos _

/-- A digit begins a token. -/
theorem of_digit {c : CodePoint} (hc : c.isAsciiDigit = true) (more : Text) :
    Begins (c :: more) := by
  refine ⟨c, more, rfl, ?_, ?_, ?_⟩
  · rw [CodePoint.isAsciiDigit, Bool.and_eq_true, decide_eq_true_eq, decide_eq_true_eq] at hc
    simp only [isBlank, Bool.or_eq_false_iff, decide_eq_false_iff_not]
    omega
  · rintro rfl
    cases hc
  · rintro rfl
    cases hc

end Begins

/-- What spells something begins with a token. -/
theorem Spells.begins {φ : Phrase} {t : Text} (h : Spells φ t) : Begins t := by
  induction h with
  | null => exact ⟨_, _, rfl, by decide⟩
  | yes => exact ⟨_, _, rfl, by decide⟩
  | no => exact ⟨_, _, rfl, by decide⟩
  | @natural n _ =>
    obtain ⟨first, more, hfirst, hdigit, -⟩ := Text.ofNat_eq_cons n
    rw [hfirst]
    exact .of_digit hdigit more
  | negative _ => exact ⟨_, _, rfl, by decide⟩
  | text h => exact ⟨_, _, rfl, by decide⟩
  | emptyList _ => exact ⟨_, _, rfl, by decide⟩
  | list _ _ _ => exact ⟨_, _, rfl, by decide⟩
  | emptyObject _ => exact ⟨_, _, rfl, by decide⟩
  | object _ _ _ => exact ⟨_, _, rfl, by decide⟩
  | lastItem _ _ ih => exact ih.append _
  | item _ _ _ _ ihv _ => exact (ihv.append _).append _
  | lastMember _ _ _ _ _ _ => exact ⟨_, _, rfl, by decide⟩
  | member _ _ _ _ _ _ _ _ _ => exact ⟨_, _, rfl, by decide⟩

/-! ## Numbers -/

/-- A text at whose beginning no number goes on. -/
def Stops (rest : Text) : Prop :=
  ∀ c ∈ rest.head?, c.isAsciiDigit = false ∧
    c ≠ CodePoint.ofChar '.' ∧ c ≠ CodePoint.ofChar 'e' ∧ c ≠ CodePoint.ofChar 'E'

namespace Stops

/-- A number goes on no further than the text. -/
theorem nil : Stops [] := nofun

/-- A number does not go on with something else. -/
theorem cons {c : CodePoint} (hdigit : c.isAsciiDigit = false)
    (hc : c ≠ CodePoint.ofChar '.' ∧ c ≠ CodePoint.ofChar 'e' ∧ c ≠ CodePoint.ofChar 'E')
    (rest : Text) : Stops (c :: rest) := by
  intro d hd
  obtain rfl := Option.some.inj hd
  exact ⟨hdigit, hc⟩

/-- A number does not go on behind blanks. -/
theorem blanks {b rest : Text} (hb : Blanks b) (h : Stops rest) : Stops (b ++ rest) := by
  rcases b with _ | ⟨c, b⟩
  · exact h
  · have hblank := hb c List.mem_cons_self
    refine .cons ?_ ⟨?_, ?_, ?_⟩ (b ++ rest)
    · rw [CodePoint.isAsciiDigit, Bool.and_eq_false_iff, decide_eq_false_iff_not,
        decide_eq_false_iff_not]
      omega
    all_goals
      rintro rfl
      revert hblank
      decide

variable {rest : Text}

/-- No fraction begins where no number goes on. -/
theorem readFraction (h : Stops rest) : Json.readFraction rest = ([], rest) := by
  rcases rest with _ | ⟨c, rest⟩
  · rfl
  · rw [Json.readFraction, if_neg (h c rfl).2.1]

/-- No exponent begins where no number goes on. -/
theorem readExponent (h : Stops rest) : Json.readExponent rest = ([], rest) := by
  rcases rest with _ | ⟨c, rest⟩
  · rfl
  · obtain ⟨-, -, he, hE⟩ := h c rfl
    simp only [Json.readExponent, he, hE, decide_false, Bool.or_self, Bool.false_eq_true, if_false]

end Stops

/-- The numeral of a natural number is read behind a sign, or without one. -/
theorem readUnsigned_ofNat (sign : Text) {n : Nat} (hn : (Text.ofNat n).length ≤ Text.digitLimit)
    {rest : Text} (h : Stops rest) :
    readUnsigned sign (Text.ofNat n ++ rest) =
      .ok (.int (if sign.isEmpty then n else -n), rest) := by
  have hdigits := readDigits_append (fun _ => Text.isAsciiDigit_of_mem_ofNat (n := n))
    fun c hc => (h c hc).1
  have hvalue := digitsValue_ofNat n
  obtain ⟨first, more, hfirst, -, hzero⟩ := Text.ofNat_eq_cons n
  have hall : (if first = CodePoint.ofChar '0' then ([first], more ++ rest)
      else (first :: more, rest)) = (first :: more, rest) := by
    split
    · next hlead => rw [hzero hlead, List.nil_append]
    · rfl
  rw [hfirst] at hdigits hvalue hn ⊢
  rw [readUnsigned, hdigits]
  simp only [hall, h.readFraction, h.readExponent, List.isEmpty_nil, Bool.and_self, if_true,
    if_neg (Nat.not_lt.2 hn), hvalue]

/-- A digit is none of the characters that are no digits. -/
theorem ofChar_ne_of_digit {c : CodePoint} (hdigit : c.isAsciiDigit = true) {d : Char}
    (hd : (CodePoint.ofChar d).isAsciiDigit = false) : CodePoint.ofChar d ≠ c := by
  rintro rfl
  rw [hd] at hdigit
  cases hdigit

/-- What begins like no word is read as a number. -/
theorem readScalar_eq_readNumber {t : Text} (h : ∀ w ∈ words, after? w.1 t = none) :
    readScalar t = readNumber t := by
  unfold readScalar
  split
  · next result hfound =>
    obtain ⟨⟨word, v⟩, hw, hsome⟩ := List.exists_of_findSome?_eq_some hfound
    have hnone : (after? word t).map (v, ·) = none := congrArg (Option.map (v, ·)) (h _ hw)
    cases hnone.symm.trans hsome
  · rfl

/-- A numeral is read as the number, since no word begins with a digit. -/
theorem readScalar_natural {n : Nat} (hn : (Text.ofNat n).length ≤ Text.digitLimit) {rest : Text}
    (h : Stops rest) : readScalar (Text.ofNat n ++ rest) = .ok (.int n, rest) := by
  obtain ⟨first, more, hfirst, hdigit, -⟩ := Text.ofNat_eq_cons n
  have hword (c : Char) (hc : (CodePoint.ofChar c).isAsciiDigit = false) (cs : Text) :
      after? (CodePoint.ofChar c :: cs) (Text.ofNat n ++ rest) = none := by
    rw [hfirst]
    exact after?_of_ne (ofChar_ne_of_digit hdigit hc) cs _
  rw [readScalar_eq_readNumber]
  · have hread := readUnsigned_ofNat [] hn h
    rw [hfirst] at hread ⊢
    have hsign : CodePoint.ofChar '-' ≠ first := ofChar_ne_of_digit hdigit rfl
    rw [List.cons_append, readNumber, if_neg hsign.symm]
    exact hread
  · simp only [words, List.forall_mem_cons]
    exact ⟨hword 'n' rfl _, hword 't' rfl _, hword 'f' rfl _, hword 'N' rfl _, hword 'I' rfl _,
      hword '-' rfl _, nofun⟩

/-- A numeral behind a minus sign is read as the opposite number. -/
theorem readScalar_negative {n : Nat} (hn : (Text.ofNat n).length ≤ Text.digitLimit) {rest : Text}
    (h : Stops rest) :
    readScalar (CodePoint.ofChar '-' :: Text.ofNat n ++ rest) = .ok (.int (-n), rest) := by
  have hother (c : Char) (hc : CodePoint.ofChar c ≠ CodePoint.ofChar '-') (cs : Text) :
      after? (CodePoint.ofChar c :: cs) (CodePoint.ofChar '-' :: Text.ofNat n ++ rest) = none :=
    after?_of_ne hc cs _
  rw [readScalar_eq_readNumber]
  · rw [List.cons_append, readNumber, if_pos rfl, readUnsigned_ofNat _ hn h]
    rfl
  · simp only [words, List.forall_mem_cons]
    refine ⟨hother 'n' (by decide) _, hother 't' (by decide) _, hother 'f' (by decide) _,
      hother 'N' (by decide) _, hother 'I' (by decide) _, ?_, nofun⟩
    -- The word for minus infinity has the sign, and then a letter where the numeral has a digit.
    obtain ⟨first, more, hfirst, hdigit, -⟩ := Text.ofNat_eq_cons n
    have hletter : CodePoint.ofChar 'I' ≠ first := ofChar_ne_of_digit hdigit rfl
    rw [hfirst]
    exact after?_of_ne hletter _ _

/-! ## Values -/

/-- A stretch of text is read as what it spells, with fuel for twice its length. -/
def Phrase.IsRead : Phrase → Text → Prop
  | .value v, t => ∀ fuel rest, 2 * t.length ≤ fuel → Stops rest →
      readValue fuel (t ++ rest) = .ok (v, rest)
  | .items vs, t => ∀ fuel rest done, 2 * t.length + 1 ≤ fuel →
      readItems fuel (t ++ CodePoint.ofChar ']' :: rest) done =
        .ok (.list (done.reverse ++ vs), rest)
  | .members ms, t => ∀ fuel rest done, 2 * t.length + 1 ≤ fuel →
      readMembers fuel (t ++ CodePoint.ofChar '\x7d' :: rest) done =
        .ok (.object (ms.foldl (fun entries m => Value.put m.1 m.2 entries) done), rest)

/-- What begins with none of the marks of texts, lists and dictionaries is read as a scalar. -/
theorem readValue_scalar {c : CodePoint} (hmark : c ≠ CodePoint.ofChar '"')
    (hbracket : c ≠ CodePoint.ofChar '[') (hbrace : c ≠ CodePoint.ofChar '\x7b') (fuel : Nat)
    (t : Text) : readValue (fuel + 1) (c :: t) = readScalar (c :: t) := by
  rw [readValue, if_neg hmark, if_neg hbracket, if_neg hbrace]

/-- A natural number is read. -/
theorem readValue_natural {n : Nat} (hn : (Text.ofNat n).length ≤ Text.digitLimit) (fuel : Nat)
    {rest : Text} (h : Stops rest) :
    readValue (fuel + 1) (Text.ofNat n ++ rest) = .ok (.int n, rest) := by
  obtain ⟨first, more, hfirst, hdigit, -⟩ := Text.ofNat_eq_cons n
  have hmark : CodePoint.ofChar '"' ≠ first := ofChar_ne_of_digit hdigit rfl
  have hbracket : CodePoint.ofChar '[' ≠ first := ofChar_ne_of_digit hdigit rfl
  have hbrace : CodePoint.ofChar '\x7b' ≠ first := ofChar_ne_of_digit hdigit rfl
  have hread := readScalar_natural hn h
  rw [hfirst] at hread ⊢
  rw [List.cons_append, readValue_scalar hmark.symm hbracket.symm hbrace.symm]
  exact hread

/-- A number behind a minus sign is read. -/
theorem readValue_negative {n : Nat} (hn : (Text.ofNat n).length ≤ Text.digitLimit) (fuel : Nat)
    {rest : Text} (h : Stops rest) :
    readValue (fuel + 1) (CodePoint.ofChar '-' :: Text.ofNat n ++ rest) =
      .ok (.int (-n), rest) := by
  rw [List.cons_append, readValue_scalar (by decide) (by decide) (by decide)]
  exact readScalar_negative hn h

/-- A text between quotation marks is read. -/
theorem readValue_text {s t : Text} (h : SpellsText s t) (fuel : Nat) (rest : Text) :
    readValue (fuel + 1) (marked t ++ rest) = .ok (.text s, rest) := by
  rw [enclosed_append, readValue, if_pos rfl, h.readString]

/-- Blanks between brackets are read as a list without items. -/
theorem readValue_emptyList {between : Text} (hbetween : Blanks between) (fuel : Nat)
    (rest : Text) :
    readValue (fuel + 1) (CodePoint.ofChar '[' :: (between ++ CodePoint.ofChar ']' :: rest)) =
      .ok (.list [], rest) := by
  have hend : after? "]" (CodePoint.ofChar ']' :: rest) = some rest := after?_append "]" rest
  have hskip : skipBlanks (CodePoint.ofChar ']' :: rest) = CodePoint.ofChar ']' :: rest := rfl
  rw [readValue, if_neg (by decide), if_pos rfl, hbetween.skip, hskip, hend]

/-- A bracket before an item is read as the beginning of a list. -/
theorem readValue_list {before t : Text} (hbefore : Blanks before) (ht : Begins t) (fuel : Nat) :
    readValue (fuel + 1) (CodePoint.ofChar '[' :: (before ++ t)) = readItems fuel t [] := by
  rw [readValue, if_neg (by decide), if_pos rfl, hbefore.skip, ht.skip, ht.after?_bracket]

/-- Blanks between braces are read as a dictionary without members. -/
theorem readValue_emptyObject {between : Text} (hbetween : Blanks between) (fuel : Nat)
    (rest : Text) :
    readValue (fuel + 1)
        (CodePoint.ofChar '\x7b' :: (between ++ CodePoint.ofChar '\x7d' :: rest)) =
      .ok (.object [], rest) := by
  have hend : after? "\x7d" (CodePoint.ofChar '\x7d' :: rest) = some rest :=
    after?_append "\x7d" rest
  have hskip : skipBlanks (CodePoint.ofChar '\x7d' :: rest) = CodePoint.ofChar '\x7d' :: rest := rfl
  rw [readValue, if_neg (by decide), if_neg (by decide), if_pos rfl, hbetween.skip, hskip, hend]

/-- A brace before a member is read as the beginning of a dictionary. -/
theorem readValue_object {before t : Text} (hbefore : Blanks before) (ht : Begins t) (fuel : Nat) :
    readValue (fuel + 1) (CodePoint.ofChar '\x7b' :: (before ++ t)) = readMembers fuel t [] := by
  rw [readValue, if_neg (by decide), if_neg (by decide), if_pos rfl, hbefore.skip, ht.skip,
    ht.after?_brace]

/-- An item before a closing bracket is the last. -/
theorem readItems_last {fuel : Nat} {t after rest : Text} {v : Value} (hafter : Blanks after)
    (hv : readValue fuel t = .ok (v, after ++ CodePoint.ofChar ']' :: rest)) (done : List Value) :
    readItems (fuel + 1) t done = .ok (.list (done.reverse ++ [v]), rest) := by
  have hskip : skipBlanks (CodePoint.ofChar ']' :: rest) = CodePoint.ofChar ']' :: rest := rfl
  simp only [readItems, hv, hafter.skip, hskip, if_true, List.reverse_cons]

/-- Another item follows a comma. -/
theorem readItems_comma {fuel : Nat} {t after before rest : Text} {v : Value}
    (hafter : Blanks after) (hbefore : Blanks before) (hrest : Begins rest)
    (hv : readValue fuel t = .ok (v, after ++ CodePoint.ofChar ',' :: (before ++ rest)))
    (done : List Value) : readItems (fuel + 1) t done = readItems fuel rest (v :: done) := by
  have hskip : skipBlanks (CodePoint.ofChar ',' :: (before ++ rest)) =
      CodePoint.ofChar ',' :: (before ++ rest) := rfl
  have hcomma : CodePoint.ofChar ',' ≠ CodePoint.ofChar ']' := by decide
  simp only [readItems, hv, hafter.skip, hskip, if_neg hcomma, if_true, hbefore.skip, hrest.skip]

/-- The key of a member is read up to its closing mark. -/
theorem readKey {k key : Text} (hkey : SpellsText k key) (rest : Text) :
    (after? "\"" (marked key ++ rest)).bind (readString · []) = some (k, rest) := by
  have hmark : after? "\"" (marked key ++ rest) = some (key ++ CodePoint.ofChar '"' :: rest) := by
    rw [enclosed_append]
    exact after?_append "\"" _
  rw [hmark, Option.bind_some, hkey.readString]

/-- A colon stands behind the key of a member. -/
theorem after?_colon {left : Text} (hleft : Blanks left) (rest : Text) :
    after? ":" (skipBlanks (left ++ CodePoint.ofChar ':' :: rest)) = some rest := by
  rw [hleft.skip]
  exact after?_append ":" rest

/-- A member before a closing brace is the last. -/
theorem readMembers_last {fuel : Nat} {k key left right t after rest : Text} {v : Value}
    (hkey : SpellsText k key) (hleft : Blanks left) (hright : Blanks right) (ht : Begins t)
    (hafter : Blanks after)
    (hv : readValue fuel t = .ok (v, after ++ CodePoint.ofChar '\x7d' :: rest))
    (done : List (Value × Value)) :
    readMembers (fuel + 1) (marked key ++ (left ++ CodePoint.ofChar ':' :: (right ++ t))) done =
      .ok (.object (Value.put k v done), rest) := by
  have hskip : skipBlanks (CodePoint.ofChar '\x7d' :: rest) = CodePoint.ofChar '\x7d' :: rest := rfl
  simp only [readMembers, readKey hkey, after?_colon hleft, hright.skip, ht.skip, hv, hafter.skip,
    hskip, if_true]

/-- Another member follows a comma. -/
theorem readMembers_comma {fuel : Nat} {k key left right t after before rest : Text} {v : Value}
    (hkey : SpellsText k key) (hleft : Blanks left) (hright : Blanks right) (ht : Begins t)
    (hafter : Blanks after) (hbefore : Blanks before) (hrest : Begins rest)
    (hv : readValue fuel t = .ok (v, after ++ CodePoint.ofChar ',' :: (before ++ rest)))
    (done : List (Value × Value)) :
    readMembers (fuel + 1) (marked key ++ (left ++ CodePoint.ofChar ':' :: (right ++ t))) done =
      readMembers fuel rest (Value.put k v done) := by
  have hskip : skipBlanks (CodePoint.ofChar ',' :: (before ++ rest)) =
      CodePoint.ofChar ',' :: (before ++ rest) := rfl
  have hcomma : CodePoint.ofChar ',' ≠ CodePoint.ofChar '\x7d' := by decide
  simp only [readMembers, readKey hkey, after?_colon hleft, hright.skip, ht.skip, hv, hafter.skip,
    hskip, if_neg hcomma, if_true, hbefore.skip, hrest.skip]

/-- No number goes on behind an item or a member, where blanks and a mark follow. -/
theorem Stops.blanks_mark {b : Text} (hb : Blanks b) (c : Char)
    (hc : (CodePoint.ofChar c).isAsciiDigit = false ∧ c ≠ '.' ∧ c ≠ 'e' ∧ c ≠ 'E') (rest : Text) :
    Stops (b ++ CodePoint.ofChar c :: rest) :=
  have hne {d : Char} (h : c ≠ d) : CodePoint.ofChar c ≠ CodePoint.ofChar d :=
    fun heq => h (CodePoint.ofChar_injective heq)
  .blanks hb (.cons hc.1 ⟨hne hc.2.1, hne hc.2.2.1, hne hc.2.2.2⟩ rest)

/-- What a text spells is read. -/
theorem Spells.isRead {φ : Phrase} {t : Text} (h : Spells φ t) : φ.IsRead t := by
  -- By induction on the grammar. No phrase is empty, so there is always fuel for one step.
  induction h with
  | null | yes | no =>
    rintro (_ | fuel) rest hfuel -
    · cases hfuel
    · rfl
  | natural hn =>
    have hlength := (Spells.natural hn).begins.length_pos
    rintro (_ | fuel) rest hfuel hrest
    · omega
    · exact readValue_natural hn fuel hrest
  | negative hn =>
    rintro (_ | fuel) rest hfuel hrest
    · cases hfuel
    · exact readValue_negative hn fuel hrest
  | text h =>
    rintro (_ | fuel) rest hfuel -
    · cases hfuel
    · exact readValue_text h fuel rest
  | emptyList hbetween =>
    rintro (_ | fuel) rest hfuel -
    · cases hfuel
    · rw [enclosed_append, readValue_emptyList hbetween]
  | list hbefore hitems ih =>
    rintro (_ | fuel) rest hfuel -
    · cases hfuel
    · rw [length_enclosed, List.length_append] at hfuel
      rw [enclosed_append, List.append_assoc, readValue_list hbefore (hitems.begins.append _),
        ih fuel rest [] (by omega)]
      rfl
  | emptyObject hbetween =>
    rintro (_ | fuel) rest hfuel -
    · cases hfuel
    · rw [enclosed_append, readValue_emptyObject hbetween]
  | object hbefore hmembers ih =>
    rintro (_ | fuel) rest hfuel -
    · cases hfuel
    · rw [length_enclosed, List.length_append] at hfuel
      rw [enclosed_append, List.append_assoc, readValue_object hbefore (hmembers.begins.append _),
        ih fuel rest [] (by omega)]
      rfl
  | lastItem hv hafter ih =>
    rintro (_ | fuel) rest done hfuel
    · cases hfuel
    · rw [List.length_append] at hfuel
      have hitem := ih fuel _ (by omega) (.blanks_mark hafter ']' (by decide) rest)
      rw [List.append_assoc, readItems_last hafter hitem]
  | @item v vs t after before items hv hafter hbefore hrest ihv ihrest =>
    rintro (_ | fuel) rest done hfuel
    · cases hfuel
    · simp only [List.length_append, List.length_cons] at hfuel
      have hitem := ihv fuel _ (by omega) (.blanks_mark hafter ',' (by decide)
        (before ++ (items ++ CodePoint.ofChar ']' :: rest)))
      simp only [List.append_assoc, List.cons_append]
      rw [readItems_comma hafter hbefore (hrest.begins.append _) hitem,
        ihrest fuel rest _ (by omega)]
      simp only [List.reverse_cons, List.append_assoc, List.cons_append, List.nil_append]
  | lastMember hkey hleft hright hv hafter ih =>
    rintro (_ | fuel) rest done hfuel
    · cases hfuel
    · simp only [List.length_append, List.length_cons] at hfuel
      have hmember := ih fuel _ (by omega) (.blanks_mark hafter '\x7d' (by decide) rest)
      simp only [List.append_assoc, List.cons_append]
      rw [readMembers_last hkey hleft hright (hv.begins.append _) hafter hmember]
      rfl
  | @member k v ms key left right t after before members hkey hleft hright hv hafter hbefore hrest
      ihv ihrest =>
    rintro (_ | fuel) rest done hfuel
    · cases hfuel
    · simp only [List.length_append, List.length_cons] at hfuel
      have hmember := ihv fuel _ (by omega) (.blanks_mark hafter ',' (by decide)
        (before ++ (members ++ CodePoint.ofChar '\x7d' :: rest)))
      simp only [List.append_assoc, List.cons_append]
      rw [readMembers_comma hkey hleft hright (hv.begins.append _) hafter hbefore
        (hrest.begins.append _) hmember, ihrest fuel rest _ (by omega)]
      rfl

/-- **What is spelled is read**: a document is read as the value that it spells. -/
theorem Document.read? {v : Value} {t : Text} (h : Document v t) : Json.read? t = some v := by
  obtain ⟨before, s, after, hbefore, hv, hafter, rfl⟩ := h
  have hstops : Stops after := by
    have hstops := Stops.blanks hafter .nil
    rwa [List.append_nil] at hstops
  have hend : skipBlanks after = [] := by
    have hend := hafter.skip []
    rwa [List.append_nil] at hend
  have hvalue := hv.isRead (2 * (before ++ s ++ after).length + 2) after
    (by simp only [List.length_append]; omega) hstops
  have hskip : skipBlanks (before ++ s ++ after) = s ++ after := by
    rw [List.append_assoc, hbefore.skip, (hv.begins.append after).skip]
  rw [Json.read?, Json.read, hskip, hvalue]
  simp only [hend]
  rfl

end PredictionMarket.Json
