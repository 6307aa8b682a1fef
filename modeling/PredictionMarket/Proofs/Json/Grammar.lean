import PredictionMarket.Proofs.Text
import PredictionMarket.Value.Writable
import Mathlib.Data.List.Induction
import Mathlib.Data.List.Nodup

/-!
# The grammar of JSON

What a text spells, whoever reads it. Blanks may stand around every token. A code point of a string
stands for itself or is escaped: by a letter, by its number, or by the numbers of its two halves in
UTF-16. The members of a dictionary come in any order, and a key that occurs again takes the later
value. A numeral has no more digits than can be read. Numbers with a fraction or an exponent and
escapes of a lone surrogate are left out, since no message needs them.
-/

namespace PredictionMarket.Json

/-- Blanks are space, tabulator, line feed and carriage return. -/
def Blanks (t : Text) : Prop :=
  ∀ c ∈ t, c.val = 0x20 ∨ c.val = 0x09 ∨ c.val = 0x0A ∨ c.val = 0x0D

/-! ## Strings -/

/-- A hexadecimal digit of a number below sixteen, in either case. -/
def SpellsDigit (d : Nat) (c : CodePoint) : Prop :=
  (d < 10 ∧ c.val = 0x30 + d) ∨
    (10 ≤ d ∧ d < 16 ∧ (c.val = 0x41 + (d - 10) ∨ c.val = 0x61 + (d - 10)))

/-- A number of sixteen bits is escaped by its four hexadecimal digits. -/
inductive SpellsUnit : Nat → Text → Prop where
  /-- The digits stand after a backslash and a letter. -/
  | digits {a b c d : Nat} {w x y z : CodePoint} (ha : SpellsDigit a w) (hb : SpellsDigit b x)
      (hc : SpellsDigit c y) (hd : SpellsDigit d z) :
      SpellsUnit (((a * 16 + b) * 16 + c) * 16 + d)
        [CodePoint.ofChar '\\', CodePoint.ofChar 'u', w, x, y, z]

/-- The letters that escape a code point, each with the one that it stands for. -/
def escapes : List (Char × Char) :=
  [('"', '"'), ('\\', '\\'), ('/', '/'), ('b', '\x08'), ('f', '\x0c'), ('n', '\n'), ('r', '\r'),
    ('t', '\t')]

/-- How a code point is written inside a string. -/
inductive SpellsPoint : CodePoint → Text → Prop where
  /-- It stands for itself, unless it is a mark, a control character or a surrogate. -/
  | plain {c : CodePoint} (hmark : c ≠ CodePoint.ofChar '"')
      (hbackslash : c ≠ CodePoint.ofChar '\\') (hc : 0x20 ≤ c.val)
      (hwhole : c.isSurrogate = false) : SpellsPoint c [c]
  /-- It is escaped by a letter. -/
  | letter {l c : Char} (h : (l, c) ∈ escapes) :
      SpellsPoint (CodePoint.ofChar c) [CodePoint.ofChar '\\', CodePoint.ofChar l]
  /-- It is escaped by its number. -/
  | number {c : CodePoint} {t : Text} (h : SpellsUnit c.val t) (hwhole : c.isSurrogate = false) :
      SpellsPoint c t
  /-- It is escaped by the numbers of its two halves. -/
  | pair {c : CodePoint} {high low : Nat} {t u : Text} (hhigh : SpellsUnit high t)
      (hlow : SpellsUnit low u) (hhighs : 0xD800 ≤ high ∧ high ≤ 0xDBFF)
      (hlows : 0xDC00 ≤ low ∧ low ≤ 0xDFFF)
      (hpair : c.val = 0x10000 + (high - 0xD800) * 0x400 + (low - 0xDC00)) : SpellsPoint c (t ++ u)

/-- How a text is written inside a string, code point after code point. -/
inductive SpellsText : Text → Text → Prop where
  /-- Nothing is written as nothing. -/
  | nil : SpellsText [] []
  /-- One code point is written after another. -/
  | cons {c : CodePoint} {s t u : Text} (hpoint : SpellsPoint c t) (hrest : SpellsText s u) :
      SpellsText (c :: s) (t ++ u)

/-! ## Values -/

/-- A text between two marks. -/
def enclosed (first last : Char) (t : Text) : Text :=
  CodePoint.ofChar first :: t ++ [CodePoint.ofChar last]

/-- What follows a text between marks follows the second mark. -/
theorem enclosed_append (first last : Char) (t rest : Text) :
    enclosed first last t ++ rest =
      CodePoint.ofChar first :: (t ++ CodePoint.ofChar last :: rest) := by
  simp only [enclosed, List.cons_append, List.append_assoc, List.nil_append]

/-- Two marks are two code points. -/
theorem length_enclosed (first last : Char) (t : Text) :
    (enclosed first last t).length = t.length + 2 := by
  simp only [enclosed, List.cons_append, List.length_cons, List.length_append, List.length_nil]

/-- A text between quotation marks, as keys of dictionaries stand. -/
abbrev marked (t : Text) : Text :=
  enclosed '"' '"' t

/-- The entries of a dictionary, from its members in the order in which they are written. -/
def entriesOf (members : List (Text × Value)) : List (Value × Value) :=
  members.foldl (fun entries m => Value.put m.1 m.2 entries) []

/-- A key that is not there is put at the end. -/
theorem put_of_not_mem {key : Text} {ms : List (Text × Value)} (h : key ∉ ms.map Prod.fst)
    (v : Value) :
    Value.put key v (ms.map fun m => (.text m.1, m.2)) =
      (ms ++ [(key, v)]).map fun m => (.text m.1, m.2) := by
  induction ms with
  | nil => rfl
  | cons m ms ih =>
    rw [List.map_cons, List.mem_cons, not_or] at h
    rw [List.map_cons, Value.put, if_neg (Ne.symm h.1)]
    exact congrArg _ (ih h.2)

/-- Members with different keys are the entries of their dictionary. -/
theorem entriesOf_eq {ms : List (Text × Value)} (h : (ms.map Prod.fst).Nodup) :
    entriesOf ms = ms.map fun m => (.text m.1, m.2) := by
  induction ms using List.reverseRecOn with
  | nil => rfl
  | append_singleton ms m ih =>
    rw [List.map_append, List.nodup_append] at h
    obtain ⟨hms, -, hdisjoint⟩ := h
    have hm : m.1 ∉ ms.map Prod.fst := fun hmem => hdisjoint _ hmem _ List.mem_cons_self rfl
    have hfold : entriesOf (ms ++ [m]) = Value.put m.1 m.2 (entriesOf ms) := by
      rw [entriesOf, List.foldl_append]
      rfl
    rw [hfold, ih hms, put_of_not_mem hm]

/-- What a stretch of a text can spell. -/
inductive Phrase where
  /-- A value. -/
  | value (v : Value)
  /-- The items of a list, of which there is one at least. -/
  | items (vs : List Value)
  /-- The members of a dictionary, of which there is one at least. -/
  | members (ms : List (Text × Value))

/-- What a text spells, from its first token to its last, or to the blanks behind the last item. -/
inductive Spells : Phrase → Text → Prop where
  /-- The absent value is a word. -/
  | null : Spells (.value .null) "null"
  /-- The truth values are words. -/
  | yes : Spells (.value (.bool true)) "true"
  /-- The truth values are words. -/
  | no : Spells (.value (.bool false)) "false"
  /-- A natural number is its decimal numeral. -/
  | natural {n : Nat} (h : (Text.ofNat n).length ≤ Text.digitLimit) :
      Spells (.value (.int n)) (Text.ofNat n)
  /-- A minus sign may stand before the numeral, also before zero. -/
  | negative {n : Nat} (h : (Text.ofNat n).length ≤ Text.digitLimit) :
      Spells (.value (.int (-n))) (CodePoint.ofChar '-' :: Text.ofNat n)
  /-- A text stands between quotation marks. -/
  | text {s t : Text} (h : SpellsText s t) : Spells (.value (.text s)) (marked t)
  /-- A list without items. -/
  | emptyList {between : Text} (hbetween : Blanks between) :
      Spells (.value (.list [])) (enclosed '[' ']' between)
  /-- A list of items. -/
  | list {vs : List Value} {before t : Text} (hbefore : Blanks before) (h : Spells (.items vs) t) :
      Spells (.value (.list vs)) (enclosed '[' ']' (before ++ t))
  /-- A dictionary without members. -/
  | emptyObject {between : Text} (hbetween : Blanks between) :
      Spells (.value (.object [])) (enclosed '\x7b' '\x7d' between)
  /-- A dictionary of members. -/
  | object {ms : List (Text × Value)} {before t : Text} (hbefore : Blanks before)
      (h : Spells (.members ms) t) :
      Spells (.value (.object (entriesOf ms))) (enclosed '\x7b' '\x7d' (before ++ t))
  /-- The last item of a list. -/
  | lastItem {v : Value} {t after : Text} (hv : Spells (.value v) t) (hafter : Blanks after) :
      Spells (.items [v]) (t ++ after)
  /-- An item, and the items after it. -/
  | item {v : Value} {vs : List Value} {t after before rest : Text} (hv : Spells (.value v) t)
      (hafter : Blanks after) (hbefore : Blanks before) (hrest : Spells (.items vs) rest) :
      Spells (.items (v :: vs)) (t ++ (after ++ CodePoint.ofChar ',' :: before) ++ rest)
  /-- The last member of a dictionary. -/
  | lastMember {k : Text} {v : Value} {key left right t after : Text} (hkey : SpellsText k key)
      (hleft : Blanks left) (hright : Blanks right) (hv : Spells (.value v) t)
      (hafter : Blanks after) :
      Spells (.members [(k, v)])
        (marked key ++ (left ++ CodePoint.ofChar ':' :: right) ++ t ++ after)
  /-- A member, and the members after it. -/
  | member {k : Text} {v : Value} {ms : List (Text × Value)}
      {key left right t after before rest : Text} (hkey : SpellsText k key) (hleft : Blanks left)
      (hright : Blanks right) (hv : Spells (.value v) t) (hafter : Blanks after)
      (hbefore : Blanks before) (hrest : Spells (.members ms) rest) :
      Spells (.members ((k, v) :: ms))
        (marked key ++ (left ++ CodePoint.ofChar ':' :: right) ++ t ++
          (after ++ CodePoint.ofChar ',' :: before) ++ rest)

/-- A text that spells one value, with blanks around it. -/
def Document (v : Value) (t : Text) : Prop :=
  ∃ before s after, Blanks before ∧ Spells (.value v) s ∧ Blanks after ∧ t = before ++ s ++ after

/-! ## What is spelled can be encoded -/

/-- Blanks can be encoded. -/
theorem Blanks.hasSurrogate {t : Text} (h : Blanks t) : t.hasSurrogate = false := by
  refine List.any_eq_false.2 fun c hc => ?_
  simp only [CodePoint.isSurrogate, Bool.and_eq_true, decide_eq_true_eq]
  have hblank := h c hc
  omega

/-- A character in front changes nothing about surrogates. -/
theorem hasSurrogate_cons (c : Char) (t : Text) :
    Text.hasSurrogate (CodePoint.ofChar c :: t) = Text.hasSurrogate t := by
  have hchar : Text.ofString (String.ofList [c]) = [CodePoint.ofChar c] := by simp [Text.ofString]
  have happend := Text.hasSurrogate_append (Text.ofString (String.ofList [c])) t
  rw [Text.hasSurrogate_ofString, hchar, Bool.false_or] at happend
  exact happend

/-- A hexadecimal digit is no surrogate. -/
theorem SpellsDigit.isSurrogate {d : Nat} {c : CodePoint} (h : SpellsDigit d c) :
    c.isSurrogate = false := by
  rw [CodePoint.isSurrogate, Bool.and_eq_false_iff, decide_eq_false_iff_not,
    decide_eq_false_iff_not]
  unfold SpellsDigit at h
  omega

/-- An escape by a number can be encoded. -/
theorem SpellsUnit.hasSurrogate {n : Nat} {t : Text} (h : SpellsUnit n t) :
    t.hasSurrogate = false := by
  cases h with
  | digits ha hb hc hd =>
    rw [hasSurrogate_cons, hasSurrogate_cons]
    simp [Text.hasSurrogate, ha.isSurrogate, hb.isSurrogate, hc.isSurrogate, hd.isSurrogate]

/-- What a code point is written as can be encoded. -/
theorem SpellsPoint.hasSurrogate {c : CodePoint} {t : Text} (h : SpellsPoint c t) :
    t.hasSurrogate = false := by
  cases h with
  | plain _ _ _ hwhole => simp [Text.hasSurrogate, hwhole]
  | letter _ =>
    rw [hasSurrogate_cons, hasSurrogate_cons]
    rfl
  | number h _ => exact h.hasSurrogate
  | pair hhigh hlow _ _ _ =>
    rw [Text.hasSurrogate_append, hhigh.hasSurrogate, hlow.hasSurrogate, Bool.or_false]

/-- What a text is written as can be encoded. -/
theorem SpellsText.hasSurrogate {s t : Text} (h : SpellsText s t) : t.hasSurrogate = false := by
  induction h with
  | nil => rfl
  | cons hpoint _ ih =>
    rw [Text.hasSurrogate_append, hpoint.hasSurrogate, ih, Bool.or_false]

/-- Two marks around a text change nothing about surrogates. -/
theorem hasSurrogate_enclosed (first last : Char) (t : Text) :
    (enclosed first last t).hasSurrogate = t.hasSurrogate := by
  have hlast : Text.hasSurrogate [CodePoint.ofChar last] = false := hasSurrogate_cons last []
  rw [enclosed, List.cons_append, hasSurrogate_cons, Text.hasSurrogate_append, hlast,
    Bool.or_false]

/-- What spells something can be encoded. -/
theorem Spells.hasSurrogate {φ : Phrase} {t : Text} (h : Spells φ t) : t.hasSurrogate = false := by
  induction h with
  | null => exact Text.hasSurrogate_ofString "null"
  | yes => exact Text.hasSurrogate_ofString "true"
  | no => exact Text.hasSurrogate_ofString "false"
  | @natural n _ => exact Text.hasSurrogate_ofInt n
  | @negative n _ => exact (hasSurrogate_cons '-' _).trans (Text.hasSurrogate_ofInt n)
  | text h => rw [hasSurrogate_enclosed, h.hasSurrogate]
  | emptyList hbetween => rw [hasSurrogate_enclosed, hbetween.hasSurrogate]
  | list hbefore _ ih =>
    rw [hasSurrogate_enclosed, Text.hasSurrogate_append, hbefore.hasSurrogate, ih, Bool.or_false]
  | emptyObject hbetween => rw [hasSurrogate_enclosed, hbetween.hasSurrogate]
  | object hbefore _ ih =>
    rw [hasSurrogate_enclosed, Text.hasSurrogate_append, hbefore.hasSurrogate, ih, Bool.or_false]
  | lastItem _ hafter ih => rw [Text.hasSurrogate_append, ih, hafter.hasSurrogate, Bool.or_false]
  | item _ hafter hbefore _ ihv ihrest =>
    simp only [Text.hasSurrogate_append, hasSurrogate_cons, hafter.hasSurrogate,
      hbefore.hasSurrogate, ihv, ihrest, Bool.or_false]
  | lastMember hkey hleft hright _ hafter ih =>
    simp only [Text.hasSurrogate_append, hasSurrogate_cons, hasSurrogate_enclosed,
      hkey.hasSurrogate, hleft.hasSurrogate, hright.hasSurrogate, hafter.hasSurrogate, ih,
      Bool.or_false]
  | member hkey hleft hright _ hafter hbefore _ ihv ihrest =>
    simp only [Text.hasSurrogate_append, hasSurrogate_cons, hasSurrogate_enclosed,
      hkey.hasSurrogate, hleft.hasSurrogate, hright.hasSurrogate, hafter.hasSurrogate,
      hbefore.hasSurrogate, ihv, ihrest, Bool.or_false]

/-! ## What can be spelled -/

/-- A value that some text spells. -/
def Spellable (v : Value) : Prop :=
  ∃ t, Spells (.value v) t

/-- No blanks are blanks. -/
theorem Blanks.nil : Blanks [] :=
  nofun

/-- A number below sixteen has a digit. -/
theorem exists_spellsDigit {d : Nat} (hd : d < 16) : ∃ c, SpellsDigit d c := by
  rcases Nat.lt_or_ge d 10 with hsmall | hlarge
  · exact ⟨⟨0x30 + d, by omega⟩, .inl ⟨hsmall, rfl⟩⟩
  · exact ⟨⟨0x61 + (d - 10), by omega⟩, .inr ⟨hlarge, hd, .inr rfl⟩⟩

/-- A number of sixteen bits has an escape. -/
theorem exists_spellsUnit {n : Nat} (hn : n < 0x10000) : ∃ t, SpellsUnit n t := by
  obtain ⟨w, hw⟩ := exists_spellsDigit (d := n / 0x1000) (by omega)
  obtain ⟨x, hx⟩ := exists_spellsDigit (d := n / 0x100 % 16) (by omega)
  obtain ⟨y, hy⟩ := exists_spellsDigit (d := n / 0x10 % 16) (by omega)
  obtain ⟨z, hz⟩ := exists_spellsDigit (d := n % 16) (by omega)
  have hvalue :
      ((n / 0x1000 * 16 + n / 0x100 % 16) * 16 + n / 0x10 % 16) * 16 + n % 16 = n := by omega
  have hunit := SpellsUnit.digits hw hx hy hz
  rw [hvalue] at hunit
  exact ⟨_, hunit⟩

/-- A code point that is no surrogate can be written in a string. -/
theorem exists_spellsPoint {c : CodePoint} (hwhole : c.isSurrogate = false) :
    ∃ t, SpellsPoint c t := by
  by_cases hmark : c = CodePoint.ofChar '"'
  · subst hmark
    exact ⟨_, .letter (l := '"') (c := '"') (by decide)⟩
  by_cases hbackslash : c = CodePoint.ofChar '\\'
  · subst hbackslash
    exact ⟨_, .letter (l := '\\') (c := '\\') (by decide)⟩
  rcases Nat.lt_or_ge c.val 0x20 with hlow | hc
  · obtain ⟨t, ht⟩ := exists_spellsUnit (n := c.val) (by omega)
    exact ⟨t, .number ht hwhole⟩
  · exact ⟨[c], .plain hmark hbackslash hc hwhole⟩

/-- Whether a code point can stand for itself in a string. -/
def needsNoEscape (c : CodePoint) : Bool :=
  c ≠ CodePoint.ofChar '"' && c ≠ CodePoint.ofChar '\\' && 0x20 ≤ c.val && !c.isSurrogate

/-- A text of code points that stand for themselves is written as it is. -/
theorem SpellsText.plain {s : Text} (h : s.all needsNoEscape = true) : SpellsText s s := by
  induction s with
  | nil => exact .nil
  | cons c s ih =>
    rw [List.all_cons, Bool.and_eq_true] at h
    obtain ⟨hc, hs⟩ := h
    simp only [needsNoEscape, Bool.and_eq_true, decide_eq_true_eq, Bool.not_eq_true'] at hc
    obtain ⟨⟨⟨hmark, hbackslash⟩, hlow⟩, hwhole⟩ := hc
    exact .cons (.plain hmark hbackslash hlow hwhole) (ih hs)

/-- A text without surrogates can be written in a string. -/
theorem exists_spellsText {s : Text} (h : s.hasSurrogate = false) : ∃ t, SpellsText s t := by
  induction s with
  | nil => exact ⟨[], .nil⟩
  | cons c s ih =>
    rw [Text.hasSurrogate, List.any_cons, Bool.or_eq_false_iff] at h
    obtain ⟨hc, hs⟩ := h
    obtain ⟨t, ht⟩ := exists_spellsPoint hc
    obtain ⟨u, hu⟩ := ih hs
    exact ⟨t ++ u, .cons ht hu⟩

namespace Spellable

/-- The absent value can be spelled. -/
theorem null : Spellable .null := ⟨_, .null⟩

/-- Truth values can be spelled. -/
theorem bool (b : Bool) : Spellable (.bool b) := by
  cases b with
  | true => exact ⟨_, .yes⟩
  | false => exact ⟨_, .no⟩

/-- Integers that can be written can be spelled. -/
theorem int {n : Int} (h : Text.canWrite n = true) : Spellable (.int n) := by
  have hdigits := of_decide_eq_true h
  obtain ⟨k, rfl | rfl⟩ := n.eq_nat_or_neg
  · exact ⟨_, .natural hdigits⟩
  · rw [Int.natAbs_neg] at hdigits
    exact ⟨_, .negative hdigits⟩

/-- A text without surrogates can be spelled. -/
theorem text {s : Text} (h : s.hasSurrogate = false) : Spellable (.text s) := by
  obtain ⟨t, ht⟩ := exists_spellsText h
  exact ⟨_, .text ht⟩

/-- A list of values that can be spelled can be spelled. -/
theorem list {vs : List Value} (h : ∀ v ∈ vs, Spellable v) : Spellable (.list vs) := by
  rcases vs with _ | ⟨v, vs⟩
  · exact ⟨_, .emptyList .nil⟩
  have hitems : ∃ t, Spells (.items (v :: vs)) t := by
    induction vs generalizing v with
    | nil =>
      obtain ⟨t, ht⟩ := h v List.mem_cons_self
      exact ⟨_, .lastItem ht .nil⟩
    | cons w vs ih =>
      obtain ⟨t, ht⟩ := h v List.mem_cons_self
      obtain ⟨rest, hrest⟩ := ih w fun x hx => h x (List.mem_cons_of_mem v hx)
      exact ⟨_, .item ht .nil .nil hrest⟩
  obtain ⟨t, ht⟩ := hitems
  exact ⟨_, .list .nil ht⟩

/-- A dictionary can be spelled if its keys hold no surrogate and its values can be spelled. -/
theorem object {ms : List (Text × Value)}
    (h : ∀ m ∈ ms, m.1.hasSurrogate = false ∧ Spellable m.2) :
    Spellable (.object (entriesOf ms)) := by
  rcases ms with _ | ⟨m, ms⟩
  · exact ⟨_, .emptyObject .nil⟩
  have hmembers : ∃ t, Spells (.members (m :: ms)) t := by
    induction ms generalizing m with
    | nil =>
      obtain ⟨hkey, t, ht⟩ := h m List.mem_cons_self
      obtain ⟨key, hkey⟩ := exists_spellsText hkey
      exact ⟨_, .lastMember hkey .nil .nil ht .nil⟩
    | cons n ms ih =>
      obtain ⟨hkey, t, ht⟩ := h m List.mem_cons_self
      obtain ⟨key, hkey⟩ := exists_spellsText hkey
      obtain ⟨rest, hrest⟩ := ih n fun x hx => h x (List.mem_cons_of_mem m hx)
      exact ⟨_, .member hkey .nil .nil ht .nil .nil hrest⟩
  obtain ⟨t, ht⟩ := hmembers
  exact ⟨_, .object .nil ht⟩

end Spellable

/-- A value that can be spelled is spelled by a document that has octets. -/
theorem Spellable.exists_document {v : Value} (h : Spellable v) :
    ∃ t octets, Document v t ∧ t.utf8? = some octets := by
  obtain ⟨t, ht⟩ := h
  refine ⟨t, t.flatMap CodePoint.utf8, ⟨[], t, [], .nil, ht, .nil, ?_⟩, ?_⟩
  · rw [List.nil_append, List.append_nil]
  · simp only [Text.utf8?, ht.hasSurrogate, Bool.false_eq_true, if_false]

end PredictionMarket.Json
