import PredictionMarket.Proofs.Canonical.Meaning
import PredictionMarket.Proofs.Json.Completeness

/-!
# The canonical text of a value is read back

What is written of a value in the compact layout is spelled by the grammar, with no blanks between
the tokens, and what it spells is the value as JSON has it. So it is read as this value.
-/

namespace PredictionMarket

namespace Json

/-! ## Blanks between tokens -/

/-- Where in a JSON text a code point stands. -/
inductive Place where
  /-- Not in a string. -/
  | outside
  /-- In a string. -/
  | inside
  /-- In a string, behind a backslash. -/
  | escaped
  deriving DecidableEq

/-- The place behind a code point. -/
def Place.next : Place → CodePoint → Place
  | .outside, c => if c = CodePoint.ofChar '"' then .inside else .outside
  | .inside, c =>
    if c = CodePoint.ofChar '"' then .outside
    else if c = CodePoint.ofChar '\\' then .escaped
    else .inside
  | .escaped, _ => .inside

/-- Whether a blank stands in a text that begins at a given place, and not in a string there. -/
def hasBlank : Place → Text → Bool
  | _, [] => false
  | place, c :: t => (place == .outside && isBlank c) || hasBlank (place.next c) t

/-- Inside a string, a code point without a meaning of its own leads nowhere else. -/
theorem hasBlank_plain {c : CodePoint} (hmark : c ≠ CodePoint.ofChar '"')
    (hbackslash : c ≠ CodePoint.ofChar '\\') (rest : Text) :
    hasBlank .inside (c :: rest) = hasBlank .inside rest := by
  rw [hasBlank, Place.next, if_neg hmark, if_neg hbackslash]
  rfl

/-- A hexadecimal digit has no meaning of its own in a string. -/
theorem SpellsDigit.ne_mark {d : Nat} {c : CodePoint} (h : SpellsDigit d c) :
    c ≠ CodePoint.ofChar '"' ∧ c ≠ CodePoint.ofChar '\\' := by
  have hmark : (CodePoint.ofChar '"').val = 0x22 := rfl
  have hbackslash : (CodePoint.ofChar '\\').val = 0x5C := rfl
  unfold SpellsDigit at h
  constructor
  · rintro rfl
    omega
  · rintro rfl
    omega

/-- An escape by a number ends inside the string. -/
theorem SpellsUnit.hasBlank {n : Nat} {t : Text} (h : SpellsUnit n t) (rest : Text) :
    Json.hasBlank .inside (t ++ rest) = Json.hasBlank .inside rest := by
  cases h with
  | @digits a b c d w x y z ha hb hc hd =>
    have hescape : Json.hasBlank .inside
        (CodePoint.ofChar '\\' :: CodePoint.ofChar 'u' :: w :: x :: y :: z :: rest) =
          Json.hasBlank .inside (w :: x :: y :: z :: rest) := rfl
    simp only [List.cons_append, List.nil_append, hescape, hasBlank_plain ha.ne_mark.1 ha.ne_mark.2,
      hasBlank_plain hb.ne_mark.1 hb.ne_mark.2, hasBlank_plain hc.ne_mark.1 hc.ne_mark.2,
      hasBlank_plain hd.ne_mark.1 hd.ne_mark.2]

/-- However a code point is written, it ends inside the string. -/
theorem SpellsPoint.hasBlank {c : CodePoint} {t : Text} (h : SpellsPoint c t) (rest : Text) :
    Json.hasBlank .inside (t ++ rest) = Json.hasBlank .inside rest := by
  cases h with
  | plain hmark hbackslash _ _ => exact hasBlank_plain hmark hbackslash rest
  | letter _ => rfl
  | number h _ => exact h.hasBlank rest
  | pair hhigh hlow _ _ _ => rw [List.append_assoc, hhigh.hasBlank, hlow.hasBlank]

/-- However a text is written in a string, it ends inside the string. -/
theorem SpellsText.hasBlank {s t : Text} (h : SpellsText s t) (rest : Text) :
    Json.hasBlank .inside (t ++ rest) = Json.hasBlank .inside rest := by
  induction h with
  | nil => rfl
  | cons hpoint _ ih => rw [List.append_assoc, hpoint.hasBlank, ih]

/-- A text without blanks between its tokens, which ends outside of strings. -/
def Solid (t : Text) : Prop :=
  ∀ rest, hasBlank .outside (t ++ rest) = hasBlank .outside rest

namespace Solid

variable {t u : Text}

/-- There is no blank in a text that is solid. -/
theorem hasBlank_eq_false (h : Solid t) : hasBlank .outside t = false := by
  have hend := h []
  rwa [List.append_nil] at hend

/-- Two solid texts in a row are solid. -/
theorem append (ht : Solid t) (hu : Solid u) : Solid (t ++ u) := by
  intro rest
  rw [List.append_assoc, ht, hu]

/-- A text without blanks and quotation marks is solid. -/
theorem of_forall (h : ∀ c ∈ t, isBlank c = false ∧ c ≠ CodePoint.ofChar '"') : Solid t := by
  intro rest
  induction t with
  | nil => rfl
  | cons c t ih =>
    obtain ⟨⟨hblank, hmark⟩, ht⟩ := List.forall_mem_cons.1 h
    rw [List.cons_append, hasBlank, Place.next, if_neg hmark, hblank, ih ht]
    rfl

/-- A code point that is no blank and no quotation mark is solid. -/
theorem single {c : CodePoint} (hblank : isBlank c = false) (hmark : c ≠ CodePoint.ofChar '"') :
    Solid [c] :=
  of_forall (List.forall_mem_singleton.2 ⟨hblank, hmark⟩)

/-- A numeral is solid. -/
theorem ofInt (n : Int) : Solid (Text.ofInt n) := by
  refine .of_forall fun c hc => ?_
  have hmark : (CodePoint.ofChar '"').val = 0x22 := rfl
  rcases Text.mem_ofInt hc with hdigit | rfl
  · rw [CodePoint.isAsciiDigit, Bool.and_eq_true, decide_eq_true_eq, decide_eq_true_eq] at hdigit
    constructor
    · simp only [isBlank, Bool.or_eq_false_iff, decide_eq_false_iff_not]
      omega
    · rintro rfl
      omega
  · decide

/-- A string with its quotation marks is solid. -/
theorem marked {s : Text} (h : SpellsText s t) : Solid (marked t) := by
  intro rest
  rw [enclosed_append]
  exact h.hasBlank _

/-- A solid text between two brackets is solid. -/
theorem enclosed {first last : Char} (hfirst : Solid [CodePoint.ofChar first])
    (hlast : Solid [CodePoint.ofChar last]) (ht : Solid t) : Solid (enclosed first last t) :=
  (hfirst.append ht).append hlast

/-- Solid texts with commas between them are solid. -/
theorem join {parts : List Text} (h : ∀ part ∈ parts, Solid part) :
    Solid (Text.join compact.comma parts) := by
  have hcomma : Solid [CodePoint.ofChar ','] := .single (by decide) (by decide)
  exact Text.join_of_append (fun _ => rfl) append hcomma h

end Solid

/-! ## Strings -/

/-- A digit in lower case spells its number. -/
theorem spellsDigit_ofDigit {d : Nat} (hd : d < 16) : SpellsDigit d (CodePoint.ofDigit d) := by
  have hall : ∀ d : Fin 16, d.val < 10 ∧ (CodePoint.ofDigit d).val = 0x30 + d.val ∨
      10 ≤ d.val ∧ (CodePoint.ofDigit d).val = 0x61 + (d.val - 10) := by decide
  exact (hall ⟨d, hd⟩).imp_right fun h => ⟨h.1, hd, .inr h.2⟩

/-- The four digits of a number of sixteen bits spell it. -/
theorem spellsUnit_hex {n : Nat} (hn : n < 0x10000) : SpellsUnit n ("\\u" ++ Text.hex 4 n) := by
  have hdigit (m : Nat) : SpellsDigit (m % 16) (CodePoint.ofDigit (m % 16)) :=
    spellsDigit_ofDigit (Nat.mod_lt _ (by decide))
  have hvalue : ((n / 16 / 16 / 16 % 16 * 16 + n / 16 / 16 % 16) * 16 + n / 16 % 16) * 16 + n % 16 =
      n := by omega
  have hunit := SpellsUnit.digits (hdigit (n / 16 / 16 / 16)) (hdigit (n / 16 / 16))
    (hdigit (n / 16)) (hdigit n)
  rw [hvalue] at hunit
  exact hunit

/-- A code point inside a string is spelled by what is written of it. -/
theorem spellsPoint_stringPoint {c : CodePoint} (h : c.isSurrogate = false) :
    SpellsPoint c (stringPoint false c) := by
  have letter {l p : Char} (hescape : (l, p) ∈ escapes)
      (hp : c.val = (CodePoint.ofChar p).val) :
      SpellsPoint c [CodePoint.ofChar '\\', CodePoint.ofChar l] := by
    rw [Fin.ext hp]
    exact .letter hescape
  simp only [stringPoint, Bool.false_and, Bool.false_eq_true, if_false, Bool.or_eq_true,
    decide_eq_true_eq, escapePoint]
  split_ifs with hitself hb ht hn hf hr hlow hsmall
  · rcases hitself with rfl | rfl
    · exact letter (l := '"') (p := '"') (by decide) rfl
    · exact letter (l := '\\') (p := '\\') (by decide) rfl
  · exact letter (l := 'b') (p := '\x08') (by decide) hb
  · exact letter (l := 't') (p := '\t') (by decide) ht
  · exact letter (l := 'n') (p := '\n') (by decide) hn
  · exact letter (l := 'f') (p := '\x0c') (by decide) hf
  · exact letter (l := 'r') (p := '\r') (by decide) hr
  · exact .number (spellsUnit_hex hsmall) h
  · omega
  · rw [not_or] at hitself
    exact .plain hitself.1 hitself.2 (Nat.not_lt.1 hlow) h

/-- A text without surrogates is spelled by what is written of it in a string. -/
theorem spellsText_flatMap {s : Text} (h : s.hasSurrogate = false) :
    SpellsText s (s.flatMap (stringPoint false)) := by
  induction s with
  | nil => exact .nil
  | cons c s ih =>
    rw [Text.hasSurrogate, List.any_cons, Bool.or_eq_false_iff] at h
    rw [List.flatMap_cons]
    exact .cons (spellsPoint_stringPoint h.1) (ih h.2)

/-! ## Values -/

/-- A text that spells a value and has no blanks between its tokens. -/
structure Renders (v : Value) (t : Text) : Prop where
  /-- It spells the value. -/
  spells : Spells (.value v) t
  /-- It has no blanks. -/
  solid : Solid t

/-- Items with commas between them are spelled if there is one at least. -/
theorem spells_join {v : Value} {vs : List Value} {part : Text} {parts : List Text}
    (h : List.Forall₂ Renders (v :: vs) (part :: parts)) :
    Spells (.items (v :: vs)) (Text.join compact.comma (part :: parts)) := by
  induction vs generalizing v part parts with
  | nil =>
    obtain ⟨hpart, hnone⟩ := List.forall₂_cons.1 h
    obtain rfl := List.forall₂_nil_left_iff.1 hnone
    have hlast := Spells.lastItem hpart.spells .nil
    rw [List.append_nil] at hlast
    rwa [Text.join, List.intercalate_singleton]
  | cons w vs ih =>
    obtain ⟨hpart, hrest⟩ := List.forall₂_cons.1 h
    obtain ⟨next, parts, -, -, rfl⟩ := List.forall₂_cons_left_iff.1 hrest
    rw [Text.join, List.intercalate_cons_cons, ← Text.join]
    exact .item hpart.spells .nil .nil (ih hrest)

/-- What renders some values is solid. -/
theorem forall_solid {vs : List Value} {parts : List Text} (h : List.Forall₂ Renders vs parts) :
    ∀ part ∈ parts, Solid part := by
  induction h with
  | nil => exact List.forall_mem_nil _
  | cons hpart _ ih => exact List.forall_mem_cons.2 ⟨hpart.solid, ih⟩

/-- A list of items is rendered in brackets. -/
theorem renders_list {vs : List Value} {parts : List Text} (h : List.Forall₂ Renders vs parts) :
    Renders (.list vs) ("[" ++ Text.join compact.comma parts ++ "]") := by
  have hsolid : Solid (enclosed '[' ']' (Text.join compact.comma parts)) :=
    .enclosed (.single (by decide) (by decide)) (.single (by decide) (by decide))
      (.join (forall_solid h))
  refine ⟨?_, hsolid⟩
  cases h with
  | nil => exact .emptyList .nil
  | cons hpart hrest => exact .list .nil (spells_join (.cons hpart hrest))

/-- A key before a colon and a text that renders a value is solid. -/
theorem solid_member {part : Text × Text} (hkey : part.1.hasSurrogate = false)
    (hvalue : Solid part.2) : Solid (member compact part) := by
  have hcolon : Solid [CodePoint.ofChar ':'] := .single (by decide) (by decide)
  exact ((Solid.marked (spellsText_flatMap hkey)).append hcolon).append hvalue

/-- The members of a dictionary with commas between them are spelled if there is one at least. -/
theorem spells_members {m : Text × Value} {ms : List (Text × Value)} {part : Text × Text}
    {parts : List (Text × Text)} (h : Table.Alike Renders (m :: ms) (part :: parts))
    (hkeys : ∀ m' ∈ m :: ms, m'.1.hasSurrogate = false) :
    Spells (.members (m :: ms))
      (Text.join compact.comma ((part :: parts).map (member compact))) := by
  induction ms generalizing m part parts with
  | nil =>
    obtain ⟨⟨hkey, hpart⟩, hnone⟩ := List.forall₂_cons.1 h
    obtain rfl := List.forall₂_nil_left_iff.1 hnone
    have hspelled := spellsText_flatMap (hkeys m List.mem_cons_self)
    have hlast := Spells.lastMember hspelled .nil .nil hpart.spells .nil
    rw [List.append_nil] at hlast
    rw [List.map_singleton, Text.join, List.intercalate_singleton, member, ← hkey]
    exact hlast
  | cons n ms ih =>
    obtain ⟨⟨hkey, hpart⟩, hrest⟩ := List.forall₂_cons.1 h
    obtain ⟨next, parts, -, -, rfl⟩ := List.forall₂_cons_left_iff.1 hrest
    obtain ⟨hclear, hclears⟩ := List.forall_mem_cons.1 hkeys
    rw [List.map_cons, List.map_cons, Text.join, List.intercalate_cons_cons, ← Text.join,
      ← List.map_cons, member, ← hkey]
    exact .member (spellsText_flatMap hclear) .nil .nil hpart.spells .nil .nil (ih hrest hclears)

/-- The members of a dictionary are solid. -/
theorem forall_solid_member {ms : List (Text × Value)} {parts : List (Text × Text)}
    (h : Table.Alike Renders ms parts) (hkeys : ∀ m ∈ ms, m.1.hasSurrogate = false) :
    ∀ t ∈ parts.map (member compact), Solid t := by
  refine List.forall_mem_map.2 ?_
  induction h with
  | nil => exact List.forall_mem_nil _
  | cons hpart _ ih =>
    obtain ⟨hclear, hclears⟩ := List.forall_mem_cons.1 hkeys
    rw [hpart.1] at hclear
    exact List.forall_mem_cons.2 ⟨solid_member hclear hpart.2.solid, ih hclears⟩

/-- A dictionary with different keys is rendered in braces. -/
theorem renders_object {ms : List (Text × Value)} {parts : List (Text × Text)}
    (h : Table.Alike Renders ms parts) (hkeys : ∀ m ∈ ms, m.1.hasSurrogate = false)
    (hnodup : (ms.map Prod.fst).Nodup) :
    Renders (.object (Value.keyed ms))
      ("\x7b" ++ Text.join compact.comma (parts.map (member compact)) ++ "\x7d") := by
  have hsolid : Solid
      (enclosed '\x7b' '\x7d' (Text.join compact.comma (parts.map (member compact)))) :=
    .enclosed (.single (by decide) (by decide)) (.single (by decide) (by decide))
      (.join (forall_solid_member h hkeys))
  refine ⟨?_, hsolid⟩
  rw [Value.keyed, ← entriesOf_eq hnodup]
  cases h with
  | nil => exact .emptyObject .nil
  | cons hpart hrest => exact .object .nil (spells_members (.cons hpart hrest) hkeys)

/-! ## Writing -/

section Writing

variable {layout : Layout} {R : Value → Text → Prop}

/-- Items are written if each of them is, and their texts have what each of these has. -/
theorem exists_writeItems? {items : List Value}
    (h : ∀ v ∈ items, ∃ t, write? layout v = some t ∧ R v t) :
    ∃ parts, writeItems? layout items = some parts ∧ List.Forall₂ R items parts := by
  induction items with
  | nil => exact ⟨[], rfl, .nil⟩
  | cons v items ih =>
    obtain ⟨⟨t, hwritten, ht⟩, hrest⟩ := List.forall_mem_cons.1 h
    obtain ⟨parts, hparts, hall⟩ := ih hrest
    exact ⟨t :: parts, by rw [writeItems?, hwritten, hparts]; rfl, .cons ht hall⟩

/-- Members are written if each of their values is, and the texts have what each of these has. -/
theorem exists_writeEntries? {ms : List (Text × Value)}
    (h : ∀ m ∈ ms, ∃ t, write? layout m.2 = some t ∧ R m.2 t) :
    ∃ parts, writeEntries? layout (Value.keyed ms) = some parts ∧ Table.Alike R ms parts := by
  induction ms with
  | nil => exact ⟨[], rfl, .nil⟩
  | cons m ms ih =>
    obtain ⟨⟨t, hwritten, ht⟩, hrest⟩ := List.forall_mem_cons.1 h
    obtain ⟨parts, hparts, hall⟩ := ih hrest
    rw [Value.keyed] at hparts
    refine ⟨(m.1, t) :: parts, ?_, .cons ⟨rfl, ht⟩ hall⟩
    rw [Value.keyed, List.map_cons, writeEntries?, hwritten, hparts]
    rfl

end Writing

end Json

namespace Value

/-- What can be encoded is written as a text that renders it as JSON has it. -/
theorem Encodable.exists_renders {v : Value} (h : v.Encodable) :
    ∃ t, Json.write? Json.compact v = some t ∧ Json.Renders v.plain t := by
  induction h with
  | null => exact ⟨_, rfl, .null, fun _ => rfl⟩
  | bool b =>
    cases b with
    | true => exact ⟨_, rfl, .yes, fun _ => rfl⟩
    | false => exact ⟨_, rfl, .no, fun _ => rfl⟩
  | @int n hshort =>
    refine ⟨_, if_pos hshort, ?_, .ofInt n⟩
    have hdigits := of_decide_eq_true hshort
    cases n with
    | ofNat n => exact .natural hdigits
    | negSucc n => exact .negative hdigits
  | text h =>
    have hspelled := Json.spellsText_flatMap h
    exact ⟨_, rfl, .text hspelled, .marked hspelled⟩
  | list _ ih | tuple _ ih =>
    obtain ⟨parts, hparts, hall⟩ := Json.exists_writeItems? ih
    refine ⟨_, by rw [Json.write?, hparts]; rfl, ?_⟩
    rw [plain, plainItems_eq_map]
    exact Json.renders_list (List.forall₂_map_left_iff.2 hall)
  | @object members hkeys _ ih =>
    obtain ⟨parts, hparts, hall⟩ :=
      Json.exists_writeEntries? (R := fun v t => Json.Renders v.plain t) ih
    refine ⟨_, by rw [Json.write?, hparts]; rfl, ?_⟩
    have halike : Table.Alike Json.Renders (plainMembers (keyed members)) parts := by
      rw [plainMembers_keyed]
      exact List.forall₂_map_left_iff.2 hall
    rw [plain]
    refine Json.renders_object (Table.alike_ofList halike) (fun m hm => ?_) (Table.nodup_keys _)
    have hplain := Table.mem_of_mem_ofList hm
    rw [plainMembers_keyed] at hplain
    obtain ⟨m, hmember, rfl⟩ := List.mem_map.1 hplain
    exact hkeys m hmember

/-- The members stand in the order of their keys. -/
example : Json.write? Json.compact (record [("b", .int 1), ("a", ofInts [1, 2])]) =
    some "\x7b\"a\":[1,2],\"b\":1\x7d" :=
  rfl

end Value

end PredictionMarket
