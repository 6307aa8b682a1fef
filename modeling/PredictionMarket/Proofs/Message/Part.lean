import PredictionMarket.Proofs.Guard
import PredictionMarket.Proofs.Message.Numeral
import PredictionMarket.Proofs.Message.Wire

/-!
# Parts of messages are read as they are written

Each part is accepted exactly if it is in range and in its wire form, and is read as what it says.
One statement for each reader gives both directions: what is accepted is in range, and what is in
range is accepted. A part is read at a field of a dictionary, or as an item of a list.
-/

namespace PredictionMarket.Part

open Wire

/-! ## Fields -/

/-- A key is looked up among the members. -/
theorem lookup_entries (key : Text) (ms : Members) :
    Value.lookup key (entries ms) = ms.lookup key := by
  induction ms with
  | nil => rfl
  | cons m ms ih =>
    have hsame : (key == m.1) = decide (m.1 = key) := by
      rw [Bool.eq_iff_iff, beq_iff_eq, decide_eq_true_eq, eq_comm]
    rw [entries, List.map_cons, Value.lookup, List.lookup_cons, hsame]
    by_cases h : m.1 = key
    · rw [if_pos h, decide_eq_true h]
    · rw [if_neg h, decide_eq_false h]
      exact ih

/-- A field is what is there, or what stands for it where it is left out. -/
theorem fieldOr_entries {ms : Members} {key : String} {missing v : Value} :
    fieldOr (entries ms) key missing = v ↔
      Gives ms key v ∨ (Lacks ms key ∧ v = missing) := by
  unfold fieldOr Gives Lacks
  rw [lookup_entries]
  cases ms.lookup (Text.ofString key) with
  | none => simp [eq_comm]
  | some w => simp

/-- A field is what is there, and null where it is left out. -/
theorem field_entries {ms : Members} {key : String} {v : Value} :
    field (entries ms) key = v ↔ Gives ms key v ∨ (Lacks ms key ∧ v = .null) :=
  fieldOr_entries

/-- A field that is not null is there. -/
theorem field_eq {ms : Members} {key : String} {v : Value} (h : v ≠ .null) :
    field (entries ms) key = v ↔ Gives ms key v := by
  rw [field_entries]
  exact or_iff_left fun hnull => h hnull.2

/-- A numeral is there. -/
theorem field_eq_numeral {ms : Members} {key : String} {n : Int} :
    field (entries ms) key = .numeral n ↔ Gives ms key (.numeral n) :=
  field_eq (show Value.text (Text.ofInt n) ≠ .null from nofun)

/-- A list is there. -/
theorem field_eq_list {ms : Members} {key : String} {vs : List Value} :
    field (entries ms) key = .list vs ↔ Gives ms key (.list vs) :=
  field_eq (show Value.list vs ≠ .null from nofun)

/-- An optional field that says nothing is null for the reader. -/
theorem field_eq_null {ms : Members} {key : String} :
    field (entries ms) key = .null ↔ Omits ms key := by
  rw [field_entries, Omits, and_iff_left rfl, or_comm]

/-- The keys of a dictionary are texts if it has members. -/
theorem textKeys_entries (ms : Members) : Value.textKeys (entries ms) = ms.map Prod.fst := by
  induction ms with
  | nil => rfl
  | cons m ms ih => exact congrArg (m.1 :: ·) ih

/-- Entries all of whose keys are texts are those of some members. -/
theorem exists_entries {es : List (Value × Value)}
    (h : (Value.textKeys es).length = es.length) : ∃ ms, es = entries ms := by
  induction es with
  | nil => exact ⟨[], rfl⟩
  | cons e es ih =>
    have hle : (Value.textKeys es).length ≤ es.length := List.length_filterMap_le _ es
    obtain ⟨k, v⟩ := e
    cases k with
    | text k =>
      obtain ⟨ms, rfl⟩ := ih (Nat.succ.inj h)
      exact ⟨(k, v) :: ms, rfl⟩
    | _ =>
      have hshort : (Value.textKeys es).length = es.length + 1 := h
      omega

/-- A dictionary is accepted if its keys are texts. -/
theorem readObject_eq_ok {name : Text} {v : Value} {es : List (Value × Value)} :
    readObject name v = .ok es ↔ ∃ ms, v = dictionary ms ∧ es = entries ms := by
  constructor
  · intro h
    unfold readObject at h
    split at h
    · split at h
      · next hkeys =>
        obtain ⟨ms, rfl⟩ := exists_entries hkeys
        cases h
        exact ⟨ms, rfl, rfl⟩
      · cases h
    · cases h
  · rintro ⟨ms, rfl, rfl⟩
    refine if_pos ?_
    rw [textKeys_entries, List.length_map, entries, List.length_map]

/-- A dictionary with one key is accepted, and read as the key and what is under it. -/
theorem readForm_eq_ok {name key : Text} {v body : Value} :
    readForm name v = .ok (key, body) ↔ v = dictionary [(key, body)] := by
  rw [readForm, bind_eq_ok]
  constructor
  · rintro ⟨es, hes, hone⟩
    obtain ⟨ms, rfl, rfl⟩ := readObject_eq_ok.1 hes
    split at hone
    · next hentries =>
      cases hone
      rw [dictionary, hentries]
      rfl
    · cases hone
  · rintro rfl
    exact ⟨_, readObject_eq_ok.2 ⟨_, rfl, rfl⟩, rfl⟩

/-! ## Texts and small numbers -/

/-- A text is accepted if it is short. -/
theorem readText_eq_ok {name t : Text} {v : Value} :
    readText name v = .ok t ↔ IsShort t ∧ v = .text t := by
  constructor
  · intro h
    unfold readText at h
    split at h
    · split at h
      · cases h
      · next hshort =>
        cases h
        exact ⟨Nat.not_lt.1 hshort, rfl⟩
    · cases h
  · rintro ⟨hshort, rfl⟩
    exact if_neg (Nat.not_lt.2 hshort)

/-- A name is accepted if it is short, and not empty. -/
theorem readName_eq_ok {name t : Text} {v : Value} :
    readName name v = .ok t ↔ (t ≠ [] ∧ IsShort t) ∧ v = .text t := by
  constructor
  · intro h
    unfold readName at h
    split at h
    · cases h
    · next hne =>
      obtain ⟨hshort, rfl⟩ := readText_eq_ok.1 h
      exact ⟨⟨fun hempty => hne (congrArg Value.text hempty), hshort⟩, rfl⟩
  · rintro ⟨⟨hne, hshort⟩, rfl⟩
    rcases t with _ | ⟨c, t⟩
    · exact absurd rfl hne
    · exact readText_eq_ok.2 ⟨hshort, rfl⟩

/-- A small number is accepted. -/
theorem readSmall_eq_ok {name : Text} {n : Int} {v : Value} :
    readSmall name v = .ok n ↔ IsSmall n ∧ v = .int n := by
  constructor
  · intro h
    unfold readSmall at h
    split at h
    · split at h
      · next hsmall =>
        cases h
        exact ⟨hsmall, rfl⟩
      · cases h
    · cases h
  · rintro ⟨hsmall, rfl⟩
    exact if_pos hsmall

/-- A truth value is accepted. -/
theorem readBool_eq_ok {name : Text} {b : Bool} {v : Value} :
    readBool name v = .ok b ↔ v = .bool b := by
  constructor
  · intro h
    unfold readBool at h
    split at h
    · cases h
      rfl
    · cases h
  · rintro rfl
    rfl

/-! ## Numerals -/

/-- Only a text is read as a numeral. -/
theorem text_of_readNumeral {name : Text} {bound n : Int} {v : Value}
    (h : readNumeral name bound v = .ok n) : ∃ t, v = .text t := by
  cases v with
  | text t => exact ⟨t, rfl⟩
  | _ => cases h

/-- A numeral is accepted if it is not above the bound. -/
theorem readNumeral_eq_ok {name : Text} {bound n : Int} (hbound : bound ≤ maxAmount) {v : Value} :
    readNumeral name bound v = .ok n ↔ (0 ≤ n ∧ n ≤ bound) ∧ v = .numeral n := by
  constructor
  · intro h
    obtain ⟨t, rfl⟩ := text_of_readNumeral h
    obtain ⟨hrange, htext, -⟩ := readNumeral_text_eq_ok.1 h
    exact ⟨hrange, congrArg Value.text htext⟩
  · rintro ⟨⟨hn, hmost⟩, rfl⟩
    apply readNumeral_text_eq_ok.2
    refine ⟨⟨hn, hmost⟩, rfl, ?_⟩
    obtain ⟨k, rfl⟩ := Int.eq_ofNat_of_zero_le hn
    have hlength : (Text.ofNat k).length ≤ 39 := by
      refine Text.length_ofNat_le (by decide) ?_
      unfold maxAmount at hbound
      omega
    rw [Text.ofInt_natCast, Text.digitLimit]
    omega

/-- A number of 64 bits is at most the largest. -/
theorem isTime_iff {n : Int} : IsTime n ↔ 0 ≤ n ∧ n ≤ maxTime := by
  unfold IsTime maxTime
  omega

/-- A number of 128 bits is at most the largest. -/
theorem isAmount_iff {n : Int} : IsAmount n ↔ 0 ≤ n ∧ n ≤ maxAmount := by
  unfold IsAmount maxAmount
  omega

/-- A numeral of a time is accepted. -/
theorem readNumeral_time {name : Text} {n : Int} {v : Value} :
    readNumeral name maxTime v = .ok n ↔ IsTime n ∧ v = .numeral n := by
  rw [readNumeral_eq_ok (by decide), isTime_iff]

/-- A numeral of an amount is accepted. -/
theorem readNumeral_amount {name : Text} {n : Int} {v : Value} :
    readNumeral name maxAmount v = .ok n ↔ IsAmount n ∧ v = .numeral n := by
  rw [readNumeral_eq_ok (Int.le_refl _), isAmount_iff]

/-- What is there if it succeeds, succeeds if it is there. -/
theorem map_some_eq_ok {ε α : Type} {x : Except ε α} {o : Option α} :
    x.map some = .ok o ↔ ∃ a, o = some a ∧ x = .ok a := by
  cases x with
  | error e => exact ⟨nofun, nofun⟩
  | ok b =>
    constructor
    · intro h
      cases h
      exact ⟨b, rfl, rfl⟩
    · rintro ⟨a, rfl, h⟩
      cases h
      rfl

/-- An optional number is accepted if a numeral is, and none is read where nothing is said. -/
theorem readOptional_field {name : Text} {bound : Int} {P : Int → Prop}
    (hread : ∀ n v, readNumeral name bound v = .ok n ↔ P n ∧ v = .numeral n) {ms : Members}
    {key : String} {o : Option Int} :
    readOptional name bound (field (entries ms) key) = .ok o ↔
      (∀ n ∈ o, P n) ∧ SaysOptional ms key o := by
  constructor
  · intro h
    unfold readOptional at h
    split at h
    · next hnull =>
      cases h
      exact ⟨nofun, field_eq_null.1 hnull⟩
    · obtain ⟨n, rfl, hn⟩ := map_some_eq_ok.1 h
      obtain ⟨hrange, hgives⟩ := (hread _ _).1 hn
      exact ⟨fun _ hk => Option.some.inj hk ▸ hrange, field_eq_numeral.1 hgives⟩
  · rintro ⟨hrange, hsays⟩
    cases o with
    | none => rw [field_eq_null.2 hsays, readOptional]
    | some n =>
      rw [field_eq_numeral.2 hsays]
      exact map_some_eq_ok.2 ⟨n, rfl, (hread n _).2 ⟨hrange n rfl, rfl⟩⟩

/-! ## Lists -/

/-- The items of a list are accepted if each of them is. -/
theorem readItems_eq_ok {α : Type} {name : Text} {read : Text → Value → Except PartError α}
    {P : α → Prop} {R : α → Value → Prop} (hread : ∀ name v a, read name v = .ok a ↔ P a ∧ R a v)
    {items : List Value} {results : List α} :
    readItems name read items = .ok results ↔
      (∀ a ∈ results, P a) ∧ List.Forall₂ R results items := by
  have hitems : items.zipIdx.map Prod.fst = items := List.zipIdx_map_fst 0 items
  rw [readItems, mapM_eq_ok, ← List.forall₂_and_left]
  constructor
  · intro h
    rw [← hitems, List.forall₂_map_right_iff]
    exact (h.imp fun _ _ hok => (hread _ _ _).1 hok).flip
  · intro h
    rw [← hitems, List.forall₂_map_right_iff] at h
    exact (h.imp fun _ _ hok => (hread _ _ _).2 hok).flip

/-- Items that are written one by one are the list of what is written. -/
theorem forall₂_written {α : Type} {write : α → Value} {as : List α} {vs : List Value} :
    List.Forall₂ (fun a v => v = write a) as vs ↔ vs = as.map write := by
  induction as generalizing vs with
  | nil => rw [List.forall₂_nil_left_iff, List.map_nil]
  | cons a as ih =>
    rw [List.forall₂_cons_left_iff, List.map_cons]
    constructor
    · rintro ⟨v, rest, rfl, hrest, rfl⟩
      rw [ih.1 hrest]
    · rintro rfl
      exact ⟨_, _, rfl, ih.2 rfl, rfl⟩

/-- The items of a list are accepted if each is what some item is written as. -/
theorem readItems_written {α : Type} {name : Text} {read : Text → Value → Except PartError α}
    {P : α → Prop} {write : α → Value}
    (hread : ∀ name v a, read name v = .ok a ↔ P a ∧ v = write a) {items : List Value}
    {results : List α} :
    readItems name read items = .ok results ↔ (∀ a ∈ results, P a) ∧ items = results.map write := by
  rw [readItems_eq_ok hread, forall₂_written]

/-- A list of texts is accepted if each of them is short, and none is read where nothing is said. -/
theorem readTexts_field {name : Text} {ms : Members} {key : String} {ts : List Text} :
    readTexts name (field (entries ms) key) = .ok ts ↔
      (∀ t ∈ ts, IsShort t) ∧ SaysTexts ms key ts := by
  have hitems (items : List Value) : readItems name readText items = .ok ts ↔
      (∀ t ∈ ts, IsShort t) ∧ items = ts.map .text :=
    readItems_written fun _ _ _ => readText_eq_ok
  constructor
  · intro h
    unfold readTexts at h
    split at h
    · next hnull =>
      cases h
      exact ⟨nofun, .inr ⟨rfl, field_eq_null.1 hnull⟩⟩
    · next items hlist =>
      obtain ⟨hshort, rfl⟩ := (hitems items).1 h
      exact ⟨hshort, .inl (field_eq_list.1 hlist)⟩
    · cases h
  · rintro ⟨hshort, hgives | ⟨rfl, homits⟩⟩
    · have hlist : field (entries ms) key = .list (ts.map .text) := field_eq_list.2 hgives
      rw [hlist]
      exact (hitems _).2 ⟨hshort, rfl⟩
    · rw [field_eq_null.2 homits, readTexts]

/-! ## Numbers and names in fields -/

/-- A time in a field is accepted. -/
theorem readTime_field {name : Text} {ms : Members} {key : String} {n : Int} :
    readNumeral name maxTime (field (entries ms) key) = .ok n ↔
      IsTime n ∧ Gives ms key (.numeral n) := by
  rw [readNumeral_time, field_eq_numeral]

/-- An amount in a field is accepted. -/
theorem readAmount_field {name : Text} {ms : Members} {key : String} {n : Int} :
    readNumeral name maxAmount (field (entries ms) key) = .ok n ↔
      IsAmount n ∧ Gives ms key (.numeral n) := by
  rw [readNumeral_amount, field_eq_numeral]

/-- A small number in a field is accepted. -/
theorem readSmall_field {name : Text} {ms : Members} {key : String} {n : Int} :
    readSmall name (field (entries ms) key) = .ok n ↔ IsSmall n ∧ Gives ms key (.int n) := by
  rw [readSmall_eq_ok, field_eq (show Value.int n ≠ .null from nofun)]

/-- A name in a field is accepted. -/
theorem readName_field {name t : Text} {ms : Members} {key : String} :
    readName name (field (entries ms) key) = .ok t ↔
      (t ≠ [] ∧ IsShort t) ∧ Gives ms key (.text t) := by
  rw [readName_eq_ok, field_eq (show Value.text t ≠ .null from nofun)]

/-! ## Fields that may be left out -/

/-- A truth value in a field is accepted, and is false where nothing is said. -/
theorem readBool_field {name : Text} {ms : Members} {key : String} {b : Bool} :
    readBool name (fieldOr (entries ms) key (.bool false)) = .ok b ↔ SaysFlag ms key b := by
  rw [readBool_eq_ok, fieldOr_entries, Value.bool.injEq, and_comm, SaysFlag]

/-- A text in a field is accepted if it is short, and is empty where nothing is said. -/
theorem readText_field {name t : Text} {ms : Members} {key : String} :
    readText name (fieldOr (entries ms) key (.text [])) = .ok t ↔
      IsShort t ∧ SaysText ms key t := by
  rw [readText_eq_ok, fieldOr_entries, Value.text.injEq, and_comm (a := Lacks ms key),
    SaysText]

/-! ## Tags -/

/-- A signed number is accepted if its magnitude and its multiplier are amounts. -/
theorem readNumber_eq_ok {name : Text} {n : FixedPoint} {v : Value} :
    readNumber name v = .ok n ↔
      (IsAmount n.value ∧ IsAmount n.multiplier) ∧ ∃ ms, v = dictionary ms ∧ SaysNumber n ms := by
  have hmultiplier {ms : Members} {k : Int} :
      fieldOr (entries ms) "multiplier" (.text "1") = .numeral k ↔
        Gives ms "multiplier" (.numeral k) ∨ (k = 1 ∧ Lacks ms "multiplier") := by
    have hone : Value.numeral k = .text "1" ↔ k = 1 := by
      show Value.text (Text.ofInt k) = .text (Text.ofInt 1) ↔ k = 1
      rw [Value.text.injEq, Text.ofInt_injective.eq_iff]
    rw [fieldOr_entries, hone, and_comm]
  simp only [readNumber, bind_eq_ok, readObject_eq_ok, readNumeral_amount]
  constructor
  · rintro ⟨es, ⟨ms, rfl, rfl⟩, value, ⟨hvalue, hgives⟩, multiplier, ⟨hrange, hsays⟩, negative,
      hnegative, hn⟩
    cases hn
    exact ⟨⟨hvalue, hrange⟩, ms, rfl, field_eq_numeral.1 hgives, hmultiplier.1 hsays,
      readBool_field.1 hnegative⟩
  · rintro ⟨⟨hvalue, hrange⟩, ms, rfl, hgives, hsays, hnegative⟩
    exact ⟨_, ⟨ms, rfl, rfl⟩, n.value, ⟨hvalue, field_eq_numeral.2 hgives⟩, n.multiplier,
      ⟨hrange, hmultiplier.2 hsays⟩, n.negative, readBool_field.2 hnegative, rfl⟩

/-- A tag is accepted if it is in range. -/
theorem readTag_eq_ok {name : Text} {tag : Tag} {v : Value} :
    readTag name v = .ok tag ↔ tag.InRange ∧ SaysTag tag v := by
  constructor
  · intro h
    rw [readTag, bind_eq_ok] at h
    obtain ⟨⟨key, body⟩, hform, h⟩ := h
    obtain rfl := readForm_eq_ok.1 hform
    simp only at h
    split at h
    · next hkey =>
      obtain ⟨t, ht, htag⟩ := (bind_eq_ok _ _ _).1 h
      obtain ⟨hshort, rfl⟩ := readText_eq_ok.1 ht
      cases htag
      rw [hkey]
      exact ⟨hshort, .label t⟩
    · split at h
      · next hkey =>
        obtain ⟨n, hn, htag⟩ := (bind_eq_ok _ _ _).1 h
        obtain ⟨hrange, ms, rfl, hsays⟩ := readNumber_eq_ok.1 hn
        cases htag
        rw [hkey]
        exact ⟨hrange, .number hsays⟩
      · cases h
  · rintro ⟨hrange, hsays⟩
    rw [readTag, bind_eq_ok]
    cases hsays with
    | label t =>
      refine ⟨_, readForm_eq_ok.2 rfl, ?_⟩
      have htext : readText (name ++ ".String") (.text t) = .ok t := readText_eq_ok.2 ⟨hrange, rfl⟩
      simp only [if_true, htext]
      rfl
    | @number n ms hsays =>
      refine ⟨_, readForm_eq_ok.2 rfl, ?_⟩
      have hother : (Text.ofString "Number") ≠ Text.ofString "String" := by decide
      have hnumber : readNumber (name ++ ".Number") (dictionary ms) = .ok n :=
        readNumber_eq_ok.2 ⟨hrange, ms, rfl, hsays⟩
      simp only [if_neg hother, if_true, hnumber]
      rfl

end PredictionMarket.Part
