import PredictionMarket.Canonical
import PredictionMarket.Guard
import PredictionMarket.Proofs.Json
import PredictionMarket.Proofs.Table

/-!
# Which values have a digest

A value has a digest exactly if it is a tree of nulls, truth values, integers, texts, lists and
dictionaries with texts as keys, no text in it has a surrogate, and no integer in it has too many
digits. What passes the check of the canonical encoding and can be written as JSON never fails later
on.
-/

namespace PredictionMarket

/-- What holds of some texts and of a separator, and of two texts in a row if of both, holds of the
texts with the separator between them. -/
theorem Text.join_of_append {P : Text → Prop} {separator : Text} {parts : List Text} (hnil : P [])
    (happend : ∀ {t u : Text}, P t → P u → P (t ++ u)) (hseparator : P separator)
    (h : ∀ part ∈ parts, P part) : P (join separator parts) := by
  induction parts with
  | nil => exact hnil
  | cons part parts ih =>
    obtain ⟨hpart, hparts⟩ := List.forall_mem_cons.1 h
    cases parts with
    | nil => rwa [join, List.intercalate_singleton]
    | cons next parts =>
      rw [join, List.intercalate_cons_cons, ← join]
      exact happend (happend hpart hseparator) (ih hparts)

/-- Texts in a row have no surrogate if no text among them has one, nor the separator. -/
theorem Text.hasSurrogate_join {separator : Text} (hseparator : separator.hasSurrogate = false)
    {parts : List Text} (h : ∀ part ∈ parts, Text.hasSurrogate part = false) :
    (join separator parts).hasSurrogate = false := by
  refine join_of_append (P := fun t => t.hasSurrogate = false) rfl (fun ht hu => ?_) hseparator h
  rw [hasSurrogate_append, ht, hu, Bool.or_false]

/-- An entry of a table of given entries is one of these. -/
theorem Table.mem_of_mem_ofList {κ ν : Type} [Ord κ] [Std.TransOrd κ] [Std.LawfulEqOrd κ]
    {entries : List (κ × ν)} {e : κ × ν} (h : e ∈ (Table.ofList entries).entries) :
    e ∈ entries := by
  have hfold (entries : List (κ × ν)) (t : Table κ ν)
      (h : e ∈ (entries.foldl (fun t entry => t.insert entry.1 entry.2) t).entries) :
      e ∈ t.entries ∨ e ∈ entries := by
    induction entries generalizing t with
    | nil => exact .inl h
    | cons entry entries ih =>
      rcases ih _ h with hput | hrest
      · rcases mem_insertEntry hput with rfl | hold
        · exact .inr List.mem_cons_self
        · exact .inl hold
      · exact .inr (List.mem_cons_of_mem _ hrest)
  rcases hfold entries empty h with hnone | hmem
  · cases hnone
  · exact hmem

namespace Value

mutual

/-- Whether a value has a digest. -/
def isEncodable : Value → Bool
  | .null => true
  | .bool _ => true
  | .int n => Text.canWrite n
  | .text t => !t.hasSurrogate
  | .list items => areEncodable items
  | .tuple items => areEncodable items
  | .object entries => areEntriesEncodable entries
  | _ => false

/-- Whether all items of a list have a digest. -/
def areEncodable : List Value → Bool
  | [] => true
  | v :: rest => v.isEncodable && areEncodable rest

/-- Whether all keys of a dictionary are texts with an encoding, and all its values have a digest. -/
def areEntriesEncodable : List (Value × Value) → Bool
  | [] => true
  | (.text key, v) :: rest => !key.hasSurrogate && v.isEncodable && areEntriesEncodable rest
  | _ => false

end

/-- A text passes the check if it has no surrogate. -/
theorem checkText_eq_ok {t : Text} {u : Unit} : checkText t = .ok u ↔ t.hasSurrogate = false := by
  unfold checkText
  split <;> simp_all

/-- The JSON form of a list has no surrogate if those of its items have none. -/
theorem hasSurrogate_items {parts : List Text}
    (h : ∀ part ∈ parts, Text.hasSurrogate part = false) :
    Text.hasSurrogate ("[" ++ Text.join Json.compact.comma parts ++ "]") = false := by
  have hcomma : Json.compact.comma.hasSurrogate = false := by decide
  rw [Text.hasSurrogate_append, Text.hasSurrogate_append, Text.hasSurrogate_join hcomma h]
  decide

/-- The JSON form of a dictionary has no surrogate if its keys and the forms of its values have
none. -/
theorem hasSurrogate_members {members : List (Text × Text)}
    (h : ∀ m ∈ members, m.1.hasSurrogate = false ∧ m.2.hasSurrogate = false) :
    Text.hasSurrogate ("\x7b" ++ Text.join Json.compact.comma
      ((Table.ofList members).entries.map (Json.member Json.compact)) ++ "\x7d") = false := by
  have hcomma : Json.compact.comma.hasSurrogate = false := by decide
  have hparts : ∀ part ∈ (Table.ofList members).entries.map (Json.member Json.compact),
      Text.hasSurrogate part = false := by
    intro part hpart
    obtain ⟨m, hm, rfl⟩ := List.mem_map.1 hpart
    obtain ⟨hkey, hvalue⟩ := h m (Table.mem_of_mem_ofList hm)
    have hcolon : Json.compact.colon.hasSurrogate = false := by decide
    rw [Json.member, Text.hasSurrogate_append, Text.hasSurrogate_append, hcolon, hvalue]
    exact congrArg (fun b => (b || false) || false) (Json.hasSurrogate_string hkey)
  rw [Text.hasSurrogate_append, Text.hasSurrogate_append, Text.hasSurrogate_join hcomma hparts]
  decide

mutual

/-- What is encodable passes the check, and is written without a surrogate. -/
theorem write?_of_isEncodable : (v : Value) → v.isEncodable = true →
    v.checkCanonical = .ok () ∧
      ∃ t : Text, Json.write? Json.compact v = some t ∧ t.hasSurrogate = false
  | .null, _ => ⟨rfl, _, rfl, by decide⟩
  | .bool true, _ => ⟨rfl, _, rfl, by decide⟩
  | .bool false, _ => ⟨rfl, _, rfl, by decide⟩
  | .int n, h => ⟨rfl, _, if_pos h, Text.hasSurrogate_ofInt n⟩
  | .text t, h => by
    have ht : t.hasSurrogate = false := by simpa [isEncodable] using h
    exact ⟨checkText_eq_ok.2 ht, _, rfl, Json.hasSurrogate_string ht⟩
  | .list items, h | .tuple items, h => by
    rw [isEncodable] at h
    obtain ⟨hcheck, parts, hparts, hclear⟩ := writeItems?_of_areEncodable items h
    rw [checkCanonical, Json.write?, hparts]
    exact ⟨hcheck, _, rfl, hasSurrogate_items hclear⟩
  | .object entries, h => by
    rw [isEncodable] at h
    obtain ⟨hcheck, members, hmembers, hclear⟩ := writeEntries?_of_areEntriesEncodable entries h
    rw [checkCanonical, Json.write?, hmembers]
    exact ⟨hcheck, _, rfl, hasSurrogate_members hclear⟩
  | .float _, h | .bytes _, h | .moment _, h | .set _, h | .again _, h => by cases h

/-- What is true of an encodable value is true of the items of an encodable list. -/
theorem writeItems?_of_areEncodable : (items : List Value) → areEncodable items = true →
    checkItems items = .ok () ∧
      ∃ parts : List Text, Json.writeItems? Json.compact items = some parts ∧
        ∀ part ∈ parts, Text.hasSurrogate part = false
  | [], _ => ⟨rfl, [], rfl, by simp⟩
  | v :: rest, h => by
    rw [areEncodable, Bool.and_eq_true] at h
    obtain ⟨hcheck, t, ht, hclear⟩ := write?_of_isEncodable v h.1
    obtain ⟨hrest, parts, hparts, hall⟩ := writeItems?_of_areEncodable rest h.2
    rw [checkItems, Json.writeItems?, hcheck, ok_bind, hrest, ht, hparts]
    exact ⟨rfl, _, rfl, List.forall_mem_cons.2 ⟨hclear, hall⟩⟩

/-- What is true of an encodable value is true of the values of an encodable dictionary. -/
theorem writeEntries?_of_areEntriesEncodable : (entries : List (Value × Value)) →
    areEntriesEncodable entries = true → checkEntries entries = .ok () ∧
      ∃ members : List (Text × Text), Json.writeEntries? Json.compact entries = some members ∧
        ∀ m ∈ members, m.1.hasSurrogate = false ∧ m.2.hasSurrogate = false
  | [], _ => ⟨rfl, [], rfl, by simp⟩
  | (.text key, v) :: rest, h => by
    simp only [areEntriesEncodable, Bool.and_eq_true, Bool.not_eq_true'] at h
    obtain ⟨⟨hkey, hv⟩, hrest⟩ := h
    obtain ⟨hcheck, t, ht, hclear⟩ := write?_of_isEncodable v hv
    obtain ⟨hrest, members, hmembers, hall⟩ := writeEntries?_of_areEntriesEncodable rest hrest
    have hcheckKey : checkText key = .ok () := checkText_eq_ok.2 hkey
    rw [checkEntries, Json.writeEntries?, hcheckKey, ok_bind, hcheck, ok_bind, hrest, ht, hmembers]
    exact ⟨rfl, _, rfl, List.forall_mem_cons.2 ⟨⟨hkey, hclear⟩, hall⟩⟩

end

mutual

/-- What passes the check and is written is encodable. -/
theorem isEncodable_of_write? : (v : Value) → {t : Text} → v.checkCanonical = .ok () →
    Json.write? Json.compact v = some t → v.isEncodable = true
  | .null, _, _, _ | .bool _, _, _, _ => rfl
  | .int n, _, _, hwritten => (Option.ite_none_right_eq_some.1 hwritten).1
  | .text t, _, hcheck, _ => by
    rw [checkCanonical, checkText_eq_ok] at hcheck
    rw [isEncodable, hcheck]
    rfl
  | .list items, _, hcheck, hwritten | .tuple items, _, hcheck, hwritten => by
    simp only [Json.write?, Option.bind_eq_bind, Option.bind_eq_some_iff] at hwritten
    obtain ⟨_, hparts, -⟩ := hwritten
    exact areEncodable_of_writeItems? items hcheck hparts
  | .object entries, _, hcheck, hwritten => by
    simp only [Json.write?, Option.bind_eq_bind, Option.bind_eq_some_iff] at hwritten
    obtain ⟨_, hmembers, -⟩ := hwritten
    exact areEntriesEncodable_of_writeEntries? entries hcheck hmembers
  | .float _, _, hcheck, _ => by cases hcheck
  | .bytes _, _, _, hwritten | .moment _, _, _, hwritten | .set _, _, _, hwritten
  | .again _, _, _, hwritten => by cases hwritten

/-- Items that pass the check and are written are encodable. -/
theorem areEncodable_of_writeItems? : (items : List Value) → {parts : List Text} →
    checkItems items = .ok () → Json.writeItems? Json.compact items = some parts →
      areEncodable items = true
  | [], _, _, _ => rfl
  | v :: rest, _, hcheck, hwritten => by
    simp only [checkItems, bind_eq_ok] at hcheck
    simp only [Json.writeItems?, Option.bind_eq_bind, Option.bind_eq_some_iff] at hwritten
    obtain ⟨_, hv, hrest⟩ := hcheck
    obtain ⟨_, hwrittenv, _, hwrittenrest, -⟩ := hwritten
    rw [areEncodable, Bool.and_eq_true]
    exact ⟨isEncodable_of_write? v hv hwrittenv, areEncodable_of_writeItems? rest hrest hwrittenrest⟩

/-- Entries that pass the check and are written are encodable. -/
theorem areEntriesEncodable_of_writeEntries? : (entries : List (Value × Value)) →
    {members : List (Text × Text)} → checkEntries entries = .ok () →
      Json.writeEntries? Json.compact entries = some members → areEntriesEncodable entries = true
  | [], _, _, _ => rfl
  | (.text key, v) :: rest, _, hcheck, hwritten => by
    simp only [checkEntries, bind_eq_ok, checkText_eq_ok] at hcheck
    simp only [Json.writeEntries?, Option.bind_eq_bind, Option.bind_eq_some_iff] at hwritten
    obtain ⟨_, hkey, _, hv, hrest⟩ := hcheck
    obtain ⟨_, hwrittenv, _, hwrittenrest, -⟩ := hwritten
    simp only [areEntriesEncodable, hkey, isEncodable_of_write? v hv hwrittenv,
      areEntriesEncodable_of_writeEntries? rest hrest hwrittenrest]
    rfl

end

/-- A value has octets if it passes the check and its text has some. -/
theorem canonicalOctets_eq_ok {v : Value} {octets : List UInt8} :
    v.canonicalOctets = .ok octets ↔ v.checkCanonical = .ok () ∧
      ∃ t : Text, Json.write? Json.compact v = some t ∧ t.utf8? = some octets := by
  simp only [canonicalOctets, canonicalText, bind_eq_ok]
  constructor
  · rintro ⟨t, ⟨_, hcheck, hwritten⟩, hoctets⟩
    refine ⟨hcheck, t, ?_⟩
    split at hwritten
    · next hsome =>
      cases hwritten
      split at hoctets
      · next hutf8 =>
        cases hoctets
        exact ⟨hsome, hutf8⟩
      · cases hoctets
    · cases hwritten
  · rintro ⟨hcheck, t, hwritten, hoctets⟩
    exact ⟨t, ⟨_, hcheck, by rw [hwritten]⟩, by rw [hoctets]⟩

/-- A value has octets exactly if it is encodable. -/
theorem exists_canonicalOctets_iff (v : Value) :
    (∃ octets, v.canonicalOctets = .ok octets) ↔ v.isEncodable = true := by
  simp only [canonicalOctets_eq_ok]
  constructor
  · rintro ⟨octets, hcheck, t, hwritten, -⟩
    exact isEncodable_of_write? v hcheck hwritten
  · intro h
    obtain ⟨hcheck, t, ht, hclear⟩ := write?_of_isEncodable v h
    have hoctets : t.utf8? = some (t.flatMap CodePoint.utf8) :=
      if_neg (Bool.eq_false_iff.1 hclear)
    exact ⟨_, hcheck, t, ht, hoctets⟩

/-- A value has a hash exactly if it is encodable. -/
theorem exists_canonicalHash_iff (v : Value) :
    (∃ hash, v.canonicalHash = .ok hash) ↔ v.isEncodable = true := by
  rw [← exists_canonicalOctets_iff]
  constructor
  · rintro ⟨hash, h⟩
    obtain ⟨octets, hoctets, -⟩ := (bind_eq_ok _ _ _).1 h
    exact ⟨octets, hoctets⟩
  · rintro ⟨octets, hoctets⟩
    exact ⟨_, (bind_eq_ok _ _ _).2 ⟨octets, hoctets, rfl⟩⟩

/-! ## Compound values -/

/-- A list of values is encodable if each of them is. -/
theorem areEncodable_iff (items : List Value) :
    areEncodable items = true ↔ ∀ v ∈ items, v.isEncodable = true := by
  induction items with
  | nil => simp [areEncodable]
  | cons v rest ih => rw [areEncodable, Bool.and_eq_true, ih, List.forall_mem_cons]

/-- A list is encodable if each of its items is. -/
@[simp] theorem isEncodable_list (items : List Value) :
    (list items).isEncodable = true ↔ ∀ v ∈ items, v.isEncodable = true :=
  areEncodable_iff items

/-- A text is encodable if it has no surrogate. -/
@[simp] theorem isEncodable_text (t : Text) :
    (text t).isEncodable = true ↔ t.hasSurrogate = false := by
  rw [isEncodable, Bool.not_eq_true']

/-- An integer is encodable if it can be written. -/
@[simp] theorem isEncodable_int (n : Int) :
    (int n).isEncodable = true ↔ Text.canWrite n = true :=
  Iff.rfl

/-- Truth values are encodable. -/
@[simp] theorem isEncodable_bool (b : Bool) : (bool b).isEncodable = true := rfl

/-- The absent value is encodable. -/
@[simp] theorem isEncodable_null : null.isEncodable = true := rfl

/-- An integer that may be missing is encodable if it can be written where it is not. -/
@[simp] theorem isEncodable_ofInt? (n : Option Int) :
    (ofInt? n).isEncodable = true ↔ ∀ m ∈ n, Text.canWrite m = true := by
  cases n with
  | none => simp [ofInt?]
  | some n => simp [ofInt?]

/-- A numeral is encodable. -/
@[simp] theorem isEncodable_numeral (n : Int) : (numeral n).isEncodable = true := by
  rw [numeral, isEncodable_text, Text.hasSurrogate_ofInt]

/-- A list of texts is encodable if each of them is. -/
@[simp] theorem isEncodable_ofTexts (ts : List Text) :
    (ofTexts ts).isEncodable = true ↔ ∀ t ∈ ts, t.hasSurrogate = false := by
  rw [ofTexts, isEncodable_list, List.forall_mem_map]
  simp only [isEncodable_text]

/-- A dictionary with texts as keys is encodable if each key and each value is. -/
theorem isEncodable_object_map {α : Type} (key : α → Text) (value : α → Value)
    (entries : List α) :
    (object (entries.map fun e => (.text (key e), value e))).isEncodable = true ↔
      ∀ e ∈ entries, (key e).hasSurrogate = false ∧ (value e).isEncodable = true := by
  rw [isEncodable]
  induction entries with
  | nil => simp [areEntriesEncodable]
  | cons e entries ih =>
    rw [List.map_cons, areEntriesEncodable, Bool.and_eq_true, Bool.and_eq_true, Bool.not_eq_true',
      ih, List.forall_mem_cons]

/-- A dictionary with the given keys is encodable if each value is. -/
@[simp] theorem isEncodable_record (fields : List (String × Value)) :
    (record fields).isEncodable = true ↔ ∀ field ∈ fields, field.2.isEncodable = true := by
  have hmap := isEncodable_object_map (fun field : String × Value => Text.ofString field.1) Prod.snd
    fields
  simp only [Text.hasSurrogate_ofString, true_and] at hmap
  exact hmap

/-- A value has a digest exactly if it is encodable. -/
theorem exists_digest_iff (v : Value) :
    (∃ digest, v.digest = .ok digest) ↔ v.isEncodable = true := by
  have hversion : Text.canWrite encodingVersion = true := by decide
  rw [digest, exists_canonicalHash_iff, isEncodable_record]
  simp [hversion]

end Value

end PredictionMarket
