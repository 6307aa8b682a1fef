import PredictionMarket.Proofs.Canonical.RoundTrip
import PredictionMarket.Proofs.TransferKey

/-!
# The canonical encoding is faithful

A value that can be encoded has one canonical text, and the text has one meaning. So values with the
same meaning have the same octets, whatever the order in which their dictionaries were filled, and
values with different meanings have different octets. How the encoding of any other value fails is
decided by what is refused in it, and else by what the writer cannot get past.
-/

namespace PredictionMarket.Value

/-- Items with the same meanings are written alike if each of them is written like all that has its
meaning. -/
theorem writeItems?_eq {items others : List Value}
    (h : ∀ v ∈ items, ∀ w : Value, w.Encodable → v.meaning = w.meaning →
      Json.write? Json.compact v = Json.write? Json.compact w)
    (hothers : ∀ w ∈ others, w.Encodable) (hsame : meanings items = meanings others) :
    Json.writeItems? Json.compact items = Json.writeItems? Json.compact others := by
  induction items generalizing others with
  | nil =>
    cases others with
    | nil => rfl
    | cons => cases hsame
  | cons v items ih =>
    cases others with
    | nil => cases hsame
    | cons w others =>
      obtain ⟨hv, hitems⟩ := List.forall_mem_cons.1 h
      obtain ⟨hw, hrest⟩ := List.forall_mem_cons.1 hothers
      obtain ⟨hhead, htail⟩ := List.cons.inj hsame
      rw [Json.writeItems?, Json.writeItems?, hv w hw hhead, ih hitems hrest htail]

/-- A text is the compact form of a value. -/
abbrev IsWritten (v : Value) (t : Text) : Prop :=
  Json.write? Json.compact v = some t

/-- Where values with the same meaning are written alike, what stands under one key of two
dictionaries with the same meaning is. -/
theorem eq_of_isWritten {first second : Option Value} {t u : Option Text}
    (h : ∀ v ∈ first, ∀ w ∈ second, v.meaning = w.meaning →
      Json.write? Json.compact v = Json.write? Json.compact w)
    (hsame : first.map meaning = second.map meaning) (ht : Option.Rel IsWritten first t)
    (hu : Option.Rel IsWritten second u) : t = u := by
  cases ht with
  | none =>
    cases hu with
    | none => rfl
    | some => cases hsame
  | some hv =>
    cases hu with
    | none => cases hsame
    | some hw => rw [← hv, ← hw, h _ rfl _ rfl (Option.some.inj hsame)]

/-- Members with the same meanings are written as one table if the value of each is written like all
that has its meaning. -/
theorem ofList_eq_of_isWritten {members others : List (Text × Value)}
    {parts texts : List (Text × Text)}
    (h : ∀ m ∈ members, ∀ w : Value, w.Encodable → m.2.meaning = w.meaning →
      Json.write? Json.compact m.2 = Json.write? Json.compact w)
    (hothers : ∀ m ∈ others, m.2.Encodable)
    (hsame : meaningUnder (keyed members) = meaningUnder (keyed others))
    (hparts : Table.Alike IsWritten members parts) (htexts : Table.Alike IsWritten others texts) :
    Table.ofList parts = Table.ofList texts := by
  refine Table.ext_get? fun key => ?_
  have hmeaning := congrFun hsame key
  rw [meaningUnder_keyed, meaningUnder_keyed] at hmeaning
  rw [Table.get?_ofList, Table.get?_ofList]
  exact eq_of_isWritten (fun v hv w hw => h _ (Table.mem_of_lastOf hv) w
    (hothers _ (Table.mem_of_lastOf hw))) hmeaning (Table.rel_lastOf key hparts)
      (Table.rel_lastOf key htexts)

/-- The members of a dictionary that can be encoded are written. -/
theorem exists_isWritten {members : List (Text × Value)} (h : ∀ m ∈ members, m.2.Encodable) :
    ∃ parts, Json.writeEntries? Json.compact (keyed members) = some parts ∧
      Table.Alike IsWritten members parts := by
  refine Json.exists_writeEntries? fun m hm => ?_
  obtain ⟨t, ht, -⟩ := (h m hm).exists_renders
  exact ⟨t, ht, ht⟩

/-- Values with the same meaning are written alike. -/
theorem Encodable.write?_eq {v w : Value} (hv : v.Encodable) (hw : w.Encodable)
    (hsame : v.meaning = w.meaning) :
    Json.write? Json.compact v = Json.write? Json.compact w := by
  -- By induction on the one value. The meaning says which of the forms the other has.
  induction hv generalizing w with
  | null =>
    cases hw with
    | null => rfl
    | _ => cases hsame
  | bool b =>
    cases hw with
    | bool b' =>
      cases hsame
      rfl
    | _ => cases hsame
  | int h =>
    cases hw with
    | int h' =>
      cases hsame
      rfl
    | _ => cases hsame
  | text h =>
    cases hw with
    | text h' =>
      cases hsame
      rfl
    | _ => cases hsame
  | list hitems ih | tuple hitems ih =>
    cases hw with
    | list hothers | tuple hothers =>
      have hwritten := writeItems?_eq (fun v hv w hw => ih v hv hw) hothers (Datum.list.inj hsame)
      rw [Json.write?, Json.write?, hwritten]
    | _ => cases hsame
  | object _ hvalues ih =>
    cases hw with
    | object _ hothers =>
      obtain ⟨parts, hparts, hall⟩ := exists_isWritten hvalues
      obtain ⟨texts, htexts, hall'⟩ := exists_isWritten hothers
      have htables := ofList_eq_of_isWritten (fun m hm w hw => ih m hm hw) hothers
        (Datum.dictionary.inj hsame) hall hall'
      rw [Json.write?, Json.write?, hparts, htexts]
      simp only [Option.bind_eq_bind, Option.bind_some, htables]
    | _ => cases hsame

/-! ## Octets -/

/-- What can be encoded has octets, and the text that they encode is read as the value as JSON has
it. -/
theorem Encodable.exists_octets {v : Value} (h : v.Encodable) :
    ∃ (t : Text) (octets : List UInt8), v.canonicalOctets = .ok octets ∧ t.utf8? = some octets ∧
      Json.hasBlank .outside t = false ∧ Json.read? t = some v.plain := by
  obtain ⟨octets, hoctets⟩ := (exists_canonicalOctets_iff v).2 h.isEncodable
  obtain ⟨-, t, hwritten, hutf8⟩ := canonicalOctets_eq_ok.1 hoctets
  obtain ⟨u, hu, hrenders⟩ := h.exists_renders
  obtain rfl := Option.some.inj (hwritten.symm.trans hu)
  have hdocument : Json.Document v.plain t :=
    ⟨[], t, [], .nil, hrenders.spells, .nil, (List.append_nil t).symm⟩
  exact ⟨t, octets, hoctets, hutf8, hrenders.solid.hasBlank_eq_false, hdocument.read?⟩

/-- What has octets can be encoded. -/
theorem encodable_of_canonicalOctets {v : Value} {octets : List UInt8}
    (h : v.canonicalOctets = .ok octets) : v.Encodable :=
  encodable_of_isEncodable ((exists_canonicalOctets_iff v).1 ⟨octets, h⟩)

/-- Values have the same octets exactly if they have the same meaning. -/
theorem octets_eq_iff {v w : Value} {x y : List UInt8} (hx : v.canonicalOctets = .ok x)
    (hy : w.canonicalOctets = .ok y) : x = y ↔ v.meaning = w.meaning := by
  have hv := encodable_of_canonicalOctets hx
  have hw := encodable_of_canonicalOctets hy
  constructor
  · rintro rfl
    obtain ⟨t, x', hx', ht, -, hread⟩ := hv.exists_octets
    obtain ⟨u, y', hy', hu, -, hread'⟩ := hw.exists_octets
    obtain rfl := Except.ok.inj (hx.symm.trans hx')
    obtain rfl := Except.ok.inj (hy.symm.trans hy')
    rw [Text.utf8?_inj ht hu, hread', Option.some.injEq] at hread
    rw [← hv.meaning_plain, ← hw.meaning_plain, hread]
  · intro hsame
    obtain ⟨-, t, hwritten, ht⟩ := canonicalOctets_eq_ok.1 hx
    obtain ⟨-, u, hwritten', hu⟩ := canonicalOctets_eq_ok.1 hy
    rw [hv.write?_eq hw hsame, hwritten', Option.some.injEq] at hwritten
    rw [hwritten, ht, Option.some.injEq] at hu
    exact hu

/-- **The canonical encoding is faithful**: a value that holds a float, a surrogate or a key that is
no text is refused as a value of the wrong type. If nothing of that kind is in the value, but
something that cannot be written, the part of this sort that the writer comes to first says how the
encoding fails: octets are of the wrong type, an integer of too many digits is a bad value. Every
other value has octets, which encode a text without blanks between its tokens that is read as the
value as JSON has it. Values have the same octets exactly if they mean the same as JSON, and
different transfers have different octets. -/
theorem canonical_encoding_is_faithful :
    (∀ v : Value, (∃ u : Value, u.Within v ∧ u.Barred) →
      ∃ e, v.canonicalOctets = .error e ∧ e.kind = .badType) ∧
    (∀ v : Value, (∀ u : Value, u.Within v → ¬u.Barred) →
      (∃ (u : Value) (kind : ErrorKind), u.Within v ∧ u.Stops kind) →
      ∃ (e : EncodingError) (u : Value), v.canonicalOctets = .error e ∧ u.Reached v ∧
        u.Stops e.kind) ∧
    (∀ v : Value, (∀ u : Value, u.Within v → ¬u.Barred ∧ ∀ kind, ¬u.Stops kind) →
      ∃ (t : Text) (octets : List UInt8), v.canonicalOctets = .ok octets ∧ t.utf8? = some octets ∧
        Json.hasBlank .outside t = false ∧ Json.read? t = some v.plain ∧
          v.plain.meaning = v.meaning) ∧
    (∀ (v w : Value) (x y : List UInt8), v.canonicalOctets = .ok x → w.canonicalOctets = .ok y →
      (x = y ↔ v.meaning = w.meaning)) ∧
    ∀ (i j : TransferId) (x : List UInt8), i.toValue.canonicalOctets = .ok x →
      j.toValue.canonicalOctets = .ok x → i = j := by
  refine ⟨?_, ?_, ?_, fun v w x y hx hy => octets_eq_iff hx hy, ?_⟩
  · rintro v ⟨u, hu, hbarred⟩
    exact canonicalOctets_of_barred hu hbarred
  · rintro v hclear ⟨u, kind, hu, hstops⟩
    exact canonicalOctets_of_not_encodable (checkCanonical_of_forall_within hclear)
      fun hv => hv.flows u hu kind hstops
  · intro v hclear
    have hv := encodable_of_flows (fun u hu => (hclear u hu).1) fun u hu => (hclear u hu).2
    obtain ⟨t, octets, hoctets, ht, hblank, hread⟩ := hv.exists_octets
    exact ⟨t, octets, hoctets, ht, hblank, hread, hv.meaning_plain⟩
  · intro i j x hi hj
    have htexts := Text.utf8?_inj (TransferId.utf8?_of_canonicalOctets hi)
      (TransferId.utf8?_of_canonicalOctets hj)
    exact TransferId.spelled_injective htexts

/-- The least integer of too many digits holds nothing of the wrong type, and yet it has no octets:
it is a bad value. -/
theorem long_integer_has_no_octets :
    (∀ u : Value, u.Within (.int (10 ^ Text.digitLimit)) → ¬u.Barred ∧ ¬u.Stops .badType) ∧
      (int (10 ^ Text.digitLimit)).canonicalOctets = .error .tooManyDigits ∧
        EncodingError.tooManyDigits.kind = .badValue := by
  refine ⟨fun u hu => ?_, canonicalOctets_int Text.canWrite_pow_digitLimit, rfl⟩
  cases hu with
  | self => exact ⟨nofun, nofun⟩

/-- Two dictionaries that were filled in different orders, with a list here and a tuple there, have
the same octets. A list that holds a float is refused, and one of octets before an integer of too
many digits fails at the octets. Transfers with different numbers are told apart. -/
theorem small_values_encoded_faithfully :
    (∃ x, (record [("b", .list [.int 1, .bool true]), ("a", .null)]).canonicalOctets = .ok x ∧
      (record [("a", .null), ("b", .tuple [.int 1, .bool true])]).canonicalOctets = .ok x) ∧
    (∃ e, (list [.int 1, .float .notANumber]).canonicalOctets = .error e ∧ e.kind = .badType) ∧
    (∃ e, (list [.bytes [], .int (10 ^ Text.digitLimit)]).canonicalOctets = .error e ∧
      e.kind = .badType) ∧
    ∀ x, (TransferId.toValue ⟨some 0, "a", "sell", 1⟩).canonicalOctets = .ok x →
      (TransferId.toValue ⟨some 0, "a", "sell", 2⟩).canonicalOctets ≠ .ok x := by
  obtain ⟨hbarred, hstopped, haccepted, hsame, htransfers⟩ := canonical_encoding_is_faithful
  have hclear {v : Value} (h : v.isEncodable = true) :
      ∀ u : Value, u.Within v → ¬u.Barred ∧ ∀ kind, ¬u.Stops kind :=
    fun u hu => (encodable_iff.1 (encodable_of_isEncodable h)).imp (· u hu) (· u hu)
  refine ⟨?_, ?_, ?_, fun x hi hj => absurd (htransfers _ _ x hi hj) (by decide)⟩
  · obtain ⟨_, x, hx, -⟩ :=
      haccepted (record [("b", .list [.int 1, .bool true]), ("a", .null)]) (hclear rfl)
    obtain ⟨_, y, hy, -⟩ :=
      haccepted (record [("a", .null), ("b", .tuple [.int 1, .bool true])]) (hclear rfl)
    refine ⟨x, hx, ?_⟩
    rw [(hsame _ _ x y hx hy).2]
    · exact hy
    · refine congrArg Datum.dictionary (funext fun key => ?_)
      by_cases ha : Text.ofString "a" = key
      · subst ha
        rfl
      · by_cases hb : Text.ofString "b" = key
        · subst hb
          rfl
        · simp [meaningUnder, ha, hb]
  · exact hbarred _ ⟨_, .item (List.mem_cons_of_mem _ List.mem_cons_self) (.self _), .float _⟩
  · generalize hlong : (10 : Int) ^ Text.digitLimit = n
    have hpassed : ∀ u : Value, u.Within (.list [.bytes [], .int n]) → ¬u.Barred := by
      rintro u (_ | ⟨hv, hu⟩) hu'
      · cases hu'
      · rcases List.mem_pair.1 hv with rfl | rfl
        · cases hu
          cases hu'
        · cases hu
          cases hu'
    obtain ⟨e, u, he, hu, hstops⟩ := hstopped _ hpassed
      ⟨_, _, .item List.mem_cons_self (.self _), .bytes []⟩
    refine ⟨e, he, ?_⟩
    rcases hu.of_stopped_head (.bytes []) with rfl | hu
    · cases hstops
    · cases hu
      generalize e.kind = kind at hstops ⊢
      cases hstops
      rfl

end PredictionMarket.Value
