import PredictionMarket.Outbox
import PredictionMarket.Proofs.Canonical.Parts
import Mathlib.Data.List.Nodup

/-!
# The keys of transfers

A transfer has a key if the names in it can be encoded and the numbers in it can be written. What is
hashed into the key determines the transfer, so two transfers have the same key only if two messages
have the same hash. The key of a transfer whose numbers are counted is the same key, without the
test of the numbers.
-/

namespace PredictionMarket

/-! ## Hashes -/

/-- Hashes are told apart by their digits. -/
theorem Sha256.hash_eq_of_hex_eq {x y : List UInt8} (h : hex x = hex y) : hash x = hash y := by
  have hdigits {a b : UInt8} {r s : Text} (h : Text.hex 2 a.toNat ++ r = Text.hex 2 b.toNat ++ s) :
      a = b ∧ r = s := by
    obtain ⟨hval, hrest⟩ := Text.hex_append_inj a.toNat_lt b.toNat_lt h
    exact ⟨UInt8.toNat_inj.1 hval, hrest⟩
  have hne (a : UInt8) : Text.hex 2 a.toNat ≠ [] := by
    simp [Text.hex]
  exact flatMap_injective hne hdigits (List.append_cancel_left h)

/-- The digits of a hash can be encoded. -/
theorem Sha256.hasSurrogate_hex (message : List UInt8) : (hex message).hasSurrogate = false := by
  rw [hex, Text.hasSurrogate_append, Text.hasSurrogate_ofString, Bool.false_or]
  refine List.any_eq_false.2 fun c hc => ?_
  obtain ⟨octet, -, hdigit⟩ := List.mem_flatMap.1 hc
  exact List.any_eq_false.1 (Text.hasSurrogate_hex 2 octet.toNat) c hdigit

namespace TransferId

/-! ## What is hashed -/

/-- The numbers of a transfer can be written. -/
structure Short (i : TransferId) : Prop where
  /-- The number of its market can. -/
  marketId : ∀ n ∈ i.marketId, Text.canWrite n = true
  /-- Its own number can. -/
  nonce : Text.canWrite i.nonce = true

/-- The parts of a transfer stand in the order of their names. -/
theorem entries_ofList (marketId account operation nonce : Text) :
    (Table.ofList [(("market_id" : Text), marketId), ("account", account),
      ("operation", operation), ("nonce", nonce)]).entries =
        [(("account" : Text), account), ("market_id", marketId), ("nonce", nonce),
          ("operation", operation)] :=
  rfl

/-- The JSON form of what is hashed. -/
theorem write?_toValue {i : TransferId} (h : i.Short) :
    Json.write? Json.compact i.toValue = some i.spelled := by
  have hid : Json.write? Json.compact (.ofInt? i.marketId) =
      some ((i.marketId.map Text.ofInt).getD "null") := by
    cases hid : i.marketId with
    | none => rfl
    | some n => exact if_pos (h.marketId n hid)
  simp only [toValue, Value.record, List.map_cons, List.map_nil, Json.write?, Json.writeEntries?,
    hid, if_pos h.nonce, Option.bind_eq_bind, Option.bind_some, Option.pure_def, entries_ofList]
  simp only [spelled, Text.join, Json.member, List.intercalate, List.intersperse,
    List.flatten_cons, List.flatten_nil, List.append_assoc]
  rfl

/-- The parts can be encoded exactly if the names can. -/
theorem checkCanonical_toValue (i : TransferId) :
    i.toValue.checkCanonical =
      (Value.checkText i.receiver >>= fun _ => Value.checkText i.operation) := by
  have hkey : ∀ key ∈ ["market_id", "account", "operation", "nonce"],
      Value.checkText (Text.ofString key) = .ok () := by decide
  simp only [List.forall_mem_cons] at hkey
  have hid : (Value.ofInt? i.marketId).checkCanonical = .ok () := by
    cases i.marketId <;> simp [Value.ofInt?, Value.checkCanonical]
  simp only [toValue, Value.record, List.map_cons, List.map_nil, Value.checkCanonical,
    Value.checkEntries, hkey, hid, ok_bind]
  cases Value.checkText i.receiver with
  | error e => rfl
  | ok _ => cases Value.checkText i.operation <;> rfl

/-- The parts pass the check if the names have no surrogates. -/
theorem checkCanonical_eq_ok {i : TransferId} {u : Unit} : i.toValue.checkCanonical = .ok u ↔
    i.receiver.hasSurrogate = false ∧ i.operation.hasSurrogate = false := by
  simp only [checkCanonical_toValue, bind_eq_ok, Value.checkText_eq_ok]
  constructor
  · rintro ⟨_, hnames⟩
    exact hnames
  · intro hnames
    exact ⟨(), hnames⟩

/-- What is hashed can be encoded exactly if the names can be and the numbers can be written. -/
theorem isEncodable_toValue {i : TransferId} : i.toValue.isEncodable = true ↔
    i.receiver.hasSurrogate = false ∧ i.operation.hasSurrogate = false ∧ i.Short := by
  simp only [toValue, Value.isEncodable_record, List.forall_mem_cons, Value.isEncodable_ofInt?,
    Value.isEncodable_text, Value.isEncodable_int]
  constructor
  · rintro ⟨hid, hreceiver, hoperation, hnonce, -⟩
    exact ⟨hreceiver, hoperation, hid, hnonce⟩
  · rintro ⟨hreceiver, hoperation, hid, hnonce⟩
    exact ⟨hid, hreceiver, hoperation, hnonce, List.forall_mem_nil _⟩

/-- The octets that are hashed, if there are any, are those of the text. -/
theorem utf8?_of_canonicalOctets {i : TransferId} {octets : List UInt8}
    (h : i.toValue.canonicalOctets = .ok octets) : i.spelled.utf8? = some octets := by
  obtain ⟨-, -, hshort⟩ := isEncodable_toValue.1 ((Value.exists_canonicalOctets_iff _).1 ⟨_, h⟩)
  obtain ⟨-, t, hwritten, hoctets⟩ := Value.canonicalOctets_eq_ok.1 h
  rw [write?_toValue hshort] at hwritten
  cases hwritten
  exact hoctets

/-- A transfer has a key exactly if the names in it can be encoded and the numbers in it can be
written. -/
theorem exists_key_iff {i : TransferId} : (∃ key, i.key = .ok key) ↔
    i.receiver.hasSurrogate = false ∧ i.operation.hasSurrogate = false ∧ i.Short := by
  rw [key, Value.exists_canonicalHash_iff, isEncodable_toValue]

/-- A transfer whose own number has too many digits has no key. -/
theorem exists_error_of_long_nonce {i : TransferId} (hlong : Text.canWrite i.nonce = false) :
    ∃ e, i.key = .error e := by
  cases hkey : i.key with
  | error e => exact ⟨e, rfl⟩
  | ok key =>
    obtain ⟨-, -, hshort⟩ := exists_key_iff.1 ⟨key, hkey⟩
    cases hlong.symm.trans hshort.nonce

/-- What stops the writer in what is hashed is a number. -/
theorem kind_of_stops {i : TransferId} {u : Value} {kind : ErrorKind} (hu : u.Within i.toValue)
    (hstops : u.Stops kind) : kind = .badValue := by
  cases hu with
  | self => cases hstops
  | member hv hu =>
    simp only [List.map_cons, List.map_nil, List.mem_cons, Prod.mk.injEq, List.not_mem_nil,
      or_false] at hv
    rcases hv with ⟨-, rfl⟩ | ⟨-, rfl⟩ | ⟨-, rfl⟩ | ⟨-, rfl⟩
    · cases hid : i.marketId with
      | none =>
        rw [hid] at hu
        cases hu
        cases hstops
      | some n =>
        rw [hid] at hu
        cases hu
        cases hstops
        rfl
    · cases hu
      cases hstops
    · cases hu
      cases hstops
    · cases hu
      cases hstops
      rfl

/-- A name with a surrogate is what makes a transfer without a key one of the wrong type. If there
is none, a number has too many digits, which is a bad value. -/
theorem kind_of_key {i : TransferId} {e : EncodingError} (h : i.key = .error e) :
    e.kind =
      if i.receiver.hasSurrogate || i.operation.hasSurrogate then .badType else .badValue := by
  have hencoded : ∀ octets, i.toValue.canonicalOctets ≠ .ok octets := by
    intro octets hoctets
    rw [key, Value.canonicalHash, hoctets, ok_bind] at h
    cases h
  have hfailed {e' : EncodingError} (he' : i.toValue.canonicalOctets = .error e') : e' = e := by
    rw [key, Value.canonicalHash, he', error_bind] at h
    exact Except.error.inj h
  cases hcheck : i.toValue.checkCanonical with
  | error e' =>
    have hrefused : i.toValue.canonicalOctets = .error e' := by
      rw [Value.canonicalOctets, Value.canonicalText, hcheck, error_bind, error_bind]
    have hnames : (i.receiver.hasSurrogate || i.operation.hasSurrogate) = true := by
      by_contra hclear
      rw [Bool.not_eq_true, Bool.or_eq_false_iff] at hclear
      have hpassed : i.toValue.checkCanonical = .ok () := checkCanonical_eq_ok.2 hclear
      cases hpassed.symm.trans hcheck
    rw [hnames, ← hfailed hrefused, Value.failsIn_checkCanonical _ _ hcheck]
    rfl
  | ok u =>
    obtain ⟨hreceiver, hoperation⟩ := checkCanonical_eq_ok.1 hcheck
    have hnot : ¬i.toValue.Encodable := by
      intro hv
      obtain ⟨octets, hoctets⟩ := (Value.exists_canonicalOctets_iff _).2 hv.isEncodable
      exact hencoded octets hoctets
    obtain ⟨e', u, he', hu, hstops⟩ := Value.canonicalOctets_of_not_encodable hcheck hnot
    rw [← hfailed he', hreceiver, hoperation, kind_of_stops hu.within hstops]
    rfl

/-- What is hashed has no surrogate if the names have none. -/
theorem hasSurrogate_spelled {i : TransferId} (hreceiver : i.receiver.hasSurrogate = false)
    (hoperation : i.operation.hasSurrogate = false) : i.spelled.hasSurrogate = false := by
  have hid :
      Text.hasSurrogate ((i.marketId.map Text.ofInt).getD (Text.ofString "null")) = false := by
    cases i.marketId with
    | none => exact Text.hasSurrogate_ofString "null"
    | some n => exact Text.hasSurrogate_ofInt n
  simp only [spelled, Text.hasSurrogate_append, Text.hasSurrogate_ofString,
    Json.hasSurrogate_string hreceiver, Json.hasSurrogate_string hoperation,
    Text.hasSurrogate_ofInt, hid, Bool.or_false]

/-- A transfer has a key, where its numbers are counted, exactly if the names in it can be
encoded. -/
theorem exists_countedKey_iff {i : TransferId} : (∃ key, i.countedKey = .ok key) ↔
    i.receiver.hasSurrogate = false ∧ i.operation.hasSurrogate = false := by
  simp only [countedKey, bind_eq_ok, checkCanonical_eq_ok]
  constructor
  · rintro ⟨_, _, hnames, -⟩
    exact hnames
  · rintro ⟨hreceiver, hoperation⟩
    have hoctets : i.spelled.utf8? = some (i.spelled.flatMap CodePoint.utf8) :=
      if_neg (Bool.eq_false_iff.1 (hasSurrogate_spelled hreceiver hoperation))
    exact ⟨_, (), ⟨hreceiver, hoperation⟩, by rw [hoctets]⟩

/-- The key of a transfer whose numbers are counted is the hash of the text. -/
theorem exists_octets_of_countedKey {i : TransferId} {key : Text} (h : i.countedKey = .ok key) :
    ∃ octets, i.spelled.utf8? = some octets ∧ Sha256.hex octets = key := by
  obtain ⟨_, -, hkey⟩ := (bind_eq_ok _ _ _).1 h
  cases hoctets : i.spelled.utf8? with
  | none =>
    rw [hoctets] at hkey
    cases hkey
  | some octets =>
    rw [hoctets] at hkey
    exact ⟨octets, rfl, Except.ok.inj hkey⟩

/-- Where the numbers of a transfer can be written, it makes no difference whether they are
counted. -/
theorem countedKey_eq_key {i : TransferId} (h : i.Short) : i.countedKey = i.key := by
  rw [countedKey, key, Value.canonicalHash, Value.canonicalOctets, Value.canonicalText]
  cases i.toValue.checkCanonical with
  | error e => rfl
  | ok _ =>
    simp only [write?_toValue h, ok_bind]
    cases i.spelled.utf8? <;> rfl

/-- A transfer that has a key has the same key where its numbers are counted. -/
theorem countedKey_of_key {i : TransferId} {key : Text} (h : i.key = .ok key) :
    i.countedKey = .ok key := by
  obtain ⟨-, -, hshort⟩ := exists_key_iff.1 ⟨key, h⟩
  rw [countedKey_eq_key hshort, h]

/-- A key can be encoded. -/
theorem hasSurrogate_of_countedKey {i : TransferId} {key : Text} (h : i.countedKey = .ok key) :
    key.hasSurrogate = false := by
  obtain ⟨octets, -, rfl⟩ := exists_octets_of_countedKey h
  exact Sha256.hasSurrogate_hex octets

/-! ## What is hashed determines the transfer -/

/-- A number that may be missing can be told from what follows it after a comma. -/
theorem ofInt?_append_inj {m n : Option Int} {r s : Text}
    (h : (m.map Text.ofInt).getD "null" ++ CodePoint.ofChar ',' :: r =
      (n.map Text.ofInt).getD "null" ++ CodePoint.ofChar ',' :: s) : m = n ∧ r = s := by
  have hcomma (n : Option Int) :
      CodePoint.ofChar ',' ∉ (n.map Text.ofInt).getD (Text.ofString "null") := by
    cases n with
    | none => decide
    | some n =>
      intro hmem
      rcases Text.mem_ofInt hmem with hdigit | hminus
      · exact absurd hdigit (by decide)
      · exact absurd hminus (by decide)
  have hnull (n : Int) : Text.ofInt n ≠ "null" := by
    intro h
    have hmem : CodePoint.ofChar 'n' ∈ Text.ofInt n := by
      rw [h]
      decide
    rcases Text.mem_ofInt hmem with hdigit | hminus
    · exact absurd hdigit (by decide)
    · exact absurd hminus (by decide)
  obtain ⟨hparts, hrest⟩ := append_cons_inj (hcomma m) (hcomma n) h
  refine ⟨?_, hrest⟩
  cases m <;> cases n
  · rfl
  · exact absurd hparts.symm (hnull _)
  · exact absurd hparts (hnull _)
  · exact congrArg some (Text.ofInt_injective hparts)

/-- Transfers are told apart by the texts of what is hashed. -/
theorem spelled_injective : Function.Injective spelled := by
  rintro ⟨marketId, receiver, operation, nonce⟩ ⟨marketId', receiver', operation', nonce'⟩ h
  have hparts := List.append_cancel_left h
  obtain ⟨hreceiver, hparts⟩ := Json.string_append_inj hparts
  obtain ⟨hmarketId, hparts⟩ := ofInt?_append_inj (List.append_cancel_left hparts)
  obtain ⟨hnonce, hparts⟩ := ofInt?_append_inj (m := some nonce) (n := some nonce')
    (List.append_cancel_left (show Text.ofString "\"nonce\":" ++ _ = _ from hparts))
  obtain ⟨hoperation, -⟩ := Json.string_append_inj
    (List.append_cancel_left (show Text.ofString "\"operation\":" ++ _ = _ from hparts))
  dsimp only at hreceiver hmarketId hoperation
  rw [hreceiver, hmarketId, hoperation, Option.some.inj hnonce]

end TransferId

/-- No two messages that are hashed into the keys of some transfers have the same hash. -/
def CollisionFree (ids : List TransferId) : Prop :=
  ∀ i ∈ ids, ∀ j ∈ ids, ∀ x y, i.spelled.utf8? = some x → j.spelled.utf8? = some y →
    Sha256.hash x = Sha256.hash y → x = y

/-- A single transfer has no collision. -/
theorem collisionFree_singleton (i : TransferId) : CollisionFree [i] := by
  intro j hj k hk x y hx hy _
  rw [List.mem_singleton.1 hj] at hx
  rw [List.mem_singleton.1 hk, hx] at hy
  exact Option.some.inj hy

/-- Transfers whose hashes are all different have no collision. -/
theorem collisionFree_of_nodup {ids : List TransferId}
    (h : (ids.map fun i => i.spelled.utf8?.map Sha256.hash).Nodup) : CollisionFree ids := by
  intro i hi j hj x y hx hy hhash
  have hhashes : i.spelled.utf8?.map Sha256.hash = j.spelled.utf8?.map Sha256.hash := by
    rw [hx, hy, Option.map_some, Option.map_some, hhash]
  have hij : i = j := List.inj_on_of_nodup_map h hi hj hhashes
  subst hij
  exact Option.some.inj (hx.symm.trans hy)

/-- Some of the transfers have no collision if all have none. -/
theorem CollisionFree.mono {ids more : List TransferId} (h : CollisionFree more)
    (hsub : ∀ i ∈ ids, i ∈ more) : CollisionFree ids :=
  fun i hi j hj => h i (hsub i hi) j (hsub j hj)

/-- Without collisions, transfers are told apart by their keys. -/
theorem CollisionFree.eq_of_countedKey {ids : List TransferId} (h : CollisionFree ids)
    {i j : TransferId} (hi : i ∈ ids) (hj : j ∈ ids) {key : Text}
    (hikey : i.countedKey = .ok key) (hjkey : j.countedKey = .ok key) : i = j := by
  obtain ⟨x, hx, hxkey⟩ := TransferId.exists_octets_of_countedKey hikey
  obtain ⟨y, hy, hykey⟩ := TransferId.exists_octets_of_countedKey hjkey
  have hxy := h i hi j hj x y hx hy (Sha256.hash_eq_of_hex_eq (hxkey.trans hykey.symm))
  subst hxy
  exact TransferId.spelled_injective (Text.utf8?_inj hx hy)

end PredictionMarket
