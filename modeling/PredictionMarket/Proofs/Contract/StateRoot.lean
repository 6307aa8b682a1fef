import PredictionMarket.Contract.Snapshot
import PredictionMarket.Proofs.Canonical
import PredictionMarket.Proofs.Contract.Conservation
import PredictionMarket.Proofs.Contract.Lifecycle
import PredictionMarket.Proofs.Guard

/-!
# When there is a state root

The snapshot of a contract can be taken as long as the amounts in it can be written. It has a digest
exactly if, besides, no text in it has a surrogate, the tokens of the payments are encodable, and the
other numbers in it can be written as well. Names and texts that come in by calls are not tested for
surrogates, neither as arguments nor as parts of messages, and times and multipliers that are
arguments of calls may be of any size, so there are states without a state root.
-/

namespace PredictionMarket

/-! ## The texts of a state -/

/-- The label of an outcome, if it has one. -/
def Tag.texts : Tag → List Text
  | .label name => [name]
  | _ => []

/-- The token of a pool and the accounts in its ledgers. -/
def Pool.texts (p : Pool) : List Text :=
  p.token :: (p.stakes.balances.keys ++ p.withdrawn.keys ++
    p.shares.balances.keys.map Holding.account)

/-- The creator of a market, its texts, and those of its pool. -/
def Market.texts (m : Market) : List Text :=
  m.creator :: m.description :: m.extraInfo ::
    (m.tags.flatMap Tag.texts ++ m.categories ++ m.sources ++ m.pool.texts)

/-- A contract without a surrogate in any of its texts, which owes nothing but encodable tokens. -/
structure Contract.Clean (c : Contract) : Prop where
  /-- The governing account has a name that can be encoded. -/
  gov : c.gov.hasSurrogate = false
  /-- So has the oracle. -/
  oracleId : c.oracleId.hasSurrogate = false
  /-- So have the collateral tokens. -/
  whitelist : ∀ token ∈ c.whitelist.keys, Text.hasSurrogate token = false
  /-- The texts of the markets can be encoded. -/
  markets : ∀ m ∈ c.arena.markets, ∀ t ∈ m.texts, Text.hasSurrogate t = false
  /-- The tokens of the transfers can be encoded. -/
  tokens : ∀ t ∈ c.outbox.transfers, t.token.isEncodable = true
  /-- So can the reasons of failures. -/
  reasons : ∀ t ∈ c.outbox.transfers, ∀ reason ∈ t.lastError, Text.hasSurrogate reason = false

/-! ## The numbers of a state

Amounts stand in a snapshot as numerals. The other numbers stand in it as they are. -/

/-- The number of the market of a pool, and the numbers of its outcomes. -/
def Pool.counts (p : Pool) : List Int :=
  p.marketId :: p.outcomes :: p.shares.balances.keys.map fun holding => (holding.outcome : Int)

/-- The number of a market, its times, its multiplier, and the numbers of its pool. -/
def Market.counts (m : Market) : List Int :=
  m.id :: m.endTime :: m.resolutionTime :: m.challengePeriod ::
    (m.scalarMultiplier.toList ++ m.pool.counts)

/-- The numbers of a transfer and of its market, and that of the reports on it. -/
def Transfer.counts (t : Transfer) : List Int :=
  t.id.nonce :: t.attempts :: t.id.marketId.toList

/-- The numbers that stand as they are in the snapshot of a contract. -/
def Contract.counts (c : Contract) : List Int :=
  c.whitelist.values ++ (c.arena.markets.flatMap Market.counts ++
    c.outbox.transfers.flatMap Transfer.counts)

/-- A contract without a surrogate in any of its texts, which owes nothing but encodable tokens, and
all of whose numbers can be written. -/
structure Contract.Encodable (c : Contract) : Prop extends c.Clean where
  /-- The amounts can be written. -/
  numerals : ∀ n ∈ c.numerals, Text.canWrite n = true
  /-- So can the other numbers. -/
  counts : ∀ n ∈ c.counts, Text.canWrite n = true

/-! ## Plain forms -/

/-- The plain form of a tag is encodable if the label is. -/
theorem Tag.isEncodable_of_toValue? {tag : Tag} {v : Value} (h : tag.toValue? = .ok v) :
    v.isEncodable = true ↔ ∀ t ∈ tag.texts, Text.hasSurrogate t = false := by
  cases tag with
  | unknown _ => cases h
  | label name | number n =>
    cases h
    simp [texts]

/-- The plain forms of tags are encodable if the labels are. -/
theorem Tag.areEncodable_of_mapM {tags : List Tag} {values : List Value}
    (h : tags.mapM toValue? = .ok values) :
    (∀ v ∈ values, v.isEncodable = true) ↔
      ∀ t ∈ tags.flatMap Tag.texts, Text.hasSurrogate t = false := by
  have hall := mapM_eq_ok.1 h
  clear h
  induction hall with
  | nil => simp
  | cons htag _ ih =>
    rw [List.forall_mem_cons, List.flatMap_cons, List.forall_mem_append,
      isEncodable_of_toValue? htag]
    exact and_congr_right' ih

/-- Tags that are tags have plain forms. -/
theorem Tag.exists_mapM_toValue? {tags : List Tag} (h : ∀ tag ∈ tags, tag.isKnown = true) :
    ∃ values, tags.mapM toValue? = .ok values := by
  induction tags with
  | nil => exact ⟨[], rfl⟩
  | cons tag tags ih =>
    obtain ⟨htag, htags⟩ := List.forall_mem_cons.1 h
    obtain ⟨values, hvalues⟩ := ih htags
    cases tag with
    | unknown _ => cases htag
    | label _ | number _ => exact ⟨_, by rw [List.mapM_cons, toValue?, ok_bind, hvalues]; rfl⟩

/-- The plain form of a resolution is encodable. -/
@[simp] theorem Numerator.isEncodable_toValue (n : Numerator) : n.toValue.isEncodable = true := by
  cases n with
  | unresolved | invalid => rfl
  | valid values => simp [toValue]

/-- The plain form of a table of amounts is encodable if the accounts are. -/
@[simp] theorem Pool.isEncodable_amountsByAccount (t : Table Text Int) :
    (amountsByAccount t).isEncodable = true ↔
      ∀ account ∈ t.keys, Text.hasSurrogate account = false := by
  have hmap := Value.isEncodable_object_map (Prod.fst : Text × Int → Text)
    (fun e => .numeral e.2) t.entries
  simp only [Value.isEncodable_numeral, and_true] at hmap
  rw [Table.keys, List.forall_mem_map]
  exact hmap

/-- The plain form of a pool is encodable if its texts are and its numbers can be written. -/
@[simp] theorem Pool.isEncodable_toValue (p : Pool) :
    p.toValue.isEncodable = true ↔ (∀ t ∈ p.texts, Text.hasSurrogate t = false) ∧
      ∀ n ∈ p.counts, Text.canWrite n = true := by
  simp only [toValue, Value.isEncodable_record, List.forall_mem_cons, texts, counts,
    List.forall_mem_append, Value.isEncodable_list, Value.isEncodable_text, Value.isEncodable_int,
    isEncodable_amountsByAccount, Table.keys, List.forall_mem_map]
  simp [forall_and]
  tauto

/-- The plain form of a market is encodable if its texts are and its numbers can be written. -/
theorem Market.isEncodable_of_toValue {m : Market} {v : Value} (h : m.toValue none = .ok v) :
    v.isEncodable = true ↔ (∀ t ∈ m.texts, Text.hasSurrogate t = false) ∧
      ∀ n ∈ m.counts, Text.canWrite n = true := by
  simp only [toValue, bind_eq_ok, mapError_eq_ok, pure, Except.pure, Except.ok.injEq] at h
  obtain ⟨tags, htags, rfl⟩ := h
  have hlabels := Tag.areEncodable_of_mapM htags
  simp only [List.append_nil, Value.isEncodable_record, List.forall_mem_cons, texts, counts,
    List.forall_mem_append, Value.isEncodable_list, hlabels, Value.isEncodable_text,
    Pool.isEncodable_toValue]
  simp only [Value.isEncodable_int, Value.isEncodable_bool, Value.isEncodable_ofInt?,
    Value.isEncodable_numeral, Value.isEncodable_ofTexts, Numerator.isEncodable_toValue,
    Text.hasSurrogate_ofString, List.not_mem_nil, true_and, Option.mem_toList]
  tauto

/-- A market whose tags are tags has a plain form. -/
theorem Market.exists_toValue {m : Market} (h : ∀ tag ∈ m.tags, tag.isKnown = true)
    (now : Option Int) : ∃ v, m.toValue now = .ok v := by
  obtain ⟨tags, htags⟩ := Tag.exists_mapM_toValue? h
  unfold toValue
  rw [htags]
  exact ⟨_, rfl⟩

/-- The plain form of a transfer with a key is encodable if the token and the reason of a failure
are, and the numbers can be written. -/
theorem Transfer.isEncodable_toValue {t : Transfer} (h : t.id.countedKey = .ok t.key) :
    t.toValue.isEncodable = true ↔ (t.token.isEncodable = true ∧
      ∀ reason ∈ t.lastError, Text.hasSurrogate reason = false) ∧
      ∀ n ∈ t.counts, Text.canWrite n = true := by
  obtain ⟨hreceiver, hoperation⟩ := TransferId.exists_countedKey_iff.1 ⟨_, h⟩
  have hkey := TransferId.hasSurrogate_of_countedKey h
  have hreason : ((t.lastError.map Value.text).getD .null).isEncodable = true ↔
      ∀ reason ∈ t.lastError, Text.hasSurrogate reason = false := by
    cases t.lastError <;> simp
  simp only [toValue, fields, Value.isEncodable_record, List.forall_mem_cons, hreason, counts,
    Value.isEncodable_text, hreceiver, hoperation, hkey]
  simp
  tauto

namespace Contract

/-! ## The snapshot -/

/-- A contract whose markets have nothing but tags has a plain form. -/
theorem exists_toValue {c : Contract}
    (h : ∀ m ∈ c.arena.markets, ∀ tag ∈ m.tags, tag.isKnown = true) :
    ∃ v, c.toValue = .ok v := by
  have hmarkets : ∃ values, c.arena.markets.mapM (fun m => m.toValue none) = .ok values := by
    generalize c.arena.markets = markets at h
    induction markets with
    | nil => exact ⟨[], rfl⟩
    | cons m markets ih =>
      obtain ⟨hm, hrest⟩ := List.forall_mem_cons.1 h
      obtain ⟨v, hv⟩ := m.exists_toValue hm none
      obtain ⟨values, hvalues⟩ := ih hrest
      exact ⟨v :: values, by rw [List.mapM_cons, hv, ok_bind, hvalues]; rfl⟩
  obtain ⟨values, hvalues⟩ := hmarkets
  rw [toValue, hvalues]
  exact ⟨_, rfl⟩

/-- The snapshot of a contract is its plain form, if the amounts in it can be written. -/
theorem snapshot_eq_ok {c : Contract} {v : Value} :
    c.snapshot = .ok v ↔ c.toValue = .ok v ∧ ∀ n ∈ c.numerals, Text.canWrite n = true := by
  simp only [snapshot, bind_eq_ok, refuseIf_eq_ok, pure, Except.pure, Except.ok.injEq,
    Bool.not_eq_true', Bool.not_eq_false, List.all_eq_true]
  constructor
  · rintro ⟨shown, hshown, _, hnumerals, rfl⟩
    exact ⟨hshown, hnumerals⟩
  · rintro ⟨hshown, hnumerals⟩
    exact ⟨v, hshown, (), hnumerals, rfl⟩

/-- The plain form of a contract whose transfers have their keys is encodable if its texts and
tokens are and the numbers in it that are no amounts can be written. -/
theorem isEncodable_of_toValue {c : Contract} {v : Value} (h : c.toValue = .ok v)
    (hkeys : ∀ t ∈ c.outbox.transfers, t.id.countedKey = .ok t.key) :
    v.isEncodable = true ↔ c.Clean ∧ ∀ n ∈ c.counts, Text.canWrite n = true := by
  simp only [toValue, bind_eq_ok, mapError_eq_ok, pure, Except.pure, Except.ok.injEq] at h
  obtain ⟨markets, hmarkets, rfl⟩ := h
  have hwhitelist :
      (∀ v ∈ c.whitelist.entries.map fun e => Value.list [.text e.1, .int e.2],
        v.isEncodable = true) ↔ (∀ token ∈ c.whitelist.keys, Text.hasSurrogate token = false) ∧
          ∀ n ∈ c.whitelist.values, Text.canWrite n = true := by
    rw [Table.keys, Table.values, List.forall_mem_map, List.forall_mem_map, List.forall_mem_map,
      ← forall₂_and]
    simp
  have hmarkets : (∀ v ∈ markets, v.isEncodable = true) ↔
      (∀ m ∈ c.arena.markets, ∀ t ∈ m.texts, Text.hasSurrogate t = false) ∧
        ∀ m ∈ c.arena.markets, ∀ n ∈ m.counts, Text.canWrite n = true := by
    have hall := mapM_eq_ok.1 hmarkets
    clear hmarkets
    rw [← forall₂_and]
    generalize c.arena.markets = shown at hall
    induction hall with
    | nil => simp
    | cons hm _ ih =>
      rw [List.forall_mem_cons, List.forall_mem_cons, Market.isEncodable_of_toValue hm]
      exact and_congr_right' ih
  have htransfers : (∀ v ∈ c.outbox.transfers.map Transfer.toValue, v.isEncodable = true) ↔
      (∀ t ∈ c.outbox.transfers, t.token.isEncodable = true ∧
        ∀ reason ∈ t.lastError, Text.hasSurrogate reason = false) ∧
        ∀ t ∈ c.outbox.transfers, ∀ n ∈ t.counts, Text.canWrite n = true := by
    rw [List.forall_mem_map, ← forall₂_and]
    exact forall₂_congr fun t ht => Transfer.isEncodable_toValue (hkeys t ht)
  simp only [Value.isEncodable_record, List.forall_mem_cons, Value.isEncodable_list,
    Value.isEncodable_text, Value.isEncodable_bool, hwhitelist, hmarkets, htransfers, counts,
    List.forall_mem_append, List.forall_mem_flatMap]
  constructor
  · rintro ⟨hgov, horacle, -, ⟨htokens, hdecimals⟩, ⟨hms, hids⟩, ⟨hts, hnonces⟩, -⟩
    exact ⟨⟨hgov, horacle, htokens, hms, fun t ht => (hts t ht).1, fun t ht => (hts t ht).2⟩,
      hdecimals, hids, hnonces⟩
  · rintro ⟨⟨hgov, horacle, htokens, hms, hpaid, hreasons⟩, hdecimals, hids, hnonces⟩
    exact ⟨hgov, horacle, trivial, ⟨htokens, hdecimals⟩, ⟨hms, hids⟩,
      ⟨fun t ht => ⟨hpaid t ht, hreasons t ht⟩, hnonces⟩, by simp⟩

/-- There is a state root exactly if the snapshot can be taken and is encodable. -/
theorem exists_stateRoot_iff {c : Contract} {v : Value} (h : c.toValue = .ok v) :
    (∃ root, c.stateRoot = .ok root) ↔
      (∀ n ∈ c.numerals, Text.canWrite n = true) ∧ v.isEncodable = true := by
  simp only [← Value.exists_digest_iff, stateRoot, bind_eq_ok, mapError_eq_ok, snapshot_eq_ok]
  constructor
  · rintro ⟨root, shown, ⟨hshown, hnumerals⟩, hroot⟩
    obtain rfl : v = shown := Except.ok.inj (h.symm.trans hshown)
    exact ⟨hnumerals, root, hroot⟩
  · rintro ⟨hnumerals, root, hroot⟩
    exact ⟨root, v, ⟨h, hnumerals⟩, hroot⟩

/-! ## All states -/

/-- In every state that can be reached, the markets have nothing but tags. -/
theorem Reachable.tags {c : Contract} (hc : c.Reachable) :
    ∀ m ∈ c.arena.markets, ∀ tag ∈ m.tags, tag.isKnown = true := by
  refine hc.markets (P := fun m => ∀ tag ∈ m.tags, tag.isKnown = true)
    (fun hterms hmade => ?_) (fun hm hevolves => ?_)
  · obtain ⟨_, -, rfl⟩ := newMarket_ok hmade
    exact (checkTerms_ok hterms).2
  · obtain ⟨_, _, _, _, _, _, rfl⟩ := hevolves.eq_with
    exact hm

/-- In every state that can be reached, a transfer stands under its key. -/
theorem Reachable.keys {c : Contract} (hc : c.Reachable) :
    ∀ t ∈ c.outbox.transfers, t.id.countedKey = .ok t.key := by
  obtain ⟨ids, hnumbered⟩ := hc.numbered
  exact fun t ht => hnumbered.key t.due (List.mem_map_of_mem ht)

/-- **The state root**: in every state that a contract reaches, there is a state root exactly if all
its texts and the tokens that it owes can be encoded and all its numbers can be written. -/
theorem stateRoot_exists_iff {c : Contract} (hc : c.Reachable) :
    (∃ root, c.stateRoot = .ok root) ↔ c.Encodable := by
  obtain ⟨v, hshown⟩ := exists_toValue hc.tags
  rw [exists_stateRoot_iff hshown, isEncodable_of_toValue hshown hc.keys]
  exact ⟨fun ⟨hnumerals, hclean, hcounts⟩ => ⟨hclean, hnumerals, hcounts⟩,
    fun h => ⟨h.numerals, h.toClean, h.counts⟩⟩

/-- After a sale that is paid for, everything can be encoded, and there is a state root. -/
theorem stateRoot_exists_after_sale :
    ∃ c : Contract, c.Reachable ∧ c.outbox.transfers.length = 1 ∧ c.Encodable ∧
      ∃ root, c.stateRoot = .ok root := by
  let config : Config :=
    { whitelist := Table.ofList [("T", 0)], validityBond := 0, maxSwapFee := 100 }
  have hreachable : ((make config "g" "o").run saleCalls).Reachable :=
    ⟨config, "g", "o", saleCalls, rfl⟩
  have hencodable : ((make config "g" "o").run saleCalls).Encodable := {
    gov := by decide +kernel
    oracleId := by decide +kernel
    whitelist := by decide +kernel
    markets := by decide +kernel
    tokens := by decide +kernel
    reasons := by decide +kernel
    numerals := by decide +kernel
    counts := by decide +kernel }
  exact ⟨_, hreachable, by decide +kernel, hencodable,
    (stateRoot_exists_iff hreachable).2 hencodable⟩

/-- A message that creates a market, with an escape for a surrogate in the description. -/
def surrogateMessage : Text :=
  "\x7b\"CreateMarketArgs\":\x7b\"description\":\"\\ud800\",\"outcomes\":2," ++
    "\"outcome_tags\":[\x7b\"String\":\"yes\"\x7d,\x7b\"String\":\"no\"\x7d]," ++
    "\"end_time\":\"10\",\"resolution_time\":\"20\",\"collateral_token_id\":\"T\"," ++
    "\"swap_fee\":\"100\"\x7d\x7d"

/-- The message is accepted, and after it there is no state root. -/
theorem stateRoot_missing :
    ∃ config, ((make config "g" "o").step
        (.transfer "a" (.text "T") (.int 1) (.text surrogateMessage) 0)).result.toOption.isSome ∧
      ∀ root, ((make config "g" "o").run
        [.transfer "a" (.text "T") (.int 1) (.text surrogateMessage) 0]).stateRoot ≠ .ok root := by
  let config : Config :=
    { whitelist := Table.ofList [("T", 0)], validityBond := 0, maxSwapFee := 100 }
  have hmissing : ((make config "g" "o").run [.transfer "a" (.text "T") (.int 1)
      (.text surrogateMessage) 0]).stateRoot.toOption = none := by
    decide +kernel
  refine ⟨config, by decide +kernel, fun root hroot => ?_⟩
  rw [hroot] at hmissing
  cases hmissing

end Contract

end PredictionMarket
