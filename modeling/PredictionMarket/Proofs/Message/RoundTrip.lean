import PredictionMarket.Proofs.Json.Completeness
import PredictionMarket.Proofs.Message.Part

/-!
# Messages are accepted exactly in their wire form

A value is read as a purpose exactly if the purpose is in range and the value says it. So whatever
is accepted is in range; and a payload in range is read back from every text that spells it, as long
as the text is not too large.
-/

namespace PredictionMarket.Message

open Wire PredictionMarket.Part

/-- The tags of a market are a list. -/
theorem readTags_eq_ok {v : Value} {items : List Value} :
    readTags v = .ok items ↔ v = .list items := by
  constructor
  · intro h
    unfold readTags at h
    split at h
    · cases h
      rfl
    · cases h
  · rintro rfl
    rfl

/-- The tags of a market are accepted if each of them is in range. -/
theorem readItems_tags {name : Text} {items : List Value} {tags : List Tag} :
    readItems name readTag items = .ok tags ↔
      (∀ tag ∈ tags, tag.InRange) ∧ List.Forall₂ SaysTag tags items :=
  readItems_eq_ok (P := Tag.InRange) (R := SaysTag) fun _ _ _ => readTag_eq_ok

/-- An optional time in a field is accepted. -/
theorem readOptional_time {name : Text} {ms : Members} {key : String} {o : Option Int} :
    readOptional name maxTime (field (entries ms) key) = .ok o ↔
      (∀ n ∈ o, IsTime n) ∧ SaysOptional ms key o :=
  readOptional_field fun _ _ => readNumeral_time

/-- An optional amount in a field is accepted. -/
theorem readOptional_amount {name : Text} {ms : Members} {key : String} {o : Option Int} :
    readOptional name maxAmount (field (entries ms) key) = .ok o ↔
      (∀ n ∈ o, IsAmount n) ∧ SaysOptional ms key o :=
  readOptional_field fun _ _ => readNumeral_amount

/-- The terms of a market are accepted if they are in range. -/
theorem readTerms_eq_ok {ms : Members} {terms : MarketTerms} :
    readTerms (entries ms) = .ok terms ↔ terms.InRange ∧ SaysTerms terms ms := by
  simp only [readTerms, bind_eq_ok]
  constructor
  · -- Each step succeeds with a part that is in range and that its field says.
    rintro ⟨items, hitems, isScalar, hscalar, description, hdescription, extraInfo, hextra,
      outcomes, houtcomes, tags, htags, categories, hcategories, endTime, hend, resolutionTime,
      hresolution, collateral, hcollateral, swapFee, hfee, multiplier, hmultiplier, sources,
      hsources, period, hperiod, hterms⟩
    cases hterms
    have hitems := field_eq_list.1 (readTags_eq_ok.1 hitems)
    have hscalar := readBool_field.1 hscalar
    obtain ⟨hdescription, hsaysDescription⟩ := readText_field.1 hdescription
    obtain ⟨hextra, hsaysExtra⟩ := readText_field.1 hextra
    obtain ⟨houtcomes, hsaysOutcomes⟩ := readSmall_field.1 houtcomes
    obtain ⟨htags, hsaysTags⟩ := readItems_tags.1 htags
    obtain ⟨hcategories, hsaysCategories⟩ := readTexts_field.1 hcategories
    obtain ⟨hend, hsaysEnd⟩ := readTime_field.1 hend
    obtain ⟨hresolution, hsaysResolution⟩ := readTime_field.1 hresolution
    obtain ⟨hcollateral, hsaysCollateral⟩ := readName_field.1 hcollateral
    obtain ⟨hfee, hsaysFee⟩ := readAmount_field.1 hfee
    obtain ⟨hmultiplier, hsaysMultiplier⟩ := readOptional_amount.1 hmultiplier
    obtain ⟨hsources, hsaysSources⟩ := readTexts_field.1 hsources
    obtain ⟨hperiod, hsaysPeriod⟩ := readOptional_time.1 hperiod
    exact ⟨⟨hdescription, hextra, houtcomes, htags, hcategories, hend, hresolution, hcollateral,
      hfee, hmultiplier, hsources, hperiod⟩,
      ⟨hsaysDescription, hsaysExtra, hsaysOutcomes, ⟨items, hitems, hsaysTags⟩, hsaysCategories,
        hsaysEnd, hsaysResolution, hsaysCollateral, hsaysFee, hscalar, hsaysMultiplier,
        hsaysSources, hsaysPeriod⟩⟩
  · rintro ⟨hrange, hsays⟩
    obtain ⟨items, hitems, htags⟩ := hsays.tags
    exact ⟨items, readTags_eq_ok.2 (field_eq_list.2 hitems),
      terms.isScalar, readBool_field.2 hsays.isScalar,
      terms.description, readText_field.2 ⟨hrange.description, hsays.description⟩,
      terms.extraInfo, readText_field.2 ⟨hrange.extraInfo, hsays.extraInfo⟩,
      terms.outcomes, readSmall_field.2 ⟨hrange.outcomes, hsays.outcomes⟩,
      terms.tags, readItems_tags.2 ⟨hrange.tags, htags⟩,
      terms.categories, readTexts_field.2 ⟨hrange.categories, hsays.categories⟩,
      terms.endTime, readTime_field.2 ⟨hrange.endTime, hsays.endTime⟩,
      terms.resolutionTime, readTime_field.2 ⟨hrange.resolutionTime, hsays.resolutionTime⟩,
      terms.collateral, readName_field.2 ⟨hrange.collateral, hsays.collateral⟩,
      terms.swapFee, readAmount_field.2 ⟨hrange.swapFee, hsays.swapFee⟩,
      terms.scalarMultiplier,
      readOptional_amount.2 ⟨hrange.scalarMultiplier, hsays.scalarMultiplier⟩,
      terms.sources, readTexts_field.2 ⟨hrange.sources, hsays.sources⟩,
      terms.challengePeriod,
      readOptional_time.2 ⟨hrange.challengePeriod, hsays.challengePeriod⟩, rfl⟩

/-- The weights of a deposit are accepted if each of them is an amount. -/
theorem readWeights_field {ms : Members} {weights : Option (List Int)} :
    readWeights (field (entries ms) "weight_indication") = .ok weights ↔
      (∀ ws ∈ weights, ∀ w ∈ ws, IsAmount w) ∧ SaysWeights ms weights := by
  have hitems (items : List Value) (ws : List Int) :
      readItems "weight_indication" (readNumeral · maxAmount) items = .ok ws ↔
        (∀ w ∈ ws, IsAmount w) ∧ items = ws.map .numeral :=
    readItems_written fun _ _ _ => readNumeral_amount
  constructor
  · intro h
    unfold readWeights at h
    split at h
    · next hnull =>
      cases h
      exact ⟨nofun, field_eq_null.1 hnull⟩
    · next items hlist =>
      obtain ⟨ws, rfl, hws⟩ := map_some_eq_ok.1 h
      obtain ⟨hrange, rfl⟩ := (hitems items ws).1 hws
      exact ⟨fun _ h => Option.some.inj h ▸ hrange, field_eq_list.1 hlist⟩
    · cases h
  · rintro ⟨hrange, hsays⟩
    cases weights with
    | none => rw [field_eq_null.2 hsays, readWeights]
    | some ws =>
      rw [field_eq_list.2 hsays]
      exact map_some_eq_ok.2 ⟨ws, rfl, (hitems _ ws).2 ⟨hrange ws rfl, rfl⟩⟩

/-- The terms of a deposit are accepted if they are in range. -/
theorem readDeposit_eq_ok {ms : Members} {p : Purpose} :
    readDeposit (entries ms) = .ok p ↔
      ∃ marketId weights, p = .addLiquidity marketId weights ∧
        p.InRange ∧ Gives ms "market_id" (.numeral marketId) ∧ SaysWeights ms weights := by
  simp only [readDeposit, bind_eq_ok]
  constructor
  · rintro ⟨weights, hweights, marketId, hmarket, hp⟩
    cases hp
    obtain ⟨hweights, hsays⟩ := readWeights_field.1 hweights
    obtain ⟨hmarket, hgives⟩ := readTime_field.1 hmarket
    exact ⟨marketId, weights, rfl, ⟨hmarket, hweights⟩, hgives, hsays⟩
  · rintro ⟨marketId, weights, rfl, ⟨hmarket, hweights⟩, hgives, hsays⟩
    exact ⟨weights, readWeights_field.2 ⟨hweights, hsays⟩, marketId,
      readTime_field.2 ⟨hmarket, hgives⟩, rfl⟩

/-- The terms of a purchase are accepted if they are in range. -/
theorem readPurchase_eq_ok {ms : Members} {p : Purpose} :
    readPurchase (entries ms) = .ok p ↔
      ∃ marketId outcome minShares, p = .buy marketId outcome minShares ∧
        p.InRange ∧ Gives ms "market_id" (.numeral marketId) ∧
        Gives ms "outcome_target" (.int outcome) ∧
        Gives ms "min_shares_out" (.numeral minShares) := by
  simp only [readPurchase, bind_eq_ok]
  constructor
  · rintro ⟨marketId, hmarket, outcome, houtcome, minShares, hshares, hp⟩
    cases hp
    obtain ⟨hmarket, hsaysMarket⟩ := readTime_field.1 hmarket
    obtain ⟨houtcome, hsaysOutcome⟩ := readSmall_field.1 houtcome
    obtain ⟨hshares, hsaysShares⟩ := readAmount_field.1 hshares
    exact ⟨marketId, outcome, minShares, rfl, ⟨hmarket, houtcome, hshares⟩, hsaysMarket,
      hsaysOutcome, hsaysShares⟩
  · rintro ⟨marketId, outcome, minShares, rfl, ⟨hmarket, houtcome, hshares⟩, hsaysMarket,
      hsaysOutcome, hsaysShares⟩
    exact ⟨marketId, readTime_field.2 ⟨hmarket, hsaysMarket⟩, outcome,
      readSmall_field.2 ⟨houtcome, hsaysOutcome⟩, minShares,
      readAmount_field.2 ⟨hshares, hsaysShares⟩, rfl⟩

/-- A value is read as a purpose exactly if the purpose is in range and the value says it. -/
theorem readPurpose_eq_ok {v : Value} {p : Purpose} :
    readPurpose v = .ok p ↔ p.InRange ∧ Says p v := by
  constructor
  · intro h
    rw [readPurpose, bind_eq_ok] at h
    obtain ⟨⟨key, body⟩, hform, h⟩ := h
    obtain rfl := readForm_eq_ok.1 hform
    simp only at h
    split at h
    · next hkey =>
      obtain ⟨es, hes, h⟩ := (bind_eq_ok _ _ _).1 h
      obtain ⟨ms, rfl, rfl⟩ := readObject_eq_ok.1 hes
      obtain ⟨terms, hterms, hp⟩ := (bind_eq_ok _ _ _).1 h
      obtain ⟨hrange, hsays⟩ := readTerms_eq_ok.1 hterms
      cases hp
      rw [hkey]
      exact ⟨hrange, .createMarket hsays⟩
    · split at h
      · next hkey =>
        obtain ⟨es, hes, h⟩ := (bind_eq_ok _ _ _).1 h
        obtain ⟨ms, rfl, rfl⟩ := readObject_eq_ok.1 hes
        obtain ⟨marketId, weights, rfl, hrange, hmarket, hweights⟩ := readDeposit_eq_ok.1 h
        rw [hkey]
        exact ⟨hrange, .addLiquidity hmarket hweights⟩
      · split at h
        · next hkey =>
          obtain ⟨es, hes, h⟩ := (bind_eq_ok _ _ _).1 h
          obtain ⟨ms, rfl, rfl⟩ := readObject_eq_ok.1 hes
          obtain ⟨marketId, outcome, minShares, rfl, hrange, hmarket, houtcome, hshares⟩ :=
            readPurchase_eq_ok.1 h
          rw [hkey]
          exact ⟨hrange, .buy hmarket houtcome hshares⟩
        · cases h
  · rintro ⟨hrange, hsays⟩
    rw [readPurpose, bind_eq_ok]
    have hobject (key : Text) (ms : Members) :
        readObject key (dictionary ms) = .ok (entries ms) := readObject_eq_ok.2 ⟨ms, rfl, rfl⟩
    have hadd : Text.ofString "AddLiquidityArgs" ≠ Text.ofString "CreateMarketArgs" := by decide
    have hbuy : Text.ofString "BuyArgs" ≠ Text.ofString "CreateMarketArgs" := by decide
    have hbuy' : Text.ofString "BuyArgs" ≠ Text.ofString "AddLiquidityArgs" := by decide
    cases hsays with
    | createMarket hterms =>
      refine ⟨_, readForm_eq_ok.2 rfl, ?_⟩
      simp only [if_true, hobject, ok_bind, readTerms_eq_ok.2 ⟨hrange, hterms⟩]
      rfl
    | addLiquidity hmarket hweights =>
      refine ⟨_, readForm_eq_ok.2 rfl, ?_⟩
      simp only [if_neg hadd, if_true, hobject, ok_bind]
      exact readDeposit_eq_ok.2 ⟨_, _, rfl, hrange, hmarket, hweights⟩
    | buy hmarket houtcome hshares =>
      refine ⟨_, readForm_eq_ok.2 rfl, ?_⟩
      simp only [if_neg hbuy, if_neg hbuy', if_true, hobject, ok_bind]
      exact readPurchase_eq_ok.2 ⟨_, _, _, rfl, hrange, hmarket, houtcome, hshares⟩

/-- A message is accepted exactly if it is a text that is not too large and is the JSON of a value
that says a purpose in range. -/
theorem parse_eq_ok {message : Value} {p : Purpose} :
    parse message = .ok p ↔
      ∃ t octets v, message = .text t ∧ t.utf8? = some octets ∧ octets.length ≤ 65536 ∧
        Json.read? t = some v ∧ p.InRange ∧ Says p v := by
  constructor
  · intro h
    unfold parse at h
    split at h
    · next t =>
      unfold parseText at h
      split at h
      · cases h
      · next octets hoctets =>
        obtain ⟨hsize, h⟩ := (refuseIf_bind_eq_ok _ _ _ _).1 h
        split at h
        · cases h
        · cases h
        · next v hv =>
          obtain ⟨hrange, hsays⟩ := readPurpose_eq_ok.1 ((mapError_eq_ok _ _ _).1 h)
          exact ⟨t, octets, v, rfl, hoctets, Nat.not_lt.1 hsize, Json.read?_eq_some.2 hv, hrange,
            hsays⟩
    · cases h
  · rintro ⟨t, octets, v, rfl, hoctets, hsize, hv, hrange, hsays⟩
    simp only [parse, parseText, hoctets, refuseIf_bind_eq_ok, Json.read?_eq_some.1 hv,
      mapError_eq_ok]
    exact ⟨Nat.not_lt.2 hsize, readPurpose_eq_ok.2 ⟨hrange, hsays⟩⟩

/-- **Wire form**: whatever message is accepted, it is a text that says the payload, and the payload
is in range. A payload in range, if no text in it holds a surrogate, has a message that says it; and
every text that says it and is not too large is read as this payload. -/
theorem accepted_in_wire_form :
    (∀ message p, parse message = .ok p →
      p.InRange ∧ ∃ t v, message = .text t ∧ Json.read? t = some v ∧ Says p v) ∧
    ∀ p : Purpose, p.InRange → (∀ t ∈ p.texts, t.hasSurrogate = false) →
      (∃ v t octets, Says p v ∧ Json.Document v t ∧ t.utf8? = some octets) ∧
      ∀ v t octets, Says p v → Json.Document v t → t.utf8? = some octets →
        octets.length ≤ 65536 → parse (.text t) = .ok p := by
  constructor
  · intro message p h
    obtain ⟨t, _, v, hmessage, -, -, hv, hrange, hsays⟩ := parse_eq_ok.1 h
    exact ⟨hrange, t, v, hmessage, hv, hsays⟩
  · intro p hrange htexts
    constructor
    · obtain ⟨t, octets, ht, hoctets⟩ := (spellable_write hrange htexts).exists_document
      exact ⟨write p, t, octets, says_write hrange, ht, hoctets⟩
    · intro v t octets hsays ht hoctets hsize
      exact parse_eq_ok.2 ⟨t, octets, v, rfl, hoctets, hsize, ht.read?, hrange, hsays⟩

/-- A purchase is read back from its message. -/
theorem purchase_read_back :
    Purpose.InRange (.buy 0 1 90) ∧
      parse (.text ("\x7b\"BuyArgs\": \x7b\"market_id\":\"0\", " ++
        "\"outcome_target\":1, \"min_shares_out\":\"90\"\x7d\x7d")) = .ok (.buy 0 1 90) := by
  have hrange : Purpose.InRange (.buy 0 1 90) := by
    simp [Purpose.InRange, IsTime, IsSmall, IsAmount]
  have hblank : Json.Blanks " " := by
    intro c hc
    rw [List.mem_singleton.1 hc]
    decide
  have hzero : Json.Spells (.value (.text "0")) (Json.marked "0") := .text (.plain (by decide))
  have hninety : Json.Spells (.value (.text "90")) (Json.marked "90") := .text (.plain (by decide))
  have hone : Json.Spells (.value (.int (1 : Nat))) "1" := .natural (by decide)
  have hshares := Json.Spells.lastMember (k := "min_shares_out") (.plain (by decide)) .nil .nil
    hninety .nil
  have houtcome := Json.Spells.member (k := "outcome_target") (.plain (by decide)) .nil .nil
    hone .nil hblank hshares
  have hmarket := Json.Spells.member (k := "market_id") (.plain (by decide)) .nil .nil hzero .nil
    hblank houtcome
  have hbuy := Json.Spells.lastMember (k := "BuyArgs") (.plain (by decide)) .nil hblank
    (.object .nil hmarket) .nil
  have hdocument : Json.Document (write (.buy 0 1 90)) _ :=
    ⟨[], _, [], .nil, .object .nil hbuy, .nil, rfl⟩
  exact ⟨hrange, (accepted_in_wire_form.2 _ hrange nofun).2 _ _ _ (says_write hrange) hdocument rfl
    (by decide)⟩

end PredictionMarket.Message
