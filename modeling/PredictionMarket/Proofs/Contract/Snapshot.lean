import PredictionMarket.Proofs.Contract.StateRoot
import PredictionMarket.Proofs.Contract.Tally
import PredictionMarket.Proofs.Contract.Twin

/-!
# The snapshot is the whole state

Plain forms can be read back, so two contracts with the same snapshot have the same settings, the
same transfers, and markets that differ at most in the answers of the oracle. What a snapshot leaves
out can be read off the transfers or makes no difference. Two runs that lead to the same snapshot
therefore lead to states that answer all later calls alike.
-/

namespace PredictionMarket

/-! ## Reading plain forms back -/

namespace Value

/-- A numeral tells the number. -/
theorem numeral_injective : Function.Injective numeral :=
  fun _ _ h => Text.ofInt_injective (Value.text.inj h)

/-- The plain form of a number that may be missing tells the number. -/
theorem ofInt?_injective : Function.Injective ofInt? := by
  intro m n h
  cases m <;> cases n <;> simp_all [ofInt?]

/-- A list of texts tells the texts. -/
theorem ofTexts_injective : Function.Injective ofTexts :=
  fun _ _ h => List.map_injective_iff.2 (fun _ _ => Value.text.inj) (Value.list.inj h)

/-- A list of numerals tells the numbers. -/
theorem list_numeral_injective : Function.Injective fun ns : List Int => list (ns.map numeral) :=
  fun _ _ h => List.map_injective_iff.2 numeral_injective (Value.list.inj h)

end Value

/-- The plain form of a tag tells the tag. -/
theorem Tag.toValue?_inj {s t : Tag} {v : Value} (hs : s.toValue? = .ok v)
    (ht : t.toValue? = .ok v) : s = t := by
  have hsame := hs.trans ht.symm
  cases s with
  | unknown _ => cases hs
  | label name =>
    cases t with
    | label other => simpa [toValue?, Value.record] using hsame
    | number n => simp [toValue?, Value.record] at hsame
    | unknown _ => cases ht
  | number n =>
    cases t with
    | label other => simp [toValue?, Value.record] at hsame
    | number m =>
      simp only [toValue?, Value.record, List.map_cons, List.map_nil, Except.ok.injEq,
        Value.object.injEq, List.cons.injEq, Prod.mk.injEq, true_and, and_true,
        Value.bool.injEq] at hsame
      obtain ⟨hvalue, hmultiplier, hnegative⟩ := hsame
      cases n
      cases m
      simp_all [Value.numeral_injective.eq_iff]
    | unknown _ => cases ht

/-- The plain form of a resolution and the name of its kind tell the resolution. -/
theorem Numerator.eq_of_toValue {n other : Numerator} (hvalue : n.toValue = other.toValue)
    (hkind : Text.ofString n.kindName = Text.ofString other.kindName) : n = other := by
  cases n <;> cases other <;> first
    | rfl
    | exact congrArg valid (Value.list_numeral_injective hvalue)
    | exact absurd hkind (by decide)
    | cases hvalue

/-- The plain form of a table of amounts tells the table. -/
theorem Pool.amountsByAccount_injective : Function.Injective amountsByAccount := by
  intro s t h
  refine Table.ext (List.map_injective_iff.2 (fun e f hentry => ?_) (Value.object.inj h))
  obtain ⟨haccount, hamount⟩ := Prod.mk.inj hentry
  exact Prod.ext (Value.text.inj haccount) (Value.numeral_injective hamount)

/-- The plain form of a pool tells the pool. -/
theorem Pool.toValue_injective : Function.Injective Pool.toValue := by
  intro p q h
  simp only [toValue, Value.record, List.map_cons, List.map_nil, Value.object.injEq,
    List.cons.injEq, Prod.mk.injEq, true_and, and_true, Value.int.injEq, Value.text.injEq,
    Pool.amountsByAccount_injective.eq_iff, Value.numeral_injective.eq_iff,
    Value.list_numeral_injective.eq_iff] at h
  obtain ⟨hid, houtcomes, htoken, hdenomination, hfee, hreserves, hsupply, hweight, htotal, hstakes,
    hwithdrawn, hshares⟩ := h
  have hcount : p.shares.outcomes = q.shares.outcomes := Int.natCast_inj.1 houtcomes
  have hbalances : p.shares.balances = q.shares.balances := by
    refine Table.ext (List.map_injective_iff.2 (fun e f hentry => ?_) (Value.list.inj hshares))
    obtain ⟨⟨account, outcome⟩, amount⟩ := e
    obtain ⟨⟨other, place⟩, number⟩ := f
    simp only [Value.list.injEq, List.cons.injEq, Value.text.injEq, Value.int.injEq, and_true,
      Value.numeral_injective.eq_iff, Nat.cast_inj] at hentry
    obtain ⟨rfl, rfl, rfl⟩ := hentry
    rfl
  obtain ⟨_, _, _, _, _, ⟨_, _⟩, ⟨_, _⟩, ⟨_, _⟩, _⟩ := p
  obtain ⟨_, _, _, _, _, ⟨_, _⟩, ⟨_, _⟩, ⟨_, _⟩, _⟩ := q
  simp_all only

/-- A status is told by its name. -/
theorem TransferStatus.eq_of_name {s t : TransferStatus}
    (h : Text.ofString s.name = Text.ofString t.name) : s = t := by
  cases s <;> cases t <;> first | rfl | exact absurd h (by decide)

/-- The plain form of a transfer tells the transfer. -/
theorem Transfer.toValue_injective : Function.Injective Transfer.toValue := by
  intro t u h
  simp only [toValue, fields, Value.record, List.map_cons, List.map_nil, Value.object.injEq,
    List.cons.injEq, Prod.mk.injEq, true_and, and_true, Value.int.injEq, Value.text.injEq,
    Value.numeral_injective.eq_iff, Value.ofInt?_injective.eq_iff, Nat.cast_inj] at h
  obtain ⟨hkey, hid, hreceiver, htoken, hamount, hoperation, hnonce, hname, hattempts, hreason⟩ := h
  have hstatus := TransferStatus.eq_of_name hname
  have herror : t.lastError = u.lastError := by
    cases ht : t.lastError <;> cases hu : u.lastError <;> simp_all
  obtain ⟨_, ⟨_, _, _, _⟩, _, _, _, _, _⟩ := t
  obtain ⟨_, ⟨_, _, _, _⟩, _, _, _, _, _⟩ := u
  simp_all only

/-- Markets with the same plain form differ at most in the answer that the oracle gave. -/
theorem Market.twin_of_toValue {m other : Market} {v : Value} (hm : m.toValue none = .ok v)
    (hother : other.toValue none = .ok v) : m.Twin other := by
  simp only [toValue, bind_eq_ok, mapError_eq_ok, pure, Except.pure, Except.ok.injEq] at hm hother
  obtain ⟨tags, htags, rfl⟩ := hm
  obtain ⟨otherTags, hotherTags, h⟩ := hother
  simp only [List.append_nil, Value.record, List.map_cons, List.map_nil, Value.object.injEq,
    List.cons.injEq, Prod.mk.injEq, true_and, and_true, Value.int.injEq, Value.text.injEq,
    Value.bool.injEq, Value.list.injEq, Value.numeral_injective.eq_iff,
    Value.ofInt?_injective.eq_iff, Value.ofTexts_injective.eq_iff,
    Pool.toValue_injective.eq_iff] at h
  obtain ⟨hid, hcreator, hend, hresolution, hscalar, hmultiplier, rfl, hnumerator, hkind, hfinalized,
    henabled, hanswered, hchallenge, hbond, hdescription, hextra, hcategories, hsources, hpool⟩ := h
  have hsame : m.tags = other.tags :=
    List.forall₂_eq_eq_eq ▸ forall₂_of_mapM Tag.toValue?_inj htags hotherTags
  have hresolved := Numerator.eq_of_toValue hnumerator hkind
  refine ⟨other.oracleAnswer, ?_⟩
  cases m
  cases other
  simp_all only

namespace Contract

/-- Contracts with the same snapshot have the same plain form. -/
theorem toValue_inj_of_snapshot {c other : Contract} {v w : Value} (hv : c.toValue = .ok v)
    (hw : other.toValue = .ok w) (h : c.snapshot = other.snapshot) : v = w := by
  rw [snapshot, snapshot, hv, hw, ok_bind, ok_bind, refuseIf_bind, refuseIf_bind] at h
  split at h <;> split at h <;> cases h <;> rfl

/-- **What a snapshot tells**: contracts with the same plain form and the same configuration, in
which no number is left out, are twins. -/
theorem twin_of_toValue {c other : Contract} {config : Config} {ids otherIds : List TransferId}
    {v : Value} (hc : c.Founded config) (hother : other.Founded config) (htallied : c.Tallied ids)
    (hothers : other.Tallied otherIds) (hshown : c.toValue = .ok v)
    (hsame : other.toValue = .ok v) : c.Twin other := by
  simp only [toValue, bind_eq_ok, mapError_eq_ok, pure, Except.pure, Except.ok.injEq]
    at hshown hsame
  obtain ⟨markets, hmarkets, rfl⟩ := hshown
  obtain ⟨otherMarkets, hotherMarkets, h⟩ := hsame
  simp only [Value.record, List.map_cons, List.map_nil, Value.object.injEq,
    List.cons.injEq, Prod.mk.injEq, true_and, and_true, Value.text.injEq, Value.bool.injEq,
    Value.list.injEq] at h
  obtain ⟨hgov, horacle, hpaused, hlisted, rfl, htransfers⟩ := h
  have hwhitelist : c.whitelist = other.whitelist := by
    refine Table.ext (List.map_injective_iff.2 (fun e f hentry => ?_) hlisted.symm)
    obtain ⟨token, decimals⟩ := e
    obtain ⟨otherToken, number⟩ := f
    simp only [Value.list.injEq, List.cons.injEq, Value.text.injEq, Value.int.injEq,
      and_true] at hentry
    exact Prod.ext hentry.1 hentry.2
  have houtbox : c.outbox = other.outbox :=
    congrArg Outbox.mk (List.map_injective_iff.2 Transfer.toValue_injective htransfers.symm)
  have hconfig : c.config = other.config := hc.config_eq.trans hother.config_eq.symm
  have haccepts : c.oracle.refusing = other.oracle.refusing := hc.accepts.trans hother.accepts.symm
  refine ⟨⟨other.arena.markets, other.nonces, other.journal, other.oracle.requests, ?_⟩,
    forall₂_of_mapM Market.twin_of_toValue hmarkets hotherMarkets, fun account => ?_,
    fun account hname => ?_⟩
  · obtain ⟨_, _, _, _, _, ⟨_⟩, _, _, _, ⟨_, _⟩⟩ := other
    simp_all only
  · obtain ⟨k, hk⟩ := htallied.numbered.stored account
    obtain ⟨l, hl⟩ := hothers.numbered.stored account
    exact ⟨k, l, hk, hl⟩
  · exact (htallied.counted account hname).last_eq (hothers.counted account hname) houtbox

/-- **Completeness of the snapshot**: if two runs without a collision lead from new contracts with
the same settings to the same snapshot, then whatever calls follow, each has the same result after
both, and leads to the same snapshot. -/
theorem responses_eq_of_snapshot_eq (config : Config) (gov oracleId : Text)
    {first second : List Call}
    (hfirst : CollisionFree ((make config gov oracleId).transferIds first))
    (hsecond : CollisionFree ((make config gov oracleId).transferIds second))
    (hsame : ((make config gov oracleId).run first).snapshot =
      ((make config gov oracleId).run second).snapshot) (more : List Call) :
    ((make config gov oracleId).run first).responses more =
      ((make config gov oracleId).run second).responses more := by
  have hreachable (calls : List Call) : ((make config gov oracleId).run calls).Reachable :=
    ⟨config, gov, oracleId, calls, rfl⟩
  obtain ⟨v, hshown⟩ := exists_toValue (hreachable first).tags
  obtain ⟨w, hother⟩ := exists_toValue (hreachable second).tags
  obtain rfl := toValue_inj_of_snapshot hshown hother hsame
  have htwin := twin_of_toValue (founded_run config gov oracleId first)
    (founded_run config gov oracleId second) (tallied_run config gov oracleId hfirst)
    (tallied_run config gov oracleId hsecond) hshown hother
  exact htwin.responses more

/-- Calls that create a market with a scale from zero to ten, trade in it, and resolve it by a
number. -/
def scaleCalls (n : FixedPoint) : List Call :=
  .ask "a" (.createMarket
      { outcomes := 2, tags := [.number ⟨0, 1, false⟩, .number ⟨10, 1, false⟩], endTime := 10,
        resolutionTime := 10, collateral := "T", swapFee := 100, isScalar := true,
        scalarMultiplier := some 1 } (.int 0) 0) ::
    saleCalls.tail ++ [.ask "o" (.answer (.int 0) (.plain (.number n)) (.int 0) 20)]

/-- Seven can be given as seven or as seventy tenths. The answers that are stored differ, but the
snapshots and all that follows do not. -/
theorem responses_eq_after_equal_numbers :
    ∃ config,
      CollisionFree ((make config "g" "o").transferIds (scaleCalls ⟨7, 1, false⟩)) ∧
      CollisionFree ((make config "g" "o").transferIds (scaleCalls ⟨70, 10, false⟩)) ∧
      ((make config "g" "o").run (scaleCalls ⟨7, 1, false⟩)).outbox.transfers.length = 1 ∧
      ((make config "g" "o").run (scaleCalls ⟨7, 1, false⟩)).arena.markets.map
          Market.oracleAnswer ≠
        ((make config "g" "o").run (scaleCalls ⟨70, 10, false⟩)).arena.markets.map
          Market.oracleAnswer ∧
      ((make config "g" "o").run (scaleCalls ⟨7, 1, false⟩)).snapshot =
        ((make config "g" "o").run (scaleCalls ⟨70, 10, false⟩)).snapshot ∧
      ∀ more, ((make config "g" "o").run (scaleCalls ⟨7, 1, false⟩)).responses more =
        ((make config "g" "o").run (scaleCalls ⟨70, 10, false⟩)).responses more := by
  let config : Config :=
    { whitelist := Table.ofList [("T", 0)], validityBond := 0, maxSwapFee := 100 }
  have hids : (make config "g" "o").transferIds (scaleCalls ⟨7, 1, false⟩) =
      [⟨some 0, "b", "sell", 1⟩] := by
    decide +kernel
  have hotherIds : (make config "g" "o").transferIds (scaleCalls ⟨70, 10, false⟩) =
      [⟨some 0, "b", "sell", 1⟩] := by
    decide +kernel
  have hfree : CollisionFree ((make config "g" "o").transferIds (scaleCalls ⟨7, 1, false⟩)) :=
    hids ▸ collisionFree_singleton _
  have hotherFree :
      CollisionFree ((make config "g" "o").transferIds (scaleCalls ⟨70, 10, false⟩)) :=
    hotherIds ▸ collisionFree_singleton _
  have hsame : ((make config "g" "o").run (scaleCalls ⟨7, 1, false⟩)).snapshot =
      ((make config "g" "o").run (scaleCalls ⟨70, 10, false⟩)).snapshot := by
    have hshown : ((make config "g" "o").run (scaleCalls ⟨7, 1, false⟩)).snapshot.toOption =
        ((make config "g" "o").run (scaleCalls ⟨70, 10, false⟩)).snapshot.toOption := by
      decide +kernel
    obtain ⟨v, hv⟩ := exists_eq_ok
      (x := ((make config "g" "o").run (scaleCalls ⟨7, 1, false⟩)).snapshot) (by decide +kernel)
    obtain ⟨w, hw⟩ := exists_eq_ok
      (x := ((make config "g" "o").run (scaleCalls ⟨70, 10, false⟩)).snapshot) (by decide +kernel)
    rw [hv, hw] at hshown ⊢
    exact congrArg Except.ok (Option.some.inj hshown)
  exact ⟨config, hfree, hotherFree, by decide +kernel, by decide +kernel, hsame,
    responses_eq_of_snapshot_eq config "g" "o" hfree hotherFree hsame⟩

end Contract

end PredictionMarket
