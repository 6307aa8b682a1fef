import PredictionMarket.Proofs.Pool.Settlement
import PredictionMarket.Proofs.Pool.WellFormed

/-!
# Who is in a pool

A pool knows an account by its stake, by its shares, or by what it has withdrawn in fees. A trade or
a settlement makes at most one more account known: the one that asked for it.
-/

namespace PredictionMarket

/-- Issuing pool tokens makes at most the account known that gets them. -/
theorem Stakes.mem_keys_of_mint {s s' : Stakes} {account other : Text} {amount : Int}
    (h : s.mint account amount = .ok s') (hmem : other ∈ s'.balances.keys) :
    other = account ∨ other ∈ s.balances.keys := by
  obtain ⟨-, rfl⟩ := mint_ok h
  exact Table.mem_keys_insert hmem

/-- Taking pool tokens back makes at most the account known that gives them. -/
theorem Stakes.mem_keys_of_burn {s s' : Stakes} {account other : Text} {amount : Int}
    (h : s.burn account amount = .ok s') (hmem : other ∈ s'.balances.keys) :
    other = account ∨ other ∈ s.balances.keys := by
  simp only [burn, refuseIf_bind_eq_ok, pure, Except.pure, Except.ok.injEq] at h
  obtain ⟨-, -, rfl⟩ := h
  dsimp only at hmem
  split at hmem
  · exact .inr (Table.mem_keys_of_erase hmem)
  · exact Table.mem_keys_insert hmem

namespace Pool

/-- A pool with at most one more account than before, and the same collateral. -/
structure Admits (p : Pool) (sender : Text) (after : Pool) : Prop where
  /-- The collateral is the same. -/
  token : after.token = p.token
  /-- Only the account can have a stake that was not there. -/
  stakes : ∀ account ∈ after.stakes.balances.keys,
    account = sender ∨ account ∈ p.stakes.balances.keys
  /-- Only what the account has withdrawn can be remembered that was not. -/
  withdrawn : ∀ account ∈ after.withdrawn.keys, account = sender ∨ account ∈ p.withdrawn.keys
  /-- Only the account can have shares that were not there. -/
  shares : ∀ holding ∈ after.shares.balances.keys,
    holding.account = sender ∨ holding ∈ p.shares.balances.keys

/-- Giving a stake back makes at most the account known that gives it. -/
theorem Committed.admits {p after : Pool} {sender : Text} {plan : ExitPlan}
    (h : p.Committed sender plan after) (hshares : p.shares.WellFormed) :
    p.Admits sender after where
  token := by rw [h.after_eq]
  stakes := fun _ hmem => Stakes.mem_keys_of_burn h.stakes hmem
  withdrawn := fun account hmem => by
    rw [h.after_eq] at hmem
    dsimp only [storeWithdrawn] at hmem
    split at hmem
    · exact .inr (Table.mem_keys_of_erase hmem)
    · exact Table.mem_keys_insert hmem
  shares := fun _ hmem => (Shares.credited_addAll h.shares).mem_keys hshares hmem

/-- A trade makes at most the account known that trades. -/
theorem Traded.admits {p after : Pool} {sender : Text} {t : Trade Int} {r : Receipt}
    (h : p.Traded sender t after r) (hshares : p.shares.WellFormed) : p.Admits sender after := by
  cases h with
  | addLiquidity _ _ _ hissued hgiven =>
    refine ⟨rfl, fun _ hmem => Stakes.mem_keys_of_mint hissued hmem, fun account hmem => ?_,
      fun _ hmem => (Shares.credited_addAll hgiven).mem_keys hshares hmem⟩
    dsimp only at hmem
    split at hmem
    · exact .inr hmem
    · exact Table.mem_keys_insert hmem
  | exitPool _ hcommitted => exact hcommitted.admits hshares
  | buy _ _ _ _ _ _ _ hgiven =>
    exact ⟨rfl, fun _ => .inr, fun _ => .inr,
      fun _ hmem => (Shares.credited_add hgiven).mem_keys hshares hmem⟩
  | sell _ _ _ _ _ _ _ htaken _ =>
    exact ⟨rfl, fun _ => .inr, fun _ => .inr,
      fun _ hmem => (Shares.credited_subtract htaken).mem_keys hshares hmem⟩
  | redeem _ _ _ htaken _ =>
    exact ⟨rfl, fun _ => .inr, fun _ => .inr,
      fun _ hmem => (credited_takeSets htaken).mem_keys hshares hmem⟩

/-- A settlement makes at most the account known that is paid. -/
theorem Settled.admits {p after : Pool} {account : Text} {numerator : Numerator} {s : Settlement}
    (h : p.Settled account numerator after s) (hshares : p.shares.WellFormed) :
    p.Admits account after := by
  cases h with
  | @stake _ _ left _ _ hcommitted =>
    have hadmits := hcommitted.admits hshares
    have hleft := (Shares.credited_addAll hcommitted.shares).wellFormed hshares
    refine ⟨hadmits.token, hadmits.stakes, hadmits.withdrawn, fun holding hmem => ?_⟩
    rcases (left.shares.credited_clear account).mem_keys hleft hmem with hown | hold
    · exact .inl hown
    · exact hadmits.shares holding hold
  | shares _ =>
    exact ⟨rfl, fun _ => .inr, fun _ => .inr,
      fun _ hmem => (p.shares.credited_clear account).mem_keys hshares hmem⟩

end Pool

end PredictionMarket
