import PredictionMarket.Proofs.Pool.Ledger
import PredictionMarket.Proofs.Pool.WellFormed

/-!
# Balances are exact and sparse

A pool stores the stakes and the shares of accounts, and nothing for an account that has none. What
is stored is positive, and it adds up: the number of pool tokens and the supply of every outcome are
sums of what is stored, and therefore of what all accounts hold, known to the pool or not.
-/

namespace PredictionMarket

/-- Amounts of which finitely many are not zero, and their sum. -/
structure SumsTo {κ : Type} (amount : κ → Int) (total : Int) : Prop where
  /-- There are finitely many amounts to add up. -/
  finite : amount.HasFiniteSupport
  /-- They add up to the total. -/
  total_eq : total = ∑ᶠ key, amount key

namespace Table

variable {κ : Type} [Ord κ] [Std.LawfulEqOrd κ] [DecidableEq κ]

/-- Only keys of a table have an amount. -/
theorem support_getD_subset (t : Table κ Int) :
    (Function.support fun key => t.getD key 0) ⊆ (t.keys.toFinset : Set κ) := by
  intro key hne
  apply List.mem_toFinset.2
  exact mem_keys_of_getD_ne_zero hne

/-- The amounts of all keys that there can be sum up to the total of the table. -/
theorem sumsTo_total [Std.TransOrd κ] (t : Table κ Int) :
    SumsTo (fun key => t.getD key 0) t.total := by
  constructor
  · exact (Finset.finite_toSet _).subset t.support_getD_subset
  · rw [finsum_eq_sum_of_support_subset _ t.support_getD_subset]
    exact t.total_eq_sum (Finset.Subset.refl _)

end Table

/-! ## Stakes -/

namespace Stakes

/-- The check of the number of pool tokens compares it with what is stored. -/
theorem isBalanced_iff {s : Stakes} : s.isBalanced = true ↔ s.balances.total = s.supply :=
  beq_iff_eq

/-- The stakes of all accounts sum up to the number of pool tokens. -/
theorem WellFormed.sumsTo_supply {s : Stakes} (h : s.WellFormed) : SumsTo s.balance s.supply := by
  rw [← h.total_eq]
  exact s.balances.sumsTo_total

end Stakes

/-! ## Shares -/

namespace Shares

/-- The balances of all accounts in an outcome sum up to its supply. -/
theorem sumsTo_supply (s : Shares) (o : Nat) :
    SumsTo (fun account => s.balance account o) (s.supply o) where
  finite := s.hasFiniteSupport_balance o
  total_eq := s.supply_eq_finsum o

/-- The outcomes of a table of shares have numbers from zero on. -/
theorem checkOutcome_natCast {s : Shares} {o : Nat} (ho : o < s.outcomes) :
    s.checkOutcome o = .ok o := by
  have hrange : (0 : Int) ≤ o ∧ (o : Int) < s.outcomes := by omega
  exact if_pos hrange

/-- The supply of an outcome of the table can be asked for. -/
theorem totalSupply_natCast {s : Shares} {o : Nat} (ho : o < s.outcomes) :
    s.totalSupply o = .ok (s.supply o) := by
  rw [totalSupply, checkOutcome_natCast ho]
  rfl

end Shares

namespace Pool

/-- The balance of an account in an outcome of the pool can be asked for. -/
theorem shareBalance_natCast {p : Pool} {o : Nat} (ho : o < p.outcomes) (account : Text) :
    p.shareBalance account (.int o) = .ok (p.shares.balance account o) := by
  have hrange : (0 : Int) ≤ o ∧ (o : Int) < p.outcomes := by omega
  have hknown : p.checkOutcome (.int o) = .ok o := if_pos hrange
  rw [shareBalance, hknown, ok_bind, Shares.get, Shares.checkOutcome_natCast ho]
  rfl

/-! ## All pools -/

/-- **Balances are exact and sparse**: in a pool that can be reached, the number of pool tokens is
what its check compares it with, the sum of the stored stakes, and the sum of the stakes of all
accounts. Every stored stake is positive, and so is every stored balance of shares, which is one in
an outcome of the pool. The supply of each outcome is the sum of the balances that all accounts are
said to have in it. -/
theorem balances_exact_and_sparse {p : Pool} (hp : p.Reachable) :
    (p.stakes.isBalanced = true ∧ p.stakes.balances.total = p.stakes.supply ∧
      SumsTo p.stakes.balance p.stakes.supply) ∧
    (∀ e ∈ p.stakes.balances.entries, 0 < e.2) ∧
    (∀ e ∈ p.shares.balances.entries, 0 < e.2 ∧ e.1.outcome < p.outcomes) ∧
    ∀ o < p.outcomes, ∃ (held : Text → Int) (supply : Int),
      (∀ account, p.shareBalance account (.int o) = .ok (held account)) ∧
      p.shares.totalSupply o = .ok supply ∧ SumsTo held supply := by
  have hstakes := hp.ledgered.stakes
  have hshares := hp.wellFormed.shares
  refine ⟨⟨Stakes.isBalanced_iff.2 hstakes.total_eq, hstakes.total_eq, hstakes.sumsTo_supply⟩,
    hstakes.positive, fun e he => ⟨hshares.positive e he, hshares.inRange e he⟩, fun o ho => ?_⟩
  exact ⟨_, _, shareBalance_natCast ho, Shares.totalSupply_natCast ho, p.shares.sumsTo_supply o⟩

/-- A pool that one provider and two other accounts used. One of the two redeemed all it had of the
first outcome, and the other joined and was paid for everything. -/
def settled : Pool where
  marketId := 0
  token := "T"
  denomination := 1
  swapFee := 100
  reserves := [12, 7]
  stakes := ⟨.ofList [("a", 10)], 10⟩
  shares := ⟨2, .ofList [(⟨"a", 1⟩, 3), (⟨"b", 1⟩, 1)]⟩
  fees := ⟨3, 0⟩

/-- The pool is what the calls of the three make of a new one. -/
theorem reachable_settled : settled.Reachable :=
  ⟨0, 2, "T", 0, 100, _,
    [.trade "a" (.addLiquidity 10 (some [10, 7])), .trade "b" (.buy 2 (.int 0) 0),
      .trade "b" (.buy 3 (.int 1) 0), .trade "b" (.redeem 2), .trade "c" (.addLiquidity 20 none),
      .payout "c" .invalid], rfl, rfl⟩

/-- What was redeemed, given back and paid for is not stored any more, and the supply of the second
outcome is what the two others still hold of it. -/
theorem balances_exact_and_sparse_settled :
    settled.Reachable ∧ settled.stakes.isBalanced = true ∧
      (∀ e ∈ settled.stakes.balances.entries, 0 < e.2) ∧
      (∀ e ∈ settled.shares.balances.entries, 0 < e.2 ∧ e.1.outcome < 2) ∧
      settled.stakes.balances.keys = ["a"] ∧
      settled.shares.balances.keys = [⟨"a", 1⟩, ⟨"b", 1⟩] ∧
      ∃ held : Text → Int, (∀ account, settled.shareBalance account (.int 1) = .ok (held account)) ∧
        held "a" = 3 ∧ held "b" = 1 ∧ held "c" = 0 ∧ SumsTo held 4 := by
  obtain ⟨⟨hbalanced, -⟩, hstakes, hshares, hsupply⟩ := balances_exact_and_sparse reachable_settled
  obtain ⟨held, supply, hheld, htotal, hsums⟩ := hsupply 1 (by decide)
  have hfour : settled.shares.totalSupply 1 = .ok 4 := rfl
  obtain rfl : 4 = supply := Except.ok.inj (hfour.symm.trans htotal)
  refine ⟨reachable_settled, hbalanced, hstakes, hshares, rfl, rfl, held, hheld, ?_, ?_, ?_, hsums⟩
  · exact (Except.ok.inj (hheld "a")).symm
  · exact (Except.ok.inj (hheld "b")).symm
  · exact (Except.ok.inj (hheld "c")).symm

end Pool

end PredictionMarket
