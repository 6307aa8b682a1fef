import PredictionMarket.Shares
import PredictionMarket.Proofs.Table
import Mathlib.Algebra.BigOperators.Finprod
import Mathlib.Tactic.Ring

/-!
# What changes of share balances come to

Every operation on a table of shares gives one account some amount of each outcome, possibly
negative. `Credited` says so, with its effect on all balances and on the supply of every outcome.
Each operation has one lemma that names its amounts; what is proved about pools uses these alone.
-/

namespace PredictionMarket.Shares

/-- Stored balances are positive, and there are balances of the outcomes of the table only. -/
structure WellFormed (s : Shares) : Prop where
  /-- A stored balance is positive. -/
  positive : ∀ e ∈ s.balances.entries, 0 < e.2
  /-- A stored balance is one of an outcome of the table. -/
  inRange : ∀ e ∈ s.balances.entries, e.1.outcome < s.outcomes

/-- A new table is well formed. -/
theorem wellFormed_empty (n : Nat) : WellFormed { outcomes := n } := by
  constructor <;> simp

/-- No outcome has a negative supply. -/
theorem WellFormed.supply_nonneg {s : Shares} (h : s.WellFormed) (o : Nat) : 0 ≤ s.supply o :=
  Table.total_filter_nonneg (fun e he => (h.positive e he).le) (fun holding => holding.outcome == o)

/-- Nobody has a negative balance. -/
theorem WellFormed.balance_nonneg {s : Shares} (h : s.WellFormed) (account : Text) (o : Nat) :
    0 ≤ s.balance account o :=
  Table.Positive.getD_nonneg h.positive ⟨account, o⟩

/-- The holdings of an outcome. -/
def holdings (s : Shares) (o : Nat) : List (Holding × Int) :=
  s.balances.entries.filter fun e => e.1.outcome == o

/-- Only the accounts of the holdings of an outcome have some of it. -/
theorem support_balance_subset (s : Shares) (o : Nat) :
    (Function.support fun account => s.balance account o) ⊆
      (((s.holdings o).map fun e => e.1.account).toFinset : Set Text) := by
  intro account hne
  have hkey : (⟨account, o⟩ : Holding) ∈ s.balances.keys := Table.mem_keys_of_getD_ne_zero hne
  obtain ⟨e, he, hsame⟩ := List.mem_map.1 hkey
  have hmem : e ∈ s.holdings o := by
    apply List.mem_filter.2
    rw [hsame]
    exact ⟨he, beq_self_eq_true o⟩
  have haccount : e.1.account = account := congrArg Holding.account hsame
  exact List.mem_toFinset.2 (haccount ▸ List.mem_map_of_mem hmem)

/-- Only finitely many accounts have some of an outcome. -/
theorem hasFiniteSupport_balance (s : Shares) (o : Nat) :
    (fun account => s.balance account o).HasFiniteSupport :=
  (Finset.finite_toSet _).subset (s.support_balance_subset o)

/-- The supply of an outcome is what all accounts hold of it. -/
theorem supply_eq_finsum (s : Shares) (o : Nat) : s.supply o = ∑ᶠ account, s.balance account o := by
  have hbalance : ∀ e ∈ s.holdings o, s.balance e.1.account o = e.2 := by
    intro e he
    obtain ⟨hmem, hout⟩ := List.mem_filter.1 he
    have hkey : (⟨e.1.account, o⟩ : Holding) = e.1 := by rw [← beq_iff_eq.1 hout]
    rw [balance, hkey, Table.getD_of_mem_entries hmem]
  -- Among the holdings of one outcome, each account stands once.
  have hnodup : ((s.holdings o).map fun e => e.1.account).Nodup := by
    refine List.pairwise_map.2 ((s.balances.sorted.filter _).imp_of_mem fun {a b} ha hb hlt => ?_)
    intro hsame
    have haout := beq_iff_eq.1 (List.mem_filter.1 ha).2
    have hbout := beq_iff_eq.1 (List.mem_filter.1 hb).2
    have hkey : a.1 = b.1 :=
      congrArg₂ Holding.mk hsame (haout.trans hbout.symm)
    rw [hkey, Std.ReflOrd.compare_self] at hlt
    cases hlt
  rw [finsum_eq_sum_of_support_subset _ (s.support_balance_subset o),
    List.sum_toFinset _ hnodup, List.map_map]
  exact congrArg List.sum (List.map_congr_left hbalance).symm

/-- Where no account has less of an outcome, there is no less of it. -/
theorem supply_le_supply {s t : Shares} {o : Nat}
    (h : ∀ account, s.balance account o ≤ t.balance account o) : s.supply o ≤ t.supply o := by
  rw [supply_eq_finsum, supply_eq_finsum]
  exact finsum_le_finsum' (s.hasFiniteSupport_balance o) (t.hasFiniteSupport_balance o) h

/-- A table after an account was given an amount of every outcome. -/
structure Credited (s s' : Shares) (account : Text) (amounts : Nat → Int) : Prop where
  /-- The outcomes stay. -/
  outcomes : s'.outcomes = s.outcomes
  /-- The balances of the account change by the amounts, all others stay. -/
  balance : ∀ a o, s'.balance a o = s.balance a o + if a = account then amounts o else 0
  /-- The supply of an outcome changes by its amount. -/
  supply : ∀ o, s'.supply o = s.supply o + amounts o
  /-- A well-formed table stays well formed. -/
  wellFormed : s.WellFormed → s'.WellFormed

/-- Nobody else's balances change. -/
theorem Credited.balance_of_ne {s s' : Shares} {account a : Text} {amounts : Nat → Int}
    (h : Credited s s' account amounts) (ha : a ≠ account) (o : Nat) :
    s'.balance a o = s.balance a o := by
  rw [h.balance, if_neg ha, add_zero]

/-- Nothing given is no change. -/
theorem Credited.refl (s : Shares) (account : Text) : Credited s s account fun _ => 0 := by
  constructor <;> simp

/-- Amounts that are given one after another add up. -/
theorem Credited.trans {s t u : Shares} {account : Text} {f g : Nat → Int}
    (h : Credited s t account f) (h' : Credited t u account g) :
    Credited s u account fun o => f o + g o where
  outcomes := h'.outcomes.trans h.outcomes
  balance a o := by
    rw [h'.balance, h.balance]
    split <;> ring
  supply o := by
    rw [h'.supply, h.supply]
    ring
  wellFormed hs := h'.wellFormed (h.wellFormed hs)

/-- The amounts matter by their values only. -/
theorem Credited.congr {s s' : Shares} {account : Text} {f g : Nat → Int}
    (h : Credited s s' account f) (hfg : ∀ o, f o = g o) : Credited s s' account g := by
  rwa [show g = f from funext fun o => (hfg o).symm]

/-- Only the account that was given something can have a balance that was not there before. -/
theorem Credited.mem_keys {s s' : Shares} {account : Text} {f : Nat → Int}
    (h : Credited s s' account f) (hs : s.WellFormed) {holding : Holding}
    (hmem : holding ∈ s'.balances.keys) :
    holding.account = account ∨ holding ∈ s.balances.keys := by
  by_cases hsame : holding.account = account
  · exact .inl hsame
  · have hpositive : 0 < s'.balance holding.account holding.outcome :=
      Table.Positive.getD_pos (h.wellFormed hs).positive hmem
    rw [h.balance_of_ne hsame] at hpositive
    exact .inr (Table.mem_keys_of_getD_ne_zero hpositive.ne')

/-! ## One balance -/

/-- A stored balance is what was stored; all others stay. -/
theorem balance_store (s : Shares) (account a : Text) (outcome o : Nat) (amount : Int) :
    (s.store account outcome amount).balance a o =
      if a = account ∧ o = outcome then amount else s.balance a o := by
  unfold store balance Table.getD
  by_cases hsame : a = account ∧ o = outcome
  · obtain ⟨rfl, rfl⟩ := hsame
    by_cases hzero : amount = 0 <;> simp [hzero, Table.get?_erase]
  · have hne : (⟨a, o⟩ : Holding) ≠ ⟨account, outcome⟩ := by simpa using hsame
    by_cases hzero : amount = 0
    · simp [hzero, hsame, Table.get?_erase, hne.symm]
    · simp [hzero, hsame, Table.get?_insert_of_ne _ hne]

/-- A stored balance changes the supply of its outcome by the difference to the old one. -/
theorem supply_store (s : Shares) (account : Text) (outcome o : Nat) (amount : Int) :
    (s.store account outcome amount).supply o =
      s.supply o + if o = outcome then amount - s.balance account outcome else 0 := by
  have herase := Table.total_filter_erase s.balances (fun holding => holding.outcome == o)
    ⟨account, outcome⟩
  have hinsert := Table.total_filter_insert s.balances (fun holding => holding.outcome == o)
    ⟨account, outcome⟩ amount
  have hout : (outcome == o) = decide (o = outcome) := by
    rw [beq_eq_decide]
    exact decide_eq_decide.2 eq_comm
  simp only [hout, decide_eq_true_eq] at herase hinsert
  unfold store supply balance
  by_cases hzero : amount = 0
  · simp only [hzero, if_true, herase]
    split <;> ring
  · simp only [hzero, if_false, hinsert]

/-- Storing an amount of an outcome of the table keeps it well formed. -/
theorem WellFormed.store {s : Shares} (h : s.WellFormed) {account : Text} {outcome : Nat}
    {amount : Int} (hout : outcome < s.outcomes) (hamount : 0 ≤ amount) :
    (s.store account outcome amount).WellFormed := by
  by_cases hzero : amount = 0
  · have hmem : ∀ e ∈ (s.store account outcome amount).balances.entries,
        e ∈ s.balances.entries := by
      intro e he
      simp only [Shares.store, hzero, if_true] at he
      exact Table.mem_entries_of_filter he
    exact ⟨fun e he => h.positive e (hmem e he), fun e he => h.inRange e (hmem e he)⟩
  · have hmem : ∀ e ∈ (s.store account outcome amount).balances.entries,
        e = (⟨account, outcome⟩, amount) ∨ e ∈ s.balances.entries := by
      intro e he
      simp only [Shares.store, hzero, if_false] at he
      exact Table.mem_entries_insert he
    constructor
    · intro e he
      rcases hmem e he with rfl | he
      · dsimp only
        omega
      · exact h.positive e he
    · intro e he
      rcases hmem e he with rfl | he
      · exact hout
      · exact h.inRange e he

/-- A change of one balance succeeds for an outcome of the table if the balance does not become
negative, and stores the new balance. -/
theorem add_eq_ok {s s' : Shares} {account : Text} {outcome : Nat} {delta : Int} :
    s.add account outcome delta = .ok s' ↔
      outcome < s.outcomes ∧ 0 ≤ s.balance account outcome + delta ∧
        s' = s.store account outcome (s.balance account outcome + delta) := by
  by_cases hout : outcome < s.outcomes
  · simp only [add, get, set, checkOutcome, Int.natCast_nonneg, Int.ofNat_lt, hout, and_self,
      if_true, Int.toNat_natCast, pure, Except.pure, ok_bind, refuseIf_bind_eq_ok, not_lt,
      Except.ok.injEq, true_and]
    tauto
  · simp [add, get, checkOutcome, hout, error_bind]

/-- A change of one balance gives the difference. -/
theorem credited_add {s s' : Shares} {account : Text} {outcome : Nat} {delta : Int}
    (h : s.add account outcome delta = .ok s') :
    Credited s s' account fun o => if o = outcome then delta else 0 := by
  obtain ⟨hout, hnonneg, rfl⟩ := add_eq_ok.1 h
  refine ⟨rfl, fun a o => ?_, fun o => ?_, fun hs => hs.store hout hnonneg⟩
  · rw [balance_store]
    by_cases ha : a = account <;> by_cases ho : o = outcome <;> simp [ha, ho]
  · rw [supply_store]
    split <;> ring

/-- Taking off gives the negative amount. -/
theorem credited_subtract {s s' : Shares} {account : Text} {outcome : Nat} {delta : Int}
    (h : s.subtract account outcome delta = .ok s') :
    Credited s s' account fun o => if o = outcome then -delta else 0 := by
  simp only [subtract, bind_eq_ok] at h
  obtain ⟨_, _, hadd⟩ := h
  exact credited_add hadd

/-! ## All balances of an account -/

/-- Adding amounts from one outcome on gives each outcome its amount. -/
theorem credited_addFrom {account : Text} {amounts : List Int} (first : Nat) {s s' : Shares}
    (h : (amounts.zipIdx first).foldlM
      (fun (s : Shares) ((amount, outcome) : Int × Nat) =>
        if amount = 0 then Except.ok s else s.add account outcome amount) s = .ok s') :
    Credited s s' account fun o => if first ≤ o then amounts.getD (o - first) 0 else 0 := by
  induction amounts generalizing first s with
  | nil =>
    simp only [List.zipIdx_nil, List.foldlM_nil, pure, Except.pure, Except.ok.injEq] at h
    subst h
    exact (Credited.refl s account).congr fun o => by simp
  | cons amount amounts ih =>
    simp only [List.zipIdx_cons, List.foldlM_cons, bind_eq_ok] at h
    obtain ⟨t, hstep, hrest⟩ := h
    have hfirst : Credited s t account fun o => if o = first then amount else 0 := by
      by_cases hzero : amount = 0
      · simp only [hzero, if_true, Except.ok.injEq] at hstep
        subst hstep
        exact (Credited.refl s account).congr fun o => by simp [hzero]
      · rw [if_neg hzero] at hstep
        exact credited_add hstep
    refine (hfirst.trans (ih (first + 1) hrest)).congr fun o => ?_
    rcases Nat.lt_trichotomy o first with hlt | rfl | hgt
    · rw [if_neg (by omega), if_neg (by omega), if_neg (by omega), add_zero]
    · simp
    · obtain ⟨k, rfl⟩ : ∃ k, o = first + 1 + k := ⟨o - (first + 1), by omega⟩
      have hk : first + 1 + k - first = k + 1 := by omega
      rw [if_neg (by omega), if_pos (by omega), if_pos (by omega), hk]
      simp

/-- Adding a list of amounts gives each outcome its amount in the list. -/
theorem credited_addAll {s s' : Shares} {account : Text} {amounts : List Int}
    (h : s.addAll account amounts = .ok s') :
    Credited s s' account fun o => amounts.getD o 0 :=
  (credited_addFrom 0 h).congr fun o => by simp

/-- Taking all balances of an account out gives it the negative of each. -/
theorem credited_clear (s : Shares) (account : Text) :
    Credited s (s.clear account) account fun o => -s.balance account o := by
  refine ⟨rfl, fun a o => ?_, fun o => ?_, fun hs => ?_⟩
  · have hget := s.balances.get?_filter (fun holding => holding.account != account) ⟨a, o⟩
    unfold clear balance Table.getD
    dsimp only
    rw [hget]
    by_cases ha : a = account <;> simp [ha]
  · -- Among the holdings of one outcome, clearing an account erases a single key.
    have hkey : ((s.clear account).balances.filter fun holding _ => holding.outcome == o) =
        (s.balances.erase ⟨account, o⟩).filter fun holding _ => holding.outcome == o := by
      apply Table.ext
      simp only [clear, Table.erase, Table.filter, List.filter_filter]
      refine List.filter_congr fun e _ => ?_
      by_cases ho : e.1.outcome = o
      · rw [ho, beq_self_eq_true, Bool.true_and, Bool.true_and]
        by_cases ha : e.1.account = account
        · have hkey : (⟨account, o⟩ : Holding) = e.1 := by rw [← ho, ← ha]
          rw [hkey, ha, bne_self_eq_false, Std.ReflOrd.compare_self, bne_self_eq_false]
        · have hkey : compare (⟨account, o⟩ : Holding) e.1 ≠ .eq := fun h =>
            ha (by rw [← Std.LawfulEqCmp.eq_of_compare h])
          rw [bne_iff_ne.2 ha, bne_iff_ne.2 hkey]
      · rw [beq_eq_false_iff_ne.2 ho, Bool.false_and, Bool.false_and]
    have herase := Table.total_filter_erase s.balances (fun holding => holding.outcome == o)
      ⟨account, o⟩
    unfold supply
    rw [hkey, herase]
    simp [balance, sub_eq_add_neg]
  · exact ⟨fun e he => hs.positive e (Table.mem_entries_of_filter he),
      fun e he => hs.inRange e (Table.mem_entries_of_filter he)⟩

/-- The balances of an account by outcome, as a list. -/
theorem getD_allOf (s : Shares) (account : Text) {o : Nat} (ho : o < s.outcomes) :
    (s.allOf account).getD o 0 = s.balance account o := by
  simp [allOf, ho]

/-- There is one balance for each outcome. -/
@[simp] theorem length_allOf (s : Shares) (account : Text) :
    (s.allOf account).length = s.outcomes := by
  simp [allOf]

end PredictionMarket.Shares
