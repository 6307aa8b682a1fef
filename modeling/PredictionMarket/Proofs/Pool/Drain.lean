import PredictionMarket.Proofs.Pool.Claims
import Mathlib.Algebra.Order.Field.Rat
import Mathlib.Tactic.FieldSimp

/-!
# Claims drain a resolved pool

When all accounts that have something in a resolved pool have claimed once, whatever the order, the
pool has paid for all units that were in it, up to two units of collateral per account. Each claim
rounds twice. What the rounding of a released stake leaves in the reserves raises what the remaining
pool tokens are worth, by no more than one unit of collateral in all, so it is not lost to those who
come later; and an account that is refused had less than two units to expect. The argument follows
the worth of the units that the accounts which have had their turn cannot expect any more.
-/

namespace PredictionMarket.Pool

/-! ## What the parts of a pool are worth -/

/-- What the reserves are worth by a vector. -/
def reserved (p : Pool) (vector : List Int) : Int :=
  ∑ o ∈ Finset.range p.outcomes, p.reserves.getD o 0 * vector.getD o 0

/-- What the shares of an account are worth by a vector. -/
def held (p : Pool) (vector : List Int) (account : Text) : Int :=
  ∑ o ∈ Finset.range p.outcomes, p.shares.balance account o * vector.getD o 0

/-- What the shares that a stake releases are worth by a vector. -/
def releasing (p : Pool) (vector : List Int) (account : Text) : Int :=
  ∑ o ∈ Finset.range p.outcomes, Curve.shareOfReserve (p.stakes.balance account) p.stakes.supply
    (p.reserves.getD o 0) * vector.getD o 0

/-- What one pool token is worth by a vector, not rounded. -/
def tokenWorth (p : Pool) (vector : List Int) : ℚ :=
  p.reserved vector / p.stakes.supply

/-- What an account can expect by a vector, not rounded: the worth of its shares, and its part of
the reserves. -/
def expected (p : Pool) (vector : List Int) (account : Text) : ℚ :=
  p.held vector account + p.stakes.balance account * p.tokenWorth vector

/-- What an account is paid for is worth its shares and what its stake releases. -/
theorem weighted_payable {p : Pool} (hp : p.WellFormed) {vector : List Int}
    (hvector : Numerator.Divides vector p.outcomes p.denomination) (account : Text) :
    weighted (p.payable account) vector = p.held vector account + p.releasing vector account := by
  rw [weighted_eq_sum (hp.length_payable account) hvector.length_eq, held, releasing,
    ← Finset.sum_add_distrib]
  refine Finset.sum_congr rfl fun o ho => ?_
  rw [hp.getD_payable account (Finset.mem_range.1 ho), add_mul]

/-- All pool tokens together are worth the reserves. -/
theorem supply_mul_tokenWorth {p : Pool} (hp : p.WellFormed) (vector : List Int) :
    (p.stakes.supply : ℚ) * p.tokenWorth vector = p.reserved vector := by
  by_cases hsupply : p.stakes.supply = 0
  · have hnothing : p.reserved vector = 0 := by
      refine Finset.sum_eq_zero fun o ho => ?_
      have hlength : o < p.reserves.length := by
        rw [hp.reserves_length]
        exact Finset.mem_range.1 ho
      rw [List.getD_eq_getElem _ _ hlength, hp.unfunded hsupply _ (List.getElem_mem hlength),
        zero_mul]
    rw [hsupply, hnothing, Int.cast_zero, zero_mul]
  · have hcast : (p.stakes.supply : ℚ) ≠ 0 := Int.cast_ne_zero.2 hsupply
    rw [tokenWorth]
    field_simp

/-- What a stake releases is worth its part of the reserves, up to one unit of collateral. -/
theorem releasing_bounds {p : Pool} (hp : p.WellFormed) (hledgered : p.Ledgered)
    {vector : List Int} (hvector : Numerator.Divides vector p.outcomes p.denomination)
    (account : Text) :
    (p.releasing vector account : ℚ) ≤ p.stakes.balance account * p.tokenWorth vector ∧
      p.stakes.balance account * p.tokenWorth vector - p.denomination ≤
        (p.releasing vector account : ℚ) := by
  have hstake := hledgered.stakes.balance_nonneg account
  have hle := hledgered.stakes.balance_le_supply account
  have hdenomination := hp.denomination_pos
  rcases hp.supply_nonneg.eq_or_lt with hzero | hsupply
  · -- Without pool tokens nothing is released.
    have hnone : p.stakes.balance account = 0 := by omega
    have hnothing : p.releasing vector account = 0 :=
      Finset.sum_eq_zero fun o _ => by rw [hnone, Curve.shareOfReserve_zero, zero_mul]
    rw [hnone, hnothing]
    have hcast : (0 : ℚ) < p.denomination := Int.cast_pos.2 hdenomination
    simp only [Int.cast_zero, zero_mul, le_refl, true_and]
    linarith
  · have hcast : (0 : ℚ) < p.stakes.supply := Int.cast_pos.2 hsupply
    have hupper : p.releasing vector account * p.stakes.supply ≤
        p.stakes.balance account * p.reserved vector := by
      rw [releasing, reserved, Finset.sum_mul, Finset.mul_sum]
      refine Finset.sum_le_sum fun o _ => ?_
      have hpart := Curve.shareOfReserve_mul_le (p.stakes.balance account) (p.reserves.getD o 0)
        hsupply
      have hscaled := mul_le_mul_of_nonneg_right hpart (getD_nonneg_of_divides hvector o)
      linarith
    have hlower : p.stakes.balance account * p.reserved vector -
        p.denomination * p.stakes.supply ≤ p.releasing vector account * p.stakes.supply := by
      have hsum := sum_eq_sum_range vector
      rw [hvector.sum_eq, hvector.length_eq] at hsum
      rw [releasing, reserved, Finset.sum_mul, Finset.mul_sum, hsum, Finset.sum_mul,
        ← Finset.sum_sub_distrib]
      refine Finset.sum_le_sum fun o _ => ?_
      have hpart := Curve.le_shareOfReserve_mul (p.stakes.balance account) (p.reserves.getD o 0)
        hsupply
      have hscaled := mul_le_mul_of_nonneg_right hpart (getD_nonneg_of_divides hvector o)
      linarith
    have hupper : (p.releasing vector account * p.stakes.supply : ℚ) ≤
        p.stakes.balance account * p.reserved vector := by exact_mod_cast hupper
    have hlower : (p.stakes.balance account * p.reserved vector -
        p.denomination * p.stakes.supply : ℚ) ≤
          p.releasing vector account * p.stakes.supply := by exact_mod_cast hlower
    rw [tokenWorth, ← mul_div_assoc]
    constructor
    · rw [le_div_iff₀ hcast]
      exact hupper
    · rw [sub_le_iff_le_add, div_le_iff₀ hcast]
      linarith

/-! ## One claim -/

/-- What a claim takes out of the reserves is what the stake releases. -/
theorem Released.reserved_eq {p after : Pool} {account : Text} (hp : p.WellFormed)
    (h : p.Released account after) (houtcomes : after.outcomes = p.outcomes) (vector : List Int) :
    after.reserved vector = p.reserved vector - p.releasing vector account := by
  rw [reserved, reserved, releasing, houtcomes, ← Finset.sum_sub_distrib]
  refine Finset.sum_congr rfl fun o ho => ?_
  have hlength : o < p.reserves.length := by
    rw [hp.reserves_length]
    exact Finset.mem_range.1 ho
  rw [h.reserves, getD_map_of_lt _ hlength, sub_mul]

/-- A claim takes out of the pool what it pays for. -/
theorem Released.worth_eq {p after : Pool} {account : Text} (hp : p.WellFormed)
    (h : p.Released account after) (houtcomes : after.outcomes = p.outcomes) (vector : List Int) :
    after.worth vector =
      p.worth vector - (p.held vector account + p.releasing vector account) := by
  rw [worth, worth, held, releasing, houtcomes, ← Finset.sum_add_distrib, ← Finset.sum_sub_distrib]
  refine Finset.sum_congr rfl fun o ho => ?_
  have hlength : o < p.reserves.length := by
    rw [hp.reserves_length]
    exact Finset.mem_range.1 ho
  rw [units, units, h.left, h.reserves, getD_map_of_lt _ hlength]
  ring

/-- An account that was paid can expect nothing more. -/
theorem Released.expected_self {p after : Pool} {account : Text} (h : p.Released account after)
    (vector : List Int) : after.expected vector account = 0 := by
  have hheld : after.held vector account = 0 :=
    Finset.sum_eq_zero fun o _ => by rw [h.shares, zero_mul]
  rw [expected, hheld, h.stake, Int.cast_zero, zero_mul, add_zero]

/-- A claim does not change what the shares of the other accounts are worth. -/
theorem Released.held_of_ne {p after : Pool} {account a : Text} (h : p.Released account after)
    (houtcomes : after.outcomes = p.outcomes) (ha : a ≠ account) (vector : List Int) :
    after.held vector a = p.held vector a := by
  rw [held, held, houtcomes]
  exact Finset.sum_congr rfl fun o _ => by rw [h.others a ha]

/-- What the rounding of a released stake leaves to the remaining pool tokens is worth at most one
unit of collateral. -/
theorem Released.tokenWorth_le {p after : Pool} {account : Text} (hp : p.WellFormed)
    (hledgered : p.Ledgered) (hafter : after.WellFormed) (h : p.Released account after)
    (houtcomes : after.outcomes = p.outcomes) {vector : List Int}
    (hvector : Numerator.Divides vector p.outcomes p.denomination) :
    (after.tokenWorth vector - p.tokenWorth vector) * after.stakes.supply ≤ p.denomination := by
  have hreserved := h.reserved_eq hp houtcomes vector
  have hbefore := supply_mul_tokenWorth hp vector
  have hnow := supply_mul_tokenWorth hafter vector
  have hbounds := (releasing_bounds hp hledgered hvector account).2
  have hsupply : (after.stakes.supply : ℚ) = p.stakes.supply - p.stakes.balance account := by
    rw [h.supply]
    push_cast
    ring
  have hreserved : (after.reserved vector : ℚ) =
      p.reserved vector - p.releasing vector account := by exact_mod_cast hreserved
  calc (after.tokenWorth vector - p.tokenWorth vector) * after.stakes.supply
      = after.stakes.supply * after.tokenWorth vector -
          (p.stakes.supply * p.tokenWorth vector -
            p.stakes.balance account * p.tokenWorth vector) := by rw [hsupply]; ring
    _ = p.stakes.balance account * p.tokenWorth vector - p.releasing vector account := by
        rw [hnow, hreserved, hbefore]
        ring
    _ ≤ p.denomination := by linarith

/-- Some accounts have at most all pool tokens. -/
theorem Ledgered.sum_balance_le {p : Pool} (h : p.Ledgered) (accounts : Finset Text) :
    ∑ a ∈ accounts, p.stakes.balance a ≤ p.stakes.supply := by
  have hkeys : p.stakes.balances.keys.toFinset ⊆ p.stakes.balances.keys.toFinset ∪ accounts :=
    Finset.subset_union_left
  rw [h.stakes.supply_eq_sum hkeys]
  exact Finset.sum_le_sum_of_subset_of_nonneg Finset.subset_union_right
    fun a _ _ => h.stakes.balance_nonneg a

/-- What the accounts that have had their turn can expect rises by at most one unit of collateral
when another one is paid. -/
theorem Released.sum_expected_le {p after : Pool} {account : Text} (hp : p.WellFormed)
    (hledgered : p.Ledgered) (hafter : after.WellFormed) (hafterLedgered : after.Ledgered)
    (h : p.Released account after) (houtcomes : after.outcomes = p.outcomes) {vector : List Int}
    (hvector : Numerator.Divides vector p.outcomes p.denomination) {done : Finset Text}
    (hturn : account ∉ done) :
    ∑ a ∈ done, after.expected vector a ≤ ∑ a ∈ done, p.expected vector a + p.denomination := by
  have hrise := h.tokenWorth_le hp hledgered hafter houtcomes hvector
  have hdifference : ∑ a ∈ done, after.expected vector a = ∑ a ∈ done, p.expected vector a +
      (after.tokenWorth vector - p.tokenWorth vector) *
        ((∑ a ∈ done, after.stakes.balance a : Int) : ℚ) := by
    rw [Int.cast_sum, Finset.mul_sum, ← Finset.sum_add_distrib]
    refine Finset.sum_congr rfl fun a ha => ?_
    have hne : a ≠ account := fun hsame => hturn (hsame ▸ ha)
    rw [expected, expected, h.held_of_ne houtcomes hne, h.stakes a hne]
    ring
  have hsum : ((∑ a ∈ done, after.stakes.balance a : Int) : ℚ) ≤ after.stakes.supply :=
    Int.cast_le.2 (hafterLedgered.sum_balance_le done)
  have hnonneg : (0 : ℚ) ≤ ((∑ a ∈ done, after.stakes.balance a : Int) : ℚ) :=
    Int.cast_nonneg (Finset.sum_nonneg fun a _ => hafterLedgered.stakes.balance_nonneg a)
  have hdenomination : (0 : ℚ) < p.denomination := Int.cast_pos.2 hp.denomination_pos
  rw [hdifference]
  rcases le_total (after.tokenWorth vector) (p.tokenWorth vector) with hfalls | hrises
  · have hnothing := mul_nonpos_of_nonpos_of_nonneg (sub_nonpos.2 hfalls) hnonneg
    linarith
  · have hmost := mul_le_mul_of_nonneg_left hsum (sub_nonneg.2 hrises)
    linarith

/-! ## All claims -/

/-- Whether an account has something in a pool: a stake, or shares of an outcome. -/
def Holds (p : Pool) (account : Text) : Prop :=
  0 < p.stakes.balance account ∨ ∃ o < p.outcomes, 0 < p.shares.balance account o

instance (p : Pool) : DecidablePred p.Holds := fun account =>
  inferInstanceAs (Decidable (0 < p.stakes.balance account ∨
    ∃ o < p.outcomes, 0 < p.shares.balance account o))

/-- The accounts that have something in a pool. -/
def holders (p : Pool) : List Text :=
  ((p.stakes.balances.keys ++ p.shares.balances.keys.map Holding.account).filter
    fun account => p.Holds account).dedup

/-- Only finitely many accounts have something in a pool: the holders. -/
theorem mem_holders (p : Pool) (account : Text) : account ∈ p.holders ↔ p.Holds account := by
  simp only [holders, List.mem_dedup, List.mem_filter, List.mem_append, List.mem_map,
    decide_eq_true_eq, and_iff_right_iff_imp]
  rintro (hstake | ⟨o, -, hshare⟩)
  · exact .inl (Table.mem_keys_of_getD_ne_zero hstake.ne')
  · exact .inr ⟨⟨account, o⟩, Table.mem_keys_of_getD_ne_zero hshare.ne', rfl⟩

/-- The worth of the units that some accounts cannot expect. -/
def potential (p : Pool) (vector : List Int) (accounts : Finset Text) : ℚ :=
  p.worth vector - ∑ a ∈ accounts, p.expected vector a

/-- A claim that is paid lowers the potential by its payout and at most two units of collateral. -/
theorem Released.potential_le {p after : Pool} {account : Text} (hp : p.WellFormed)
    (hledgered : p.Ledgered) (hafter : after.WellFormed) (hafterLedgered : after.Ledgered)
    (h : p.Released account after) (houtcomes : after.outcomes = p.outcomes) {vector : List Int}
    (hvector : Numerator.Divides vector p.outcomes p.denomination) {done : Finset Text}
    (hturn : account ∉ done) {payout : Int}
    (hpayout : payout = Curve.floorDiv (weighted (p.payable account) vector) p.denomination) :
    p.potential vector done - 2 * p.denomination ≤
      p.denomination * payout + after.potential vector (insert account done) := by
  have hworth := h.worth_eq hp houtcomes vector
  rw [← weighted_payable hp hvector account] at hworth
  have hexact := Curve.mul_floorDiv (weighted (p.payable account) vector) hp.denomination_pos
  have hrest := Int.emod_lt_of_pos (weighted (p.payable account) vector) hp.denomination_pos
  have hfloor : p.worth vector - p.denomination ≤ p.denomination * payout + after.worth vector := by
    rw [hpayout]
    omega
  have hfloor : (p.worth vector - p.denomination : ℚ) ≤
      p.denomination * payout + after.worth vector := by exact_mod_cast hfloor
  have hsum := h.sum_expected_le hp hledgered hafter hafterLedgered houtcomes hvector hturn
  have hself := h.expected_self vector
  rw [potential, potential, Finset.sum_insert hturn, hself]
  linarith

/-- An account that is refused had less than two units of collateral to expect. -/
theorem potential_le_of_refused {p : Pool} {account : Text} (hp : p.WellFormed)
    (hledgered : p.Ledgered) {vector : List Int}
    (hvector : Numerator.Divides vector p.outcomes p.denomination) {done : Finset Text}
    (hturn : account ∉ done)
    (hrefused : Curve.floorDiv (weighted (p.payable account) vector) p.denomination = 0) :
    p.potential vector done - 2 * p.denomination ≤ p.potential vector (insert account done) := by
  have hexact := Curve.mul_floorDiv (weighted (p.payable account) vector) hp.denomination_pos
  have hrest := Int.emod_lt_of_pos (weighted (p.payable account) vector) hp.denomination_pos
  have hsmall : p.held vector account + p.releasing vector account ≤ p.denomination := by
    rw [← weighted_payable hp hvector account]
    rw [hrefused] at hexact
    omega
  have hsmall : (p.held vector account + p.releasing vector account : ℚ) ≤ p.denomination := by
    exact_mod_cast hsmall
  have hbounds := (releasing_bounds hp hledgered hvector account).2
  rw [potential, potential, Finset.sum_insert hturn, expected]
  linarith

/-- When all accounts that have something are among those that had their turn, nothing is left that
none of them can expect. -/
theorem potential_eq_zero {p : Pool} (hp : p.WellFormed) (hledgered : p.Ledgered)
    {vector : List Int} {done : Finset Text} (hall : ∀ a, p.Holds a → a ∈ done) :
    p.potential vector done = 0 := by
  have hstakes : p.stakes.supply = ∑ a ∈ done, p.stakes.balance a := by
    apply hledgered.stakes.supply_eq_sum
    intro a ha
    exact hall a (.inl (hledgered.stakes.positive.getD_pos (List.mem_toFinset.1 ha)))
  have hshares : ∀ o < p.outcomes, p.shares.supply o = ∑ a ∈ done, p.shares.balance a o := by
    intro o ho
    rw [Shares.supply_eq_finsum]
    refine finsum_eq_sum_of_support_subset _ fun a ha => hall a (.inr ⟨o, ho, ?_⟩)
    exact lt_of_le_of_ne (hp.shares.balance_nonneg a o) (Ne.symm ha)
  have hheld : ∑ a ∈ done, p.held vector a =
      ∑ o ∈ Finset.range p.outcomes, p.shares.supply o * vector.getD o 0 := by
    unfold held
    rw [Finset.sum_comm]
    refine Finset.sum_congr rfl fun o ho => ?_
    rw [hshares o (Finset.mem_range.1 ho), Finset.sum_mul]
  have hworth : p.worth vector = p.reserved vector + ∑ a ∈ done, p.held vector a := by
    rw [hheld, worth, reserved, ← Finset.sum_add_distrib]
    exact Finset.sum_congr rfl fun o _ => add_mul _ _ _
  have hexpected : ∑ a ∈ done, p.expected vector a =
      ((∑ a ∈ done, p.held vector a : Int) : ℚ) + p.reserved vector := by
    rw [← supply_mul_tokenWorth hp vector, hstakes, Int.cast_sum, Int.cast_sum, Finset.sum_mul,
      ← Finset.sum_add_distrib]
    rfl
  rw [potential, hworth, hexpected]
  push_cast
  ring

/-- The claims of some accounts, one after another. -/
def claims (numerator : Numerator) (order : List Text) : List PoolCall :=
  order.map fun account => .payout account numerator

/-- A pool, and what is left of it after some accounts had their turn. -/
structure Drained (p : Pool) (vector : List Int) (done : Finset Text) (order : List Text)
    (paid : Int) (after : Pool) : Prop where
  /-- The outcomes stay. -/
  outcomes : after.outcomes = p.outcomes
  /-- The worth of a complete set stays. -/
  denomination : after.denomination = p.denomination
  /-- Nobody gains anything in the pool. -/
  holds : ∀ a, after.Holds a → p.Holds a
  /-- The ledgers agree. -/
  ledgered : after.Ledgered
  /-- The pool is well formed. -/
  wellFormed : after.WellFormed
  /-- No more is paid than what leaves the pool is worth. -/
  paid_le : p.denomination * paid + after.worth vector ≤ p.worth vector
  /-- At most two units of collateral for each account are not paid. -/
  le_paid : p.potential vector done - 2 * p.denomination * order.length ≤
    p.denomination * paid + after.potential vector (done ∪ order.toFinset)

/-- Before the first claim nothing is paid. -/
theorem Drained.nil {p : Pool} (hp : p.WellFormed) (hledgered : p.Ledgered) (vector : List Int)
    (done : Finset Text) : p.Drained vector done [] 0 p where
  outcomes := rfl
  denomination := rfl
  holds := fun _ h => h
  ledgered := hledgered
  wellFormed := hp
  paid_le := by omega
  le_paid := by simp

/-- One claim, and then the others. -/
theorem Drained.cons {p next after : Pool} {vector : List Int} {done : Finset Text}
    {account : Text} {order : List Text} {payout paid : Int}
    (houtcomes : next.outcomes = p.outcomes) (hdenomination : next.denomination = p.denomination)
    (hholds : ∀ a, next.Holds a → p.Holds a)
    (hpayout : p.denomination * payout + next.worth vector ≤ p.worth vector)
    (hpotential : p.potential vector done - 2 * p.denomination ≤
      p.denomination * payout + next.potential vector (insert account done))
    (hrest : next.Drained vector (insert account done) order paid after) :
    p.Drained vector done (account :: order) (payout + paid) after where
  outcomes := hrest.outcomes.trans houtcomes
  denomination := hrest.denomination.trans hdenomination
  holds := fun a h => hholds a (hrest.holds a h)
  ledgered := hrest.ledgered
  wellFormed := hrest.wellFormed
  paid_le := by
    have hle := hrest.paid_le
    rw [hdenomination] at hle
    linarith
  le_paid := by
    have hle := hrest.le_paid
    have hdone : insert account done ∪ order.toFinset = done ∪ (account :: order).toFinset := by
      rw [List.toFinset_cons, Finset.insert_union, Finset.union_insert]
    rw [hdenomination, hdone] at hle
    push_cast [List.length_cons]
    linarith

/-- An account that was paid has nothing in the pool, and the others have what they had. -/
theorem Released.holds {p after : Pool} {account : Text} (h : p.Released account after)
    (houtcomes : after.outcomes = p.outcomes) (a : Text) (ha : after.Holds a) : p.Holds a := by
  by_cases hsame : a = account
  · rcases ha with hstake | ⟨o, -, hshare⟩
    · rw [hsame, h.stake] at hstake
      exact absurd hstake (lt_irrefl _)
    · rw [hsame, h.shares] at hshare
      exact absurd hshare (lt_irrefl _)
  · rcases ha with hstake | ⟨o, ho, hshare⟩
    · rw [h.stakes a hsame] at hstake
      exact .inl hstake
    · rw [h.others a hsame] at hshare
      exact .inr ⟨o, houtcomes ▸ ho, hshare⟩

/-- An account that was paid has nothing left in the pool. -/
theorem Released.not_holds {p after : Pool} {account : Text} (h : p.Released account after) :
    ¬after.Holds account := by
  rintro (hstake | ⟨o, -, hshare⟩)
  · exact absurd h.stake hstake.ne'
  · exact absurd (h.shares o) hshare.ne'

/-- A claim of an account that has nothing in a resolved pool is refused. -/
theorem payout_of_not_holds {p : Pool} (hp : p.WellFormed) {numerator : Numerator}
    {vector : List Int} (hvector : numerator.vector p.outcomes p.denomination = .ok vector)
    {account : Text} (hnone : ¬p.Holds account) :
    p.payout account numerator = .error (.nothingToClaim account) := by
  simp only [Holds, not_or, not_exists, not_and, not_lt] at hnone
  have hdivides := Numerator.vector_ok hp.denomination_pos.le hvector
  have hworthless : weighted (p.shares.allOf account) vector = 0 := by
    rw [weighted_eq_sum (Shares.length_allOf _ _) hdivides.length_eq]
    refine Finset.sum_eq_zero fun o ho => ?_
    have ho : o < p.outcomes := Finset.mem_range.1 ho
    have hbalance : p.shares.balance account o = 0 :=
      le_antisymm (hnone.2 o ho) (hp.shares.balance_nonneg account o)
    rw [Shares.getD_allOf _ _ ho, hbalance, zero_mul]
  have hnothing : Curve.floorDiv (weighted (p.shares.allOf account) vector) p.denomination = 0 := by
    rw [hworthless, Curve.floorDiv_eq_ediv _ hp.denomination_pos.le, Int.zero_ediv]
  rw [payout_of_no_stake hvector hnone.1, if_pos hnothing]

end PredictionMarket.Pool

namespace PredictionMarket

/-- What a call pays for shares after a resolution. -/
def PoolReceipt.sharePayout : PoolReceipt → Int
  | .traded _ => 0
  | .settled s => s.sharePayout

namespace Pool

/-- The claims of different accounts, in any order, drain a resolved pool. -/
theorem drained_claims {p : Pool} (hp : p.WellFormed) (hledgered : p.Ledgered)
    {numerator : Numerator} {vector : List Int}
    (hvector : numerator.vector p.outcomes p.denomination = .ok vector) {done : Finset Text}
    {order : List Text} (hnodup : order.Nodup) (hturn : ∀ a ∈ order, a ∉ done) :
    p.Drained vector done order
      ((p.run (claims numerator order)).2.map PoolReceipt.sharePayout).sum
      (p.run (claims numerator order)).1 := by
  induction order generalizing p done with
  | nil => exact .nil hp hledgered vector done
  | cons account order ih =>
    have hdivides := Numerator.vector_ok hp.denomination_pos.le hvector
    have hmine : account ∉ done := hturn account List.mem_cons_self
    obtain ⟨hfresh, hnodup⟩ := List.nodup_cons.1 hnodup
    have hothers : ∀ a ∈ order, a ∉ insert account done := by
      intro a ha hmem
      rcases Finset.mem_insert.1 hmem with rfl | hdone
      · exact hfresh ha
      · exact hturn a (List.mem_cons_of_mem _ ha) hdone
    rcases payout_cases hp hledgered hvector account with
      ⟨next, s, hpaid, hreleased, hpayout⟩ | ⟨hrefused, hnothing⟩
    · have hsettled := payout_ok hpaid
      have hterms := hsettled.sameTerms
      have hnext := hsettled.wellFormed hp
      have hnextLedgered := hsettled.ledgered hledgered
      have hrest := ih hnext hnextLedgered
        (by rw [hterms.outcomes, hterms.denomination]; exact hvector) hnodup hothers
      have hcall : p.call (.payout account numerator) = .ok (next, .settled s) := by
        rw [call, hpaid]
        rfl
      have hworth := (hsettled.worth_le hp hvector).2
      have hpotential := hreleased.potential_le hp hledgered hnext hnextLedgered hterms.outcomes
        hdivides hmine hpayout
      simp only [claims, List.map_cons, run, hcall, List.sum_cons]
      exact hrest.cons hterms.outcomes hterms.denomination (hreleased.holds hterms.outcomes) hworth
        hpotential
    · have hrest := ih hp hledgered hvector hnodup hothers
      have hcall : p.call (.payout account numerator) = .error (.nothingToClaim account) := by
        rw [call, hrefused]
        rfl
      have hpotential := potential_le_of_refused hp hledgered hdivides hmine hnothing
      simp only [claims, List.map_cons, run, hcall]
      have hnone : p.denomination * 0 + p.worth vector ≤ p.worth vector := by omega
      have hcons := hrest.cons rfl rfl (fun _ h => h) hnone (by push_cast; linarith)
      rwa [zero_add] at hcons

/-- When all accounts that have something in a resolved pool have claimed, the pool has paid for as
many complete sets as there were, up to two units of collateral for each account. -/
theorem sharePayout_bounds {p : Pool} (hp : p.WellFormed) (hledgered : p.Ledgered)
    {numerator : Numerator} {vector : List Int}
    (hvector : numerator.vector p.outcomes p.denomination = .ok vector) {order : List Text}
    (hnodup : order.Nodup) (hall : ∀ a, p.Holds a → a ∈ order) {sets : Int}
    (hunits : ∀ o < p.outcomes, p.units o = sets) :
    ((p.run (claims numerator order)).2.map PoolReceipt.sharePayout).sum ≤ sets ∧
      sets - 2 * order.length ≤
        ((p.run (claims numerator order)).2.map PoolReceipt.sharePayout).sum := by
  have hdivides := Numerator.vector_ok hp.denomination_pos.le hvector
  have hdrained := drained_claims hp hledgered hvector hnodup fun a _ => Finset.notMem_empty a
  generalize ((p.run (claims numerator order)).2.map PoolReceipt.sharePayout).sum = paid at *
  generalize (p.run (claims numerator order)).1 = after at *
  have hworth : p.worth vector = p.denomination * sets := worth_of_units_eq hdivides hunits
  have hleft : 0 ≤ after.worth vector := by
    refine hdrained.wellFormed.worth_nonneg ?_
    rw [hdrained.outcomes, hdrained.denomination]
    exact hdivides
  have hpaid := hdrained.paid_le
  have hnothing : after.potential vector order.toFinset = 0 :=
    potential_eq_zero hdrained.wellFormed hdrained.ledgered fun a ha =>
      List.mem_toFinset.2 (hall a (hdrained.holds a ha))
  have hstart : p.potential vector ∅ = p.denomination * sets := by
    rw [potential, Finset.sum_empty, sub_zero, hworth]
    push_cast
    rfl
  have hpotential := hdrained.le_paid
  rw [Finset.empty_union, hnothing, hstart, add_zero] at hpotential
  have hscaled : p.denomination * (sets - 2 * order.length) ≤ p.denomination * paid := by
    have hcast : (p.denomination * (sets - 2 * order.length) : ℚ) ≤ p.denomination * paid := by
      linarith
    exact_mod_cast hcast
  refine ⟨?_, le_of_mul_le_mul_left hscaled hp.denomination_pos⟩
  exact le_of_mul_le_mul_left (by omega) hp.denomination_pos

end Pool

end PredictionMarket
