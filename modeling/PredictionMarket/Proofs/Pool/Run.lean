import PredictionMarket.Proofs.Pool.Settlement

/-!
# Runs of a pool

A pool answers calls one after another, and a call that fails leaves it as it is. The receipts of
the successful calls say what went through the pool. A property of a pool and its receipts holds
after every run if it holds of a new pool and survives one call.
-/

namespace PredictionMarket

/-- What can be asked of a pool: a trade, or to pay an account by a resolution. -/
inductive PoolCall where
  /-- An account trades. -/
  | trade (sender : Text) (t : Trade Int)
  /-- An account is paid. -/
  | payout (account : Text) (numerator : Numerator)

/-- What came of a call of a pool. -/
inductive PoolReceipt where
  /-- The receipt of a trade. -/
  | traded (r : Receipt)
  /-- The settlement of an account. -/
  | settled (s : Settlement)

/-- The fee that a trade leaves in the pool. -/
def Receipt.collected : Receipt → Int
  | .buy _ _ q => q.fee
  | .sell _ _ s => s.fee
  | .redeem r => r.fee
  | .addLiquidity _ _ => 0
  | .exitPool _ => 0

/-- The fees that a trade pays out to a provider of liquidity. -/
def Receipt.feesPaid : Receipt → Int
  | .exitPool e => e.fees
  | _ => 0

namespace PoolReceipt

/-- The fee that a call leaves in the pool. -/
def collected : PoolReceipt → Int
  | traded r => r.collected
  | settled _ => 0

/-- The fees that a call pays out. -/
def feesPaid : PoolReceipt → Int
  | traded r => r.feesPaid
  | settled s => s.fees

end PoolReceipt

namespace Pool

/-- Answers a call. -/
def call (p : Pool) : PoolCall → Except PoolError (Pool × PoolReceipt)
  | .trade sender t => do
    let (after, r) ← p.trade sender t
    return (after, .traded r)
  | .payout account numerator => do
    let (after, s) ← p.payout account numerator
    return (after, .settled s)

/-- A successful call is a trade or a settlement. -/
theorem call_ok {p after : Pool} {c : PoolCall} {r : PoolReceipt}
    (h : p.call c = .ok (after, r)) :
    (∃ sender t receipt, c = .trade sender t ∧ r = .traded receipt ∧
      p.Traded sender t after receipt) ∨
    (∃ account numerator s, c = .payout account numerator ∧ r = .settled s ∧
      p.Settled account numerator after s) := by
  cases c with
  | trade sender t =>
    simp only [call, bind_eq_ok, pure, Except.pure, Except.ok.injEq, Prod.exists,
      Prod.mk.injEq] at h
    obtain ⟨_, receipt, htrade, rfl, rfl⟩ := h
    exact .inl ⟨sender, t, receipt, rfl, rfl, trade_ok htrade⟩
  | payout account numerator =>
    simp only [call, bind_eq_ok, pure, Except.pure, Except.ok.injEq, Prod.exists,
      Prod.mk.injEq] at h
    obtain ⟨_, s, hpayout, rfl, rfl⟩ := h
    exact .inr ⟨account, numerator, s, rfl, rfl, payout_ok hpayout⟩

/-- The pool after a list of calls, with the receipts of those that succeeded. -/
def run (p : Pool) : List PoolCall → Pool × List PoolReceipt
  | [] => (p, [])
  | c :: calls =>
    match p.call c with
    | .error _ => p.run calls
    | .ok (after, r) => ((after.run calls).1, r :: (after.run calls).2)

/-- What holds of a pool and its receipts so far, and survives one call of a sort, holds after a run
of such calls. -/
theorem run_invariant_of {P : Pool → List PoolReceipt → Prop} {Q : PoolCall → Prop}
    (hstep : ∀ {p past c after r}, Q c → P p past → p.call c = .ok (after, r) →
      P after (past ++ [r]))
    {p : Pool} (past : List PoolReceipt) (hinit : P p past) (calls : List PoolCall)
    (hcalls : ∀ c ∈ calls, Q c) : P (p.run calls).1 (past ++ (p.run calls).2) := by
  induction calls generalizing p past with
  | nil => simpa [run] using hinit
  | cons c calls ih =>
    have hrest : ∀ c ∈ calls, Q c := fun c hc => hcalls c (List.mem_cons_of_mem _ hc)
    cases hcall : p.call c with
    | error e => simpa [run, hcall] using ih past hinit hrest
    | ok answer =>
      obtain ⟨after, r⟩ := answer
      have hafter := hstep (hcalls c List.mem_cons_self) hinit hcall
      simpa [run, hcall] using ih (past ++ [r]) hafter hrest

/-- What holds of a pool and its receipts so far, and survives one call, holds after a run. -/
theorem run_invariant {P : Pool → List PoolReceipt → Prop}
    (hstep : ∀ {p past c after r}, P p past → p.call c = .ok (after, r) → P after (past ++ [r]))
    {p : Pool} (past : List PoolReceipt) (hinit : P p past) (calls : List PoolCall) :
    P (p.run calls).1 (past ++ (p.run calls).2) :=
  run_invariant_of (Q := fun _ => True) (fun _ => hstep) past hinit calls fun _ _ => trivial

/-- No run changes the terms. -/
theorem sameTerms_run (p : Pool) (calls : List PoolCall) : p.SameTerms (p.run calls).1 := by
  refine run_invariant (P := fun after _ => p.SameTerms after) (fun hterms hcall => ?_) []
    (SameTerms.refl p) calls
  rcases call_ok hcall with ⟨_, _, _, -, -, htraded⟩ | ⟨_, _, _, -, -, hsettled⟩
  · exact hterms.trans htraded.sameTerms
  · exact hterms.trans hsettled.sameTerms

/-- The pools that a new pool can become. -/
def Reachable (p : Pool) : Prop :=
  ∃ marketId outcomes token decimals swapFee new calls,
    Pool.make marketId outcomes token decimals swapFee = .ok new ∧ (new.run calls).1 = p

/-- What holds of new pools and survives one call holds of all pools that can be reached. -/
theorem Reachable.induct {P : Pool → Prop}
    (hmake : ∀ {marketId outcomes token decimals swapFee new},
      Pool.make marketId outcomes token decimals swapFee = .ok new → P new)
    (hstep : ∀ {p c after r}, P p → p.call c = .ok (after, r) → P after)
    {p : Pool} (h : p.Reachable) : P p := by
  obtain ⟨_, _, _, _, _, new, calls, hnew, rfl⟩ := h
  exact run_invariant (P := fun p _ => P p) (fun hp hc => hstep hp hc) [] (hmake hnew) calls

end Pool

end PredictionMarket
