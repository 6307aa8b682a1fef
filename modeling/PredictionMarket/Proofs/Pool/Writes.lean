import PredictionMarket.Proofs.Pool.Run

/-!
# The writes of a call

A call of a pool has two parts. It first checks its arguments and computes all it needs; then it
writes the parts of the pool that change, one after another. Some writes check their arguments
again. One that fails leaves what was written before it, so a pool might be left between two states.

Here a call is taken apart: `prepare` is the first part, which writes nothing, and ends with a draft
of the writes. Both parts together give the same results as the call.
-/

namespace PredictionMarket

/-- A write to one part of a pool. -/
inductive PoolWrite where
  /-- The fee accounting is set. -/
  | fees (state : FeeState)
  /-- A fee is credited. -/
  | accrue (fee : Int)
  /-- The amounts that the accounts have withdrawn are set. -/
  | withdrawn (amounts : Table Text Int)
  /-- The reserves are set. -/
  | reserves (amounts : List Int)
  /-- Pool tokens are issued. -/
  | mint (account : Text) (amount : Int)
  /-- Pool tokens are taken back. -/
  | burn (account : Text) (amount : Int)
  /-- An account gets shares of an outcome. -/
  | give (account : Text) (outcome : Nat) (amount : Int)
  /-- An account loses shares of an outcome. -/
  | take (account : Text) (outcome : Nat) (amount : Int)
  /-- An account loses all its shares. -/
  | clear (account : Text)

/-- What a call intends: its writes, in their order, and the receipt. -/
structure Draft where
  /-- The writes. -/
  writes : List PoolWrite
  /-- What comes of the call. -/
  receipt : PoolReceipt

namespace Pool

/-! ## Writing -/

/-- Carries one write out. -/
def put (p : Pool) : PoolWrite → Except PoolError Pool
  | .fees fees => return { p with fees }
  | .accrue fee => return { p with fees := ← (p.fees.accrue fee).mapError .fees }
  | .withdrawn withdrawn => return { p with withdrawn }
  | .reserves reserves => return { p with reserves }
  | .mint account amount =>
    return { p with stakes := ← (p.stakes.mint account amount).mapError .stakes }
  | .burn account amount =>
    return { p with stakes := ← (p.stakes.burn account amount).mapError .stakes }
  | .give account outcome amount =>
    return { p with shares := ← (p.shares.add account outcome amount).mapError .shares }
  | .take account outcome amount =>
    return { p with shares := ← (p.shares.subtract account outcome amount).mapError .shares }
  | .clear account => return { p with shares := p.shares.clear account }

/-- Carries writes out until one fails: the pool that is left, and the error if there is one. -/
def write (p : Pool) : List PoolWrite → Pool × Option PoolError
  | [] => (p, none)
  | w :: ws =>
    match p.put w with
    | .error e => (p, some e)
    | .ok after => after.write ws

/-- Carries writes out, all of them or none. -/
def putAll (p : Pool) (ws : List PoolWrite) : Except PoolError Pool :=
  ws.foldlM put p

/-- Without a write nothing changes. -/
@[simp] theorem putAll_nil (p : Pool) : p.putAll [] = .ok p := rfl

/-- The first write comes before the others. -/
@[simp] theorem putAll_cons (p : Pool) (w : PoolWrite) (ws : List PoolWrite) :
    p.putAll (w :: ws) = p.put w >>= fun after => after.putAll ws := List.foldlM_cons

/-- Writes are carried out one list after the other. -/
theorem putAll_append (p : Pool) (ws ws' : List PoolWrite) :
    p.putAll (ws ++ ws') = p.putAll ws >>= fun after => after.putAll ws' := List.foldlM_append

/-- If none fails, all writes are carried out. -/
theorem write_eq_of_putAll {p after : Pool} {ws : List PoolWrite} (h : p.putAll ws = .ok after) :
    p.write ws = (after, none) := by
  induction ws generalizing p with
  | nil =>
    rw [putAll_nil, Except.ok.injEq] at h
    rw [write, h]
  | cons w ws ih =>
    rw [putAll_cons, bind_eq_ok] at h
    obtain ⟨next, hput, hrest⟩ := h
    rw [write, hput]
    exact ih hrest

/-! ## Shares of all outcomes -/

/-- The writes that give an account amounts of the outcomes from one on, leaving out zeros. -/
def gifts (account : Text) : Nat → List Int → List PoolWrite
  | _, [] => []
  | outcome, amount :: amounts =>
    if amount = 0 then gifts account (outcome + 1) amounts
    else .give account outcome amount :: gifts account (outcome + 1) amounts

/-- These writes add the amounts to the shares. -/
theorem putAll_gifts (p : Pool) (account : Text) (first : Nat) (amounts : List Int) :
    p.putAll (gifts account first amounts) =
      ((amounts.zipIdx first).foldlM
        (fun (s : Shares) ((amount, outcome) : Int × Nat) =>
          if amount = 0 then Except.ok s else s.add account outcome amount) p.shares).mapError
        .shares >>= fun shares => .ok { p with shares } := by
  induction amounts generalizing first p with
  | nil => rfl
  | cons amount amounts ih =>
    simp only [gifts, List.zipIdx_cons, List.foldlM_cons]
    by_cases hzero : amount = 0
    · rw [if_pos hzero, if_pos hzero, ok_bind]
      exact ih p (first + 1)
    · rw [if_neg hzero, if_neg hzero, putAll_cons, put]
      cases p.shares.add account first amount with
      | error e => rfl
      | ok shares => exact ih { p with shares } (first + 1)

/-- The writes that take as many shares of each of some outcomes off an account. -/
def takings (account : Text) (amount : Int) (outcomes : List Nat) : List PoolWrite :=
  outcomes.map fun outcome => .take account outcome amount

/-- These writes take the amount off the shares of each outcome. -/
theorem putAll_takings (p : Pool) (account : Text) (amount : Int) (outcomes : List Nat) :
    p.putAll (takings account amount outcomes) =
      (outcomes.foldlM (fun (s : Shares) (o : Nat) => s.subtract account o amount)
        p.shares).mapError .shares >>= fun shares => .ok { p with shares } := by
  induction outcomes generalizing p with
  | nil => rfl
  | cons outcome outcomes ih =>
    unfold takings at ih ⊢
    rw [List.map_cons, putAll_cons, put, List.foldlM_cons]
    cases p.shares.subtract account outcome amount with
    | error e => rfl
    | ok shares => exact ih { p with shares }

/-! ## Preparing -/

/-- The write that books fees as withdrawn by a new stake, if there are any. -/
def bookings (p : Pool) (sender : Text) (ineligible : Int) : List PoolWrite :=
  if ineligible = 0 then []
  else [.withdrawn (p.withdrawn.insert sender (p.withdrawnBy sender + ineligible))]

/-- Prepares a deposit. -/
def prepareDeposit (p : Pool) (sender : Text) (total : Int) (weights : Option (List Int)) :
    Except PoolError Draft := do
  refuseIf (total ≤ 0) (.totalNotPositive total)
  let funding ← p.splitDeposit total weights
  let (ineligible, fees) ← (p.fees.onMint p.stakes.supply funding.minted).mapError .fees
  let reserves := List.zipWith (· + ·) p.reserves funding.added
  return ⟨[.fees fees] ++ p.bookings sender ineligible ++
      [.reserves reserves, .mint sender funding.minted] ++ gifts sender 0 funding.returned,
    .traded (.addLiquidity total ⟨funding.minted, funding.returned⟩)⟩

/-- The writes that carry out a plan to give a stake back. -/
def exitWrites (p : Pool) (sender : Text) (plan : ExitPlan) : List PoolWrite :=
  [.fees plan.state, .withdrawn (p.storeWithdrawn sender plan.withdrawn),
    .burn sender plan.stake, .reserves (List.zipWith (· - ·) p.reserves plan.sharesOut)] ++
  gifts sender 0 plan.sharesOut

/-- Prepares giving a stake back. -/
def prepareExit (p : Pool) (sender : Text) (stake : Int) : Except PoolError Draft := do
  let plan ← p.planExit sender stake
  return ⟨p.exitWrites sender plan, .traded (.exitPool plan.result)⟩

/-- Prepares a purchase. -/
def prepareBuy (p : Pool) (sender : Text) (collateralIn : Int) (outcome : Value)
    (minShares : Int) : Except PoolError Draft := do
  let o ← p.checkFunded outcome
  let q ← p.quoteBuy collateralIn o
  refuseIf (q.sharesOut < minShares) (.tooFewShares minShares q.sharesOut)
  refuseIf (q.sharesOut = 0) (.nothingBought collateralIn)
  let reserves ←
    (Curve.applyBuy p.reserves (collateralIn - q.fee) o q.sharesOut).mapError .curve
  return ⟨[.accrue q.fee, .reserves reserves, .give sender o q.sharesOut],
    .traded (.buy collateralIn outcome q)⟩

/-- Prepares a sale. -/
def prepareSell (p : Pool) (sender : Text) (collateralOut : Int) (outcome : Value)
    (maxShares : Int) : Except PoolError Draft := do
  let o ← p.checkFunded outcome
  let sharesIn ← p.quoteSell collateralOut o
  refuseIf (maxShares < sharesIn) (.tooManyShares maxShares sharesIn)
  let held := p.shares.balance sender o
  refuseIf (held < sharesIn) (.sharesShort held sharesIn)
  let fee ← (Curve.fee collateralOut p.swapFee).mapError .curve
  let reserves ← (Curve.applySell p.reserves collateralOut o sharesIn).mapError .curve
  return ⟨[.take sender o sharesIn, .reserves reserves, .accrue fee],
    .traded (.sell collateralOut outcome ⟨sharesIn, fee⟩)⟩

/-- Prepares redeeming complete sets. -/
def prepareRedeem (p : Pool) (sender : Text) (sets : Int) : Except PoolError Draft := do
  refuseIf (sets ≤ 0) (.setsNotPositive sets)
  match firstShort sets (p.shares.allOf sender) with
  | some (o, balance) => .error (.setsShort o balance sets)
  | none =>
    let fee ← p.redeemFee sets
    return ⟨takings sender sets (List.range p.outcomes) ++ [.accrue fee],
      .traded (.redeem ⟨sets, fee⟩)⟩

/-- Prepares paying an account for its stake and its shares. -/
def preparePayout (p : Pool) (account : Text) (numerator : Numerator) :
    Except PoolError Draft := do
  refuseIf (!numerator.isResolved) .unresolved
  let vector ← (numerator.vector p.outcomes p.denomination).mapError .payout
  let balances := p.shares.allOf account
  let stake := p.stakes.balance account
  if 0 < stake then
    let plan ← p.planExit account stake
    let all := List.zipWith (· + ·) balances plan.sharesOut
    let sharePayout := Curve.floorDiv (weighted all vector) p.denomination
    refuseIf (sharePayout + plan.fees = 0) (.nothingToClaim account)
    return ⟨p.exitWrites account plan ++ [.clear account],
      .settled ⟨sharePayout, plan.fees, some plan.result⟩⟩
  else
    let sharePayout := Curve.floorDiv (weighted balances vector) p.denomination
    refuseIf (sharePayout = 0) (.nothingToClaim account)
    return ⟨[.clear account], .settled ⟨sharePayout, 0, none⟩⟩

/-- Prepares a call: all of its checks and computations, and none of its writes. -/
def prepare (p : Pool) : PoolCall → Except PoolError Draft
  | .trade sender (.addLiquidity total weights) => p.prepareDeposit sender total weights
  | .trade sender (.exitPool stake) => p.prepareExit sender stake
  | .trade sender (.buy collateralIn outcome minShares) =>
    p.prepareBuy sender collateralIn outcome minShares
  | .trade sender (.sell collateralOut outcome maxShares) =>
    p.prepareSell sender collateralOut outcome maxShares
  | .trade sender (.redeem sets) => p.prepareRedeem sender sets
  | .payout account numerator => p.preparePayout account numerator

/-- Carries a draft out. -/
def complete (p : Pool) (d : Draft) : Except PoolError (Pool × PoolReceipt) := do
  return (← p.putAll d.writes, d.receipt)

/-! ## The two parts of a call -/

/-- The writes of a plan carry the plan out. -/
theorem putAll_exitWrites (p : Pool) (sender : Text) (plan : ExitPlan) :
    p.putAll (p.exitWrites sender plan) = p.commitExit sender plan := by
  simp only [exitWrites, putAll_append, putAll_cons, putAll_nil, put, commitExit, bind_assoc,
    pure_bind]
  cases p.stakes.burn sender plan.stake with
  | error e => rfl
  | ok stakes => exact putAll_gifts _ _ _ _

/-- What a new stake must not claim is booked as withdrawn. -/
theorem putAll_bookings (p : Pool) (sender : Text) (ineligible : Int) (fees : FeeState) :
    { p with fees }.putAll (p.bookings sender ineligible) =
      .ok { p with
        fees
        withdrawn :=
          if ineligible = 0 then p.withdrawn
          else p.withdrawn.insert sender (p.withdrawnBy sender + ineligible) } := by
  unfold bookings
  by_cases hzero : ineligible = 0
  · rw [if_pos hzero, if_pos hzero]
    rfl
  · rw [if_neg hzero, if_neg hzero]
    rfl

/-- The writes of a deposit carry it out. -/
theorem call_deposit (p : Pool) (sender : Text) (total : Int) (weights : Option (List Int)) :
    p.call (.trade sender (.addLiquidity total weights)) =
      p.prepareDeposit sender total weights >>= p.complete := by
  simp only [call, trade, addLiquidity, prepareDeposit, bind_assoc, pure_bind]
  refine bind_congr fun _ => bind_congr fun funding => bind_congr fun parts => ?_
  obtain ⟨ineligible, fees⟩ := parts
  simp only [complete, putAll_append, putAll_cons, putAll_nil, put, pure_bind, ok_bind,
    putAll_bookings, bind_assoc, putAll_gifts]
  rfl

/-- The writes of giving a stake back carry it out. -/
theorem call_exit (p : Pool) (sender : Text) (stake : Int) :
    p.call (.trade sender (.exitPool stake)) = p.prepareExit sender stake >>= p.complete := by
  simp only [call, trade, exitPool, prepareExit, complete, bind_assoc, pure_bind,
    putAll_exitWrites]

/-- The writes of a purchase carry it out. -/
theorem call_buy (p : Pool) (sender : Text) (collateralIn : Int) (outcome : Value)
    (minShares : Int) :
    p.call (.trade sender (.buy collateralIn outcome minShares)) =
      p.prepareBuy sender collateralIn outcome minShares >>= p.complete := by
  simp only [call, trade, buy, prepareBuy, complete, putAll_cons, putAll_nil, put, bind_assoc,
    pure_bind]
  rfl

/-- The writes of a sale carry it out. -/
theorem call_sell (p : Pool) (sender : Text) (collateralOut : Int) (outcome : Value)
    (maxShares : Int) :
    p.call (.trade sender (.sell collateralOut outcome maxShares)) =
      p.prepareSell sender collateralOut outcome maxShares >>= p.complete := by
  simp only [call, trade, sell, prepareSell, complete, putAll_cons, putAll_nil, put, bind_assoc,
    pure_bind]
  rfl

/-- The writes of redeeming complete sets carry it out. -/
theorem call_redeem (p : Pool) (sender : Text) (sets : Int) :
    p.call (.trade sender (.redeem sets)) = p.prepareRedeem sender sets >>= p.complete := by
  simp only [call, trade, redeem, prepareRedeem, bind_assoc, pure_bind]
  refine bind_congr fun _ => ?_
  cases firstShort sets (p.shares.allOf sender) with
  | some short => rfl
  | none =>
    simp only [complete, putAll_append, putAll_takings, putAll_cons, putAll_nil, put, bind_assoc,
      pure_bind, ok_bind, takeSets]
    rfl

/-- The writes of a payout carry it out. -/
theorem call_payout (p : Pool) (account : Text) (numerator : Numerator) :
    p.call (.payout account numerator) = p.preparePayout account numerator >>= p.complete := by
  simp only [call, payout, preparePayout, bind_assoc]
  refine bind_congr fun _ => bind_congr fun vector => ?_
  by_cases hstake : 0 < p.stakes.balance account
  · simp only [if_pos hstake, complete, putAll_append, putAll_exitWrites, putAll_cons, putAll_nil,
      put, bind_assoc, pure_bind]
    rfl
  · simp only [if_neg hstake, complete, putAll_cons, putAll_nil, put, bind_assoc, pure_bind]
    rfl

/-- A call is prepared and then written: both parts together give the results of the call. -/
theorem call_eq (p : Pool) (c : PoolCall) : p.call c = p.prepare c >>= p.complete := by
  cases c with
  | trade sender t =>
    cases t with
    | addLiquidity => exact p.call_deposit _ _ _
    | exitPool => exact p.call_exit _ _
    | buy => exact p.call_buy _ _ _ _
    | sell => exact p.call_sell _ _ _ _
    | redeem => exact p.call_redeem _ _
  | payout => exact p.call_payout _ _

end Pool

end PredictionMarket
