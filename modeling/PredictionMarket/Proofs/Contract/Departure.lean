import PredictionMarket.Proofs.Contract.Delivery
import PredictionMarket.Proofs.Contract.Moves
import PredictionMarket.Proofs.Contract.Solvency
import PredictionMarket.Proofs.Pool.Leaving

/-!
# How a provider leaves

The amounts of a call have at most 128 bits. What a market holds of an outcome is bounded by what
was delivered to it, but stakes are not: a deposit earns a stake in proportion to the largest
reserve, and purchases make that small. So a stake may have too many bits to be given back in one
call. It can still be given back in parts, with no more calls than it takes to name it.
-/

namespace PredictionMarket

/-! ## The pool -/

/-- Giving back any part of a stake succeeds, and the rest of the stake stays. -/
theorem Pool.exists_exit {p : Pool} (hp : p.WellFormed) (hledgered : p.Ledgered) {account : Text}
    {stake : Int} (hstake : 0 < stake) (hle : stake ≤ p.stakes.balance account) :
    ∃ after r, p.trade account (.exitPool stake) = .ok (after, r) ∧
      after.stakes.balance account = p.stakes.balance account - stake := by
  obtain ⟨after, e, hexit⟩ := exists_exitPool hp hledgered hstake hle
  obtain ⟨plan, hplanned, hcommitted, -⟩ := exitPool_ok hexit
  refine ⟨after, .exitPool e, ?_, hplanned.balance_eq hcommitted⟩
  rw [trade, hexit]
  rfl

namespace Contract

/-! ## One call -/

/-- The call by which an account gives back so much of its stake in the market in a place. -/
def exitCall (account : Text) (n : Nat) (now stake : Int) : Call :=
  .ask account (.trade (.int n) (.exitPool (.int stake)) now)

/-- A contract that is not stopped, with a market in its place in which trading is on, whose
transfers are numbered. -/
structure Tradable (c : Contract) (n : Nat) (m : Market) (now : Int) : Prop where
  /-- The contract is not stopped. -/
  running : c.paused = false
  /-- The market is there. -/
  found : c.arena.markets[n]? = some m
  /-- The market has the number of its place. -/
  numbered : m.id = n
  /-- Trading is on. -/
  trading : m.checkTrading now = .ok ()
  /-- The pool is well formed. -/
  wellFormed : m.pool.WellFormed
  /-- The ledgers of the pool agree. -/
  ledgered : m.pool.Ledgered
  /-- The transfers are numbered. -/
  transfers : ∃ ids, c.Numbered ids

/-- In a state that can be reached, a market can be traded in if trading is on and the contract is
not stopped. -/
theorem Reachable.tradable {c : Contract} (hc : c.Reachable) (hrunning : c.paused = false) {n : Nat}
    {m : Market} (hfound : c.arena.markets[n]? = some m) {now : Int}
    (htrading : m.checkTrading now = .ok ()) : c.Tradable n m now :=
  have hsound := hc.sound m (List.mem_of_getElem? hfound)
  ⟨hrunning, hfound, hc.accounted.numbered n m hfound, htrading, hsound.wellFormed,
    hsound.ledgered, hc.numbered⟩

/-- A stake of more than 128 bits is turned down for its size. -/
theorem exit_of_large_stake {c : Contract} (hrunning : c.paused = false) (account : Text) (n : Nat)
    (now : Int) {stake : Int} (hlarge : Part.maxAmount < stake) :
    (c.step (exitCall account n now stake)).result = .error (.amountOutOfRange "lp_in" stake) ∧
      (c.step (exitCall account n now stake)).after = c := by
  refine ask_of_refused ?_
  simp only [plan, Contract.trade, checkRunning, hrunning, Trade.check, checkPositive, checkAmount,
    refuseIf_bind, hlarge, or_true, if_true]
  rfl

/-- Any part of a stake of at most 128 bits can be given back, which is paid to the account, and the
rest of the stake stays. -/
theorem Tradable.plan_exit {c : Contract} {n : Nat} {m : Market} {now : Int}
    (h : c.Tradable n m now) {account : Text} {stake : Int} (hstake : 0 < stake)
    (hmost : stake ≤ Part.maxAmount) (hle : stake ≤ m.pool.stakes.balance account) :
    ∃ plan left, c.plan account (.trade (.int n) (.exitPool (.int stake)) now) = .ok plan ∧
      plan.after.Tradable n left now ∧
      left.pool.stakes.balance account = m.pool.stakes.balance account - stake ∧
      ∀ p, plan.payment = some p → p.receiver = account := by
  obtain ⟨pool, r, htrade, hleft⟩ := Pool.exists_exit h.wellFormed h.ledgered hstake hle
  have htraded := Pool.trade_ok htrade
  have hmarket : m.trade account (.exitPool stake) now = .ok ({ m with pool }, r) := by
    rw [Market.trade, h.trading, ok_bind, htrade]
    rfl
  have hcheck : (Trade.exitPool (.int stake)).check = .ok (.exitPool stake) := by
    rw [Trade.check, checkPositive_eq_ok "lp_in" hstake hmost]
    rfl
  obtain ⟨plan, hplan, hafter, hpayment⟩ : ∃ plan,
      c.plan account (.trade (.int n) (.exitPool (.int stake)) now) = .ok plan ∧
        plan.after = (c.store { m with pool }).record (some m.id) (.traded account r) ∧
        ∀ p, plan.payment = some p → p.receiver = account := by
    simp only [plan, Contract.trade, checkRunning, h.running, refuseIf_bind, hcheck,
      market_eq_ok h.found, hmarket, Except.mapError, ok_bind]
    refine ⟨_, rfl, rfl, fun p hp => ?_⟩
    obtain ⟨_, -, rfl⟩ := Option.map_eq_some_iff.1 hp
    rfl
  refine ⟨plan, { m with pool }, hplan, ?_, hleft, hpayment⟩
  obtain ⟨ids, hids⟩ := h.transfers
  refine ⟨?_, ?_, h.numbered, h.trading, htraded.wellFormed h.wellFormed,
    htraded.ledgered h.ledgered, ids, hids.planned (plan_ok hplan)⟩
  · rw [hafter]
    exact h.running
  · have hid : ({ m with pool } : Market).id = n := h.numbered
    have hplace := getElem?_store hid h.found
    rw [if_pos rfl] at hplace
    rw [hafter]
    exact hplace

/-- A call that gives back a part of at most 128 bits leaves the rest of the stake, and is not
turned down for its size. It succeeds if the name of the account can be encoded. -/
theorem Tradable.exit {c : Contract} {n : Nat} {m : Market} {now : Int} (h : c.Tradable n m now)
    {account : Text} {stake : Int} (hstake : 0 < stake) (hmost : stake ≤ Part.maxAmount)
    (hle : stake ≤ m.pool.stakes.balance account) :
    (∃ left, (c.step (exitCall account n now stake)).after.Tradable n left now ∧
        left.pool.stakes.balance account = m.pool.stakes.balance account - stake) ∧
      (c.step (exitCall account n now stake)).result ≠ .error (.amountOutOfRange "lp_in" stake) ∧
      (account.hasSurrogate = false →
        succeeded (c.step (exitCall account n now stake)).result = true) := by
  obtain ⟨planned, left, hplan, hafter, hleft, hreceiver⟩ := h.plan_exit hstake hmost hle
  obtain ⟨ids, hids⟩ := h.transfers
  refine ⟨⟨left, ⟨(paused_ask hplan).trans hafter.running, ?_, hafter.numbered, hafter.trading,
    hafter.wellFormed, hafter.ledgered, (ask_cases c account _).numbered hids⟩, hleft⟩,
    fun hrange => ?_, fun hnamed => ?_⟩
  · rw [exitCall, step, arena_ask hplan]
    exact hafter.found
  · rcases ask_error hplan hrange with ⟨_, -, hother⟩ | ⟨_, hother⟩ | ⟨_, hother⟩
    · cases hother
    · cases hother
    · cases hother
  · have hresult : (c.ask account (.trade (.int n) (.exitPool (.int stake)) now)).result =
        .ok planned.reply :=
      (hids.result_eq_ok_iff hplan).2 ⟨rfl, rfl, fun p hp _ => by rw [hreceiver p hp]; exact hnamed⟩
    rw [exitCall, step, hresult]
    rfl

/-! ## One call after another -/

/-- A list of amounts of a call that are not zero. -/
def AreAmounts (parts : List Int) : Prop :=
  ∀ part ∈ parts, 0 < part ∧ part ≤ Part.maxAmount

/-- Parts of a stake are given back one after another, and the rest of the stake stays. All calls
succeed if the name of the account can be encoded. -/
theorem Tradable.exits {account : Text} {parts : List Int} (hparts : AreAmounts parts)
    {c : Contract} {n : Nat} {m : Market} {now : Int} (h : c.Tradable n m now)
    (hle : parts.sum ≤ m.pool.stakes.balance account) :
    (∃ left, (c.run (parts.map (exitCall account n now))).Tradable n left now ∧
        left.pool.stakes.balance account = m.pool.stakes.balance account - parts.sum) ∧
      (account.hasSurrogate = false →
        ∀ visit ∈ c.visits (parts.map (exitCall account n now)),
          succeeded (visit.1.step visit.2).result = true) := by
  induction parts generalizing c m with
  | nil => exact ⟨⟨m, h, by simp⟩, fun _ _ hvisit => by cases hvisit⟩
  | cons part parts ih =>
    have hrest : AreAmounts parts :=
      fun other hother => hparts other (List.mem_cons_of_mem _ hother)
    have hsum : 0 ≤ parts.sum := List.sum_nonneg fun other hother => (hrest other hother).1.le
    obtain ⟨hpositive, hmost⟩ := hparts part List.mem_cons_self
    rw [List.sum_cons] at hle ⊢
    have hpart : part ≤ m.pool.stakes.balance account := by omega
    obtain ⟨⟨left, hafter, hleft⟩, -, hsucceeds⟩ := h.exit hpositive hmost hpart
    obtain ⟨⟨last, hlast, hbalance⟩, hothers⟩ := ih hrest hafter (by omega)
    refine ⟨⟨last, hlast, by omega⟩, fun hnamed visit hvisit => ?_⟩
    rcases List.mem_cons.1 hvisit with rfl | hvisit
    · exact hsucceeds hnamed
    · exact hothers hnamed visit hvisit

/-- A positive number is a sum of amounts, of as few as it takes. -/
theorem exists_amounts {total : Int} (htotal : 0 < total) :
    ∃ parts : List Int, AreAmounts parts ∧ parts.sum = total ∧
      (parts.length : Int) = (total - 1) / Part.maxAmount + 1 := by
  have hmost : 0 < Part.maxAmount := by decide
  have hfull : 0 ≤ (total - 1) / Part.maxAmount := Int.ediv_nonneg (by omega) hmost.le
  have hsplit := Int.mul_ediv_add_emod (total - 1) Part.maxAmount
  have hrest := Int.emod_nonneg (total - 1) hmost.ne'
  have hless := Int.emod_lt_of_pos (total - 1) hmost
  refine ⟨List.replicate ((total - 1) / Part.maxAmount).toNat Part.maxAmount ++
    [(total - 1) % Part.maxAmount + 1], fun part hpart => ?_, ?_, ?_⟩
  · rcases List.mem_append.1 hpart with hpart | hpart
    · rw [List.eq_of_mem_replicate hpart]
      exact ⟨hmost, le_rfl⟩
    · rw [List.mem_singleton.1 hpart]
      exact ⟨by omega, by omega⟩
  · rw [List.sum_append, List.sum_replicate, List.sum_singleton, nsmul_eq_mul,
      Int.toNat_of_nonneg hfull, mul_comm]
    omega
  · rw [List.length_append, List.length_replicate, List.length_singleton, Nat.cast_add,
      Int.toNat_of_nonneg hfull]
    rfl

/-! ## Runs -/

/-- How an account takes a stake out of the market in a place: in one call exactly if the stake has
no more than 128 bits, and at any rate in parts. -/
structure Leaves (c : Contract) (n : Nat) (account : Text) (stake now : Int) : Prop where
  /-- The size of the stake prevents one call for all of it if and only if it is too large. -/
  atOnce : (c.step (exitCall account n now stake)).result =
    .error (.amountOutOfRange "lp_in" stake) ↔ Part.maxAmount < stake
  /-- In any parts that are amounts, it is taken out. -/
  inParts : ∀ parts : List Int, AreAmounts parts → parts.sum = stake →
    ∃ left, (c.run (parts.map (exitCall account n now))).arena.markets[n]? = some left ∧
      left.pool.stakes.balance account = 0
  /-- All of these calls succeed if the name of the account can be encoded. -/
  succeed : account.hasSurrogate = false → ∀ parts : List Int, AreAmounts parts →
    parts.sum = stake → ∀ visit ∈ c.visits (parts.map (exitCall account n now)),
      succeeded (visit.1.step visit.2).result = true
  /-- It takes one call for each amount that is used up, and one for the rest. -/
  exists_parts : ∃ parts : List Int, AreAmounts parts ∧ parts.sum = stake ∧
    (parts.length : Int) = (stake - 1) / Part.maxAmount + 1

/-- **Providers can leave**: after every run, no reserve and no balance of shares of a market is
larger than the collateral that successful deposits and purchases delivered to it. While trading is
on and the contract is not stopped, every account can take its whole stake out of the market, in one
call if the stake has no more than 128 bits, and otherwise in several. -/
theorem providers_can_leave (config : Config) (gov oracleId : Text) (calls : List Call) {n : Nat}
    {m : Market} (hfound : ((make config gov oracleId).run calls).arena.markets[n]? = some m) :
    ∃ delivered, ((tradesIn ((make config gov oracleId).deeds calls) m.id).map
        Receipt.paidIn).sum = delivered ∧
      (∀ reserve ∈ m.pool.reserves, reserve ≤ delivered) ∧
      (∀ account, ∀ o < m.pool.outcomes, m.pool.shares.balance account o ≤ delivered) ∧
      (((make config gov oracleId).run calls).paused = false →
        ∀ now, m.checkTrading now = .ok () →
          ∀ account, 0 < m.pool.stakes.balance account →
            ((make config gov oracleId).run calls).Leaves n account
              (m.pool.stakes.balance account) now) := by
  have hc : ((make config gov oracleId).run calls).Reachable := ⟨config, gov, oracleId, calls, rfl⟩
  have hm := List.mem_of_getElem? hfound
  have hwellFormed := (hc.sound m hm).wellFormed
  have hcovered := (covered_make config gov oracleId).run calls
  have hunits := hc.bounded.units_le m hm
  refine ⟨_, hcovered.paidIn m.id, fun reserve hreserve => ?_, fun account o ho => ?_,
    fun hrunning now htrading account hstake => ?_⟩
  · obtain ⟨o, ho, rfl⟩ := List.mem_iff_getElem.1 hreserve
    have hbound := hwellFormed.reserve_le_units o
    rw [List.getD_eq_getElem _ 0 ho] at hbound
    exact hbound.trans (hunits o (hwellFormed.reserves_length ▸ ho))
  · exact (hwellFormed.balance_le_units ho account).trans (hunits o ho)
  · have htradable := hc.tradable hrunning hfound htrading
    refine ⟨⟨fun hrange => ?_, fun hlarge => ?_⟩, fun parts hparts hsum => ?_,
      fun hnamed parts hparts hsum => ?_, exists_amounts hstake⟩
    · by_contra hsmall
      exact (htradable.exit hstake (not_lt.1 hsmall) le_rfl).2.1 hrange
    · exact (exit_of_large_stake hrunning account n now hlarge).1
    · obtain ⟨⟨left, hleft, hbalance⟩, -⟩ := htradable.exits hparts hsum.le
      exact ⟨left, hleft.found, by omega⟩
    · exact (htradable.exits hparts hsum.le).2 hnamed

/-- A new contract that takes collateral without decimals. -/
def newcomer : Contract :=
  make { whitelist := Table.ofList [("T", 0)], validityBond := 0, maxSwapFee := 100 } "g" "o"

/-- A deposit with weights far apart, a purchase that brings the reserves together, and a second
deposit, which earns a stake of more than 128 bits. -/
def largeStakeCalls : List Call :=
  [.ask "a" (.createMarket
      { outcomes := 2, tags := [.label "yes", .label "no"], endTime := 10, resolutionTime := 20,
        collateral := "T", swapFee := 0 } (.int 0) 0),
    .ask "a" (.trade (.int 0)
      (.addLiquidity (.int 1208925819614629174706176) (some [1208925819614629174706176, 1])) 1),
    .ask "c" (.trade (.int 0) (.buy (.int 1099511627776) (.int 0) (.int 0)) 2),
    .ask "b" (.trade (.int 0) (.addLiquidity (.int 1267650600228229401496703205376) none) 3)]

/-- After these calls there is a market in which trading is on. -/
theorem largeStake_found :
    ∃ m, (newcomer.run largeStakeCalls).arena.markets[0]? = some m ∧ m.id = 0 ∧
      m.checkTrading 4 = .ok () ∧
      m.pool.stakes.balance "b" = 1393796574906896295745755315560530496716800 := by
  have hmarkets : ((newcomer.run largeStakeCalls).arena.markets.map fun m =>
      (m.id, m.finalized, m.enabled, m.endTime, m.pool.stakes.balance "b")) =
      [(0, false, true, 10, 1393796574906896295745755315560530496716800)] := by
    decide +kernel
  obtain ⟨m, hm, hvalues⟩ := List.map_eq_singleton_iff.1 hmarkets
  obtain ⟨hid, hopen, henabled, hend, hstake⟩ : m.id = 0 ∧ m.finalized = false ∧
      m.enabled = true ∧ m.endTime = 10 ∧ m.pool.stakes.balance "b" = _ := by
    simpa only [Prod.mk.injEq] using hvalues
  refine ⟨m, by rw [hm]; rfl, hid, Market.checkTrading_ok.2 ⟨hopen, henabled, ?_⟩, hstake⟩
  rw [hend]
  decide

/-- The account with the large stake can take it out, in several calls. -/
theorem provider_of_large_stake_can_leave :
    (newcomer.run largeStakeCalls).Leaves 0 "b" 1393796574906896295745755315560530496716800 4 := by
  obtain ⟨m, hfound, -, htrading, hstake⟩ := largeStake_found
  obtain ⟨_, -, -, -, hleaves⟩ := providers_can_leave _ "g" "o" largeStakeCalls hfound
  have hpositive : 0 < m.pool.stakes.balance "b" := by
    rw [hstake]
    decide
  exact hstake ▸ hleaves (by decide +kernel) 4 htrading "b" hpositive

/-- Less than 128 bits were delivered, but the stake has more, and cannot be taken out in one
call. -/
theorem large_stake_cannot_leave_at_once :
    ((tradesIn (newcomer.deeds largeStakeCalls) 0).map Receipt.paidIn).sum ≤ Part.maxAmount ∧
      ∃ m, (newcomer.run largeStakeCalls).arena.markets[0]? = some m ∧
        Part.maxAmount < m.pool.stakes.balance "b" ∧
        ((newcomer.run largeStakeCalls).step
            (exitCall "b" 0 4 (m.pool.stakes.balance "b"))).result =
          .error (.amountOutOfRange "lp_in" (m.pool.stakes.balance "b")) := by
  obtain ⟨m, hfound, -, -, hstake⟩ := largeStake_found
  have hlarge : Part.maxAmount < m.pool.stakes.balance "b" := by
    rw [hstake]
    decide
  have hrunning : (newcomer.run largeStakeCalls).paused = false := by decide +kernel
  exact ⟨by decide +kernel, m, hfound, hlarge, (exit_of_large_stake hrunning "b" 0 4 hlarge).1⟩

end Contract

end PredictionMarket
