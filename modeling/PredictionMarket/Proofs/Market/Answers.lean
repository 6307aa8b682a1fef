import PredictionMarket.Proofs.Market

/-!
# Recorded answers

An answer of the oracle is resolved twice: when it is recorded, as a check, and when it makes the
market final. In between accounts may trade, the market may be switched off, another answer may be
recorded, and governance may try to rule. None of these changes what the resolver looks at, so an
answer that was recorded once can be used until the market is final.
-/

namespace PredictionMarket

/-- What can be asked of a market. -/
inductive MarketCall where
  /-- An account trades. -/
  | trade (sender : Text) (t : Trade Int) (now : Int)
  /-- Trading is switched on or off. -/
  | setEnabled (enabled : Bool)
  /-- Governance rules; without a vector the market is invalid. -/
  | rule (vector : Option (List Value)) (now : Int)
  /-- The answer of the oracle is recorded. -/
  | recordAnswer (answer : Answer) (now : Int)
  /-- The market is made final by the recorded answer. -/
  | finalizeFromOracle (now : Int)
  /-- An account is paid for all it holds. -/
  | claim (account : Text)

/-- The answer that a call records. -/
def MarketCall.recorded? : MarketCall → Option Answer
  | .recordAnswer answer _ => some answer
  | _ => none

/-- The answer that a list of calls records last. -/
def lastRecorded (calls : List MarketCall) : Option Answer :=
  (calls.filterMap MarketCall.recorded?).getLast?

/-- One more call records its answer, or leaves the last one. -/
theorem lastRecorded_append (calls : List MarketCall) (c : MarketCall) :
    lastRecorded (calls ++ [c]) = c.recorded?.or (lastRecorded calls) := by
  cases h : c.recorded? <;> simp [lastRecorded, h]

namespace Market

/-- A market that nothing has happened to. -/
structure IsNew (m : Market) : Prop where
  /-- There is no resolution. -/
  numerator : m.numerator = .unresolved
  /-- The market is not final. -/
  finalized : m.finalized = false
  /-- Trading is switched on. -/
  enabled : m.enabled = true
  /-- The oracle has not answered. -/
  dataRequestFinalized : m.dataRequestFinalized = false
  /-- No answer is stored. -/
  oracleAnswer : m.oracleAnswer = none

/-- Answers a call. -/
def call (m : Market) : MarketCall → Except MarketError Market
  | .trade sender t now => (m.trade sender t now).map Prod.fst
  | .setEnabled enabled => .ok { m with enabled }
  | .rule vector now => (m.rule vector now).map Prod.fst
  | .recordAnswer answer now => m.recordAnswer answer now
  | .finalizeFromOracle now => (m.finalizeFromOracle now).map Prod.fst
  | .claim account => (m.claim account).map Prod.fst

/-- The market after a list of calls, with those that succeeded. A call that fails leaves it. -/
def run (m : Market) : List MarketCall → Market × List MarketCall
  | [] => (m, [])
  | c :: calls =>
    match m.call c with
    | .error _ => m.run calls
    | .ok after => ((after.run calls).1, c :: (after.run calls).2)

/-- What holds of a market and the calls that succeeded so far, and survives one call, holds after a
run. -/
theorem run_invariant {P : Market → List MarketCall → Prop}
    (hstep : ∀ {m past c after}, P m past → m.call c = .ok after → P after (past ++ [c]))
    {m : Market} (past : List MarketCall) (hinit : P m past) (calls : List MarketCall) :
    P (m.run calls).1 (past ++ (m.run calls).2) := by
  induction calls generalizing m past with
  | nil => simpa [run] using hinit
  | cons c calls ih =>
    cases hcall : m.call c with
    | error e => simpa [run, hcall] using ih past hinit
    | ok after => simpa [run, hcall] using ih (past ++ [c]) (hstep hinit hcall)

/-! ## Recording an answer -/

/-- Storing an answer step by step. An error leaves the market as it is at that step. -/
def recordSteps (answer : Answer) (now : Int) : EStateM MarketError Market Unit := do
  let m ← get
  MonadExcept.ofExcept (refuseIf m.finalized (.alreadyFinalized m.id))
  MonadExcept.ofExcept
    (refuseIf (now < m.resolutionTime) (.notResolvable m.id m.resolutionTime now))
  let _ ← MonadExcept.ofExcept (m.resolve answer)
  modify fun m => { m with oracleAnswer := some answer }
  modify fun m => { m with dataRequestFinalized := true }

/-- The steps come to storing the answer, or to the same error and no change. -/
theorem recordSteps_run (m : Market) (answer : Answer) (now : Int) :
    (recordSteps answer now).run m =
      match m.recordAnswer answer now with
      | .ok after => .ok () after
      | .error e => .error e m := by
  simp only [recordSteps, recordAnswer, EStateM.run_bind, EStateM.run_get]
  cases refuseIf (m.finalized = true) (MarketError.alreadyFinalized m.id) with
  | error e => rfl
  | ok _ =>
    simp only [ok_bind]
    cases refuseIf (now < m.resolutionTime)
        (MarketError.notResolvable m.id m.resolutionTime now) with
    | error e => rfl
    | ok _ => cases m.resolve answer <;> rfl

/-- An answer that is refused leaves no trace. -/
theorem recordSteps_error {m after : Market} {answer : Answer} {now : Int} {e : MarketError}
    (h : (recordSteps answer now).run m = .error e after) : after = m := by
  rw [recordSteps_run] at h
  split at h
  · cases h
  · cases h
    rfl

/-! ## What stays -/

/-- What the resolver looks at, and when trading ends: nothing that happens to a market changes
it. -/
structure SameQuestion (m after : Market) : Prop where
  /-- The tags of the outcomes. -/
  tags : after.tags = m.tags
  /-- The end of trading. -/
  endTime : after.endTime = m.endTime
  /-- Whether the outcomes are the two sides of a range. -/
  isScalar : after.isScalar = m.isScalar
  /-- The units of the market. -/
  scalarMultiplier : after.scalarMultiplier = m.scalarMultiplier
  /-- The worth of a complete set. -/
  denomination : after.pool.denomination = m.pool.denomination

/-- A market is about what it is about. -/
theorem SameQuestion.refl (m : Market) : m.SameQuestion m :=
  ⟨rfl, rfl, rfl, rfl, rfl⟩

/-- What is kept twice is kept. -/
theorem SameQuestion.trans {m next after : Market} (h : m.SameQuestion next)
    (h' : next.SameQuestion after) : m.SameQuestion after :=
  ⟨h'.tags.trans h.tags, h'.endTime.trans h.endTime, h'.isScalar.trans h.isScalar,
    h'.scalarMultiplier.trans h.scalarMultiplier, h'.denomination.trans h.denomination⟩

/-- An answer leads to the same numerator, or is refused for the same reason. -/
theorem SameQuestion.resolve_eq {m after : Market} (h : m.SameQuestion after) (answer : Answer) :
    after.resolve answer = m.resolve answer := by
  rw [resolve, resolve, multiplier, multiplier, h.tags, h.isScalar, h.scalarMultiplier,
    h.denomination]

/-- A call keeps the question. Recording stores an answer that resolves the market; all other calls
leave what is stored. -/
theorem call_ok {m after : Market} {c : MarketCall} (h : m.call c = .ok after) :
    m.SameQuestion after ∧
      ((∃ answer, c.recorded? = some answer ∧ (∃ numerator, m.resolve answer = .ok numerator) ∧
        after.oracleAnswer = some answer ∧ after.dataRequestFinalized = true) ∨
      c.recorded? = none ∧ after.oracleAnswer = m.oracleAnswer ∧
        after.dataRequestFinalized = m.dataRequestFinalized) := by
  cases c with
  | trade sender t now =>
    obtain ⟨⟨_, _⟩, htrade, rfl⟩ := (map_eq_ok _ _ _).1 h
    obtain ⟨-, pool, htraded, rfl⟩ := trade_ok htrade
    exact ⟨⟨rfl, rfl, rfl, rfl, htraded.sameTerms.denomination⟩, .inr ⟨rfl, rfl, rfl⟩⟩
  | setEnabled enabled =>
    cases h
    exact ⟨⟨rfl, rfl, rfl, rfl, rfl⟩, .inr ⟨rfl, rfl, rfl⟩⟩
  | rule vector now =>
    obtain ⟨⟨_, _⟩, hrule, rfl⟩ := (map_eq_ok _ _ _).1 h
    obtain ⟨-, -, -, rfl⟩ := rule_ok hrule
    exact ⟨⟨rfl, rfl, rfl, rfl, rfl⟩, .inr ⟨rfl, rfl, rfl⟩⟩
  | recordAnswer answer now =>
    obtain ⟨-, -, hresolve, rfl⟩ := recordAnswer_ok h
    exact ⟨⟨rfl, rfl, rfl, rfl, rfl⟩, .inl ⟨answer, rfl, hresolve, rfl, rfl⟩⟩
  | finalizeFromOracle now =>
    obtain ⟨⟨_, _⟩, hfinalize, rfl⟩ := (map_eq_ok _ _ _).1 h
    obtain ⟨-, -, -, -, rfl⟩ := finalizeFromOracle_ok hfinalize
    exact ⟨⟨rfl, rfl, rfl, rfl, rfl⟩, .inr ⟨rfl, rfl, rfl⟩⟩
  | claim account =>
    obtain ⟨⟨_, _⟩, hclaim, rfl⟩ := (map_eq_ok _ _ _).1 h
    obtain ⟨-, pool, hsettled, rfl⟩ := claim_ok hclaim
    exact ⟨⟨rfl, rfl, rfl, rfl, hsettled.sameTerms.denomination⟩, .inr ⟨rfl, rfl, rfl⟩⟩

/-! ## Runs -/

/-- A market that became of a new one by some calls: it is about the same question, and the answer
that was recorded last is stored and resolves it. -/
structure KeepsAnswers (new m : Market) (past : List MarketCall) : Prop where
  /-- The resolver looks at the same. -/
  question : new.SameQuestion m
  /-- The answer that was recorded last is stored. -/
  stored : m.oracleAnswer = lastRecorded past
  /-- The oracle has answered if there is an answer. -/
  answered : m.dataRequestFinalized = m.oracleAnswer.isSome
  /-- The stored answer resolves the market. -/
  usable : ∀ answer, m.oracleAnswer = some answer → ∃ numerator, new.resolve answer = .ok numerator

/-- To a new market nothing has been answered. -/
theorem IsNew.keepsAnswers {m : Market} (h : m.IsNew) : m.KeepsAnswers m [] where
  question := .refl m
  stored := h.oracleAnswer
  answered := by rw [h.dataRequestFinalized, h.oracleAnswer, Option.isSome_none]
  usable answer hstored := by
    rw [h.oracleAnswer] at hstored
    cases hstored

/-- One more call keeps the answers. -/
theorem KeepsAnswers.call {new m after : Market} {past : List MarketCall} {c : MarketCall}
    (h : new.KeepsAnswers m past) (hcall : m.call c = .ok after) :
    new.KeepsAnswers after (past ++ [c]) := by
  -- The resolver has just accepted an answer that is recorded; all other calls leave the last one.
  obtain ⟨hquestion, ⟨answer, hrecorded, ⟨numerator, hresolve⟩, hstored, hanswered⟩ |
    ⟨hrecorded, hstored, hanswered⟩⟩ := call_ok hcall
  · refine ⟨h.question.trans hquestion, ?_, ?_, fun given hgiven => ?_⟩
    · rw [lastRecorded_append, hrecorded, hstored, Option.some_or]
    · rw [hanswered, hstored, Option.isSome_some]
    · obtain rfl : answer = given := Option.some.inj (hstored.symm.trans hgiven)
      exact ⟨numerator, (h.question.resolve_eq answer).symm.trans hresolve⟩
  · refine ⟨h.question.trans hquestion, ?_, ?_, ?_⟩
    · rw [lastRecorded_append, hrecorded, hstored, Option.none_or, h.stored]
    · rw [hanswered, hstored, h.answered]
    · rw [hstored]
      exact h.usable

/-- Whatever is called, a market keeps its answers. -/
theorem IsNew.keepsAnswers_run {new : Market} (h : new.IsNew) (calls : List MarketCall) :
    new.KeepsAnswers (new.run calls).1 (new.run calls).2 :=
  run_invariant (P := new.KeepsAnswers) (fun hkept hcall => hkept.call hcall) [] h.keepsAnswers
    calls

/-- **A recorded answer can always be used**: after any calls of a market, the oracle has answered
exactly if an answer is stored, and recording an answer that is refused changes nothing. As long as
the market is not final, what the resolver made of the last recorded answer makes it final at any
time from the end of trading on. -/
theorem recorded_answer_can_be_used {new m : Market} (hnew : new.IsNew)
    {calls past : List MarketCall} (hrun : new.run calls = (m, past)) :
    (m.dataRequestFinalized = true ↔ m.oracleAnswer ≠ none) ∧
    (∀ answer now e after, (recordSteps answer now).run m = .error e after → after = m) ∧
    (m.dataRequestFinalized = true → m.finalized = false →
      ∃ answer numerator, lastRecorded past = some answer ∧
        Resolution.resolve answer new.tags new.pool.denomination new.isScalar new.multiplier =
          .ok numerator ∧
        ∀ now, new.endTime ≤ now →
          m.finalizeFromOracle now = .ok ({ m with numerator, finalized := true }, numerator)) := by
  have hkept := hnew.keepsAnswers_run calls
  rw [hrun] at hkept
  refine ⟨?_, fun _ _ _ _ => recordSteps_error, fun hanswered hopen => ?_⟩
  · rw [hkept.answered, Option.isSome_iff_ne_none]
  · obtain ⟨answer, hstored⟩ := Option.isSome_iff_exists.1 (hkept.answered.symm.trans hanswered)
    obtain ⟨numerator, hresolve⟩ := hkept.usable answer hstored
    refine ⟨answer, numerator, hkept.stored.symm.trans hstored,
      (mapError_eq_ok _ _ _).1 hresolve, fun now hended => ?_⟩
    exact finalizeFromOracle_eq_ok hopen (hkept.question.endTime.le.trans hended) hanswered hstored
      ((hkept.question.resolve_eq answer).trans hresolve)

/-- A new market on a question with two answers, about the pool of a provider. -/
def twoSided : Market where
  id := 0
  creator := "c"
  pool := {
    marketId := 0, token := "T", denomination := 1, swapFee := 0, reserves := [5, 5]
    stakes := ⟨.ofList [("a", 5)], 5⟩, shares := ⟨2, .empty⟩ }
  tags := [.label "yes", .label "no"]
  endTime := 10
  resolutionTime := 5

/-- Nothing has happened to it. -/
theorem isNew_twoSided : twoSided.IsNew :=
  ⟨rfl, rfl, rfl, rfl, rfl⟩

/-- An answer is recorded before trading ends. An account trades, trading is switched off, an answer
that no outcome carries is refused, and a ruling comes too early. Another answer is recorded then,
and makes the market final. -/
theorem second_answer_can_be_used :
    ∃ m past, twoSided.IsNew ∧
      twoSided.run [.recordAnswer (.label "yes") 5, .trade "b" (.buy 2 (.int 0) 0) 6,
        .setEnabled false, .recordAnswer (.label "maybe") 7, .rule none 8,
        .recordAnswer (.label "no") 9] = (m, past) ∧
      past.length = 4 ∧ lastRecorded past = some (.label "no") ∧ m.finalized = false ∧
      (m.dataRequestFinalized = true ↔ m.oracleAnswer ≠ none) ∧
      m.finalizeFromOracle 10 =
        .ok ({ m with numerator := .valid [0, 1], finalized := true }, .valid [0, 1]) := by
  have hrun : twoSided.run [.recordAnswer (.label "yes") 5, .trade "b" (.buy 2 (.int 0) 0) 6,
      .setEnabled false, .recordAnswer (.label "maybe") 7, .rule none 8,
      .recordAnswer (.label "no") 9] = (_, _) := rfl
  obtain ⟨hanswered, -, hused⟩ := recorded_answer_can_be_used isNew_twoSided hrun
  obtain ⟨answer, numerator, hlast, hresolve, hfinal⟩ := hused rfl rfl
  obtain rfl : Answer.label "no" = answer := Option.some.inj hlast
  obtain rfl : Numerator.valid [0, 1] = numerator := Except.ok.inj hresolve
  exact ⟨_, _, isNew_twoSided, hrun, rfl, rfl, rfl, hanswered, hfinal 10 (by decide)⟩

end Market

end PredictionMarket
