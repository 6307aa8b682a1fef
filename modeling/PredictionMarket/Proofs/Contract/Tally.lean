import PredictionMarket.Proofs.Contract.Queue

/-!
# What a run keeps to itself

Some of a contract is shown nowhere: its configuration, whether its oracle refuses, and the numbers
of its transfers. The first two never change. The last number of an account that can be paid is the
number of its transfers in the outbox, so it can be read off there; of any other account it matters
only that there is one.
-/

namespace PredictionMarket.Contract

/-! ## What never changes -/

/-- A contract with a configuration, whose oracle refuses nothing. -/
structure Founded (c : Contract) (config : Config) : Prop where
  /-- The configuration is this one. -/
  config_eq : c.config = config
  /-- The oracle accepts all requests. -/
  accepts : c.oracle.refusing = false

/-- An action that is granted leaves the configuration, and the oracle goes on accepting. -/
theorem Granted.founded {c : Contract} {config : Config} {sender : Text} {action : Action}
    {plan : Plan} (hgranted : c.Granted sender action plan) (h : c.Founded config) :
    plan.after.Founded config := by
  cases hgranted with
  | createMarket _ _ _ _ _ haccepted =>
    simp only [Oracle.accept, bind_eq_ok, pure, Except.pure, Except.ok.injEq] at haccepted
    obtain ⟨_, -, rfl⟩ := haccepted
    exact ⟨h.config_eq, h.accepts⟩
  | _ => exact ⟨h.config_eq, h.accepts⟩

/-- A payment changes neither. -/
theorem Pays.founded {c after : Contract} {config : Config} {p : Payment} {success : Bool}
    (hpays : c.Pays p after success) (h : c.Founded config) : after.Founded config := by
  cases hpays <;> exact ⟨h.config_eq, h.accepts⟩

/-- Whatever comes of an action, the configuration stays, and the oracle goes on accepting. -/
theorem Answered.founded {c after : Contract} {config : Config} {sender : Text} {action : Action}
    {reply : Option Reply} (hanswered : c.Answered sender action after reply)
    (h : c.Founded config) : after.Founded config := by
  cases hanswered with
  | rejected _ => exact h
  | free hplan _ _ | halted hplan _ _ => exact (granted_of_plan hplan).founded h
  | paid hplan _ hpays | failed hplan _ hpays =>
    exact hpays.founded ((granted_of_plan hplan).founded h)

/-- A call leaves the configuration, and the oracle goes on accepting. -/
theorem Founded.step {c : Contract} {config : Config} (h : c.Founded config) (call : Call) :
    (c.step call).after.Founded config := by
  cases hrequest : c.request? call with
  | none =>
    rcases report_step hrequest with hafter | ⟨_, _, _, -, -, hafter⟩
    · rw [hafter]
      exact h
    · rw [hafter]
      exact ⟨h.config_eq, h.accepts⟩
  | some request =>
    obtain ⟨sender, action⟩ := request
    rw [after_step hrequest]
    exact (ask_cases c sender action).founded h

/-- A contract keeps the configuration that it was made with. -/
theorem founded_run (config : Config) (gov oracleId : Text) (calls : List Call) :
    ((make config gov oracleId).run calls).Founded config :=
  run_invariant (P := fun c _ => c.Founded config) (fun {_ _ call} h => h.step call) [] ⟨rfl, rfl⟩
    calls

/-! ## What can be counted -/

/-- A contract in which the transfers to all accounts that can be paid are numbered without a gap. -/
structure Tallied (c : Contract) (ids : List TransferId) : Prop where
  /-- Each key is in the outbox once. -/
  outbox : c.outbox.WellFormed
  /-- The transfers are numbered. -/
  numbered : c.Numbered ids
  /-- No number of an account that can be paid is left out. -/
  counted : ∀ account, account.hasSurrogate = false → c.Counts account

/-- A new contract has no transfers. -/
theorem tallied_make (config : Config) (gov oracleId : Text) :
    (make config gov oracleId).Tallied [] where
  outbox := List.nodup_nil
  numbered := numbered_make config gov oracleId
  counted := fun _ _ => ⟨0, rfl, rfl⟩

/-- A payment leaves no number out. -/
theorem Tallied.pays {c after : Contract} {ids : List TransferId} {p : Payment} {success : Bool}
    (h : c.Tallied ids) (hfree : CollisionFree (ids ++ (c.transferFor? p).toList))
    (hpays : c.Pays p after success) : after.Tallied (ids ++ (c.transferFor? p).toList) := by
  refine ⟨hpays.wellFormed h.outbox, h.numbered.pays hpays, fun account hname => ?_⟩
  cases hpays with
  | nothing _ => exact h.counted account hname
  | unnumbered _ hstored => exact absurd hstored (h.numbered.next_ne_error _ _)
  | refused hpositive hnext hrefusal =>
    -- The number that is used up is that of an account that can never be paid.
    obtain ⟨hreceiver, -⟩ := h.numbered.failed (.refused hpositive hnext hrefusal)
    have hother : account ≠ p.receiver := by
      rintro rfl
      rw [hname] at hreceiver
      cases hreceiver
    obtain ⟨_, -, -, hafter⟩ := Nonces.next_ok hnext
    obtain ⟨k, hk, hnumbers⟩ := h.counted account hname
    exact ⟨k, by rw [hafter, if_neg hother, hk], hnumbers⟩
  | queued hpositive hnext henqueued =>
    rw [transferFor?_of_next hpositive hnext] at hfree
    obtain ⟨htransfers, hid, -⟩ := h.numbered.transfer_of_next hfree hnext henqueued
    exact (h.counted account hname).next hnext htransfers hid

/-- What a planned action leads to before its payment has the same numbers. -/
theorem Tallied.planned {c : Contract} {ids : List TransferId} {sender : Text} {action : Action}
    {plan : Plan} (h : c.Tallied ids) (hplanned : c.Planned sender action plan) :
    plan.after.Tallied ids where
  outbox := by
    rw [hplanned.outbox]
    exact h.outbox
  numbered := h.numbered.planned hplanned
  counted := fun account hname =>
    (h.counted account hname).congr hplanned.nonces (congrArg Outbox.queued hplanned.outbox)

/-- Whatever comes of an action, no number is left out. -/
theorem Tallied.answered {c after : Contract} {ids : List TransferId} {sender : Text}
    {action : Action} {reply : Option Reply} (h : c.Tallied ids)
    (hfree : CollisionFree (ids ++ (c.transferOf? sender action).toList))
    (hanswered : c.Answered sender action after reply) :
    after.Tallied (ids ++ (c.transferOf? sender action).toList) := by
  cases hanswered with
  | rejected hrefusal =>
    rw [transferOf?, hrefusal]
    simpa using h
  | @free plan hplan hunpaid _ | @halted plan _ hplan hunpaid _ =>
    rw [transferOf?, hplan]
    simpa [hunpaid] using h.planned (plan_ok hplan)
  | @paid plan _ _ hplan howes hpays | @failed plan _ _ hplan howes hpays =>
    rw [transferOf?, hplan] at hfree ⊢
    simp only [howes, Option.bind_some] at hfree ⊢
    exact (h.planned (plan_ok hplan)).pays hfree hpays

/-- A call leaves no number out. -/
theorem Tallied.step {c : Contract} {past : List (Contract × Call)} {call : Call}
    (h : c.Tallied (transferIdsOf past))
    (hfree : CollisionFree (transferIdsOf (past ++ [(c, call)]))) :
    (c.step call).after.Tallied (transferIdsOf (past ++ [(c, call)])) := by
  rw [transferIdsOf_append] at hfree ⊢
  cases hrequest : c.request? call with
  | none =>
    have hsame := sameAccounts_step h.outbox hrequest
    have hqueued := queued_step h.outbox hrequest
    refine ⟨hsame.wellFormed h.outbox, ?_, fun account hname =>
      (h.counted account hname).congr hsame.nonces hqueued⟩
    simpa using h.numbered.congr hsame.nonces hsame.dues
  | some request =>
    obtain ⟨sender, action⟩ := request
    rw [hrequest] at hfree
    rw [after_step hrequest]
    exact h.answered hfree (ask_cases c sender action)

/-- In every state of a run without a collision, no number is left out. -/
theorem tallied_run (config : Config) (gov oracleId : Text) {calls : List Call}
    (hfree : CollisionFree ((make config gov oracleId).transferIds calls)) :
    ((make config gov oracleId).run calls).Tallied
      ((make config gov oracleId).transferIds calls) :=
  run_of_collisionFree (P := fun c past => c.Tallied (transferIdsOf past)) (Q := fun _ => True)
    (fun h _ hfree => h.step hfree) (tallied_make config gov oracleId) (fun _ _ => trivial) hfree

/-- Two contracts with the same outbox, in which no number is left out, number the transfers to an
account alike. -/
theorem Counts.last_eq {c other : Contract} {account : Text} (h : c.Counts account)
    (hother : other.Counts account) (houtbox : c.outbox = other.outbox) :
    other.nonces.last account = c.nonces.last account := by
  obtain ⟨k, hk, hnumbers⟩ := h
  obtain ⟨l, hl, hothers⟩ := hother
  have hlength : l = k := by
    have hsame := congrArg List.length (hnumbers.symm.trans (houtbox ▸ hothers))
    simpa using hsame.symm
  rw [hk, hl, hlength]

end PredictionMarket.Contract
