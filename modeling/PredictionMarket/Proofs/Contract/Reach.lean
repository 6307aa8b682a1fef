import PredictionMarket.Proofs.Contract.Numbering

/-!
# States that can be reached

A new contract comes to a state by a run of calls. In every such state each account has a last
number, so a payment fails only for an account whose name has no encoding.
-/

namespace PredictionMarket.Contract

/-! ## Payments -/

/-- Where transfers are numbered, a payment fails only for an account whose name cannot be encoded.
It uses a number up and changes nothing else. -/
theorem Numbered.failed {c after : Contract} {ids : List TransferId} {p : Payment}
    (h : c.Numbered ids) (hpays : c.Pays p after false) :
    p.receiver.hasSurrogate = true ∧ ∃ nonce nonces,
      c.nonces.next p.receiver = .ok (nonce, nonces) ∧ after = { c with nonces } := by
  have hreceiver : p.receiver.hasSurrogate = true := by
    by_contra hnamed
    have hsuccess := h.success hpays (Bool.eq_false_iff.2 hnamed)
    cases hsuccess
  cases hpays with
  | unnumbered _ hstored => exact absurd hstored (h.next_ne_error _ _)
  | refused _ hnext _ => exact ⟨hreceiver, _, _, hnext, rfl⟩

/-- What did not succeed failed with an error. -/
theorem exists_eq_error {ε α : Type} {x : Except ε α} (h : succeeded x = false) :
    ∃ e, x = .error e := by
  cases x with
  | error e => exact ⟨e, rfl⟩
  | ok _ => cases h

/-- What succeeded has a result. -/
theorem exists_eq_ok {ε α : Type} {x : Except ε α} (h : succeeded x = true) : ∃ a, x = .ok a := by
  cases x with
  | error _ => cases h
  | ok a => exact ⟨a, rfl⟩

/-! ## States that can be reached -/

/-- The states that a new contract can come to. -/
def Reachable (c : Contract) : Prop :=
  ∃ config gov oracleId calls, (make config gov oracleId).run calls = c

/-- Whatever comes of an action, transfers stay numbered. -/
theorem Answered.numbered {c after : Contract} {ids : List TransferId} {sender : Text}
    {action : Action} {reply : Option Reply} (h : c.Numbered ids)
    (hanswered : c.Answered sender action after reply) : ∃ ids', after.Numbered ids' := by
  cases hanswered with
  | rejected _ => exact ⟨ids, h⟩
  | free hplan _ _ | halted hplan _ _ => exact ⟨ids, h.planned (plan_ok hplan)⟩
  | paid hplan _ hpays => exact ⟨_, (h.planned (plan_ok hplan)).pays hpays⟩
  | failed hplan _ hpays => exact ⟨_, (h.planned (plan_ok hplan)).pays hpays⟩

/-- In every state that can be reached, transfers are numbered. -/
theorem Reachable.numbered {c : Contract} (h : c.Reachable) : ∃ ids, c.Numbered ids := by
  obtain ⟨config, gov, oracleId, calls, rfl⟩ := h
  have hempty : (make config gov oracleId).outbox.WellFormed := List.nodup_nil
  refine (run_invariant (P := fun c _ => c.outbox.WellFormed ∧ ∃ ids, c.Numbered ids)
    (fun {c past call} hc => ?_) [] ⟨hempty, [], numbered_make config gov oracleId⟩ calls).2
  obtain ⟨houtbox, ids, hnumbered⟩ := hc
  cases hrequest : c.request? call with
  | none =>
    have hsame := sameAccounts_step houtbox hrequest
    exact ⟨hsame.wellFormed houtbox, ids, hnumbered.congr hsame.nonces hsame.dues⟩
  | some request =>
    obtain ⟨sender, action⟩ := request
    have hanswered := ask_cases c sender action
    rw [after_step hrequest]
    exact ⟨hanswered.wellFormed houtbox, hanswered.numbered hnumbered⟩

end PredictionMarket.Contract
