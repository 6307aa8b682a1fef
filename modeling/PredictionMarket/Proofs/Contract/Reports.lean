import PredictionMarket.Proofs.Contract.Tally

/-!
# What the journal tells of the outbox

Every transfer that is put into the outbox leaves an entry in the journal, and so does every report
on one that is accepted. The entries of the first kind repeat the outbox, in order. Those of the
second kind agree with the standing of a transfer as long as no settled transfer is reported as
settled again: the outbox passes over such a report, but the journal tells of it like of the first.
-/

namespace PredictionMarket

/-! ## Entries -/

/-- The entry that a transfer leaves in the journal when it is put into the outbox. -/
def Transfer.entry (t : Transfer) : JournalEntry :=
  ⟨t.id.marketId, .transferQueued t.key t.id.receiver t.token t.amount t.id.operation⟩

namespace Event

/-- Whether an event is a transfer that is put into the outbox. -/
def isQueued : Event → Bool
  | .transferQueued .. => true
  | _ => false

/-- Whether an event is a report of success on a transfer. -/
def acknowledges (key : Text) : Event → Bool
  | .transferAcknowledged k => k == key
  | _ => false

/-- Whether an event is a report of failure on a transfer. -/
def reportsFailure (key : Text) : Event → Bool
  | .transferFailed k _ _ => k == key
  | _ => false

/-- Whether an event is about a transfer out of the contract. -/
def isTransfer : Event → Bool
  | .transferQueued .. => true
  | .transferAcknowledged _ => true
  | .transferFailed .. => true
  | _ => false

/-- An event that is not about a transfer is neither of the three. -/
theorem not_isTransfer {event : Event} (h : event.isTransfer = false) :
    event.isQueued = false ∧ ∀ key, event.acknowledges key = false ∧
      event.reportsFailure key = false := by
  cases event <;> first | exact ⟨rfl, fun _ => ⟨rfl, rfl⟩⟩ | cases h

end Event

namespace Contract

/-- The entries of the journal that tell of transfers put into the outbox. -/
def queuedEntries (c : Contract) : List JournalEntry :=
  c.journal.filter fun e => e.event.isQueued

/-- How many reports of success on a transfer the journal tells of. -/
def acknowledgements (c : Contract) (key : Text) : Nat :=
  c.journal.countP fun e => e.event.acknowledges key

/-- How many reports of failure on a transfer the journal tells of. -/
def failures (c : Contract) (key : Text) : Nat :=
  c.journal.countP fun e => e.event.reportsFailure key

/-- A new entry is told if it tells of a transfer put into the outbox. -/
theorem queuedEntries_record (c : Contract) (concerned : Option Int) (event : Event) :
    (c.record concerned event).queuedEntries =
      c.queuedEntries ++ if event.isQueued then [⟨concerned, event⟩] else [] := by
  rw [queuedEntries, record, List.filter_append, List.filter_singleton, cond_eq_ite]
  rfl

/-- A new entry counts if it is a report of success. -/
theorem acknowledgements_record (c : Contract) (concerned : Option Int) (event : Event)
    (key : Text) : (c.record concerned event).acknowledgements key =
      c.acknowledgements key + if event.acknowledges key then 1 else 0 := by
  rw [acknowledgements, record, List.countP_append, List.countP_singleton]
  rfl

/-- A new entry counts if it is a report of failure. -/
theorem failures_record (c : Contract) (concerned : Option Int) (event : Event) (key : Text) :
    (c.record concerned event).failures key =
      c.failures key + if event.reportsFailure key then 1 else 0 := by
  rw [failures, record, List.countP_append, List.countP_singleton]
  rfl

/-! ## What is not about transfers -/

/-- Two states whose journals tell of the same transfers and reports. -/
structure SameReports (c after : Contract) : Prop where
  /-- The same transfers were put into the outbox. -/
  queued : after.queuedEntries = c.queuedEntries
  /-- The same reports of success came. -/
  acknowledgements : ∀ key, after.acknowledgements key = c.acknowledgements key
  /-- The same reports of failure came. -/
  failures : ∀ key, after.failures key = c.failures key

/-- A state whose journal is the same tells of the same. -/
theorem SameReports.of_journal {c after : Contract} (h : after.journal = c.journal) :
    c.SameReports after :=
  ⟨by rw [queuedEntries, h]; rfl, fun _ => by rw [Contract.acknowledgements, h]; rfl,
    fun _ => by rw [Contract.failures, h]; rfl⟩

/-- An entry about something else tells of no transfer. -/
theorem SameReports.record {c after : Contract} (h : c.SameReports after)
    (concerned : Option Int) (event : Event) (haside : event.isTransfer = false) :
    c.SameReports (after.record concerned event) := by
  obtain ⟨hqueued, hreports⟩ := Event.not_isTransfer haside
  refine ⟨?_, fun key => ?_, fun key => ?_⟩
  · rw [queuedEntries_record, hqueued, h.queued]
    exact List.append_nil _
  · rw [acknowledgements_record, (hreports key).1, h.acknowledgements]
    rfl
  · rw [failures_record, (hreports key).2, h.failures]
    rfl

/-- Whatever is granted, the journal tells of no transfer before the payment. -/
theorem Granted.sameReports {c : Contract} {sender : Text} {action : Action} {plan : Plan}
    (h : c.Granted sender action plan) : c.SameReports plan.after := by
  cases h with
  | @setGov account =>
    have hsame : c.SameReports { c with gov := account } := .of_journal rfl
    exact hsame.record _ _ rfl
  | pause | unpause | setCollateral | removeCollateral | muteAnswer => exact .of_journal rfl
  | @switchMarket _ m enabled =>
    have hsame : c.SameReports (c.store { m with enabled }) := .of_journal rfl
    exact hsame.record _ _ rfl
  | @createMarket _ _ _ _ m _ oracle =>
    have hsame : c.SameReports { c with oracle, arena := ⟨c.arena.markets ++ [m]⟩ } :=
      .of_journal rfl
    have hcreated := hsame.record (some m.id) (creationEvent m) rfl
    exact hcreated.record _ _ rfl
  | @trade _ _ after | @claim _ _ after =>
    have hsame : c.SameReports (c.store after) := .of_journal rfl
    exact hsame.record _ _ rfl
  | @rule _ _ after =>
    have hsame : c.SameReports (c.store after) := .of_journal rfl
    exact (hsame.record _ _ rfl).record _ _ rfl
  | @answer _ m _ after _ answer =>
    have hsame : c.SameReports (c.store after) := .of_journal rfl
    have hanswered := hsame.record (some m.id) (.answerRecorded answer) rfl
    exact (hanswered.record _ _ rfl).record _ _ rfl

/-! ## The invariant -/

/-- A transfer whose standing is what the journal tells: each report of failure is an attempt, the
reports of success are one together, and with one of them it is settled. -/
structure Stands (c : Contract) (t : Transfer) : Prop where
  /-- The reports are counted, those of success once. -/
  attempts_eq : t.attempts = c.failures t.key + min 1 (c.acknowledgements t.key)
  /-- A transfer is settled with the first report of success. -/
  settled_iff : t.status = .acknowledged ↔ 0 < c.acknowledgements t.key

/-- How a transfer stands depends on how many reports on it came. -/
theorem Stands.congr {c after : Contract} {t : Transfer} (h : c.Stands t)
    (hacknowledgements : after.acknowledgements t.key = c.acknowledgements t.key)
    (hfailures : after.failures t.key = c.failures t.key) : after.Stands t := by
  constructor
  · rw [hfailures, hacknowledgements]
    exact h.attempts_eq
  · rw [hacknowledgements]
    exact h.settled_iff

/-- A contract whose journal tells of the transfers in its outbox, and of reports on no others. -/
structure Mirrored (c : Contract) : Prop where
  /-- Each key is in the outbox once. -/
  outbox : c.outbox.WellFormed
  /-- The transfers that were put in are those that are there, in order. -/
  queued : c.queuedEntries = c.outbox.transfers.map Transfer.entry
  /-- Each transfer stands as it was reported. -/
  stands : ∀ t ∈ c.outbox.transfers, c.Stands t
  /-- There are reports only on transfers in the outbox. -/
  known : ∀ key, key ∉ c.outbox.transfers.map Transfer.key →
    c.acknowledgements key = 0 ∧ c.failures key = 0

/-- In a new contract there is nothing to tell. -/
theorem mirrored_make (config : Config) (gov oracleId : Text) :
    (make config gov oracleId).Mirrored where
  outbox := List.nodup_nil
  queued := rfl
  stands := by simp [make]
  known := fun _ _ => ⟨rfl, rfl⟩

/-- As long as the journal tells of the same transfers, nothing else matters. -/
theorem Mirrored.congr {c after : Contract} (h : c.Mirrored) (hsame : c.SameReports after)
    (houtbox : after.outbox = c.outbox) : after.Mirrored := by
  constructor
  · rw [houtbox]
    exact h.outbox
  · rw [houtbox, hsame.queued]
    exact h.queued
  · intro t ht
    rw [houtbox] at ht
    exact (h.stands t ht).congr (hsame.acknowledgements t.key) (hsame.failures t.key)
  · intro key hkey
    rw [houtbox] at hkey
    rw [hsame.failures, hsame.acknowledgements]
    exact h.known key hkey

/-! ## Payments -/

/-- A transfer that is put in under a new key is told of, and nothing was reported on it. -/
theorem Mirrored.put {c : Contract} (h : c.Mirrored) (nonces : Nonces) {outbox : Outbox}
    {t : Transfer} (houtbox : outbox.WellFormed)
    (htransfers : outbox.transfers = c.outbox.transfers ++ [t]) (hstatus : t.status = .pending)
    (hattempts : t.attempts = 0) :
    ({ c with nonces, outbox }.record t.entry.marketId t.entry.event).Mirrored := by
  have hnodup : (outbox.transfers.map Transfer.key).Nodup := outbox.map_key_dues ▸ houtbox
  rw [htransfers, List.map_append, List.map_singleton, List.nodup_append] at hnodup
  obtain ⟨-, -, hdisjoint⟩ := hnodup
  have hnew : t.key ∉ c.outbox.transfers.map Transfer.key := fun hmem =>
    hdisjoint t.key hmem t.key (List.mem_singleton_self _) rfl
  have hacknowledgements (key : Text) :
      ({ c with nonces, outbox }.record t.entry.marketId t.entry.event).acknowledgements key =
        c.acknowledgements key := acknowledgements_record _ _ _ key
  have hfailures (key : Text) :
      ({ c with nonces, outbox }.record t.entry.marketId t.entry.event).failures key =
        c.failures key := failures_record _ _ _ key
  refine ⟨houtbox, ?_, fun u hu => ?_, fun key hkey => ?_⟩
  · rw [queuedEntries_record]
    change c.queuedEntries ++ [t.entry] = outbox.transfers.map Transfer.entry
    rw [h.queued, htransfers, List.map_append, List.map_singleton]
  · change u ∈ outbox.transfers at hu
    rw [htransfers, List.mem_append, List.mem_singleton] at hu
    rcases hu with hold | rfl
    · exact (h.stands u hold).congr (hacknowledgements u.key) (hfailures u.key)
    · obtain ⟨hacknowledged, hfailed⟩ := h.known u.key hnew
      constructor
      · rw [hfailures, hacknowledgements, hacknowledged, hfailed, hattempts]
        rfl
      · rw [hacknowledgements, hacknowledged, hstatus]
        exact iff_of_false nofun (lt_irrefl 0)
  · rw [hfailures, hacknowledgements]
    refine h.known key fun hmem => hkey ?_
    change key ∈ outbox.transfers.map Transfer.key
    rw [htransfers, List.map_append]
    exact List.mem_append_left _ hmem

/-- A payment is told of if it is made, and it is no report. -/
theorem Mirrored.pays {c after : Contract} {ids : List TransferId} {p : Payment} {success : Bool}
    (h : c.Mirrored) (hnumbered : c.Numbered ids)
    (hfree : CollisionFree (ids ++ (c.transferFor? p).toList))
    (hpays : c.Pays p after success) : after.Mirrored := by
  have houtbox := hpays.wellFormed h.outbox
  cases hpays with
  | nothing | unnumbered => exact h
  | refused => exact h.congr (.of_journal rfl) rfl
  | @queued _ nonces _ _ hpositive hnext henqueued =>
    rw [transferFor?_of_next hpositive hnext] at hfree
    obtain ⟨htransfers, -, hsettles⟩ := hnumbered.transfer_of_next hfree hnext henqueued
    obtain ⟨hstatus, hattempts, -⟩ := hsettles.pending
    have hput := h.put nonces houtbox htransfers hstatus hattempts
    rw [Transfer.entry, hsettles.marketId, hsettles.receiver, hsettles.token, hsettles.amount,
      hsettles.operation] at hput
    exact hput

/-- A payment is no report of success. -/
theorem Pays.acknowledgements_eq {c after : Contract} {p : Payment} {success : Bool}
    (h : c.Pays p after success) (key : Text) :
    after.acknowledgements key = c.acknowledgements key := by
  cases h with
  | nothing | unnumbered | refused => rfl
  | queued => exact acknowledgements_record _ _ _ key

/-! ## Reports -/

/-- What reports do not change about transfers is the same in outboxes that differ in reports only. -/
theorem map_eq_of_queued {α : Type} {o after : Outbox} (h : after.queued = o.queued)
    {f : Transfer → α} (hf : ∀ t, f t.asQueued = f t) :
    after.transfers.map f = o.transfers.map f := by
  have hmap (o : Outbox) : o.queued.map f = o.transfers.map f := by
    rw [Outbox.queued, List.map_map]
    exact List.map_congr_left fun t _ => hf t
  rw [← hmap after, ← hmap o, h]

/-- A report on a transfer that stands as it was reported keeps the journal with the outbox, if the
transfer that replaces it stands as is reported then. -/
theorem Mirrored.report {c : Contract} (h : c.Mirrored) {key : Text} {t updated : Transfer}
    {concerned : Option Int} {event : Event} (hfind : c.outbox.find? key = some t)
    (hsame : updated.asQueued = t.asQueued) (hqueued : event.isQueued = false)
    (hothers : ∀ other, other ≠ key → event.acknowledges other = false ∧
      event.reportsFailure other = false)
    (hstands : ({ c with outbox := c.outbox.replace updated }.record concerned event).Stands
      updated) :
    ({ c with outbox := c.outbox.replace updated }.record concerned event).Mirrored := by
  obtain ⟨hmem, hkey⟩ := Outbox.mem_of_find? hfind
  have hupdated : updated.key = key := (congrArg Transfer.key hsame).trans hkey
  have hreplaced := Outbox.queued_replace h.outbox hfind hsame
  have hkeys := map_eq_of_queued hreplaced (f := Transfer.key) fun _ => rfl
  -- On all other keys as many reports came as before.
  have hcounts : ∀ other, other ≠ key →
      ({ c with outbox := c.outbox.replace updated }.record concerned event).acknowledgements
          other = c.acknowledgements other ∧
        ({ c with outbox := c.outbox.replace updated }.record concerned event).failures other =
          c.failures other := by
    intro other hother
    obtain ⟨hacknowledges, hreports⟩ := hothers other hother
    rw [acknowledgements_record, failures_record, hacknowledges, hreports]
    exact ⟨rfl, rfl⟩
  refine ⟨?_, ?_, fun u hu => ?_, fun other hother => ?_⟩
  · change (c.outbox.replace updated).WellFormed
    rw [Outbox.WellFormed, Outbox.map_key_dues, hkeys, ← Outbox.map_key_dues]
    exact h.outbox
  · rw [queuedEntries_record, hqueued]
    change c.queuedEntries ++ [] = (c.outbox.replace updated).transfers.map Transfer.entry
    rw [map_eq_of_queued hreplaced (f := Transfer.entry) fun _ => rfl, List.append_nil]
    exact h.queued
  · change u ∈ (c.outbox.replace updated).transfers at hu
    obtain ⟨old, hold, rfl⟩ := List.mem_map.1 hu
    by_cases hself : old.key = updated.key
    · rw [if_pos hself]
      exact hstands
    · rw [if_neg hself]
      obtain ⟨hacknowledgements, hfailures⟩ := hcounts old.key (hupdated ▸ hself)
      exact (h.stands old hold).congr hacknowledgements hfailures
  · change other ∉ (c.outbox.replace updated).transfers.map Transfer.key at hother
    rw [hkeys] at hother
    have hdifferent : other ≠ key := by
      rintro rfl
      exact hother (hkey ▸ List.mem_map_of_mem hmem)
    obtain ⟨hacknowledgements, hfailures⟩ := hcounts other hdifferent
    rw [hacknowledgements, hfailures]
    exact h.known other hother

/-- A report of success is told of, and the first one settles the transfer. -/
theorem Mirrored.acknowledged {c : Contract} (h : c.Mirrored) {key : Text} {t : Transfer}
    (hfind : c.outbox.find? key = some t) :
    ({ c with outbox := c.outbox.replace t.acknowledge }.record t.id.marketId
      (.transferAcknowledged key)).Mirrored := by
  obtain ⟨hmem, hkey⟩ := Outbox.mem_of_find? hfind
  obtain ⟨hattempts, hsettled⟩ := h.stands t hmem
  rw [hkey] at hattempts hsettled
  refine h.report hfind (Outbox.asQueued_acknowledge t) rfl (fun other hother => ?_) ?_
  · exact ⟨beq_false_of_ne hother.symm, rfl⟩
  · have hupdated : t.acknowledge.key = key := (Outbox.key_acknowledge t).1.trans hkey
    have hcount : ({ c with outbox := c.outbox.replace t.acknowledge }.record t.id.marketId
        (.transferAcknowledged key)).acknowledgements key = c.acknowledgements key + 1 := by
      rw [acknowledgements_record, Event.acknowledges, beq_self_eq_true, if_pos rfl]
      rfl
    have hfailures : ({ c with outbox := c.outbox.replace t.acknowledge }.record t.id.marketId
        (.transferAcknowledged key)).failures key = c.failures key := failures_record _ _ _ key
    constructor
    · rw [hupdated, hcount, hfailures]
      by_cases hdone : t.status = .acknowledged
      · have hbefore := hsettled.1 hdone
        rw [Transfer.acknowledge, if_pos hdone]
        omega
      · have hbefore : ¬0 < c.acknowledgements key := fun hcame => hdone (hsettled.2 hcame)
        rw [Transfer.acknowledge, if_neg hdone]
        dsimp only
        omega
    · rw [hupdated, hcount]
      refine iff_of_true ?_ (Nat.succ_pos _)
      by_cases hdone : t.status = .acknowledged
      · rw [Transfer.acknowledge, if_pos hdone]
        exact hdone
      · rw [Transfer.acknowledge, if_neg hdone]

/-- A report of failure on a transfer that is not settled is told of, and is one more attempt. -/
theorem Mirrored.failed {c : Contract} (h : c.Mirrored) {key : Text} {t : Transfer}
    (hfind : c.outbox.find? key = some t) (hopen : t.status ≠ .acknowledged) (why : Text)
    (concerned : Option Int) (reason : Value) (attempts : Nat) :
    ({ c with outbox := c.outbox.replace (t.fail why) }.record concerned
      (.transferFailed key reason attempts)).Mirrored := by
  obtain ⟨hmem, hkey⟩ := Outbox.mem_of_find? hfind
  obtain ⟨hattempts, hsettled⟩ := h.stands t hmem
  rw [hkey] at hattempts hsettled
  refine h.report hfind rfl rfl (fun other hother => ?_) ?_
  · exact ⟨rfl, beq_false_of_ne hother.symm⟩
  · have hupdated : (t.fail why).key = key := hkey
    have hcount : ({ c with outbox := c.outbox.replace (t.fail why) }.record concerned
        (.transferFailed key reason attempts)).failures key = c.failures key + 1 := by
      rw [failures_record, Event.reportsFailure, beq_self_eq_true, if_pos rfl]
      rfl
    have hacknowledgements : ({ c with outbox := c.outbox.replace (t.fail why) }.record concerned
        (.transferFailed key reason attempts)).acknowledgements key = c.acknowledgements key :=
      acknowledgements_record _ _ _ key
    have hnone : ¬0 < c.acknowledgements key := fun hcame => hopen (hsettled.2 hcame)
    constructor
    · rw [hupdated, hcount, hacknowledgements]
      change t.attempts + 1 = _
      omega
    · rw [hupdated, hacknowledgements]
      exact iff_of_false nofun hnone

/-! ## Calls -/

/-- A report of success on a transfer in the outbox is always accepted. -/
theorem after_acknowledge {c : Contract} {key : Text} {t : Transfer}
    (hfind : c.outbox.find? key = some t) : (c.step (.acknowledge key)).after =
      { c with outbox := c.outbox.replace t.acknowledge }.record t.id.marketId
        (.transferAcknowledged key) := by
  obtain ⟨-, hid⟩ := Outbox.key_acknowledge t
  have hreport : c.outbox.acknowledge key =
      .ok (t.acknowledge, c.outbox.replace t.acknowledge) := by
    rw [Outbox.acknowledge, Outbox.get, hfind]
    rfl
  simp only [step, Outcome.after_logRejection, acknowledge, hreport, Except.mapError, ok_bind]
  rw [← hid]
  rfl

/-- A report of success on a transfer that is not in the outbox is turned down. -/
theorem after_acknowledge_unknown {c : Contract} {key : Text}
    (hfind : c.outbox.find? key = none) : (c.step (.acknowledge key)).after = c := by
  have hreport : c.outbox.acknowledge key = .error (.unknownKey key) := by
    rw [Outbox.acknowledge, Outbox.get, hfind]
    rfl
  simp only [step, Outcome.after_logRejection, acknowledge, hreport]
  rfl

/-- No action leaves a report of success. -/
theorem Answered.acknowledgements_eq {c after : Contract} {sender : Text} {action : Action}
    {reply : Option Reply} (h : c.Answered sender action after reply) (key : Text) :
    after.acknowledgements key = c.acknowledgements key := by
  cases h with
  | rejected _ => rfl
  | free hplan _ _ | halted hplan _ _ =>
    exact (granted_of_plan hplan).sameReports.acknowledgements key
  | paid hplan _ hpays | failed hplan _ hpays =>
    rw [hpays.acknowledgements_eq]
    exact (granted_of_plan hplan).sameReports.acknowledgements key

/-- No other call leaves a report of success. -/
theorem acknowledgements_step {c : Contract} {call : Call} (hcall : ∀ key, call ≠ .acknowledge key)
    (key : Text) : (c.step call).after.acknowledgements key = c.acknowledgements key := by
  cases hrequest : c.request? call with
  | none =>
    have hreports := reports_step hrequest
    generalize (c.step call).after = after at hreports ⊢
    cases hreports with
    | ignored => rfl
    | acknowledged _ => exact absurd rfl (hcall _)
    | failed _ => exact acknowledgements_record _ _ _ key
  | some request =>
    obtain ⟨sender, action⟩ := request
    rw [after_step hrequest]
    exact (ask_cases c sender action).acknowledgements_eq key

/-- Whatever comes of an action, the journal goes on telling of the outbox. -/
theorem Mirrored.answered {c after : Contract} {ids : List TransferId} {sender : Text}
    {action : Action} {reply : Option Reply} (h : c.Mirrored) (hnumbered : c.Numbered ids)
    (hfree : CollisionFree (ids ++ (c.transferOf? sender action).toList))
    (hanswered : c.Answered sender action after reply) : after.Mirrored := by
  cases hanswered with
  | rejected _ => exact h
  | free hplan _ _ | halted hplan _ _ =>
    exact h.congr (granted_of_plan hplan).sameReports (plan_ok hplan).outbox
  | @paid plan _ _ hplan howes hpays | @failed plan _ _ hplan howes hpays =>
    have hplanned := h.congr (granted_of_plan hplan).sameReports (plan_ok hplan).outbox
    rw [transferOf?, hplan] at hfree
    simp only [howes, Option.bind_some] at hfree
    exact hplanned.pays (hnumbered.planned (plan_ok hplan)) hfree hpays

/-- A call that asks for no action is told of if it is a report that is accepted. -/
theorem Mirrored.reports {c after : Contract} {call : Call} (h : c.Mirrored)
    (hreports : c.Reports call after) : after.Mirrored := by
  cases hreports with
  | ignored => exact h
  | acknowledged hreport =>
    obtain ⟨t, hfind, rfl, rfl⟩ := Outbox.acknowledge_ok hreport
    rw [(Outbox.key_acknowledge t).2]
    exact h.acknowledged hfind
  | failed hreport =>
    obtain ⟨t, hfind, hopen, rfl, rfl⟩ := Outbox.fail_ok hreport
    exact h.failed hfind hopen _ _ _ _

/-! ## Second reports of success -/

/-- Whether a call reports a transfer as settled that is settled. -/
def Resettles (c : Contract) (call : Call) : Prop :=
  ∃ key t, call = .acknowledge key ∧ c.outbox.find? key = some t ∧ t.status = .acknowledged

/-- A contract whose journal tells of one report of success on each transfer at most. -/
def SettlesOnce (c : Contract) : Prop :=
  ∀ key, c.acknowledgements key ≤ 1

/-- On a key that is not in the outbox no report of success came. -/
theorem Mirrored.acknowledgements_eq_zero {c : Contract} (h : c.Mirrored) {key : Text}
    (hfind : c.outbox.find? key = none) : c.acknowledgements key = 0 := by
  rw [Outbox.find?_eq_none_iff, Outbox.map_key_dues] at hfind
  exact (h.known key hfind).1

/-- A report of success is the second one on its transfer just if the journal tells of one. -/
theorem Mirrored.resettles_iff {c : Contract} (h : c.Mirrored) (key : Text) :
    c.Resettles (.acknowledge key) ↔ 0 < c.acknowledgements key := by
  constructor
  · rintro ⟨_, t, hcall, hfind, hdone⟩
    cases hcall
    obtain ⟨hmem, rfl⟩ := Outbox.mem_of_find? hfind
    exact (h.stands t hmem).settled_iff.1 hdone
  · intro hcame
    cases hfind : c.outbox.find? key with
    | none =>
      have hnone := h.acknowledgements_eq_zero hfind
      omega
    | some t =>
      obtain ⟨hmem, rfl⟩ := Outbox.mem_of_find? hfind
      exact ⟨_, t, rfl, hfind, (h.stands t hmem).settled_iff.2 hcame⟩

/-- A report of success on a transfer in the outbox is one more of this transfer. -/
theorem acknowledgements_acknowledge {c : Contract} {key : Text} {t : Transfer}
    (hfind : c.outbox.find? key = some t) (other : Text) :
    (c.step (.acknowledge key)).after.acknowledgements other =
      c.acknowledgements other + if other = key then 1 else 0 := by
  rw [after_acknowledge hfind, acknowledgements_record, Event.acknowledges]
  simp only [beq_iff_eq, eq_comm (a := key)]
  rfl

/-- There goes on being one report of success on each transfer at most, unless a transfer is
reported as settled that is settled. -/
theorem Mirrored.settlesOnce_step {c : Contract} (h : c.Mirrored) (call : Call) :
    (c.step call).after.SettlesOnce ↔ c.SettlesOnce ∧ ¬c.Resettles call := by
  by_cases hcall : ∃ key, call = .acknowledge key
  · obtain ⟨key, rfl⟩ := hcall
    rw [h.resettles_iff]
    cases hfind : c.outbox.find? key with
    | none =>
      rw [after_acknowledge_unknown hfind, h.acknowledgements_eq_zero hfind]
      exact ⟨fun honce => ⟨honce, lt_irrefl 0⟩, And.left⟩
    | some t =>
      have hcount := acknowledgements_acknowledge hfind
      constructor
      · intro honce
        refine ⟨fun other => ?_, ?_⟩
        · have hle := honce other
          rw [hcount] at hle
          omega
        · have hle := honce key
          rw [hcount, if_pos rfl] at hle
          omega
      · rintro ⟨honce, hfirst⟩ other
        rw [hcount]
        have hle := honce other
        by_cases hsame : other = key
        · subst hsame
          rw [if_pos rfl]
          omega
        · rw [if_neg hsame]
          exact hle
  · have hother : ∀ key, call ≠ .acknowledge key := fun key hsame => hcall ⟨key, hsame⟩
    have hnever : ¬c.Resettles call := fun ⟨key, _, hsame, _⟩ => hother key hsame
    have hsame : (c.step call).after.SettlesOnce ↔ c.SettlesOnce := by
      unfold SettlesOnce
      simp only [acknowledgements_step hother]
    rw [hsame]
    exact ⟨fun honce => ⟨honce, hnever⟩, And.left⟩

/-! ## Runs -/

/-- A contract after what happened so far: the journal tells of the outbox, no number of a transfer
is left out, and each transfer has one report of success at most just if no settled one was reported
as settled. -/
structure Followed (c : Contract) (past : List (Contract × Call)) : Prop where
  /-- The journal tells of the outbox. -/
  mirrored : c.Mirrored
  /-- The transfers are numbered without a gap. -/
  tallied : c.Tallied (transferIdsOf past)
  /-- Second reports of success come of calls that make them. -/
  once_iff : c.SettlesOnce ↔ ∀ visit ∈ past, ¬visit.1.Resettles visit.2

/-- A new contract is at the beginning. -/
theorem followed_make (config : Config) (gov oracleId : Text) :
    (make config gov oracleId).Followed [] where
  mirrored := mirrored_make config gov oracleId
  tallied := tallied_make config gov oracleId
  once_iff := iff_of_true (fun _ => Nat.zero_le 1) (by simp)

/-- A call is followed. -/
theorem Followed.step {c : Contract} {past : List (Contract × Call)} {call : Call}
    (h : c.Followed past) (hfree : CollisionFree (transferIdsOf (past ++ [(c, call)]))) :
    (c.step call).after.Followed (past ++ [(c, call)]) := by
  have honce : (c.step call).after.SettlesOnce ↔
      ∀ visit ∈ past ++ [(c, call)], ¬visit.1.Resettles visit.2 := by
    rw [h.mirrored.settlesOnce_step call, h.once_iff, List.forall_mem_append,
      List.forall_mem_singleton]
  have htallied := h.tallied.step hfree
  rw [transferIdsOf_append] at hfree
  refine ⟨?_, htallied, honce⟩
  cases hrequest : c.request? call with
  | none => exact h.mirrored.reports (reports_step hrequest)
  | some request =>
    obtain ⟨sender, action⟩ := request
    rw [hrequest, Option.bind_some] at hfree
    rw [after_step hrequest]
    exact h.mirrored.answered h.tallied.numbered hfree (ask_cases c sender action)

/-- After every run whose transfers do not collide, the journal tells of the outbox: the transfers
that it saw put in are those that are there, in order, with the same receivers, tokens, amounts and
operations. The attempts of a transfer are its reports of failure, and one more if it was reported as
settled, and it is settled just if it was. All reports are counted as attempts, and a settled
transfer was reported as settled exactly once, as long as no settled transfer is reported as settled
again, and only so long. -/
theorem journal_mirrors_outbox_iff (config : Config) (gov oracleId : Text) {calls : List Call}
    (hfree : CollisionFree ((make config gov oracleId).transferIds calls)) :
    ((make config gov oracleId).run calls).queuedEntries =
        ((make config gov oracleId).run calls).outbox.transfers.map Transfer.entry ∧
      (∀ t ∈ ((make config gov oracleId).run calls).outbox.transfers,
        t.attempts = ((make config gov oracleId).run calls).failures t.key +
            min 1 (((make config gov oracleId).run calls).acknowledgements t.key) ∧
          (t.status = .acknowledged ↔
            0 < ((make config gov oracleId).run calls).acknowledgements t.key)) ∧
      ((∀ t ∈ ((make config gov oracleId).run calls).outbox.transfers,
          ((make config gov oracleId).run calls).failures t.key +
              ((make config gov oracleId).run calls).acknowledgements t.key = t.attempts ∧
            (t.status = .acknowledged ↔
              ((make config gov oracleId).run calls).acknowledgements t.key = 1)) ↔
        ∀ visit ∈ (make config gov oracleId).visits calls, ¬visit.1.Resettles visit.2) := by
  have hfollowed := run_of_collisionFree (P := Followed) (Q := fun _ => True)
    (fun h _ hfree => h.step hfree) (followed_make config gov oracleId) (fun _ _ => trivial) hfree
  obtain ⟨hmirrored, -, honce⟩ := hfollowed
  refine ⟨hmirrored.queued, fun t ht => ?_, ?_⟩
  · obtain ⟨hattempts, hsettled⟩ := hmirrored.stands t ht
    exact ⟨hattempts, hsettled⟩
  · rw [← honce]
    constructor
    · intro hall key
      by_cases hkey : key ∈ ((make config gov oracleId).run calls).outbox.transfers.map Transfer.key
      · obtain ⟨t, ht, rfl⟩ := List.mem_map.1 hkey
        have hattempts := (hmirrored.stands t ht).attempts_eq
        have hcounted := (hall t ht).1
        omega
      · rw [(hmirrored.known key hkey).1]
        exact Nat.zero_le 1
    · intro hone t ht
      obtain ⟨hattempts, hsettled⟩ := hmirrored.stands t ht
      have hle := hone t.key
      rw [hsettled]
      constructor <;> omega

/-- The key of the payment for a sale. -/
def saleKey : Text :=
  "0xe27d9722c0c0789d8ac9a1fd2b67ebe4e32f1c69d42b93db87e4763dfbcf31aa"

/-- A sale that is paid for, the report that the payment failed, and the report that it is settled
now. -/
def settledCalls : List Call :=
  saleCalls ++ [.reportFailure saleKey (.text "full"), .acknowledge saleKey]

/-- After these calls the journal agrees with the outbox: the payment was attempted twice and is
settled. -/
theorem journal_mirrors_outbox_after_settlement :
    ∃ config, CollisionFree ((make config "g" "o").transferIds settledCalls) ∧
      (((make config "g" "o").run settledCalls).outbox.transfers.map fun t =>
        (t.amount, t.status, t.attempts)) = [(19, .acknowledged, 2)] ∧
      ((make config "g" "o").run settledCalls).queuedEntries =
        ((make config "g" "o").run settledCalls).outbox.transfers.map Transfer.entry ∧
      ∀ visit ∈ (make config "g" "o").visits settledCalls, ¬visit.1.Resettles visit.2 := by
  let config : Config :=
    { whitelist := Table.ofList [("T", 0)], validityBond := 0, maxSwapFee := 100 }
  have hids : (make config "g" "o").transferIds settledCalls = [⟨some 0, "b", "sell", 1⟩] := by
    decide +kernel
  have hfree : CollisionFree ((make config "g" "o").transferIds settledCalls) := by
    rw [hids]
    exact collisionFree_of_nodup (by decide +kernel)
  obtain ⟨hqueued, -, hiff⟩ := journal_mirrors_outbox_iff config "g" "o" hfree
  exact ⟨config, hfree, by decide +kernel, hqueued, hiff.1 (by decide +kernel)⟩

/-- A second report that the payment is settled changes nothing about it, but the journal tells of
two reports of success, and of three reports for two attempts. -/
theorem second_settlement_in_journal :
    ∃ config, CollisionFree ((make config "g" "o").transferIds
        (settledCalls ++ [.acknowledge saleKey])) ∧
      (((make config "g" "o").run (settledCalls ++ [.acknowledge saleKey])).outbox.transfers.map
        fun t => (t.status, t.attempts,
          ((make config "g" "o").run (settledCalls ++ [.acknowledge saleKey])).failures t.key,
          ((make config "g" "o").run (settledCalls ++ [.acknowledge saleKey])).acknowledgements
            t.key)) = [(.acknowledged, 2, 1, 2)] := by
  let config : Config :=
    { whitelist := Table.ofList [("T", 0)], validityBond := 0, maxSwapFee := 100 }
  have hids : (make config "g" "o").transferIds (settledCalls ++ [.acknowledge saleKey]) =
      [⟨some 0, "b", "sell", 1⟩] := by
    decide +kernel
  refine ⟨config, ?_, by decide +kernel⟩
  rw [hids]
  exact collisionFree_of_nodup (by decide +kernel)

end Contract

end PredictionMarket
