import PredictionMarket.Proofs.Outbox
import Mathlib.Data.List.Induction

/-!
# The outbox is a log

Transfers are put in and reported on, one call after another, and a call that fails leaves the
outbox as it is. Every call keeps the outbox, puts one transfer with a new key at its end, or
reports on a transfer that is there. So the keys stand in the order in which they were first put in,
each of them once, and a transfer keeps its place and all but its standing. A settled transfer never
changes again.
-/

namespace PredictionMarket

/-! ## Transfers -/

namespace Transfer

/-- A transfer, and what a report makes of it. -/
inductive Reported (t : Transfer) : Transfer → Prop
  /-- The transfer succeeded. -/
  | acknowledged : Reported t t.acknowledge
  /-- The transfer failed, which a settled one cannot. -/
  | failed (reason : Text) (unsettled : t.status ≠ .acknowledged) : Reported t (t.fail reason)

/-- A transfer, and what can become of it: the same transfer in another standing, unless it is
settled. -/
structure Becomes (t later : Transfer) : Prop where
  /-- Key, identity, token and amount stay. -/
  queued : later.asQueued = t.asQueued
  /-- Reports are only added. -/
  attempts : t.attempts ≤ later.attempts
  /-- A settled transfer stays as it is. -/
  settled : t.status = .acknowledged → later = t

/-- A transfer can stay as it is. -/
theorem Becomes.refl (t : Transfer) : t.Becomes t :=
  ⟨rfl, Nat.le_refl _, fun _ => rfl⟩

/-- What can become of what a transfer became can become of the transfer. -/
theorem Becomes.trans {t later last : Transfer} (h : t.Becomes later) (h' : later.Becomes last) :
    t.Becomes last := by
  refine ⟨h'.queued.trans h.queued, Nat.le_trans h.attempts h'.attempts, fun hsettled => ?_⟩
  obtain rfl := h.settled hsettled
  exact h'.settled hsettled

/-- A transfer keeps its key. -/
theorem Becomes.key_eq {t later : Transfer} (h : t.Becomes later) : later.key = t.key :=
  show later.asQueued.key = t.asQueued.key from congrArg Transfer.key h.queued

/-- A transfer keeps what identifies it. -/
theorem Becomes.id_eq {t later : Transfer} (h : t.Becomes later) : later.id = t.id :=
  show later.asQueued.id = t.asQueued.id from congrArg Transfer.id h.queued

/-- What stands in the place of a transfer after another one is written: that one, if it has the
same key. -/
def writtenOver (updated t : Transfer) : Transfer :=
  if t.key = updated.key then updated else t

/-- The key in a place stays. -/
theorem key_writtenOver (updated t : Transfer) : (writtenOver updated t).key = t.key := by
  unfold writtenOver
  split
  · next h => exact h.symm
  · rfl

/-- A transfer that is pending exactly as long as there is no report on it. -/
def Counted (t : Transfer) : Prop :=
  t.status = .pending ↔ t.attempts = 0

/-- A report of success on a settled transfer is no news. -/
theorem acknowledge_of_settled {t : Transfer} (h : t.status = .acknowledged) : t.acknowledge = t :=
  if_pos h

/-- A report changes the standing of a transfer that is not settled. -/
theorem Reported.becomes {t updated : Transfer} (h : t.Reported updated) : t.Becomes updated := by
  cases h with
  | acknowledged =>
    refine ⟨Outbox.asQueued_acknowledge t, ?_, acknowledge_of_settled⟩
    unfold acknowledge
    split
    · exact Nat.le_refl _
    · exact Nat.le_succ _
  | failed reason hunsettled =>
    exact ⟨rfl, Nat.le_succ _, fun hsettled => absurd hsettled hunsettled⟩

/-- A report takes a transfer out of the pending ones, and counts. -/
theorem Reported.counted {t updated : Transfer} (h : t.Reported updated) (ht : t.Counted) :
    updated.Counted := by
  cases h with
  | acknowledged =>
    unfold acknowledge
    split
    · exact ht
    · exact iff_of_false nofun nofun
  | failed reason _ => exact iff_of_false nofun nofun

end Transfer

/-! ## Calls -/

/-- What can be asked of an outbox. -/
inductive OutboxCall where
  /-- To put a transfer in. -/
  | enqueue (id : TransferId) (token amount : Value)
  /-- To take a report of success. -/
  | acknowledge (key : Text)
  /-- To take a report of failure. -/
  | fail (key : Text) (reason : Value)

/-- The key under which a call puts a transfer in, if it is not refused. -/
def OutboxCall.key? : OutboxCall → Option Text
  | .enqueue id _ (.int amount) => if 0 < amount then id.key.toOption else none
  | _ => none

namespace Outbox

/-- Answers a call. -/
def call (o : Outbox) : OutboxCall → Except OutboxError (Transfer × Outbox)
  | .enqueue id token amount => o.enqueue id token amount
  | .acknowledge key => o.acknowledge key
  | .fail key reason => o.fail key reason

/-- The outbox after a call, which is the same if the call fails. -/
def step (o : Outbox) (c : OutboxCall) : Outbox :=
  match o.call c with
  | .ok (_, after) => after
  | .error _ => o

/-- The outbox after a list of calls. -/
def run (o : Outbox) (calls : List OutboxCall) : Outbox :=
  calls.foldl step o

/-- The keys of the transfers, in order. -/
def keys (o : Outbox) : List Text :=
  o.transfers.map Transfer.key

/-- A key is there if a transfer is found under it. -/
theorem mem_keys_of_find? {o : Outbox} {key : Text} {t : Transfer} (h : o.find? key = some t) :
    key ∈ o.keys := by
  obtain ⟨hmem, rfl⟩ := mem_of_find? h
  exact List.mem_map_of_mem hmem

/-- Under a key that is not there no transfer is found. -/
theorem not_mem_keys_iff {o : Outbox} {key : Text} : key ∉ o.keys ↔ o.find? key = none := by
  rw [find?_eq_none_iff, map_key_dues, keys]

/-- A call for anything but a positive integer puts nothing in. -/
theorem key?_of_bad_amount (id : TransferId) (token : Value) {amount : Value}
    (h : ∀ n : Int, amount = .int n → n ≤ 0) :
    (OutboxCall.enqueue id token amount).key? = none := by
  cases amount with
  | int n => exact if_neg (Int.not_lt.2 (h n rfl))
  | _ => rfl

/-- A transfer of anything but a positive integer is refused, whatever its key. -/
theorem enqueue_of_bad_amount (o : Outbox) (id : TransferId) (token : Value) {amount : Value}
    (h : ∀ n : Int, amount = .int n → n ≤ 0) :
    o.enqueue id token amount = .error (.badAmount amount) := by
  cases amount with
  | int n => rw [enqueue, enqueueUnder, refuseIf_bind, if_pos (h n rfl)]
  | _ => rfl

/-- A transfer of a positive amount is put in under its key, unless one is there. -/
theorem enqueue_eq (o : Outbox) (id : TransferId) (token : Value) {amount : Int}
    (hamount : 0 < amount) :
    o.enqueue id token (.int amount) = (id.key.mapError .encoding >>= fun key =>
      match o.find? key with
      | some present => return (present, o)
      | none => return ({ key, id, token, amount },
          ⟨o.transfers ++ [({ key, id, token, amount } : Transfer)]⟩)) := by
  unfold enqueue enqueueUnder
  exact (refuseIf_bind ..).trans (if_neg (Int.not_le.2 hamount))

/-- A transfer whose key is there is found again. -/
theorem enqueue_of_find? {o : Outbox} {id : TransferId} {key : Text} {t : Transfer}
    (hkey : id.key = .ok key) (hfind : o.find? key = some t) (token : Value) {amount : Int}
    (hamount : 0 < amount) : o.enqueue id token (.int amount) = .ok (t, o) := by
  simp only [enqueue_eq o id token hamount, hkey, Except.mapError, ok_bind, hfind]
  rfl

/-- What a call makes of the outbox. -/
inductive Steps (o : Outbox) (c : OutboxCall) : Outbox → Prop
  /-- It stays as it is, and a transfer that is put in is there already. -/
  | kept (present : ∀ key ∈ c.key?, key ∈ o.keys) : Steps o c o
  /-- A transfer with a new key is put at the end. -/
  | put {key : Text} {id : TransferId} {token : Value} {amount : Int} (named : c.key? = some key)
      (keyed : id.key = .ok key) (new : key ∉ o.keys) :
      Steps o c ⟨o.transfers ++ [({ key, id, token, amount } : Transfer)]⟩
  /-- A transfer is reported on. -/
  | reported {key : Text} {t updated : Transfer} (unnamed : c.key? = none)
      (found : o.find? key = some t) (report : t.Reported updated) :
      Steps o c (o.replace updated)

/-- A call that fails keeps the outbox. -/
theorem step_of_error {o : Outbox} {c : OutboxCall} {e : OutboxError} (h : o.call c = .error e) :
    o.step c = o := by
  rw [step, h]

/-- A call that succeeds leads to the outbox that it returns. -/
theorem step_of_ok {o after : Outbox} {c : OutboxCall} {t : Transfer}
    (h : o.call c = .ok (t, after)) : o.step c = after := by
  rw [step, h]

/-- Putting a transfer in keeps the outbox, or appends the transfer under a new key. -/
theorem steps_enqueue (o : Outbox) (id : TransferId) (token amount : Value) :
    o.Steps (.enqueue id token amount) (o.step (.enqueue id token amount)) := by
  by_cases hbad : ∀ n : Int, amount = .int n → n ≤ 0
  · rw [step_of_error (c := .enqueue id token amount) (o.enqueue_of_bad_amount id token hbad)]
    exact .kept (by simp [key?_of_bad_amount id token hbad])
  · simp only [not_forall, Int.not_le, exists_prop] at hbad
    obtain ⟨n, rfl, hn⟩ := hbad
    have hnamed : (OutboxCall.enqueue id token (.int n)).key? = id.key.toOption := if_pos hn
    have hcall := o.enqueue_eq id token hn
    cases hkey : id.key with
    | error e =>
      rw [hkey] at hcall hnamed
      rw [step_of_error (c := .enqueue id token (.int n)) hcall]
      exact .kept (by simp [hnamed, Except.toOption])
    | ok key =>
      simp only [hkey, Except.mapError, ok_bind] at hcall
      rw [hkey] at hnamed
      cases hfind : o.find? key with
      | some present =>
        rw [hfind] at hcall
        rw [step_of_ok (c := .enqueue id token (.int n)) hcall]
        exact .kept (by simp [hnamed, Except.toOption, mem_keys_of_find? hfind])
      | none =>
        rw [hfind] at hcall
        rw [step_of_ok (c := .enqueue id token (.int n)) hcall]
        exact .put hnamed hkey (not_mem_keys_iff.2 hfind)

/-- Every call is one of the three steps. -/
theorem steps_step (o : Outbox) (c : OutboxCall) : o.Steps c (o.step c) := by
  cases c with
  | enqueue id token amount => exact o.steps_enqueue id token amount
  | acknowledge key =>
    cases hcall : o.call (.acknowledge key) with
    | error e =>
      rw [step_of_error hcall]
      exact .kept nofun
    | ok answer =>
      rw [step_of_ok hcall]
      obtain ⟨t, hfound, hupdated, hafter⟩ := acknowledge_ok hcall
      rw [hafter, hupdated]
      exact .reported rfl hfound .acknowledged
  | fail key reason =>
    cases hcall : o.call (.fail key reason) with
    | error e =>
      rw [step_of_error hcall]
      exact .kept nofun
    | ok answer =>
      rw [step_of_ok hcall]
      obtain ⟨t, hfound, hunsettled, hupdated, hafter⟩ := fail_ok hcall
      rw [hafter, hupdated]
      exact .reported rfl hfound (.failed _ hunsettled)

/-! ## What a call keeps -/

/-- An outbox that has each key once, each transfer under its own key, and counts the reports. -/
structure IsLog (o : Outbox) : Prop where
  /-- Each key is there once. -/
  unique : o.keys.Nodup
  /-- The key of a transfer is the hash of what identifies it. -/
  keyed : ∀ t ∈ o.transfers, t.id.key = .ok t.key
  /-- A transfer is pending exactly as long as there is no report on it. -/
  counted : ∀ t ∈ o.transfers, t.Counted

/-- The empty outbox is a log. -/
theorem isLog_empty : ({} : Outbox).IsLog :=
  ⟨List.nodup_nil, nofun, nofun⟩

/-- A log has each key once. -/
theorem IsLog.wellFormed {o : Outbox} (h : o.IsLog) : o.WellFormed := by
  rw [WellFormed, map_key_dues]
  exact h.unique

/-- In a log, a transfer is found under its key. -/
theorem IsLog.find?_eq {o : Outbox} (h : o.IsLog) {t : Transfer} (ht : t ∈ o.transfers) :
    o.find? t.key = some t := by
  cases hfind : o.find? t.key with
  | none => exact absurd (List.mem_map_of_mem ht) (not_mem_keys_iff.2 hfind)
  | some found =>
    obtain ⟨hfound, hkey⟩ := mem_of_find? hfind
    rw [List.inj_on_of_nodup_map h.unique hfound ht hkey]

/-- A transfer is written in the place of the one with its key. -/
theorem transfers_replace (o : Outbox) (updated : Transfer) :
    (o.replace updated).transfers = o.transfers.map (Transfer.writtenOver updated) :=
  rfl

/-- A report does not change the keys. -/
theorem keys_replace {o : Outbox} (ho : o.IsLog) {key : Text} {t updated : Transfer}
    (hfind : o.find? key = some t) (hreport : t.Reported updated) :
    (o.replace updated).keys = o.keys := by
  have hqueued := queued_replace ho.wellFormed hfind hreport.becomes.queued
  have hkeys (o : Outbox) : o.keys = o.queued.map Transfer.key := by
    rw [keys, queued, List.map_map]
    rfl
  rw [hkeys, hkeys, hqueued]

/-- The keys after a call: the same, or a new one at the end. -/
theorem Steps.keys_eq {o after : Outbox} {c : OutboxCall} (h : o.Steps c after) (ho : o.IsLog) :
    (∀ key ∈ c.key?, key ∈ o.keys) ∧ after.keys = o.keys ∨
      ∃ key, c.key? = some key ∧ key ∉ o.keys ∧ after.keys = o.keys ++ [key] := by
  cases h with
  | kept hpresent => exact .inl ⟨hpresent, rfl⟩
  | put hnamed _ hnew => exact .inr ⟨_, hnamed, hnew, by rw [keys, List.map_append]; rfl⟩
  | reported hunnamed hfound hreport =>
    exact .inl ⟨by simp [hunnamed], keys_replace ho hfound hreport⟩

/-- A call leaves every transfer in its place. -/
theorem Steps.becomes {o after : Outbox} {c : OutboxCall} (h : o.Steps c after) (ho : o.IsLog)
    {i : Nat} {t : Transfer} (hfound : o.transfers[i]? = some t) :
    ∃ later, after.transfers[i]? = some later ∧ t.Becomes later := by
  cases h with
  | kept _ => exact ⟨t, hfound, .refl t⟩
  | put _ _ _ =>
    have hi : i < o.transfers.length := (List.getElem?_eq_some_iff.1 hfound).1
    exact ⟨t, (List.getElem?_append_left hi).trans hfound, .refl t⟩
  | @reported key old updated _ hold hreport =>
    have hplace : (o.replace updated).transfers[i]? = some (Transfer.writtenOver updated t) := by
      rw [transfers_replace, List.getElem?_map, hfound, Option.map_some]
    refine ⟨_, hplace, ?_⟩
    unfold Transfer.writtenOver
    by_cases hsame : t.key = updated.key
    · -- Two transfers with one key are the same transfer.
      have hfind := ho.find?_eq (List.mem_of_getElem? hfound)
      rw [hsame, hreport.becomes.key_eq, (mem_of_find? hold).2, hold] at hfind
      obtain rfl := Option.some.inj hfind
      rw [if_pos hsame]
      exact hreport.becomes
    · rw [if_neg hsame]
      exact .refl t

/-- A call keeps what a new transfer has and a report does not take away. -/
theorem Steps.forall_mem {o after : Outbox} {c : OutboxCall} (h : o.Steps c after)
    {P : Transfer → Prop}
    (hput : ∀ {key : Text} {id : TransferId} {token : Value} {amount : Int}, id.key = .ok key →
      P { key, id, token, amount })
    (hreported : ∀ {t updated : Transfer}, t.Reported updated → P t → P updated)
    (ho : ∀ t ∈ o.transfers, P t) : ∀ t ∈ after.transfers, P t := by
  intro t ht
  cases h with
  | kept _ => exact ho t ht
  | put _ hkeyed _ =>
    rcases List.mem_append.1 ht with hold | hnew
    · exact ho t hold
    · rw [List.mem_singleton.1 hnew]
      exact hput hkeyed
  | reported _ hfound hreport =>
    rcases mem_replace ht with rfl | hold
    · exact hreported hreport (ho _ (mem_of_find? hfound).1)
    · exact ho t hold

/-- A call keeps a log a log. -/
theorem Steps.isLog {o after : Outbox} {c : OutboxCall} (h : o.Steps c after) (ho : o.IsLog) :
    after.IsLog := by
  refine ⟨?_, h.forall_mem id ?_ ho.keyed, h.forall_mem ?_ ?_ ho.counted⟩
  · rcases h.keys_eq ho with ⟨-, hkeys⟩ | ⟨key, -, hnew, hkeys⟩
    · rw [hkeys]
      exact ho.unique
    · rw [hkeys]
      exact List.nodup_append.2 ⟨ho.unique, List.nodup_singleton key, fun a ha b hb hab =>
        hnew (List.mem_singleton.1 hb ▸ hab ▸ ha)⟩
  · intro t updated hreport hkeyed
    rw [hreport.becomes.id_eq, hreport.becomes.key_eq]
    exact hkeyed
  · exact fun _ => iff_of_true rfl rfl
  · exact fun hreport => hreport.counted

/-! ## Runs -/

/-- A run keeps a log a log. -/
theorem IsLog.run {o : Outbox} (ho : o.IsLog) (calls : List OutboxCall) : (o.run calls).IsLog := by
  induction calls generalizing o with
  | nil => exact ho
  | cons c calls ih => exact ih ((o.steps_step c).isLog ho)

/-- A run leaves every transfer in its place. -/
theorem IsLog.becomes_run {o : Outbox} (ho : o.IsLog) (calls : List OutboxCall) {i : Nat}
    {t : Transfer} (hfound : o.transfers[i]? = some t) :
    ∃ later, (o.run calls).transfers[i]? = some later ∧ t.Becomes later := by
  induction calls generalizing o t with
  | nil => exact ⟨t, hfound, .refl t⟩
  | cons c calls ih =>
    obtain ⟨next, hnext, hbecomes⟩ := (o.steps_step c).becomes ho hfound
    obtain ⟨later, hlater, hrest⟩ := ih ((o.steps_step c).isLog ho) hnext
    exact ⟨later, hlater, hbecomes.trans hrest⟩

/-- Where each item stands once, at its first place, one more item is appended unless it is
there. -/
theorem eraseDups_concat {α : Type} [BEq α] [LawfulBEq α] (items : List α) (a : α) :
    (items ++ [a]).eraseDups = items.eraseDups ++ if a ∈ items then [] else [a] := by
  rw [List.eraseDups_append]
  congr 1
  by_cases h : a ∈ items <;> simp [List.removeAll, h, List.eraseDups_cons]

/-- After a run from the empty outbox, the keys stand in the order in which they were first put
in. -/
theorem keys_run (calls : List OutboxCall) :
    (run {} calls).keys = (calls.filterMap OutboxCall.key?).eraseDups := by
  induction calls using List.reverseRecOn with
  | nil => rfl
  | append_singleton calls c ih =>
    have hrun : run {} (calls ++ [c]) = (run {} calls).step c := List.foldl_concat ..
    have hmem (key : Text) : key ∈ (run {} calls).keys ↔ key ∈ calls.filterMap OutboxCall.key? := by
      rw [ih, List.mem_eraseDups]
    rw [hrun, List.filterMap_append]
    rcases (steps_step _ c).keys_eq (isLog_empty.run calls) with
      ⟨hpresent, hkeys⟩ | ⟨key, hnamed, hnew, hkeys⟩
    · rw [hkeys, ih]
      cases hnamed : c.key? with
      | none => simp [hnamed]
      | some key =>
        have hthere := (hmem key).1 (hpresent key hnamed)
        simp only [List.filterMap_cons, hnamed, List.filterMap_nil, eraseDups_concat,
          if_pos hthere, List.append_nil]
    · rw [hmem] at hnew
      rw [hkeys, ih]
      simp only [List.filterMap_cons, hnamed, List.filterMap_nil, eraseDups_concat, if_neg hnew]

end Outbox

end PredictionMarket
