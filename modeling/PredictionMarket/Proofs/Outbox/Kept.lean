import PredictionMarket.Proofs.Guard
import PredictionMarket.Proofs.Json.Numeral
import PredictionMarket.Proofs.Outbox.Log
import PredictionMarket.Proofs.Table
import PredictionMarket.Proofs.TransferKey

/-!
# The outbox as it is kept

The transfers of an outbox are found by their keys, and what is due is listed in order. An outbox
can therefore be kept in two parts, a table of the transfers by key and a list of the keys. The two
parts stay in step under every call, whatever fails, and answer every call as the list of transfers
does.
-/

namespace PredictionMarket

/-- An outbox in two parts. -/
structure KeptOutbox where
  /-- The transfers by their keys. -/
  entries : Table Text Transfer := .empty
  /-- The keys in the order in which they were put in. -/
  order : List Text := []

namespace KeptOutbox

/-! ## Calls -/

/-- The transfer with a key. -/
def get (k : KeptOutbox) (key : Text) : Except OutboxError Transfer :=
  match k.entries.get? key with
  | some t => .ok t
  | none => .error (.unknownKey key)

/-- The outbox with a transfer in place of the one that has its key. -/
def put (k : KeptOutbox) (t : Transfer) : KeptOutbox :=
  { k with entries := k.entries.insert t.key t }

/-- Puts a transfer in, and its key at the end, unless there is one with its key. -/
def enqueue (k : KeptOutbox) (id : TransferId) (token amount : Value) :
    Except OutboxError (Transfer × KeptOutbox) :=
  match amount with
  | .int n => do
    refuseIf (n ≤ 0) (.badAmount amount)
    let key ← id.key.mapError .encoding
    match k.entries.get? key with
    | some present => return (present, k)
    | none =>
      let t : Transfer := { key, id, token, amount := n }
      return (t, { entries := k.entries.insert key t, order := k.order ++ [key] })
  | _ => .error (.badAmount amount)

/-- Takes a report of success; a transfer that is settled is not written again. -/
def acknowledge (k : KeptOutbox) (key : Text) : Except OutboxError (Transfer × KeptOutbox) := do
  let t ← k.get key
  if t.status = .acknowledged then return (t, k)
  else return (t.acknowledge, k.put t.acknowledge)

/-- Takes a report of failure. -/
def fail (k : KeptOutbox) (key : Text) (reason : Value) :
    Except OutboxError (Transfer × KeptOutbox) := do
  let t ← k.get key
  refuseIf (t.status = .acknowledged) (.alreadyAcknowledged key)
  refuseIf (!reason.isWritable) (.badReason reason)
  return (t.fail reason.shown, k.put (t.fail reason.shown))

/-- The transfers that are due, if there is one under each key. -/
def pending? (k : KeptOutbox) : Option (List Transfer) := do
  let transfers ← k.order.mapM k.entries.get?
  return transfers.filter fun t => t.status != .acknowledged

/-- Answers a call. -/
def call (k : KeptOutbox) : OutboxCall → Except OutboxError (Transfer × KeptOutbox)
  | .enqueue id token amount => k.enqueue id token amount
  | .acknowledge key => k.acknowledge key
  | .fail key reason => k.fail key reason

/-- The outbox after a call, which is the same if the call fails. -/
def step (k : KeptOutbox) (c : OutboxCall) : KeptOutbox :=
  match k.call c with
  | .ok (_, after) => after
  | .error _ => k

/-- The outbox after a list of calls. -/
def run (k : KeptOutbox) (calls : List OutboxCall) : KeptOutbox :=
  calls.foldl step k

/-! ## The two parts in step -/

/-- An outbox in two parts has the transfers of an outbox. -/
structure Represents (k : KeptOutbox) (o : Outbox) : Prop where
  /-- The keys stand in the same order. -/
  order : k.order = o.keys
  /-- Under each key stands the same transfer. -/
  entries : ∀ key, k.entries.get? key = o.find? key

variable {k : KeptOutbox} {o : Outbox}

/-- Both find the same transfer under a key. -/
theorem Represents.get_eq (h : k.Represents o) (key : Text) : k.get key = o.get key := by
  have hentry := h.entries key
  unfold get Outbox.get
  cases hfound : o.find? key <;> rw [hfound] at hentry <;> simp only [hentry]

/-- A new transfer is put into both. -/
theorem Represents.append (h : k.Represents o) {t : Transfer} (hnew : o.find? t.key = none) :
    Represents ⟨k.entries.insert t.key t, k.order ++ [t.key]⟩ ⟨o.transfers ++ [t]⟩ := by
  refine ⟨?_, fun key => ?_⟩
  · simp only [h.order, Outbox.keys, List.map_append, List.map_singleton]
  · have hfind : Outbox.find? ⟨o.transfers ++ [t]⟩ key =
        (o.find? key).or (if t.key = key then some t else none) := by
      simp [Outbox.find?, List.find?_append, List.find?_singleton]
    dsimp only
    rw [hfind]
    by_cases hkey : key = t.key
    · rw [hkey, Table.get?_insert_self, hnew, if_pos rfl, Option.none_or]
    · rw [Table.get?_insert_of_ne _ hkey, h.entries, if_neg (Ne.symm hkey), Option.or_none]

/-- What is found after a transfer was reported on. -/
theorem find?_replace {t updated : Transfer} (hfind : o.find? t.key = some t)
    (hsame : updated.key = t.key) (key : Text) :
    (o.replace updated).find? key = if key = t.key then some updated else o.find? key := by
  have hmap : (o.replace updated).find? key = (o.find? key).map (Transfer.writtenOver updated) := by
    rw [Outbox.find?, Outbox.transfers_replace, List.find?_map, Outbox.find?]
    simp only [Function.comp_def, Transfer.key_writtenOver]
  rw [hmap]
  split
  · next hkey =>
    rw [hkey, hfind]
    exact congrArg some (if_pos hsame.symm)
  · next hkey =>
    cases hother : o.find? key with
    | none => rfl
    | some u =>
      have hne : u.key ≠ updated.key := by
        rw [(Outbox.mem_of_find? hother).2, hsame]
        exact hkey
      exact congrArg some (if_neg hne)

/-- A report is written into both. -/
theorem Represents.replace (h : k.Represents o) (ho : o.IsLog) {t updated : Transfer}
    (hfind : o.find? t.key = some t) (hreport : t.Reported updated) :
    (k.put updated).Represents (o.replace updated) := by
  have hsame := hreport.becomes.key_eq
  refine ⟨h.order.trans (Outbox.keys_replace ho hfind hreport).symm, fun key => ?_⟩
  unfold put
  dsimp only
  rw [find?_replace hfind hsame, hsame]
  by_cases hkey : key = t.key
  · rw [hkey, Table.get?_insert_self, if_pos rfl]
  · rw [Table.get?_insert_of_ne _ hkey, h.entries, if_neg hkey]

/-- Writing a transfer that is there changes nothing. -/
theorem replace_self (ho : o.IsLog) {t : Transfer} (hfind : o.find? t.key = some t) :
    o.replace t = o := by
  have hsame : o.transfers.map (Transfer.writtenOver t) = o.transfers.map id := by
    refine List.map_congr_left fun u hu => ?_
    unfold Transfer.writtenOver
    split
    · next hkey =>
      have hfound := ho.find?_eq hu
      rw [hkey, hfind] at hfound
      exact Option.some.inj hfound
    · rfl
  have htransfers : (o.replace t).transfers = o.transfers := by
    rw [Outbox.transfers_replace, hsame, List.map_id]
  exact congrArg Outbox.mk htransfers

/-- Both answer every call alike, and what they become is the same outbox again. -/
theorem Represents.call (h : k.Represents o) (ho : o.IsLog) (c : OutboxCall) :
    Agree (fun a b => a.1 = b.1 ∧ a.2.Represents b.2) (k.call c) (o.call c) := by
  cases c with
  | enqueue id token amount =>
    cases amount with
    | int n =>
      refine .bind_same _ fun _ => .bind_same _ fun key => ?_
      rw [h.entries]
      cases hfind : o.find? key with
      | some present => exact .ok ⟨rfl, h⟩
      | none => exact .ok ⟨rfl, h.append (t := { key, id, token, amount := n }) hfind⟩
    | _ => exact .error _
  | acknowledge key =>
    simp only [KeptOutbox.call, Outbox.call, acknowledge, Outbox.acknowledge, h.get_eq]
    refine .bind_of_ok _ fun t hget => ?_
    obtain rfl := (Outbox.mem_of_find? (Outbox.get_ok hget)).2
    split
    · next hsettled =>
      rw [Transfer.acknowledge_of_settled hsettled, replace_self ho (Outbox.get_ok hget)]
      exact .ok ⟨rfl, h⟩
    · exact .ok ⟨rfl, h.replace ho (Outbox.get_ok hget) .acknowledged⟩
  | fail key reason =>
    simp only [KeptOutbox.call, Outbox.call, fail, Outbox.fail, h.get_eq]
    refine .bind_of_ok _ fun t hget => .bind_of_ok _ fun _ hopen => .bind_same _ fun _ => ?_
    obtain rfl := (Outbox.mem_of_find? (Outbox.get_ok hget)).2
    have hunsettled := (refuseIf_eq_ok ..).1 hopen
    exact .ok ⟨rfl, h.replace ho (Outbox.get_ok hget) (.failed _ hunsettled)⟩

/-- A call leaves both the same outbox. -/
theorem Represents.step (h : k.Represents o) (ho : o.IsLog) (c : OutboxCall) :
    (k.step c).Represents (o.step c) := by
  have hcall := h.call ho c
  unfold KeptOutbox.step Outbox.step
  generalize k.call c = x at hcall
  generalize o.call c = y at hcall
  cases hcall with
  | error e => exact h
  | ok hafter => exact hafter.2

/-- So does a run. -/
theorem Represents.run (h : k.Represents o) (ho : o.IsLog) (calls : List OutboxCall) :
    (k.run calls).Represents (o.run calls) := by
  induction calls generalizing k o with
  | nil => exact h
  | cons c calls ih => exact ih (h.step ho c) ((o.steps_step c).isLog ho)

/-- A new outbox has no transfer in either part. -/
theorem represents_empty : ({} : KeptOutbox).Represents {} :=
  ⟨rfl, fun _ => rfl⟩

/-- In a log, the transfers are found by their keys one after another. -/
theorem mapM_find? (ho : o.IsLog) : o.keys.mapM o.find? = some o.transfers := by
  rw [Outbox.keys, mapM_eq_some, List.forall₂_map_left_iff]
  exact List.forall₂_same.2 fun t ht => ho.find?_eq ht

/-- What is due is found in both. -/
theorem Represents.pending?_eq (h : k.Represents o) (ho : o.IsLog) :
    k.pending? = some o.pending := by
  have hentries : k.entries.get? = o.find? := funext h.entries
  rw [pending?, h.order, hentries, mapM_find? ho]
  rfl

/-- The list of keys has each key of the table once, and no other. -/
theorem Represents.inStep (h : k.Represents o) (ho : o.IsLog) :
    k.order.Nodup ∧ ∀ key, key ∈ k.order ↔ (k.entries.get? key).isSome := by
  rw [h.order]
  refine ⟨ho.unique, fun key => ?_⟩
  rw [h.entries, Option.isSome_iff_ne_none, Ne, ← Outbox.not_mem_keys_iff, not_not]

end KeptOutbox

namespace Outbox

/-- A transfer of anything but a positive integer is refused, whatever its key. The refusal shows
the amount, and if this cannot be written, the amount is a bad value instead. The outbox stays as it
is. -/
theorem enqueue_of_bad_amount_fails (o : Outbox) (id : TransferId) (token : Value) {amount : Value}
    (h : ∀ n : Int, amount = .int n → n ≤ 0) :
    (∃ e, o.enqueue id token amount = .error e ∧
      e.kind = if amount.isWritable then .refusal .validation else .badValue) ∧
        o.step (.enqueue id token amount) = o := by
  have hrefused := o.enqueue_of_bad_amount id token h
  have hshown : (OutboxError.badAmount amount).notice.isWorded = amount.isWritable := by
    show (amount.isWritable && true) = amount.isWritable
    rw [Bool.and_true]
  refine ⟨⟨_, hrefused, ?_⟩, step_of_error (c := .enqueue id token amount) hrefused⟩
  rw [OutboxError.kind, Notice.kind, hshown]
  rfl

/-- A transfer without a key is not put in, and the outbox stays as it is. -/
theorem enqueue_of_no_key (o : Outbox) {id : TransferId} {e : EncodingError}
    (hkey : id.key = .error e) (token : Value) {amount : Int} (hamount : 0 < amount) :
    o.enqueue id token (.int amount) = .error (.encoding e) ∧
      o.step (.enqueue id token (.int amount)) = o := by
  have hrefused : o.enqueue id token (.int amount) = .error (.encoding e) := by
    rw [o.enqueue_eq id token hamount, hkey]
    rfl
  exact ⟨hrefused, step_of_error (c := .enqueue id token (.int amount)) hrefused⟩

/-- Without collisions, a transfer that is put in is not taken for another one. -/
theorem IsLog.id_of_enqueue {o after : Outbox} (ho : o.IsLog) {id : TransferId}
    {token amount : Value} {t : Transfer} (h : o.enqueue id token amount = .ok (t, after))
    (hfree : CollisionFree (id :: o.transfers.map Transfer.id)) : t.id = id := by
  cases amount with
  | int n =>
    obtain ⟨-, key, hkey, ⟨hfind, -⟩ | ⟨-, rfl, -⟩⟩ := enqueueUnder_ok h
    · obtain ⟨hmem, rfl⟩ := mem_of_find? hfind
      exact hfree.eq_of_countedKey (List.mem_cons_of_mem _ (List.mem_map_of_mem hmem))
        List.mem_cons_self (TransferId.countedKey_of_key (ho.keyed t hmem))
          (TransferId.countedKey_of_key hkey)
    · rfl
  | _ => cases h

/-- **The outbox is a log with a one-way status.** After every list of calls, whatever their
arguments and whichever of them fail:
the list of keys beside the table has each key of the table once, and no other; the keys are the
hashes of what identifies the transfers, and stand in the order in which they were first put in; a
transfer is pending exactly as long as there is no report on it; and what is due is what is not
acknowledged, in that order.
Putting in a transfer whose key is there returns the transfer that is there, whatever positive
integer the amount is, and whatever the token and the status. Any other amount is refused, whatever
the key, or is a bad value if it cannot be written. A transfer that has no key, for a surrogate in a
name or a number of too many digits, is not put in. None of these three changes anything. Without
collisions of the hash, the transfer that is returned is the one that was to be put in.
Whatever calls follow, every transfer stays in its place, with its key, identity, token and amount,
and for good as it is once it is acknowledged. -/
theorem outbox_is_log (calls : List OutboxCall) :
    let o := run {} calls
    let k := KeptOutbox.run {} calls
    (k.order.Nodup ∧ ∀ key, key ∈ k.order ↔ (k.entries.get? key).isSome) ∧
    k.Represents o ∧ o.IsLog ∧
    k.order = (calls.filterMap OutboxCall.key?).eraseDups ∧
    k.pending? = some (o.transfers.filter fun t => t.status != .acknowledged) ∧
    (∀ id key t, id.key = .ok key → o.find? key = some t → ∀ token, ∀ n : Int, 0 < n →
      o.enqueue id token (.int n) = .ok (t, o) ∧ o.step (.enqueue id token (.int n)) = o) ∧
    (∀ id token amount, (∀ n : Int, amount = .int n → n ≤ 0) →
      (∃ e, o.enqueue id token amount = .error e ∧
        e.kind = if amount.isWritable then .refusal .validation else .badValue) ∧
      o.step (.enqueue id token amount) = o) ∧
    (∀ id e, id.key = .error e → ∀ token, ∀ n : Int, 0 < n →
      (o.enqueue id token (.int n) = .error (.encoding e) ∧
        o.step (.enqueue id token (.int n)) = o) ∧
      e.kind = if id.receiver.hasSurrogate || id.operation.hasSurrogate then .badType
        else .badValue) ∧
    (∀ id token amount t after, o.enqueue id token amount = .ok (t, after) →
      CollisionFree (id :: o.transfers.map Transfer.id) → t.id = id) ∧
    ∀ more (i : Nat) (t : Transfer), o.transfers[i]? = some t →
      ∃ later, (run {} (calls ++ more)).transfers[i]? = some later ∧ t.Becomes later := by
  intro o k
  have ho : o.IsLog := isLog_empty.run calls
  have hk : k.Represents o := KeptOutbox.represents_empty.run isLog_empty calls
  refine ⟨hk.inStep ho, hk, ho, hk.order.trans (keys_run calls), hk.pending?_eq ho, ?_, ?_, ?_, ?_,
    ?_⟩
  · intro id key t hkey hfind token n hn
    have hfound := enqueue_of_find? hkey hfind token hn
    exact ⟨hfound, step_of_ok (c := .enqueue id token (.int n)) hfound⟩
  · exact fun id token amount hbad => o.enqueue_of_bad_amount_fails id token hbad
  · intro id e hkey token n hn
    exact ⟨o.enqueue_of_no_key hkey token hn, TransferId.kind_of_key hkey⟩
  · exact fun id token amount t after => ho.id_of_enqueue
  · intro more i t hfound
    have hrun : run {} (calls ++ more) = o.run more := List.foldl_append ..
    rw [hrun]
    exact ho.becomes_run more hfound

/-- The transfer of a claim. -/
def claimId : TransferId :=
  ⟨some 0, "a", "claim", 1⟩

/-- The transfer of a claim has a key. -/
theorem exists_key_claim : ∃ key, claimId.key = .ok key :=
  TransferId.exists_key_iff.2 ⟨by decide, by decide, by decide, by decide⟩

/-- An outbox with the transfer of a claim, put in once. -/
theorem run_claim {key : Text} (hkey : claimId.key = .ok key) :
    run {} [.enqueue claimId (.text "T") (.int 5)] =
      ⟨[{ key, id := claimId, token := .text "T", amount := 5 }]⟩ := by
  have hcall := enqueue_eq {} claimId (.text "T") (show (0 : Int) < 5 by decide)
  rw [hkey] at hcall
  exact step_of_ok (o := {}) (c := .enqueue claimId (.text "T") (.int 5)) hcall

/-- Another amount of another token is not put in under the key of a claim, which is returned as it
was put in. An amount of too many digits below zero is a bad value, and so is such a number of the
transfer. The claim stays in its place when it is paid. -/
theorem outbox_is_log_claim :
    ∃ key t, claimId.key = .ok key ∧
      (run {} [.enqueue claimId (.text "T") (.int 5)]).find? key = some t ∧
      t.token = .text "T" ∧ t.amount = 5 ∧
      (run {} [.enqueue claimId (.text "T") (.int 5)]).enqueue claimId (.text "U") (.int 7) =
        .ok (t, run {} [.enqueue claimId (.text "T") (.int 5)]) ∧
      (∃ e, (run {} [.enqueue claimId (.text "T") (.int 5)]).enqueue claimId (.text "T")
        (.int (-10 ^ Text.digitLimit)) = .error e ∧ e.kind = .badValue) ∧
      (∃ e, (run {} [.enqueue claimId (.text "T") (.int 5)]).enqueue
        ⟨some 0, "a", "claim", 10 ^ Text.digitLimit⟩ (.text "T") (.int 5) = .error (.encoding e) ∧
          e.kind = .badValue) ∧
      (run {} [.enqueue claimId (.text "T") (.int 5)]).enqueue claimId (.text "T") (.int 5) =
        .ok (t, run {} [.enqueue claimId (.text "T") (.int 5)]) ∧ t.id = claimId ∧
      ∃ later, (run {} ([.enqueue claimId (.text "T") (.int 5)] ++
        [.acknowledge key])).transfers[0]? = some later ∧ t.Becomes later := by
  obtain ⟨key, hkey⟩ := exists_key_claim
  have hfind : (run {} [.enqueue claimId (.text "T") (.int 5)]).find? key =
      some { key, id := claimId, token := .text "T", amount := 5 } := by
    rw [run_claim hkey]
    simp [find?]
  obtain ⟨-, -, -, -, -, hagain, hbad, hnone, hsame, hlater⟩ :=
    outbox_is_log [.enqueue claimId (.text "T") (.int 5)]
  have hlong := Text.canWrite_pow_digitLimit
  have hneg : (10 : Int) ^ Text.digitLimit > 0 := Int.pow_pos (by decide)
  generalize (10 : Int) ^ Text.digitLimit = n at *
  obtain ⟨e, he⟩ := TransferId.exists_error_of_long_nonce (i := ⟨some 0, "a", "claim", n⟩) hlong
  obtain ⟨⟨hunnamed, -⟩, hkind⟩ := hnone _ e he (.text "T") 5 (by decide)
  have hfound := (hagain claimId key _ hkey hfind (.text "T") 5 (by decide)).1
  refine ⟨key, _, hkey, hfind, rfl, rfl,
    (hagain claimId key _ hkey hfind (.text "U") 7 (by decide)).1, ?_, ⟨e, hunnamed, hkind⟩, hfound,
    hsame _ _ _ _ _ hfound ?_, hlater [.acknowledge key] 0 _ ?_⟩
  · obtain ⟨⟨e, hrefused, hkind⟩, -⟩ := hbad claimId (.text "T") (.int (-n)) fun m hm => by
      cases hm
      omega
    refine ⟨e, hrefused, hkind.trans (if_neg ?_)⟩
    rw [Value.isWritable, Text.canWrite_neg, hlong]
    decide
  · rw [run_claim hkey]
    exact (collisionFree_singleton claimId).mono (by simp)
  · rw [run_claim hkey]
    rfl

/-- An amount of zero is refused, though the transfer is there. -/
theorem enqueue_again_refused :
    ∃ key t, claimId.key = .ok key ∧
      (run {} [.enqueue claimId (.text "T") (.int 5)]).find? key = some t ∧
      (run {} [.enqueue claimId (.text "T") (.int 5)]).enqueue claimId (.text "T") (.int 0) =
        .error (.badAmount (.int 0)) := by
  obtain ⟨key, hkey⟩ := exists_key_claim
  refine ⟨key, { key, id := claimId, token := .text "T", amount := 5 }, hkey, ?_, ?_⟩
  · rw [run_claim hkey]
    simp [find?]
  · exact enqueue_of_bad_amount _ claimId (.text "T") fun n hn => by
      cases hn
      decide

end Outbox

end PredictionMarket
