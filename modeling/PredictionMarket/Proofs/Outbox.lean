import PredictionMarket.Outbox
import Mathlib.Data.List.Nodup

/-!
# What is due

A transfer that was put into the outbox keeps its key, its identity, its token and its amount;
reports change nothing but its standing. What was queued, and what is due, are therefore lists that
only grow, and each key is in them once.
-/

namespace PredictionMarket

/-- What no report changes about a transfer. -/
structure Due where
  /-- The key of the transfer. -/
  key : Text
  /-- What identifies it. -/
  id : TransferId
  /-- The amount to be paid. -/
  amount : Int

/-- The part of a transfer that no report changes. -/
def Transfer.due (t : Transfer) : Due :=
  ⟨t.key, t.id, t.amount⟩

/-- A transfer as it was put in, before any report. -/
def Transfer.asQueued (t : Transfer) : Transfer :=
  { t with status := .pending, attempts := 0, lastError := none }

namespace Outbox

/-- All that was ever put in, in order. -/
def dues (o : Outbox) : List Due :=
  o.transfers.map Transfer.due

/-- The transfers as they were put in, in order. -/
def queued (o : Outbox) : List Transfer :=
  o.transfers.map Transfer.asQueued

/-- What is due is read off the transfers as they were put in. -/
theorem map_due_queued (o : Outbox) : o.queued.map Transfer.due = o.dues := by
  simp only [queued, dues, List.map_map]
  rfl

/-- An outbox that has each key once. -/
def WellFormed (o : Outbox) : Prop :=
  (o.dues.map Due.key).Nodup

/-- The keys that are due are those of the transfers. -/
theorem map_key_dues (o : Outbox) : o.dues.map Due.key = o.transfers.map Transfer.key := by
  simp only [dues, List.map_map]
  rfl

/-- A transfer that is found is in the outbox, under the key. -/
theorem mem_of_find? {o : Outbox} {key : Text} {t : Transfer} (h : o.find? key = some t) :
    t ∈ o.transfers ∧ t.key = key :=
  ⟨List.mem_of_find?_eq_some h, by simpa using List.find?_some h⟩

/-- Under a key that is not found nothing is due. -/
theorem find?_eq_none_iff {o : Outbox} {key : Text} :
    o.find? key = none ↔ key ∉ o.dues.map Due.key := by
  rw [map_key_dues]
  simp [find?, List.find?_eq_none]

/-- Putting a transfer in finds one with its key, or puts a pending one at the end. -/
theorem enqueueUnder_ok {o after : Outbox} {named : Except EncodingError Text} {id : TransferId}
    {token : Value} {amount : Int} {t : Transfer}
    (h : o.enqueueUnder named id token (.int amount) = .ok (t, after)) :
    0 < amount ∧ ∃ key, named = .ok key ∧
      (o.find? key = some t ∧ after = o ∨
        o.find? key = none ∧ t = { key, id, token, amount } ∧ after = ⟨o.transfers ++ [t]⟩) := by
  simp only [enqueueUnder, bind_eq_ok, refuseIf_eq_ok, mapError_eq_ok, Int.not_le] at h
  obtain ⟨_, hamount, key, hkey, h⟩ := h
  refine ⟨hamount, key, hkey, ?_⟩
  cases hfind : o.find? key with
  | some present =>
    simp only [hfind, pure, Except.pure, Except.ok.injEq, Prod.mk.injEq] at h
    obtain ⟨rfl, rfl⟩ := h
    exact .inl ⟨rfl, rfl⟩
  | none =>
    simp only [hfind, pure, Except.pure, Except.ok.injEq, Prod.mk.injEq] at h
    obtain ⟨rfl, rfl⟩ := h
    exact .inr ⟨rfl, rfl, rfl⟩

/-- What is due after a transfer was put in: the same, or the new transfer as well. -/
theorem dues_enqueueUnder {o after : Outbox} {named : Except EncodingError Text} {id : TransferId}
    {token : Value} {amount : Int} {t : Transfer}
    (h : o.enqueueUnder named id token (.int amount) = .ok (t, after)) :
    0 < amount ∧ ∃ key, named = .ok key ∧
      (key ∈ o.dues.map Due.key ∧ after.dues = o.dues ∨
        key ∉ o.dues.map Due.key ∧ after.dues = o.dues ++ [⟨key, id, amount⟩]) := by
  obtain ⟨hamount, key, hkey, ⟨hfind, rfl⟩ | ⟨hfind, rfl, rfl⟩⟩ := enqueueUnder_ok h
  · obtain ⟨hmem, rfl⟩ := mem_of_find? hfind
    refine ⟨hamount, _, hkey, .inl ⟨?_, rfl⟩⟩
    rw [map_key_dues]
    exact List.mem_map_of_mem hmem
  · refine ⟨hamount, key, hkey, .inr ⟨find?_eq_none_iff.1 hfind, ?_⟩⟩
    simp only [dues, List.map_append, List.map_cons, List.map_nil]
    rfl

/-- Each key stays in the outbox once when a transfer is put in. -/
theorem WellFormed.enqueueUnder {o after : Outbox} (ho : o.WellFormed)
    {named : Except EncodingError Text} {id : TransferId} {token : Value} {amount : Int}
    {t : Transfer} (h : o.enqueueUnder named id token (.int amount) = .ok (t, after)) :
    after.WellFormed := by
  unfold WellFormed
  obtain ⟨-, key, -, ⟨-, hdues⟩ | ⟨hnew, hdues⟩⟩ := dues_enqueueUnder h
  · rw [hdues]
    exact ho
  · rw [hdues, List.map_append, List.map_singleton]
    refine List.nodup_append.2 ⟨ho, List.nodup_singleton _, ?_⟩
    intro a ha b hb hab
    obtain rfl := List.mem_singleton.1 hb
    obtain rfl := hab
    exact hnew ha

/-! ## Reports -/

/-- An outbox, and what a report makes of it. -/
inductive Reported (o : Outbox) : Outbox → Prop
  /-- A transfer succeeded. -/
  | acknowledged {key : Text} {t : Transfer} {after : Outbox}
      (h : o.acknowledge key = .ok (t, after)) : Reported o after
  /-- A transfer failed. -/
  | failed {key : Text} {reason : Value} {t : Transfer} {after : Outbox}
      (h : o.fail key reason = .ok (t, after)) : Reported o after

/-- A transfer that is got is in the outbox, under the key. -/
theorem get_ok {o : Outbox} {key : Text} {t : Transfer} (h : o.get key = .ok t) :
    o.find? key = some t := by
  unfold get at h
  split at h
  · next hfind =>
    cases h
    exact hfind
  · cases h

/-- A report of success is taken on a transfer that is there, and replaces it. -/
theorem acknowledge_ok {o after : Outbox} {key : Text} {updated : Transfer}
    (h : o.acknowledge key = .ok (updated, after)) :
    ∃ t, o.find? key = some t ∧ updated = t.acknowledge ∧ after = o.replace updated := by
  simp only [acknowledge, bind_eq_ok, pure, Except.pure, Except.ok.injEq, Prod.mk.injEq] at h
  obtain ⟨t, hget, rfl, rfl⟩ := h
  exact ⟨t, get_ok hget, rfl, rfl⟩

/-- A report of failure is taken on a transfer that is there and not settled, and replaces it. -/
theorem fail_ok {o after : Outbox} {key : Text} {reason : Value} {updated : Transfer}
    (h : o.fail key reason = .ok (updated, after)) :
    ∃ t, o.find? key = some t ∧ t.status ≠ .acknowledged ∧ updated = t.fail reason.shown ∧
      after = o.replace updated := by
  simp only [fail, bind_eq_ok, refuseIf_eq_ok, pure, Except.pure, Except.ok.injEq,
    Prod.mk.injEq] at h
  obtain ⟨t, hget, _, hopen, _, -, rfl, rfl⟩ := h
  exact ⟨t, get_ok hget, hopen, rfl, rfl⟩

/-- A transfer after a replacement is the one that was put in, or was there before. -/
theorem mem_replace {o : Outbox} {updated t : Transfer} (h : t ∈ (o.replace updated).transfers) :
    t = updated ∨ t ∈ o.transfers := by
  obtain ⟨old, hold, rfl⟩ := List.mem_map.1 h
  split
  · exact .inl rfl
  · exact .inr hold

/-- A report on a transfer that is found changes no transfer but in its standing. -/
theorem queued_replace {o : Outbox} (ho : o.WellFormed) {key : Text} {t updated : Transfer}
    (hfind : o.find? key = some t) (hqueued : updated.asQueued = t.asQueued) :
    (o.replace updated).queued = o.queued := by
  have hkey : updated.asQueued.key = t.asQueued.key := congrArg Transfer.key hqueued
  simp only [queued, replace, List.map_map]
  refine List.map_congr_left fun u hu => ?_
  by_cases hsame : u.key = updated.key
  · have hnodup : (o.transfers.map Transfer.key).Nodup := o.map_key_dues ▸ ho
    have hut : u = t :=
      List.inj_on_of_nodup_map hnodup hu (mem_of_find? hfind).1 (hsame.trans hkey)
    rw [Function.comp_apply, if_pos hsame, hqueued, hut]
  · simp only [Function.comp_apply, if_neg hsame]

/-- Acknowledging a transfer changes its standing only. -/
theorem asQueued_acknowledge (t : Transfer) : t.acknowledge.asQueued = t.asQueued := by
  unfold Transfer.acknowledge
  split <;> rfl

/-- Acknowledging a transfer changes neither its key nor its identity. -/
theorem key_acknowledge (t : Transfer) : t.acknowledge.key = t.key ∧ t.acknowledge.id = t.id := by
  unfold Transfer.acknowledge
  split <;> exact ⟨rfl, rfl⟩

/-- A report changes no transfer but in its standing. -/
theorem Reported.queued_eq {o after : Outbox} (h : o.Reported after) (ho : o.WellFormed) :
    after.queued = o.queued := by
  cases h with
  | acknowledged h =>
    obtain ⟨t, hfind, rfl, rfl⟩ := acknowledge_ok h
    exact queued_replace ho hfind (asQueued_acknowledge t)
  | failed h =>
    obtain ⟨t, hfind, -, rfl, rfl⟩ := fail_ok h
    exact queued_replace ho hfind rfl

/-- A report changes nothing that is due. -/
theorem Reported.dues_eq {o after : Outbox} (h : o.Reported after) (ho : o.WellFormed) :
    after.dues = o.dues := by
  rw [← map_due_queued, h.queued_eq ho, map_due_queued]

end Outbox

end PredictionMarket
