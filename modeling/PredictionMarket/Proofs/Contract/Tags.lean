import PredictionMarket.Proofs.Contract.Moves
import PredictionMarket.Proofs.Message.RoundTrip
import PredictionMarket.Proofs.Message.Tags

/-!
# The tags of a market are shown as they came in

A transfer that creates a market brings the tags of its outcomes in a message, and what is accepted
from a message is in range. The market keeps its tags for good. So whatever happens to the contract
afterwards, the tags that the market shows are read back as the ones that it has.
-/

namespace PredictionMarket

open Wire

/-- A market that can be shown at any time, as long as its amounts can be written, with a list of
tags each of which is read, by any name, as the tag of its outcome. -/
def Market.ShowsTags (m : Market) : Prop :=
  ∀ now, ∃ es shown, m.toValue now = .ok (.object es) ∧
    (m.describe now = .ok (.object es) ↔ ∀ n ∈ m.numerals, Text.canWrite n = true) ∧
    Value.lookup "outcome_tags" es = some (.list shown) ∧
    List.Forall₂ (fun tag v => ∀ name, Part.readTag name v = .ok tag) m.tags shown

/-- Tags in range are written one by one. -/
theorem Tag.mapM_toValue? {tags : List Tag} (h : ∀ tag ∈ tags, tag.InRange) :
    tags.mapM toValue? = .ok (tags.map writeTag) := by
  rw [mapM_eq_ok, List.forall₂_map_right_iff]
  exact List.forall₂_same.2 fun tag htag => Part.toValue?_of_inRange (h tag htag)

/-- A market whose tags are in range shows them. -/
theorem Market.showsTags {m : Market} (h : ∀ tag ∈ m.tags, tag.InRange) : m.ShowsTags := by
  intro now
  have hvalue : ∃ es, m.toValue now = .ok (.object es) ∧
      Value.lookup "outcome_tags" es = some (.list (m.tags.map writeTag)) := by
    unfold toValue
    rw [Tag.mapM_toValue? h]
    exact ⟨_, rfl, rfl⟩
  obtain ⟨es, hes, hlookup⟩ := hvalue
  refine ⟨es, _, hes, ?_, hlookup, ?_⟩
  · simp only [describe, hes, ok_bind, bind_eq_ok, refuseIf_eq_ok, pure, Except.pure, and_true,
      exists_const, Bool.not_eq_true', Bool.not_eq_false, List.all_eq_true]
  rw [List.forall₂_map_right_iff]
  exact List.forall₂_same.2 fun tag htag => Part.readTag_writeTag (h tag htag)

namespace Contract

/-- The terms of a market that a transfer is to create are in range. -/
theorem route_createMarket {c : Contract} {token amount message bond : Value} {now time : Int}
    {r : Route} {terms : MarketTerms} (h : c.route token amount message now = .ok r)
    (haction : r.action = .createMarket terms bond time) : terms.InRange := by
  simp only [route, bind_eq_ok, mapError_eq_ok] at h
  obtain ⟨_, -, _, -, purpose, hpurpose, h⟩ := h
  obtain ⟨_, _, _, -, -, -, -, hrange, -⟩ := Message.parse_eq_ok.1 hpurpose
  cases purpose with
  | createMarket given =>
    simp only [bind_eq_ok, pure, Except.pure, Except.ok.injEq] at h
    obtain ⟨_, -, rfl⟩ := h
    cases haction
    exact hrange
  | addLiquidity _ _ | buy _ _ _ =>
    simp only [bind_eq_ok, pure, Except.pure, Except.ok.injEq] at h
    obtain ⟨_, -, rfl⟩ := h
    cases haction

/-- A market that a transfer creates has tags in range. -/
theorem inRange_of_transfer {c : Contract} {sender : Text} {token amount message : Value}
    {now : Int} {n : Nat} {m : Market} (hnone : c.arena.markets[n]? = none)
    (hcreated : (c.step (.transfer sender token amount message now)).after.arena.markets[n]? =
      some m) : ∀ tag ∈ m.tags, tag.InRange := by
  rcases c.step_reshapes (.transfer sender token amount message now) with
    hsame | ⟨asker, action, hrequest, hreshapes⟩
  · rw [hsame, hnone] at hcreated
    cases hcreated
  · obtain ⟨terms, bond, time, decimals, rfl, -, hmade⟩ :=
      hreshapes.opened_of_new hnone hcreated
    obtain ⟨pool, -, rfl⟩ := newMarket_ok hmade
    rcases c.request?_transfer sender token amount message now with
      ⟨_, -, hrefused⟩ | ⟨r, hroute, hrouted⟩
    · rw [hrefused] at hrequest
      cases hrequest
    · rw [hrouted, Option.some.injEq, Prod.mk.injEq] at hrequest
      exact (route_createMarket hroute hrequest.2).tags

/-- **Tags survive the wire**: a market that a transfer creates keeps its tags, and after every run
it shows them, at any time, in a form in which they are read back. Every value that is accepted as a
tag is accepted as the same tag in the form in which it would be shown. And the answers that are
accepted are just the tags, with the same label or the same number, and the word for an invalid
market. -/
theorem tags_survive_wire :
    (∀ c : Contract, c.Reachable → ∀ sender token amount message now (n : Nat) (m : Market),
      c.arena.markets[n]? = none →
      (c.step (.transfer sender token amount message now)).after.arena.markets[n]? = some m →
      ∀ calls, ∃ after : Market,
        ((c.step (.transfer sender token amount message now)).after.run calls).arena.markets[n]? =
          some after ∧ after.tags = m.tags ∧ after.ShowsTags) ∧
    (∀ name v tag, Part.readTag name v = .ok tag →
      ∃ w, tag.toValue? = .ok w ∧ ∀ name', Part.readTag name' w = .ok tag) ∧
    ∀ name v answer, Part.readAnswer name v = .ok answer ↔
      (v = .text "Invalid" ∧ answer = .invalid) ∨
        ∃ tag, Part.readTag name v = .ok tag ∧ answer = tag.answer := by
  refine ⟨?_, fun _ _ _ => Part.exists_readTag, fun _ _ _ => Part.readAnswer_eq_ok⟩
  intro c hc sender token amount message now n m hnone hcreated calls
  have hrange := inRange_of_transfer hnone hcreated
  obtain ⟨after, hafter, htags⟩ := (hc.step _).market_run (P := fun after => after.tags = m.tags)
    (fun {_ _ _ _} htags hevolves => by
      obtain ⟨_, _, _, _, _, _, rfl⟩ := hevolves.eq_with
      exact htags) hcreated rfl calls
  exact ⟨after, hafter, htags, Market.showsTags (htags ▸ hrange)⟩

/-- A contract that takes one token, and asks for no bond. -/
def oneToken : Contract :=
  make { whitelist := Table.ofList [("T", 0)], maxSwapFee := 100 } "g" "o"

/-- A message that creates a scalar market from minus five to ten and a half. -/
def scalarMessage : Text :=
  "\x7b\"CreateMarketArgs\":\x7b\"outcomes\":2,\"is_scalar\":true,\"outcome_tags\":[" ++
    "\x7b\"Number\":\x7b\"value\":\"5\",\"negative\":true\x7d\x7d," ++
    "\x7b\"Number\":\x7b\"value\":\"21\",\"multiplier\":\"2\"\x7d\x7d]," ++
    "\"end_time\":\"10\",\"resolution_time\":\"20\",\"collateral_token_id\":\"T\"," ++
    "\"scalar_multiplier\":\"2\",\"swap_fee\":\"100\"\x7d\x7d"

/-- A number without its multiplier, as a message may have it. -/
def shortForm : Value :=
  .record [("Number", .record [("value", .text "5"), ("negative", .bool true)])]

/-- The market is created with its two bounds, and shows them after it was switched off. The lower
bound, which came in without its multiplier, is shown in another form and read back from it, and the
oracle may say it as an answer. -/
theorem tags_survive_wire_scalar :
    (∃ (c : Contract) (after : Market), c.Reachable ∧ c.arena.markets[0]? = none ∧
      ((c.step (.transfer "a" (.text "T") (.int 1) (.text scalarMessage) 0)).after.run
        [.ask "g" (.switchMarket (.int 0) false)]).arena.markets[0]? = some after ∧
      after.tags = [.number ⟨5, 1, true⟩, .number ⟨21, 2, false⟩] ∧ after.ShowsTags) ∧
    (∃ w, Part.readTag "tag" shortForm = .ok (.number ⟨5, 1, true⟩) ∧ w ≠ shortForm ∧
      (Tag.number ⟨5, 1, true⟩).toValue? = .ok w ∧
      ∀ name, Part.readTag name w = .ok (.number ⟨5, 1, true⟩)) ∧
    Part.readTag "answer" shortForm = .ok (.number ⟨5, 1, true⟩) ∧
    Part.readAnswer "answer" shortForm = .ok (.number ⟨5, 1, true⟩) := by
  obtain ⟨hkept, hread, hanswers⟩ := tags_survive_wire
  refine ⟨?_, ?_, ?_⟩
  · have hreachable : oneToken.Reachable := ⟨_, _, _, [], rfl⟩
    have hcreated : (oneToken.step (.transfer "a" (.text "T") (.int 1)
        (.text scalarMessage) 0)).after.arena.markets[0]?.map Market.tags =
          some [.number ⟨5, 1, true⟩, .number ⟨21, 2, false⟩] := by
      decide +kernel
    obtain ⟨m, hm, htags⟩ := Option.map_eq_some_iff.1 hcreated
    obtain ⟨after, hafter, hsame, hshows⟩ := hkept _ hreachable "a" (.text "T") (.int 1)
      (.text scalarMessage) 0 0 m rfl hm [.ask "g" (.switchMarket (.int 0) false)]
    exact ⟨_, after, hreachable, rfl, hafter, hsame.trans htags, hshows⟩
  · have htag : Part.readTag "tag" shortForm = .ok (.number ⟨5, 1, true⟩) := rfl
    obtain ⟨w, hw, hback⟩ := hread _ _ _ htag
    refine ⟨w, htag, ?_, hw, hback⟩
    rintro rfl
    cases hw
  · have htag : Part.readTag "answer" shortForm = .ok (.number ⟨5, 1, true⟩) := rfl
    exact ⟨htag, (hanswers _ _ _).2 (.inr ⟨_, htag, rfl⟩)⟩

end Contract

end PredictionMarket
