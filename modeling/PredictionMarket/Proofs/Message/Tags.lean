import PredictionMarket.Proofs.Message.Part

/-!
# Tags are read back

The plain form of a tag is a wire form of it: a label under its key, or a signed number of which
nothing is left out. So a tag that came in by a message is read back from what a market shows. The
oracle says labels and numbers in the same form, and one more word for an invalid market.
-/

namespace PredictionMarket

/-- What the oracle says with the label or the number of a tag. -/
def Tag.answer : Tag → Answer
  | .label name => .label name
  | .number n => .number n
  | .unknown type => .unknown type

namespace Part

open Wire

/-- A tag in range has a plain form, which is what is written for it. -/
theorem toValue?_of_inRange {tag : Tag} (h : tag.InRange) : tag.toValue? = .ok (writeTag tag) := by
  cases tag with
  | label name => rfl
  | number n =>
    simp only [Tag.toValue?, writeTag, dictionary, entries, worded, numberFields, Value.record,
      List.map_cons, List.map_nil]
  | unknown type => exact h.elim

/-- What is written for a tag in range is read as the tag, by any name. -/
theorem readTag_writeTag {tag : Tag} (h : tag.InRange) (name : Text) :
    readTag name (writeTag tag) = .ok tag :=
  readTag_eq_ok.2 ⟨h, saysTag_writeTag h⟩

/-- What is accepted as a tag has a plain form, which is accepted as the same tag. -/
theorem exists_readTag {name : Text} {v : Value} {tag : Tag} (h : readTag name v = .ok tag) :
    ∃ w, tag.toValue? = .ok w ∧ ∀ name', readTag name' w = .ok tag := by
  have hrange := (readTag_eq_ok.1 h).1
  exact ⟨_, toValue?_of_inRange hrange, readTag_writeTag hrange⟩

/-- An answer that is not a text is read as a tag is. -/
theorem readAnswer_eq_map {v : Value} (h : ∀ t, v ≠ .text t) (name : Text) :
    readAnswer name v = (readTag name v).map Tag.answer := by
  have hbody (key : Text) (body : Value) :
      (if key = "String" then do return Answer.label (← readText (name ++ ".String") body)
        else if key = "Number" then do return Answer.number (← readNumber (name ++ ".Number") body)
        else .error (.unknownForm name key) : Except PartError Answer) =
      (if key = "String" then do return Tag.label (← readText (name ++ ".String") body)
        else if key = "Number" then do return Tag.number (← readNumber (name ++ ".Number") body)
        else .error (.unknownForm name key) : Except PartError Tag).map Tag.answer := by
    split
    · cases readText (name ++ ".String") body <;> rfl
    · split
      · cases readNumber (name ++ ".Number") body <;> rfl
      · rfl
  unfold readAnswer readTag
  split
  · next t => exact absurd rfl (h t)
  · cases readForm name v with
    | error e => rfl
    | ok form => exact hbody form.1 form.2

/-- No text is a tag. -/
theorem readTag_text (name t : Text) (tag : Tag) : readTag name (.text t) ≠ .ok tag :=
  fun h => nomatch h

/-- An answer is accepted exactly if it is the word for an invalid market, or is accepted as a tag;
it then says the same label or number. -/
theorem readAnswer_eq_ok {name : Text} {v : Value} {a : Answer} :
    readAnswer name v = .ok a ↔
      (v = .text "Invalid" ∧ a = .invalid) ∨ ∃ tag, readTag name v = .ok tag ∧ a = tag.answer := by
  by_cases htext : ∃ t, v = .text t
  · obtain ⟨t, rfl⟩ := htext
    have hnone : ¬∃ tag, readTag name (.text t) = .ok tag ∧ a = tag.answer :=
      fun ⟨tag, htag, _⟩ => readTag_text name t tag htag
    rw [or_iff_left hnone, readAnswer, Value.text.injEq]
    split
    · next hword => simp [hword, eq_comm]
    · next hword => simp [hword]
  · have hother : ∀ t, v ≠ .text t := fun t h => htext ⟨t, h⟩
    rw [or_iff_right fun h => hother _ h.1, readAnswer_eq_map hother]
    cases readTag name v with
    | error e => simp [Except.map]
    | ok tag => simp [Except.map, eq_comm]

end Part

end PredictionMarket
