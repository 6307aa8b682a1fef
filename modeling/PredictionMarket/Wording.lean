import PredictionMarket.ErrorKind
import PredictionMarket.Value.Writable

/-!
# Wordings

What is said of an error or of an answer is put together from texts and from values that are shown.
It can be said only if every value in it can be written. An error of which nothing can be said for
that reason is not met as what it is meant to be: in its place, the number of too many digits is an
error, of a bad value.
-/

namespace PredictionMarket

/-- A stretch of a wording. -/
inductive Stretch where
  /-- A text, as it stands. -/
  | text (t : Text)
  /-- A value, in its written form. -/
  | value (v : Value)

namespace Stretch

instance : Coe Text Stretch := ⟨.text⟩

instance : Coe String Stretch := ⟨fun s => .text s⟩

instance : Coe Value Stretch := ⟨.value⟩

instance : Coe Int Stretch := ⟨fun n => .value (.int n)⟩

instance : Coe Nat Stretch := ⟨fun n => .value (.int n)⟩

/-- A value in running text: a text as it stands, anything else in its written form. -/
def running : Value → Stretch
  | .text t => .text t
  | v => .value v

/-- The value that a stretch shows, if it shows one. -/
def value? : Stretch → Option Value
  | .text _ => none
  | .value v => some v

/-- The text of a stretch. -/
def written : Stretch → Text
  | .text t => t
  | .value v => v.written

end Stretch

/-- What is said: stretches in a row. -/
abbrev Wording := List Stretch

namespace Wording

/-- The values that a wording shows. -/
def values (w : Wording) : List Value :=
  w.filterMap Stretch.value?

/-- Whether a wording can be written: every value in it can. -/
def isWritable (w : Wording) : Bool :=
  Value.areWritable w.values

/-- The text of a wording. -/
def written (w : Wording) : Text :=
  w.flatMap Stretch.written

/-- The text of a wording, if it can be written. -/
def text? (w : Wording) : Option Text :=
  if w.isWritable then some w.written else none

end Wording

/-- What an error is to its callers. -/
structure Notice where
  /-- The kind that the error is meant to have. -/
  meant : ErrorKind
  /-- The wording, for an error that has one of its own. -/
  words : Option Wording := none

namespace Notice

/-- A call is turned down, with these words. -/
def refusal (r : Refusal) (words : Wording) : Notice := ⟨.refusal r, some words⟩

/-- A value is bad, with these words. -/
def badValue (words : Wording) : Notice := ⟨.badValue, some words⟩

/-- An error of some kind, with no words of its own. -/
def wordless (kind : ErrorKind) : Notice := ⟨kind, none⟩

/-- The values that the wording shows. -/
def shown (n : Notice) : List Value :=
  (n.words.getD []).values

/-- Whether the error can be put into words: it shows nothing that cannot be written. -/
def isWorded (n : Notice) : Bool :=
  Value.areWritable n.shown

/-- The kind of the error. One that cannot be put into words is one of a bad value instead. -/
def kind (n : Notice) : ErrorKind :=
  if n.isWorded then n.meant else .badValue

/-- The text of the error, if it has one. -/
def message (n : Notice) : Option Text :=
  n.words.bind Wording.text?

/-- A refusal is an error that is meant as one and can be put into words. -/
theorem kind_eq_refusal {n : Notice} {r : Refusal} :
    n.kind = .refusal r ↔ n.isWorded = true ∧ n.meant = .refusal r := by
  unfold kind
  split
  · next h => exact ⟨fun hmeant => ⟨h, hmeant⟩, And.right⟩
  · next h => exact ⟨nofun, fun hworded => absurd hworded.1 h⟩

end Notice

end PredictionMarket
