import PredictionMarket.Tag
import PredictionMarket.Payout

/-!
# Resolution

How an answer of the oracle becomes a payout, and which tags a new market may carry so that every
answer can. A label pays its outcome in full. A number pays the two sides of a scalar market: the
bounds and the answer are expressed in units of the market, the answer is clamped between the
bounds, and the short side gets its distance from the upper bound, in proportion and rounded down.
The long side gets the rest, so the vector always sums up to the denomination.
-/

namespace PredictionMarket

/-- Why tags are refused, or an answer does not resolve a market. -/
inductive ResolutionError where
  /-- The magnitude of a bound is negative; the name says which bound. -/
  | negativeMagnitude (bound : String) (value : Int)
  /-- A bound is zero with a minus sign. -/
  | negativeZero (bound : String)
  /-- A bound with a minus sign rounds to zero in units of the market. -/
  | negativeRoundsToZero (bound : String) (multiplier : Int)
  /-- The lower bound is not below the upper bound. -/
  | notAscending (lower upper multiplier : Int)
  /-- The upper bound has a minus sign and the lower bound has none. -/
  | crossedSigns
  /-- Of two bounds with minus signs the lower one is not below. -/
  | notAscendingNegative (lower upper multiplier : Int)
  /-- Nothing lies between the bounds. -/
  | emptyRange (low high : Int)
  /-- There are more or fewer tags than outcomes. -/
  | tagCount (tags : Nat) (outcomes : Int)
  /-- A scalar market has other than two outcomes. -/
  | scalarArity (outcomes : Int)
  /-- A bound is not a number. -/
  | notNumeric
  /-- A multiplier of a new market is zero or negative. -/
  | multiplierNotPositive
  /-- A label is empty. -/
  | emptyLabel
  /-- A categorical market has a number among its tags. -/
  | numericTag
  /-- Something is no tag. -/
  | unknownTag (type : Text)
  /-- A label occurs twice. -/
  | duplicateLabels (labels : List Text)
  /-- A multiplier is zero or negative. -/
  | badMultiplier
  /-- The range is empty when an answer arrives. -/
  | degenerateRange (low high : Int)
  /-- No outcome has the label of the answer. -/
  | labelNotFound (label : Text)
  /-- A scalar market is answered with a label. -/
  | labelForScalar
  /-- A categorical market is answered with a number. -/
  | numberForCategorical
  /-- The magnitude of an answer is negative. -/
  | negativeAnswer (value : Int)
  /-- A scalar market does not have two tags. -/
  | notTwoTags
  /-- Something is no answer. -/
  | unknownAnswer (type : Text)
  /-- A bound or an answer is computed with and is no number. -/
  | noNumber
  /-- The vector is refused. -/
  | payout (e : PayoutError)

namespace ResolutionError

/-- What a resolution error says. -/
def notice : ResolutionError → Notice
  | .negativeMagnitude bound v =>
    .refusal .validation [bound, " bound magnitude must be non-negative: ", v]
  | .negativeZero bound => .refusal .negativeZeroBound [bound, " bound is negative zero"]
  | .negativeRoundsToZero bound m =>
    .refusal .wrongBounds ["negative ", bound, " bound rounds to zero at multiplier ", m]
  | .notAscending l u m =>
    .refusal .wrongBounds ["lower bound ", l, " must be below upper bound ", u, " at multiplier ",
      m]
  | .crossedSigns =>
    .refusal .wrongBounds ["upper bound is negative while lower bound is not"]
  | .notAscendingNegative l u m =>
    .refusal .wrongBounds ["lower bound -", l, " must be below upper bound -", u,
      " at multiplier ", m]
  | .emptyRange low high =>
    .refusal .wrongBounds ["empty scalar range after rescaling: ", Value.ofInts [low, high]]
  | .tagCount n outcomes =>
    .refusal .invalidTagLength [n, " outcome tags for ", outcomes, " outcomes"]
  | .scalarArity outcomes =>
    .refusal .tooManyOutcomes ["scalar markets have exactly 2 outcomes, got ", outcomes]
  | .notNumeric => .refusal .nonNumericTag ["scalar market bounds must be numeric tags"]
  | .multiplierNotPositive =>
    .refusal .validation ["numeric tag and market multipliers must be positive"]
  | .emptyLabel => .refusal .validation ["categorical outcome labels must be non-empty"]
  | .numericTag => .refusal .validation ["numeric tags are only valid for scalar markets"]
  | .unknownTag type => ⟨.badType, some ["unknown outcome tag variant: ", type]⟩
  | .duplicateLabels labels =>
    .refusal .validation ["categorical outcome labels must be unique: ", Value.ofTexts labels]
  | .badMultiplier => .refusal .validation ["multipliers must be positive"]
  | .degenerateRange low high =>
    .refusal .wrongBounds ["degenerate scalar range after normalization: ",
      Value.ofInts [low, high]]
  | .labelNotFound label =>
    .refusal .outcomeNotFound ["answer ", label.quoted, " matches no outcome tag"]
  | .labelForScalar =>
    .refusal .validation ["scalar market cannot resolve to a categorical answer"]
  | .numberForCategorical =>
    .refusal .validation ["categorical market cannot resolve to a numeric answer"]
  | .negativeAnswer v => .refusal .validation ["answer magnitude must be non-negative: ", v]
  | .notTwoTags => .wordless .badValue
  | .unknownAnswer type => ⟨.badType, some ["unknown answer variant: ", type]⟩
  | .noNumber => .wordless .missingPart
  | .payout e => e.notice

/-- The kind of a resolution error. -/
def kind (e : ResolutionError) : ErrorKind := e.notice.kind

/-- The text of a resolution error. -/
def message (e : ResolutionError) : Option Text := e.notice.message

end ResolutionError

namespace Resolution

/-! ## The scalar line -/

/-- A magnitude in units of one multiplier, in units of another, rounded down. -/
def rescale (value fromMultiplier toMultiplier : Int) : Except ResolutionError Int := do
  refuseIf (fromMultiplier ≤ 0 ∨ toMultiplier ≤ 0) .badMultiplier
  return if fromMultiplier = toMultiplier then value
    else Curve.floorDiv (value * toMultiplier) fromMultiplier

/-- A magnitude with a sign. -/
structure Signed where
  /-- The distance from zero. -/
  magnitude : Int
  /-- Whether it lies below zero. -/
  negative : Bool
  deriving DecidableEq

/-- Two bounds and a point on one line. -/
structure Line where
  /-- The lower bound. -/
  low : Int
  /-- The upper bound. -/
  high : Int
  /-- The point. -/
  point : Int
  deriving DecidableEq

/-- Moves the bounds and a point so that none of them needs a sign: a lower bound below zero becomes
zero. A point below a lower bound is moved onto it. -/
def shift (lower upper point : Signed) : Line :=
  if lower.negative && upper.negative then
    let span := lower.magnitude - upper.magnitude
    let p :=
      if !point.negative then span
      else if lower.magnitude < point.magnitude then 0
      else lower.magnitude - point.magnitude
    ⟨0, span, p⟩
  else if lower.negative then
    let p :=
      if !point.negative then point.magnitude + lower.magnitude
      else if lower.magnitude < point.magnitude then 0
      else lower.magnitude - point.magnitude
    ⟨0, upper.magnitude + lower.magnitude, p⟩
  else
    ⟨lower.magnitude, upper.magnitude, if point.negative then lower.magnitude else point.magnitude⟩

/-! ## Tags of a new market -/

/-- Refuses a bound that is not a magnitude, or zero with a minus sign. -/
def checkBound (name : String) (bound : FixedPoint) : Except ResolutionError Unit := do
  refuseIf (bound.value < 0) (.negativeMagnitude name bound.value)
  refuseIf (bound.negative ∧ bound.value = 0) (.negativeZero name)

/-- Refuses bounds that do not enclose a range in units of the market: two without a minus sign must
ascend, two with one must descend in magnitude, and only the lower may have one alone. -/
def checkBounds (lower upper : FixedPoint) (multiplier : Int) : Except ResolutionError Unit := do
  checkBound "lower" lower
  checkBound "upper" upper
  let l ← rescale lower.value lower.multiplier multiplier
  let u ← rescale upper.value upper.multiplier multiplier
  refuseIf (lower.negative ∧ l = 0) (.negativeRoundsToZero "lower" multiplier)
  refuseIf (upper.negative ∧ u = 0) (.negativeRoundsToZero "upper" multiplier)
  refuseIf (!lower.negative ∧ !upper.negative ∧ u ≤ l) (.notAscending l u multiplier)
  refuseIf (!lower.negative ∧ upper.negative) .crossedSigns
  refuseIf (lower.negative ∧ upper.negative ∧ l ≤ u) (.notAscendingNegative l u multiplier)
  let line := shift ⟨l, lower.negative⟩ ⟨u, upper.negative⟩ ⟨0, false⟩
  refuseIf (line.high ≤ line.low) (.emptyRange line.low line.high)

/-- The number of a bound. -/
def boundOf : Tag → Except ResolutionError FixedPoint
  | .number n => .ok n
  | _ => .error .noNumber

/-- Refuses tags that are no bounds or do not enclose a range; the lower one is looked at first. -/
def checkBoundTags (lower upper : Tag) (multiplier : Int) : Except ResolutionError Unit := do
  let l ← boundOf lower
  checkBound "lower" l
  let u ← boundOf upper
  checkBounds l u multiplier

/-- The label of a tag of a categorical market. -/
def checkLabel : Tag → Except ResolutionError Text
  | .label name => if name.isEmpty then .error .emptyLabel else .ok name
  | .number _ => .error .numericTag
  | .unknown type => .error (.unknownTag type)

/-- Refuses tags that a new market must not have: there is one for each outcome, a scalar market has
two ordered bounds, and a categorical market has labels, all different. -/
def checkTags (tags : List Tag) (outcomes : Int) (isScalar : Bool) (multiplier : Int) :
    Except ResolutionError Unit := do
  refuseIf (tags.length ≠ outcomes) (.tagCount tags.length outcomes)
  if isScalar then
    refuseIf (outcomes ≠ 2) (.scalarArity outcomes)
    match tags with
    | [.number lower, .number upper] =>
      refuseIf (lower.multiplier ≤ 0 ∨ upper.multiplier ≤ 0 ∨ multiplier ≤ 0)
        .multiplierNotPositive
      checkBounds lower upper multiplier
    | _ => .error .notNumeric
  else
    let labels ← tags.mapM checkLabel
    refuseIf (¬labels.Nodup) (.duplicateLabels labels)

/-! ## Answers -/

/-- The payout of the short and the long side for a numeric answer. -/
def scalarVector (answer lower upper : FixedPoint) (denomination multiplier : Int) :
    Except ResolutionError (List Int) := do
  let l ← rescale lower.value lower.multiplier multiplier
  let u ← rescale upper.value upper.multiplier multiplier
  let a ← rescale answer.value answer.multiplier multiplier
  let line := shift ⟨l, lower.negative⟩ ⟨u, upper.negative⟩ ⟨a, answer.negative && decide (0 < a)⟩
  refuseIf (line.high ≤ line.low) (.degenerateRange line.low line.high)
  let point := min (max line.point line.low) line.high
  let short := Curve.floorDiv ((line.high - point) * denomination) (line.high - line.low)
  return [short, denomination - short]

/-- The payout of the two sides for an answer, between bounds that are given as tags. The lower
bound is looked at first and the answer last. -/
def answerVector (answer : Answer) (lower upper : Tag) (denomination multiplier : Int) :
    Except ResolutionError (List Int) := do
  let l ← boundOf lower
  let _ ← rescale l.value l.multiplier multiplier
  let u ← boundOf upper
  let _ ← rescale u.value u.multiplier multiplier
  match answer with
  | .number a => scalarVector a l u denomination multiplier
  | _ => .error .noNumber

/-- The payout for a label: the denomination to the first outcome that carries it. -/
def labelVector (label : Text) (tags : List Tag) (denomination : Int) :
    Except ResolutionError (List Int) :=
  match tags.findIdx? (· == .label label) with
  | some i => .ok ((List.replicate tags.length 0).set i denomination)
  | none => .error (.labelNotFound label)

/-- The payout numerator for an answer. -/
def resolve (answer : Answer) (tags : List Tag) (denomination : Int) (isScalar : Bool)
    (multiplier : Int) : Except ResolutionError Numerator :=
  match answer with
  | .invalid => .ok .invalid
  | .label label => do
    refuseIf isScalar .labelForScalar
    let vector ← labelVector label tags denomination
    (Numerator.ofVector vector).mapError .payout
  | .number n => do
    refuseIf (!isScalar) .numberForCategorical
    refuseIf (n.value < 0) (.negativeAnswer n.value)
    match tags with
    | [.number lower, .number upper] =>
      let vector ← scalarVector n lower upper denomination multiplier
      (Numerator.ofVector vector).mapError .payout
    | [_, _] => .error .notNumeric
    | _ => .error .notTwoTags
  | .unknown type => .error (.unknownAnswer type)

end Resolution

end PredictionMarket
