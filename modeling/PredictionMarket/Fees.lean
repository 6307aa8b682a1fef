import PredictionMarket.Curve

/-!
# Attribution of fees

Collected fees belong to the holders of stakes. One accumulator, the weight, attributes them: the
raw share of a stake is its proportional part of the weight, and what the holder was paid, or was
never entitled to, is kept as withdrawn and taken off.

A new stake raises the weight by the fees it must not claim, and books the same amount as withdrawn;
giving a stake back does the reverse. Both round down, so withdrawn amounts may exceed a raw share.
A payment is therefore also bounded by the undistributed balance, the weight less all that is
withdrawn.
-/

namespace PredictionMarket

/-- Why fee accounting refuses a value. -/
inductive FeeError where
  /-- A part of the state is not an integer. -/
  | notInteger (name : String)
  /-- A part of the state is negative. -/
  | negative (name : String) (amount : Int)
  /-- A fee is not an amount. -/
  | notAFee (fee : Value)
  /-- No stake is added. -/
  | mintedNotPositive (minted : Int)
  /-- No stake is given back. -/
  | burnedNotPositive (burned : Int)
  /-- More stake is given back than there is. -/
  | burnedAboveSupply (burned supply : Int)

namespace FeeError

/-- What a fee error says. -/
def notice : FeeError → Notice
  | .notInteger name => ⟨.badType, some [name, " must be an int"]⟩
  | .negative name amount => .badValue [name, " must be non-negative: ", amount]
  | .notAFee fee => .badValue ["fee must be a non-negative int, got ", .running fee]
  | .mintedNotPositive m => .badValue ["minted must be positive: ", m]
  | .burnedNotPositive b => .badValue ["burned must be positive: ", b]
  | .burnedAboveSupply b s => .badValue ["Cannot burn more LP than supply: ", b, " > ", s]

/-- The kind of a fee error. -/
def kind (e : FeeError) : ErrorKind := e.notice.kind

/-- The text of a fee error. -/
def message (e : FeeError) : Option Text := e.notice.message

end FeeError

/-- The fee accounting of a pool. -/
structure FeeState where
  /-- The accumulator that all stakes share. -/
  weight : Int := 0
  /-- What is withdrawn by all accounts together. -/
  withdrawn : Int := 0
  deriving DecidableEq

namespace FeeState

/-- The accounting of two amounts, neither of them negative. -/
def make (weight withdrawn : Int) : Except FeeError FeeState := do
  refuseIf (weight < 0) (.negative "fee_pool_weight" weight)
  refuseIf (withdrawn < 0) (.negative "total_withdrawn_fees" withdrawn)
  return ⟨weight, withdrawn⟩

/-- An amount of the accounting, given as a value. -/
def readAmount (name : String) : Value → Except FeeError Int
  | .int n => if n < 0 then .error (.negative name n) else .ok n
  | _ => .error (.notInteger name)

/-- The accounting of two amounts, given as values. -/
def read (weight withdrawn : Value) : Except FeeError FeeState := do
  let weight ← readAmount "fee_pool_weight" weight
  let withdrawn ← readAmount "total_withdrawn_fees" withdrawn
  return ⟨weight, withdrawn⟩

/-- The part of the weight that belongs to a stake, rounded down. -/
def rawShare (s : FeeState) (stake supply : Int) : Int :=
  if supply ≤ 0 then 0 else Curve.floorDiv (s.weight * stake) supply

/-- What can be paid at all. -/
def undistributed (s : FeeState) : Int :=
  s.weight - s.withdrawn

/-- What can be paid for a stake whose holder has withdrawn the given amount. -/
def withdrawable (s : FeeState) (stake supply withdrawn : Int) : Int :=
  max 0 (min (s.rawShare stake supply - withdrawn) s.undistributed)

/-- Credits a collected fee to all stakes. -/
def accrue (s : FeeState) (fee : Int) : Except FeeError FeeState := do
  refuseIf (fee < 0) (.notAFee (.int fee))
  make (s.weight + fee) s.withdrawn

/-- Credits a fee that is given as a value. -/
def accrueValue (s : FeeState) : Value → Except FeeError FeeState
  | .int fee => s.accrue fee
  | v => .error (.notAFee v)

/-- The outcome of paying an account its fees. -/
structure Withdrawal where
  /-- The amount paid. -/
  paid : Int
  /-- What the account has withdrawn by now. -/
  withdrawn : Int
  /-- The accounting after the payment. -/
  state : FeeState
  deriving DecidableEq

/-- Pays an account all that can be paid for its stake. -/
def withdraw (s : FeeState) (stake supply withdrawn : Int) : Except FeeError Withdrawal := do
  let amount := s.withdrawable stake supply withdrawn
  if amount = 0 then return ⟨0, withdrawn, s⟩
  else
    let state ← make s.weight (s.withdrawn + amount)
    return ⟨amount, withdrawn + amount, state⟩

/-- The amount that a new stake must not claim, rounded down. -/
def ineligible (s : FeeState) (supply minted : Int) : Int :=
  if supply = 0 then 0 else Curve.floorDiv (s.weight * minted) supply

/-- Accounts for a new stake, before it joins the supply. The amount returned counts as withdrawn by
the new holder. -/
def onMint (s : FeeState) (supply minted : Int) : Except FeeError (Int × FeeState) := do
  refuseIf (minted ≤ 0) (.mintedNotPositive minted)
  let amount := s.ineligible supply minted
  let state ← make (s.weight + amount) (s.withdrawn + amount)
  return (amount, state)

/-- The weight that a stake takes along when it is given back, rounded down. -/
def releasedWeight (s : FeeState) (supply burned : Int) : Int :=
  Curve.floorDiv (s.weight * burned) supply

/-- Accounts for a stake that is given back, before it leaves the supply and after its holder was
paid. The holder's withdrawn amount falls with the weight, but not below zero. -/
def onBurn (s : FeeState) (supply burned withdrawn : Int) : Except FeeError (Int × FeeState) := do
  refuseIf (burned ≤ 0) (.burnedNotPositive burned)
  refuseIf (supply < burned) (.burnedAboveSupply burned supply)
  let released := s.releasedWeight supply burned
  let forgotten := min released withdrawn
  let state ← make (s.weight - released) (max 0 (s.withdrawn - forgotten))
  return (withdrawn - forgotten, state)

end FeeState

end PredictionMarket
