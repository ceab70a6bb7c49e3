import Cvc.Inverter
import Cvc.Connection

/-!
# Opposite logic

`CheckOppositeLogic` of `CCvcDb_error.cc`. Two nets are required to be opposite. The chain of inverters of the first net is
followed and its nets are put in two sets by the number of inversions; the chain of the second one is followed until it comes to a
net of the set of the other polarity. Both are loops, followed here for a number of rounds. What is printed about a device is left
out.
-/

namespace Cvc

/-- What `CheckOppositeLogic` reads about the nets and the devices. -/
structure LogicNets extends InverterNets where
  netCount_le : netCount ≤ unknownNet
  equivalentNet : Nat → Nat
  equivalentNet_lt : ∀ n < netCount, equivalentNet n < netCount
  netVoltagePtr : Nat → Option CPower
  gates : Nat → List Nat
  deviceType : Nat → ModelType
  sourceNet : Nat → Nat
  drainNet : Nat → Nat

/-- What the check of two nets leads to: nothing to do, opposite nets, or nets that are not opposite and the devices of a net at
which that is an error. Without such a device there is only a warning in the report. -/
inductive OppositeResult where
  | ignored
  | opposite
  | error (myErrorNet : Nat) (devices : List Nat)
  deriving DecidableEq, Repr

/-- An error is raised: `myErrorCount` is not 0. -/
def OppositeResult.isError : OppositeResult → Bool
  | .error _ (_ :: _) => true
  | _ => false

/-- The loop over the first net: `mySameLogicNets` and `myInvertedNets`. -/
def collectLogicNets (inverterNet : Nat → Nat) : Nat → Nat → Bool → List Nat → List Nat → Except Failure (List Nat × List Nat)
  | rounds, net, myInverted, mySameLogicNets, myInvertedNets =>
    if net = unknownNet ∨ net ∈ mySameLogicNets then pure (mySameLogicNets, myInvertedNets)
    else
      match rounds with
      | 0 => .error .endless
      | rounds + 1 =>
        -- the assertions are about oscillators
        if myInverted then
          if inverterNet net ∈ net :: myInvertedNets then .error .assertion
          else collectLogicNets inverterNet rounds (inverterNet net) (!myInverted) mySameLogicNets (net :: myInvertedNets)
        else
          if inverterNet net ∈ net :: mySameLogicNets then .error .assertion
          else collectLogicNets inverterNet rounds (inverterNet net) (!myInverted) (net :: mySameLogicNets) myInvertedNets

/-- The loop over the second net: the net where it stops. -/
def findOppositeNet (inverterNet : Nat → Nat) (mySameLogicNets myInvertedNets : List Nat) : Nat → Nat → Bool → Except Failure Nat
  | rounds, net, myInverted =>
    if net ≠ unknownNet ∧ (myInverted ∧ net ∉ myInvertedNets ∨ ¬ myInverted ∧ net ∉ mySameLogicNets) then
      match rounds with
      | 0 => .error .endless
      | rounds + 1 => findOppositeNet inverterNet mySameLogicNets myInvertedNets rounds (inverterNet net) (!myInverted)
    else pure net

namespace LogicNets

variable (nets : LogicNets)

/-- The net has a power with `IsPower_`. -/
def isPower (theNetId : Nat) : Bool := (nets.netVoltagePtr theNetId).any fun power => power.type.powerBit

/-- Direct connections to different power. -/
def isDifferentPower (theFirstNet theSecondNet : Nat) : Bool :=
  match nets.netVoltagePtr theFirstNet, nets.netVoltagePtr theSecondNet with
  | some first, some second => first.type.powerBit && second.type.powerBit && first.simVoltage != second.simVoltage
  | _, _ => false

/-- The devices with an error at a net. -/
def oppositeErrors (theType : ModelType) (myErrorNet : Nat) : List Nat :=
  (nets.gates myErrorNet).filter fun device =>
    nets.sourceNet device != nets.drainNet device &&
      !(theType == .pmos && !(nets.deviceType device).isPmos) && !(theType == .nmos && !(nets.deviceType device).isNmos)

/-- The check of a net and its opposite net. -/
def checkOppositeNets (theType : ModelType) (rounds theNetId theOppositeNetId : Nat) : Except Failure OppositeResult := do
  let myNet := nets.equivalentNet theNetId
  let myOppositeNet := nets.equivalentNet theOppositeNetId
  if nets.isDifferentPower myNet myOppositeNet then pure .ignored
  else do
    let (mySameLogicNets, myInvertedNets) ← collectLogicNets nets.inverterNet rounds myNet false [] []
    let net ← findOppositeNet nets.inverterNet mySameLogicNets myInvertedNets rounds myOppositeNet true
    if net ≠ unknownNet then pure .opposite
    else
      let myErrorNet := if nets.isPower myNet then myOppositeNet else myNet
      pure (.error myErrorNet (nets.oppositeErrors theType myErrorNet))

/-- `CCvcDb::CheckOppositeLogic` for the nets of one requirement; the lists are walked together, up to the end of the first one.
-/
def checkOppositeLogic (theType : ModelType) (rounds : Nat) : List Nat → List Nat → Except Failure (List OppositeResult)
  | [], _ => pure []
  | _ :: _, [] => .error .undefined
  | net :: nets', opposite :: opposites => do
    let result ← nets.checkOppositeNets theType rounds net opposite
    let results ← checkOppositeLogic theType rounds nets' opposites
    pure (result :: results)

end LogicNets
end Cvc
