import Cvc.Lib.DescendingForest
import Cvc.Power

/-!
# Shorting switches

`SetEquivalentNets` of `CCvcDb_init.cc`. Every switch merges the classes of its two nets. `equivalentNet_v` leads down to the
least net of a class, a map has the other nets of the class of each least net, and the power of a class is stored at every net of
it. Two classes with the same power are left apart, and so are two with powers that are not subsets of each other; the second case
is reported as a short. At the end every net gets the net that represents its class, and a power is kept only at its own net.

`instancePtr_v` and the models are left out: the switches come as a list of pairs of nets, in the order of the loops.
-/

namespace Cvc

/-- The nets, the powers at their own nets, and the nets of the source and the drain of each switch. -/
structure SwitchNets where
  netCount : Nat
  netCount_lt : netCount < 2 ^ 31
  power : Nat → CPower
  netVoltagePtr : Nat → Option Nat
  own : ∀ n p, netVoltagePtr n = some p → (power p).netId = n ∧ n < netCount
  cvcShortErrorThreshold : Int
  switches : List (Nat × Nat)
  switches_lt : ∀ d ∈ switches, d.1 < netCount ∧ d.2 < netCount

/-- `equivalentNet_v`, `netVoltagePtr_v` and the `CNetMap` of the classes; a net that the map does not have has an empty list. -/
structure SwitchState where
  equivalentNet : Nat → Nat
  netVoltagePtr : Nat → Option Nat
  netMap : Nat → List Nat

/-- `CCvcDb::GetLeastEquivalentNet`. -/
def getLeastEquivalentNet (equivalentNet : Nat → Nat) (theNetId : Nat) : Nat :=
  if theNetId = unknownNet then unknownNet else DescendingForest.root equivalentNet theNetId

namespace SwitchNets

variable (nets : SwitchNets)

/-- `CCvcDb::GetEquivalentNet`. -/
def getEquivalentNet (isFixedEquivalentNet : Bool) (s : SwitchState) (theNetId : Nat) : Nat :=
  if theNetId = unknownNet then unknownNet
  else
    let theNetId := if isFixedEquivalentNet then s.equivalentNet theNetId else getLeastEquivalentNet s.equivalentNet theNetId
    match s.netVoltagePtr theNetId with
    | some myPower => if (nets.power myPower).netId ≠ unknownNet then (nets.power myPower).netId else theNetId
    | none => theNetId

/-- `CCvcDb::SetMasterPower`: the power and `theSamePowerFlag`. -/
def setMasterPower (netVoltagePtr : Nat → Option Nat) (theFirstNetId theSecondNetId : Nat) : Except Failure (Option Nat × Bool) :=
  match netVoltagePtr theFirstNetId, netVoltagePtr theSecondNetId with
  | none, mySecondPower => .ok (mySecondPower, false)
  | some myFirstPower, none => .ok (some myFirstPower, false)
  | some myFirstPower, some mySecondPower =>
    let first := nets.power myFirstPower
    let second := nets.power mySecondPower
    if first.isSamePower second then .ok (none, true)
    else if first.isValidSubset second nets.cvcShortErrorThreshold then .ok (some myFirstPower, true)
    else if second.isValidSubset first nets.cvcShortErrorThreshold then .ok (some mySecondPower, true)
    else .error .eEquivalenceError

/-- The merge at the end of `CCvcDb::MakeEquivalentNets`. -/
def mergeNets (s : SwitchState) (myLesserNetId myGreaterNetId : Nat) (myMasterPower : Option Nat) : SwitchState :=
  let myMinorNetId := if s.netVoltagePtr myGreaterNetId = myMasterPower then myLesserNetId else myGreaterNetId
  { equivalentNet := Function.update s.equivalentNet myGreaterNetId myLesserNetId
    netVoltagePtr :=
      match myMasterPower with
      | none => s.netVoltagePtr
      | some _ =>
        (s.netMap myMinorNetId).foldl (fun netVoltagePtr net => Function.update netVoltagePtr net myMasterPower)
          (Function.update s.netVoltagePtr myMinorNetId myMasterPower)
    netMap :=
      Function.update
        (Function.update s.netMap myLesserNetId (s.netMap myGreaterNetId ++ myGreaterNetId :: s.netMap myLesserNetId))
        myGreaterNetId [] }

/-- `CCvcDb::MakeEquivalentNets`. -/
def makeEquivalentNets (s : SwitchState) (theFirstNetId theSecondNetId : Nat) : Except Failure SwitchState := do
  let theFirstNetId := getLeastEquivalentNet s.equivalentNet theFirstNetId
  let theSecondNetId := getLeastEquivalentNet s.equivalentNet theSecondNetId
  if theFirstNetId = theSecondNetId then pure s
  else
    let myLesserNetId := min theFirstNetId theSecondNetId
    let myGreaterNetId := max theFirstNetId theSecondNetId
    let (myMasterPower, mySamePowerFlag) ← nets.setMasterPower s.netVoltagePtr theFirstNetId theSecondNetId
    if mySamePowerFlag && myMasterPower.isNone then pure s
    else pure (mergeNets s myLesserNetId myGreaterNetId myMasterPower)

/-- One round of the loop over the switches of `CCvcDb::SetEquivalentNets`: an `EEquivalenceError` is reported. -/
def shortSwitch (s : SwitchState) (switch : Nat × Nat) : SwitchState :=
  match nets.makeEquivalentNets s switch.1 switch.2 with
  | .ok s' => s'
  | .error _ => s

/-- One round of the last loop of `CCvcDb::SetEquivalentNets`. -/
def fixEquivalentNet (s : SwitchState) (net : Nat) : SwitchState :=
  { s with
    equivalentNet := Function.update s.equivalentNet net (nets.getEquivalentNet false s net)
    netVoltagePtr :=
      match s.netVoltagePtr net with
      | some myPower => if net ≠ (nets.power myPower).netId then Function.update s.netVoltagePtr net none else s.netVoltagePtr
      | none => s.netVoltagePtr }

/-- The nets of the last loop: its counter is an `int`, negative from the start if there are too many nets. -/
def fixedNets : List Nat := if nets.netCount ≤ 2 ^ 31 then (List.range nets.netCount).reverse else []

/-- `equivalentNet_v` and `netVoltagePtr_v` before the loop over the switches. -/
def start : SwitchState where
  equivalentNet net := net
  netVoltagePtr := nets.netVoltagePtr
  netMap _ := []

/-- `CCvcDb::SetEquivalentNets`. -/
def setEquivalentNets : SwitchState :=
  nets.fixedNets.foldl nets.fixEquivalentNet (nets.switches.foldl nets.shortSwitch nets.start)

end SwitchNets
end Cvc
