import Cvc.Types

/-!
# Powers

`CPower.cc`: the voltages of a net, where they were calculated from, and the families of powers that are related. A `CPower *` is
a number, with `none` for `NULL`; `powerSignal`, `powerAlias`, `definition` and the members of a relative set are addresses of
interned texts, equal when the texts are.

`GetBasePower` goes from a calculated power to the net it was calculated from until it finds a power that was not calculated.
Nothing in the code keeps it from going round, so it is followed for a limited number of rounds.
-/

namespace Cvc

/-- `powerType_t`: the bits of a power. -/
structure PowerType where
  powerBit : Bool := false
  inputBit : Bool := false
  hizBit : Bool := false
  resistorBit : Bool := false
  analogBit : Bool := false
  minCalculatedBit : Bool := false
  simCalculatedBit : Bool := false
  maxCalculatedBit : Bool := false
  deriving DecidableEq, Repr

/-- `CExtraPowerData`: the names and the relatives of a power, its expected and its pull voltages. -/
structure CExtraPowerData where
  expectedSim : Text := []
  expectedMin : Text := []
  expectedMax : Text := []
  powerSignal : Text := []
  powerAlias : Text := []
  family : Text := []
  implicitFamily : Text := []
  relativeSet : List Text := []
  pullDownVoltage : Int := unknownVoltage
  pullUpVoltage : Int := unknownVoltage
  deriving DecidableEq, Repr

/-- `calculationType_t`. -/
inductive CalculationType where
  | unknownCalculation | noCalculation | upCalculation | downCalculation | resistorCalculation | estimatedCalculation
  deriving DecidableEq, Repr

/-- `activeType_t`: the bits of `active`. -/
structure PowerActive where
  minActive : Bool := false
  maxActive : Bool := false
  minIgnore : Bool := false
  maxIgnore : Bool := false
  deriving DecidableEq, Repr

structure CPower where
  minVoltage : Int := unknownVoltage
  simVoltage : Int := unknownVoltage
  maxVoltage : Int := unknownVoltage
  netId : Nat := unknownNet
  defaultMinNet : Nat := unknownNet
  defaultSimNet : Nat := unknownNet
  defaultMaxNet : Nat := unknownNet
  definition : Text := []
  extraData : Option CExtraPowerData := none
  type : PowerType := {}
  active : PowerActive := {}
  minCalculationType : CalculationType := .unknownCalculation
  simCalculationType : CalculationType := .unknownCalculation
  maxCalculationType : CalculationType := .unknownCalculation
  relativeFriendly : Bool := true
  deriving DecidableEq, Repr

/-- `calculatedBit` of a `CVirtualNetVector`: which of `minNet_v`, `simNet_v` and `maxNet_v` it is. -/
inductive CalculatedBit where
  | min
  | sim
  | max
  deriving DecidableEq, Repr

/-- `CSet::Intersects`: the elements of the smaller set are looked up in the larger one. -/
def CSet.intersects (theSet theOtherSet : List Text) : Bool :=
  if theSet.length > theOtherSet.length then theOtherSet.any theSet.contains else theSet.any theOtherSet.contains

namespace CPower

/-- `type[theNet_v.calculatedBit]`. -/
def calculated (power : CPower) : CalculatedBit → Bool
  | .min => power.type.minCalculatedBit
  | .sim => power.type.simCalculatedBit
  | .max => power.type.maxCalculatedBit

/-- The default net of one of the three voltages. -/
def defaultNet (power : CPower) : CalculatedBit → Nat
  | .min => power.defaultMinNet
  | .sim => power.defaultSimNet
  | .max => power.defaultMaxNet

def expectedSim (power : CPower) : Text := (power.extraData.map (·.expectedSim)).getD []

def expectedMin (power : CPower) : Text := (power.extraData.map (·.expectedMin)).getD []

def expectedMax (power : CPower) : Text := (power.extraData.map (·.expectedMax)).getD []

def pullDownVoltage (power : CPower) : Int := (power.extraData.map (·.pullDownVoltage)).getD unknownVoltage

-- the accessor of the header returns the pull-down voltage
def pullUpVoltage (power : CPower) : Int := (power.extraData.map (·.pullDownVoltage)).getD unknownVoltage

def powerSignal (power : CPower) : Text := (power.extraData.map (·.powerSignal)).getD []

def powerAlias (power : CPower) : Text := (power.extraData.map (·.powerAlias)).getD []

def family (power : CPower) : Text := (power.extraData.map (·.family)).getD []

def implicitFamily (power : CPower) : Text := (power.extraData.map (·.implicitFamily)).getD []

def relativeSet (power : CPower) : List Text := (power.extraData.map (·.relativeSet)).getD []

/-- The relatives of a power name another one, or the two have a relative in common. -/
def namesRelative (power theTestPower : CPower) : Bool :=
  power.relativeSet.contains theTestPower.powerSignal || power.relativeSet.contains theTestPower.powerAlias ||
    (!theTestPower.relativeSet.isEmpty && CSet.intersects power.relativeSet theTestPower.relativeSet)

/-- `CPower::IsRelative`, for a test power that is not `NULL`. -/
def isRelative (power theTestPower : CPower) (theDefault theIsHiZRelative : Bool) : Bool :=
  if theIsHiZRelative && (power.type.hizBit || theTestPower.type.hizBit) then true
  else if power.relativeSet.isEmpty && theTestPower.relativeSet.isEmpty then theDefault
  else
    let myRelation := power.namesRelative theTestPower
    let myTestRelation := theTestPower.namesRelative power
    let myHasFriends := !power.family.isEmpty && power.relativeFriendly
    let myHasEnemies := !power.family.isEmpty && !power.relativeFriendly
    let myTestHasFriends := !theTestPower.family.isEmpty && theTestPower.relativeFriendly
    let myTestHasEnemies := !theTestPower.family.isEmpty && !theTestPower.relativeFriendly
    if myHasFriends && myTestHasFriends then myRelation || myTestRelation
    else if myHasFriends && myTestHasEnemies then
      if myTestRelation then false else if myRelation then true else theDefault
    else if myHasEnemies && myTestHasFriends then
      if myRelation then false else if myTestRelation then true else theDefault
    else if myHasEnemies && myTestHasEnemies then !(myRelation || myTestRelation)
    else if myHasFriends then myRelation
    else if myHasEnemies then !myRelation
    else if myTestHasFriends then myTestRelation
    -- `myTestEnemy` stays false when the test power has no family
    else !(myTestHasEnemies && myTestRelation)

/-- `CPower::IsSamePower`. -/
def isSamePower (power theMatchPower : CPower) : Bool :=
  power.type == theMatchPower.type && power.minVoltage == theMatchPower.minVoltage &&
    power.simVoltage == theMatchPower.simVoltage &&
    power.maxVoltage == theMatchPower.maxVoltage && power.expectedMin == theMatchPower.expectedMin &&
    power.expectedSim == theMatchPower.expectedSim && power.expectedMax == theMatchPower.expectedMax &&
    power.family == theMatchPower.family && power.relativeFriendly == theMatchPower.relativeFriendly

/-- A voltage to match is unknown, or it is within the threshold. -/
def isNear (voltage theMatchVoltage theThreshold : Int) : Bool :=
  theMatchVoltage == unknownVoltage || (voltage - theMatchVoltage).natAbs ≤ theThreshold

/-- `CPower::IsValidSubset`. -/
def isValidSubset (power theMatchPower : CPower) (theThreshold : Int) : Bool :=
  (theMatchPower.type == {} || power.type.powerBit && theMatchPower.type.inputBit) &&
    isNear power.minVoltage theMatchPower.minVoltage theThreshold &&
      isNear power.simVoltage theMatchPower.simVoltage theThreshold &&
    isNear power.maxVoltage theMatchPower.maxVoltage theThreshold && theMatchPower.expectedMin == [] &&
    theMatchPower.expectedSim == [] && theMatchPower.expectedMax == [] && power.isRelative theMatchPower true false

end CPower

/-- The powers, the power of each net (`netVoltagePtr_v[net].full`) and the links of the three vectors of virtual nets. -/
structure PowerNets where
  power : Nat → CPower
  netVoltagePtr : Nat → Option Nat
  next : CalculatedBit → Nat → Nat

namespace PowerNets

/-- The inner loop of `CPower::GetBasePower`: the end of the links of a net. -/
def lastNet (nets : PowerNets) (bit : CalculatedBit) : Nat → Nat → Except Failure Nat
  | rounds, myNetId =>
    if myNetId = nets.next bit myNetId then pure myNetId
    else
      match rounds with
      | 0 => .error .endless
      | rounds + 1 => nets.lastNet bit rounds (nets.next bit myNetId)

/-- The outer loop of `CPower::GetBasePower`. -/
def basePower (nets : PowerNets) (bit : CalculatedBit) (limit : Nat) : Nat → Option Nat → Nat → Except Failure (Option Nat)
  | _, none, _ => pure none
  | rounds, some myPower, myNetId =>
    let calculated := (nets.power myPower).calculated bit
    let myDefaultNet := (nets.power myPower).defaultNet bit
    let isLast := myNetId == nets.next bit myNetId
    if !calculated && isLast then pure (some myPower)
    -- no default net at the master net: `break`
    else if calculated && myDefaultNet == unknownNet && isLast then pure (some myPower)
    else
      match rounds with
      | 0 => .error .endless
      | rounds + 1 => do
        let myNetId ← nets.lastNet bit limit (if calculated && myDefaultNet != unknownNet then myDefaultNet else myNetId)
        nets.basePower bit limit rounds (nets.netVoltagePtr myNetId) myNetId

/-- `CPower::GetBasePower`, with at most `limit` rounds of each loop. -/
def getBasePower (nets : PowerNets) (limit : Nat) (bit : CalculatedBit) (power : Nat) : Except Failure (Option Nat) :=
  nets.basePower bit limit limit (some power) (nets.power power).netId

/-- The relation of two base powers. -/
def isRelatedBase (nets : PowerNets) (theDefault theIsHiZRelative : Bool) : Option Nat → Option Nat → Except Failure Bool
  | some myPower, some myTestPower =>
    let power := nets.power myPower
    let test := nets.power myTestPower
    pure (myPower == myTestPower ||
      !power.powerAlias.isEmpty && (power.powerAlias == test.powerAlias || power.powerAlias == test.powerSignal) ||
      !test.powerAlias.isEmpty && test.powerAlias == power.powerSignal ||
      power.isRelative test theDefault theIsHiZRelative)
  | _, _ => .error .assertion

/-- `CPower::IsRelatedPower`. -/
def isRelatedPower (nets : PowerNets) (limit : Nat) (power : Nat) (theTestPower : Option Nat) (theNet theTestNet : CalculatedBit)
    (theDefault theIsHiZRelative : Bool) : Except Failure Bool :=
  match theTestPower with
  | none => pure theDefault
  | some testPower => do
    let myPower ← nets.getBasePower limit theNet power
    let myTestPower ← nets.getBasePower limit theTestNet testPower
    nets.isRelatedBase theDefault theIsHiZRelative myPower myTestPower

/-- `CCvcDb::IsSCRCPower`, of a power that is not `NULL`. -/
def isSCRCPower (nets : PowerNets) (thePower : Nat) : Bool :=
  (nets.power thePower).type.hizBit && (nets.power thePower).minVoltage == (nets.power thePower).maxVoltage

/-- `IsPower_`. -/
def isPower (nets : PowerNets) (thePower : Option Nat) : Bool := thePower.any fun p => (nets.power p).type.powerBit

/-- `IsInputOrPower_`. -/
def isInputOrPower (nets : PowerNets) (thePower : Option Nat) : Bool :=
  thePower.any fun p => (nets.power p).type.inputBit || (nets.power p).type.powerBit

/-- A power with the `HIZ_BIT`. -/
def isHiz (nets : PowerNets) (thePower : Option Nat) : Bool := thePower.any fun p => (nets.power p).type.hizBit

end PowerNets
end Cvc
