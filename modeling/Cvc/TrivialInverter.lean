import Cvc.MinMaxPower

/-!
# Inverters between two powers

The inverter that a round of `SetTrivialMinMaxPower` links its net by, as a function of the state before the round, and
`inverterNet_v`, in which the round records the net at its gates. `SetSCRCParentPower` (`CCvcDb_init.cc`) goes back along
`inverterNet_v` from the gate of a power switch to the net that has to be set. Its loop is followed for a number of rounds.
-/

namespace Cvc

open Program

/-- The inverter of a net: its transistors, the nets on their other sides and the net at their gates. -/
structure TrivialInverter where
  nmos : Nat
  pmos : Nat
  groundNet : Nat
  powerNet : Nat
  gateNet : Nat
  deriving DecidableEq, Repr

namespace FlatCircuit

variable (c : FlatCircuit)

/-- The net on the other side of a device. -/
def otherSide (device theNetId : Nat) : Option Nat :=
  if c.sourceNet device = theNetId then some (c.drainNet device)
  else if c.drainNet device = theNetId then some (c.sourceNet device)
  else none

/-- The inverter of `SetTrivialMinMaxPower` at a net, if all of its tests pass. -/
def trivialInverter (s : PropagationState) (theNetId : Nat) : Option TrivialInverter := do
  guard (c.isTrivialCandidate s.nets theNetId)
  let nmos ← c.trivialMos ModelType.isNmos theNetId
  let pmos ← c.trivialMos ModelType.isPmos theNetId
  guard (s.devices.inactive .minQueue nmos = false ∧ s.devices.inactive .maxQueue pmos = false)
  let groundNet ← c.otherSide nmos theNetId
  let powerNet ← c.otherSide pmos theNetId
  guard (c.gateNet nmos ≠ theNetId ∧ c.gateNet pmos = c.gateNet nmos ∧ isTrivialPower s.nets groundNet powerNet)
  pure ⟨nmos, pmos, groundNet, powerNet, c.gateNet nmos⟩

end FlatCircuit

/-- `inverterNet_v` with the input of the inverter that was found at a net; an input that is already there is kept. -/
def recordInverter (inverterNet : Nat → Nat) (theNetId : Nat) : Option TrivialInverter → Nat → Nat
  | some i => if inverterNet theNetId = unknownNet then Function.update inverterNet theNetId i.gateNet else inverterNet
  | none => inverterNet

namespace FlatCircuit

variable (c : FlatCircuit)

/-- One round of the loop of `SetTrivialMinMaxPower`, with `inverterNet_v`. -/
def setTrivialInverter (inverterNet : Nat → Nat) (theNetId : Nat) : DbM (Nat → Nat) := do
  let s ← read id
  c.setTrivialNet theNetId
  pure (recordInverter inverterNet theNetId (c.trivialInverter s theNetId))

/-- `CCvcDb::SetTrivialMinMaxPower`, with `inverterNet_v`. -/
def setTrivialInverters (inverterNet : Nat → Nat) : DbM (Nat → Nat) :=
  (List.range c.netCount).foldlM c.setTrivialInverter inverterNet

end FlatCircuit

/-! ## Power switches -/

/-- `netVoltagePtr_v[theNetId].full && netVoltagePtr_v[theNetId].full->simVoltage != UNKNOWN_VOLTAGE`. -/
def NetState.hasSimVoltage (s : NetState) (theNetId : Nat) : Bool :=
  (s.netVoltagePtr theNetId).any fun p => (s.power p).simVoltage != unknownVoltage

/-- The loop of `SetSCRCParentPower`: `myParentNet` and `theExpectedHighInput` after it. -/
def parentNet (inverterNet : Nat → Nat) (s : NetState) : Nat → Nat → Bool → Except Failure (Nat × Bool)
  | rounds, myParentNet, theExpectedHighInput =>
    if inverterNet myParentNet ≠ unknownNet ∧ s.hasSimVoltage myParentNet = false then
      match rounds with
      | 0 => .error .endless
      | rounds + 1 => parentNet inverterNet s rounds (inverterNet myParentNet) (!theExpectedHighInput)
    else pure (myParentNet, theExpectedHighInput)

/-- What `SetSCRCParentPower` does at the parent net. -/
inductive ScrcResult where
  /-- the net has a sim voltage -/
  | alreadySet
  /-- there is no voltage that could be expected -/
  | notSet
  /-- the net gets a power with the expected voltage -/
  | set (theNetId : Nat) (theVoltage : Int)
  /-- the net has a power, with another sim voltage -/
  | conflict
  /-- the net has a power with the expected sim voltage -/
  | agrees
  deriving DecidableEq, Repr

/-- `SetSCRCParentPower` after its loop. The final nets are those of the caches. -/
def scrcResult (s : NetState) (myParentNet : Nat) (theExpectedHighInput : Bool) : ScrcResult :=
  let queue : EventQueueType := if theExpectedHighInput then .maxQueue else .minQueue
  let myExpectedPower := s.netVoltagePtr ((s.virtualNet queue).net myParentNet).finalNetId
  if s.hasSimVoltage myParentNet then .alreadySet
  else
    match myExpectedPower with
    | none => .notSet
    | some p =>
      let myExpectedVoltage := (s.power p).queueVoltage queue
      if myExpectedVoltage = unknownVoltage ∨ (s.power p).type.hizBit then .notSet
      else
        match s.netVoltagePtr myParentNet with
        | none => .set myParentNet myExpectedVoltage
        | some own => if (s.power own).simVoltage ≠ myExpectedVoltage then .conflict else .agrees

/-- `CCvcDb::SetSCRCParentPower`, for the gate of a device. -/
def FlatCircuit.setSCRCParentPower (c : FlatCircuit) (inverterNet : Nat → Nat) (s : NetState) (rounds theDeviceId : Nat)
    (theExpectedHighInput : Bool) : Except Failure ScrcResult := do
  let (myParentNet, theExpectedHighInput) ← parentNet inverterNet s rounds (c.gateNet theDeviceId) theExpectedHighInput
  pure (scrcResult s myParentNet theExpectedHighInput)

end Cvc
