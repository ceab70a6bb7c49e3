import Cvc.NetState

/-!
# Analog nets

`SetAnalogNets` of `CCvcDb.cc`: the nets at resistors and MOS diodes and those with an analog power are marked, and from there all
nets behind sources and drains, and behind one gate. `netStatus_v[net][ANALOG]` is a function here. The recursion is followed to a
limited depth; the code has no limit.
-/

namespace Cvc
namespace FlatCircuit

variable (c : FlatCircuit) (s : NetState)

/-- The source and the drain of a device, as master nets. -/
def endNets (d : Nat) : List Nat := [c.getEquivalentNet s (c.sourceNet d), c.getEquivalentNet s (c.drainNet d)]

/-- `mySourceId != myDrainId`. -/
def isShorted (d : Nat) : Bool := c.getEquivalentNet s (c.sourceNet d) == c.getEquivalentNet s (c.drainNet d)

/-- `CCvcDb::PropagateAnalogNetTypeByTerminal`, over the devices at a terminal, with `PropagateAnalogNetType` for one net. -/
def propagateAnalogNetTypeByTerminal (propagate : (Nat → Bool) → Nat → Except Failure (Nat → Bool)) (devices : List Nat)
    (analog : Nat → Bool) : Except Failure (Nat → Bool) :=
  devices.foldlM (fun analog d =>
    if c.isShorted s d then pure analog
    else (c.endNets s d).foldlM (fun analog net =>
      -- ignore power and already set
      if (s.netVoltagePtr net).isSome || analog net then pure analog else propagate analog net) analog) analog

/-- `CCvcDb::PropagateAnalogNetType`. -/
def propagateAnalogNetType : Nat → Nat → (Nat → Bool) → Nat → Except Failure (Nat → Bool)
  | 0, _, _, _ => .error .endless
  | depth + 1, theGateCount, analog, theNetId => do
    let myIsAlreadyAnalog := analog theNetId
    let analog := Function.update analog theNetId true
    let analog ←
      if theGateCount < 1 then
        c.propagateAnalogNetTypeByTerminal s (propagateAnalogNetType depth (theGateCount + 1)) (c.gates theNetId) analog
      else pure analog
    if myIsAlreadyAnalog then pure analog
    else do
      let analog ← c.propagateAnalogNetTypeByTerminal s (propagateAnalogNetType depth theGateCount) (c.sources theNetId) analog
      c.propagateAnalogNetTypeByTerminal s (propagateAnalogNetType depth theGateCount) (c.drains theNetId) analog

/-- A device that makes a net analog: a resistor, or a transistor with its gate at the net; `otherNet` is its other side. -/
def isAnalogDevice (otherNet : Nat → Nat) (theNetId d : Nat) : Bool :=
  c.getEquivalentNet s (otherNet d) != theNetId &&
    ((c.deviceType d).isMos && c.getEquivalentNet s (c.gateNet d) == theNetId || c.deviceType d == .resistor)

/-- `myIsAnalogNet` of the first loop of `SetAnalogNets`. Subordinate nets and powers are skipped. -/
def isAnalogNet (theNetId : Nat) : Bool :=
  theNetId == c.getEquivalentNet s theNetId && !((s.netVoltagePtr theNetId).any fun p => (s.power p).type.powerBit) &&
    ((c.sources theNetId).any (c.isAnalogDevice s c.drainNet theNetId) ||
      (c.drains theNetId).any (c.isAnalogDevice s c.sourceNet theNetId))

/-- The base nets, in the order of the two loops of `SetAnalogNets`. -/
def baseNets : List Nat :=
  (List.range c.netCount).filter (c.isAnalogNet s) ++
    (s.cvcPowerPtrList.filter fun p => (s.power p).type.analogBit).map fun p => c.getEquivalentNet s (s.power p).netId

/-- `CCvcDb::SetAnalogNets`: the nets that are marked. -/
def setAnalogNets (depth : Nat) : Except Failure (Nat → Bool) :=
  (c.baseNets s).foldlM (c.propagateAnalogNetType s depth 0) fun _ => false

end FlatCircuit
end Cvc
