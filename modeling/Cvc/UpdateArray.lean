import Cvc.VirtualNet
import Cvc.EventQueue
import Cvc.Lib.Trace

/-!
# The stages of a run and the update arrays

`lastUpdate_v` has a size of its own: `ResetVector` resizes it with the nets, `ClearUpdateArray` empties it and
`InitializeUpdateArray` gives it the size of the nets again. `Set` writes the entry of its net, whatever the size; `operator()`
uses the entry of its net unless the array is empty.

A stage of `VerifyCircuitForAllModes` is the calls it makes of the three tables: what it does to the arrays at its start and at
its end, and in between the link sets and reads for nets of the circuit. Which ones depends on the circuit; only the tables a
stage sets links in are fixed. `ResetMinSimMaxAndQueues` makes the same calls for every circuit with as many nets.
-/

namespace Cvc

/-- The calls of a table of virtual nets. -/
inductive TableCall where
  | resetVector (netCount : Nat) (netCount_le : netCount ≤ unknownNet)
  | clearUpdateArray
  | initializeUpdateArray
  /-- `++lastUpdate` -/
  | advance
  | set (theNetId theNextNet theResistance : Nat) (theTime : Int)
  | read (theNetId : Nat)

namespace CVirtualNetVector

/-- `lastUpdate_v.resize(size, 0)`. -/
def resizeUpdateArray (v : CVirtualNetVector) (size : Nat) : CVirtualNetVector :=
  { v with
    lastUpdateSize := size
    lastUpdateV := fun i => if i < v.lastUpdateSize then v.lastUpdateV i else 0 }

/-- One call; a failed `assert` is `none`. -/
def call (v : CVirtualNetVector) : TableCall → Option CVirtualNetVector
  | .resetVector netCount h => some { v.resizeUpdateArray netCount with size := netCount, size_le := h, net := fun _ => {} }
  | .clearUpdateArray => some { v with lastUpdateSize := 0 }
  | .initializeUpdateArray => some (v.resizeUpdateArray v.size)
  | .advance => some v.advance
  | .set n k r t => v.set n k r t
  | .read n => (CVirtualNet.operatorCall v n).map (·.2)

/-- The index at which a call accesses `lastUpdate_v`. A `Set` that is ignored, or stopped on its walk, does not come to its
write. -/
def accesses (v : CVirtualNetVector) : TableCall → List Nat
  | .set n k r t => if v.linksBack n k || (v.set n k r t).isNone then [] else [n]
  | .read n => if n = unknownNet ∨ v.lastUpdateSize = 0 then [] else [n]
  | _ => []

end CVirtualNetVector

/-- `minNet_v`, `simNet_v` and `maxNet_v`. -/
abbrev Tables := EventQueueType → CVirtualNetVector

namespace Tables

/-- A call of one of the tables. -/
def call (tables : Tables) (c : EventQueueType × TableCall) : Option Tables :=
  ((tables c.1).call c.2).map fun v => Function.update tables c.1 v

/-- The accesses of a call are below the size of the array. -/
def InBounds (tables : Tables) (c : EventQueueType × TableCall) : Prop :=
  ∀ i ∈ (tables c.1).accesses c.2, i < (tables c.1).lastUpdateSize

/-- The tables before the first mode. -/
def empty : Tables := fun _ =>
  { size := 0, size_le := Nat.zero_le _, net := fun _ => {}, lastUpdate := 0, lastUpdateSize := 0, lastUpdateV := fun _ => 0 }

end Tables

/-- The stages of a mode that use the virtual nets. The searches for errors and what `SetAnalogNets`, `SetSCRCPower` and
`SetLatchPower` do are `checks`: they read. -/
inductive Stage where
  | resetMinSimMaxAndQueues
  | shortNonConductingResistors
  | setResistorVoltagesByPower
  | resetMinMaxPower
  | setSimPower
  | checks
  deriving DecidableEq, Repr

namespace Stage

variable (netCount : Nat) (netCount_le : netCount ≤ unknownNet)

/-- What a stage does to the arrays before its first link set or read. -/
def opening : Stage → List (EventQueueType × TableCall)
  | .resetMinSimMaxAndQueues =>
    [(.maxQueue, .resetVector netCount netCount_le), (.maxQueue, .clearUpdateArray),
      (.minQueue, .resetVector netCount netCount_le), (.minQueue, .clearUpdateArray),
      (.simQueue, .resetVector netCount netCount_le), (.simQueue, .clearUpdateArray)]
  | .resetMinMaxPower => [(.minQueue, .initializeUpdateArray), (.maxQueue, .initializeUpdateArray)]
  | .setSimPower => [(.simQueue, .initializeUpdateArray)]
  | _ => []

/-- What a stage does to the arrays at its end. -/
def closing : Stage → List (EventQueueType × TableCall)
  | .resetMinMaxPower => [(.minQueue, .clearUpdateArray), (.maxQueue, .clearUpdateArray)]
  | .setSimPower => [(.simQueue, .clearUpdateArray)]
  | _ => []

/-- The tables in which a stage sets links. -/
def links : Stage → EventQueueType → Bool
  | .resetMinSimMaxAndQueues, _ => true
  | .shortNonConductingResistors, _ => true
  | .setResistorVoltagesByPower, queue => queue != .simQueue
  | .resetMinMaxPower, queue => queue != .simQueue
  | .setSimPower, queue => queue == .simQueue
  | .checks, _ => false

/-- The loop of `ResetMinSimMaxAndQueues`. -/
def resetLoop (netCount : Nat) : List (EventQueueType × TableCall) :=
  (List.range netCount).flatMap fun net => [.minQueue, .simQueue, .maxQueue].map fun queue => (queue, .set net net 0 0)

/-- A link set or a read of a stage, for a net of the circuit. -/
def AllowsCall (netCount : Nat) (stage : Stage) : EventQueueType × TableCall → Prop
  | (queue, .set theNetId _ _ _) => stage.links queue = true ∧ theNetId < netCount
  | (_, .read theNetId) => theNetId < netCount ∨ theNetId = unknownNet
  | (_, .advance) => True
  | _ => False

/-- The calls a stage may make between its opening and its closing. -/
def Allows (netCount : Nat) (stage : Stage) (body : List (EventQueueType × TableCall)) : Prop :=
  match stage with
  | .resetMinSimMaxAndQueues => body = resetLoop netCount
  | _ => ∀ c ∈ body, stage.AllowsCall netCount c

/-- The calls of a stage. -/
def calls (stage : Stage) (body : List (EventQueueType × TableCall)) : List (EventQueueType × TableCall) :=
  stage.opening netCount netCount_le ++ body ++ stage.closing

/-- The stages with their calls, one after the other. -/
def runCalls (stages : List (Stage × List (EventQueueType × TableCall))) : List (EventQueueType × TableCall) :=
  stages.flatMap fun (stage, body) => stage.calls netCount netCount_le body

end Stage
end Cvc
