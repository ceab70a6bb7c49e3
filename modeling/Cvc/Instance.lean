import Cvc.Library

/-!
# Instances

`CInstance.cc`: the netlist is flattened. `AssignTopGlobalIDs` and `AssignGlobalIDs` go down the hierarchy, number the instances,
nets and devices, and leave out the nets and devices of parallel instances: instances of one circuit whose ports are connected to
the same nets (`CDevice::FindParallelInstance`). Such an instance is folded onto the one that is kept, and everything inside it
onto what is inside that one.

`parallelInstanceCount` and `parallelInstanceId` are one word of memory (a `union`), here the field `parallelInstance`: the
count of an instance that is kept, the id it is folded onto for one that is not.

`instancePtr_v` is a map from ids: an id without an instance is a null pointer or lies behind the end of the vector. Indices into
a map of nets or the signals of a subcircuit call are in range in a well-formed hierarchy.
-/

namespace Cvc

/-- `CInstance`. -/
structure CInstance where
  firstDeviceId : Nat := 0
  firstSubcircuitId : Nat := 0
  firstNetId : Nat := 0
  parallelInstance : Nat := 0
  localToGlobalNetIdV : List Nat := []
  nextHashedInstanceId : Nat := unknownDevice
  parentId : Nat := 0
  masterName : Nat
  deriving DecidableEq, Repr

/-- `CInstance::IsParallelInstance`. -/
def CInstance.isParallelInstance (i : CInstance) : Bool := i.localToGlobalNetIdV.isEmpty

/-- The part of `CCvcDb` that flattening writes, with the instances of every circuit and their hash table. -/
structure CCvcDb where
  subcircuitCount : Nat := 0
  netCount : Nat := 0
  deviceCount : Nat := 0
  instancePtrV : Nat → Option CInstance := fun _ => none
  netParentV : List Nat := []
  deviceParentV : List Nat := []
  instanceIdV : Nat → List Nat := fun _ => []
  instanceHashIdV : Nat → Nat → Nat := fun _ _ => unknownDevice

namespace CCvcDb

/-- The instance at an id. -/
def instancePtr (db : CCvcDb) (id : Nat) : Except Failure CInstance :=
  match db.instancePtrV id with
  | none => .error .undefined
  | some i => .ok i

/-- Write the instance at an id. -/
def setInstance (db : CCvcDb) (id : Nat) (i : CInstance) : CCvcDb :=
  { db with instancePtrV := Function.update db.instancePtrV id (some i) }

/-- `parallelInstanceCount++` at an id. -/
def incrementCount (db : CCvcDb) (id : Nat) : Except Failure CCvcDb := do
  let i ← db.instancePtr id
  pure (db.setInstance id { i with parallelInstance := i.parallelInstance + 1 })

/-- `CCvcDb::CalculateMFactor`. The `int` it returns is a count, which is never negative; that it fits in 31 bits is not modelled.
-/
def calculateMFactor (db : CCvcDb) (theInstanceId : Nat) : Except Failure Nat := do
  let i ← db.instancePtr theInstanceId
  if i.isParallelInstance then pure 0
  else if i.parallelInstance > 1 then pure i.parallelInstance
  else pure 1

end CCvcDb

/-- `A_PRIME`. -/
def aPrime : Nat := 0xcc9e2d51

/-- The nets that the signals of a subcircuit call are connected to, by the net map of its parent. -/
def CDevice.portNets (d : CDevice) (portCount : Nat) (theLocalToGlobalNetIdV : List Nat) : List Nat :=
  (List.range portCount).map fun port => theLocalToGlobalNetIdV.getD (d.signalIdV.getD port 0) 0

/-- `CDevice::MakePortHash`, in unsigned 32-bit arithmetic. -/
def makePortHash (portNets : List Nat) (instanceCount : Nat) : Nat :=
  portNets.foldl (fun myHash net => (((myHash <<< 16) % 2 ^ 32) ^^^ net ^^^ myHash) * aPrime % 2 ^ 32) 0 % instanceCount

/-- All ports of an instance are connected to the given nets. -/
def CInstance.portsMatch (i : CInstance) (portNets : List Nat) : Bool :=
  (List.range portNets.length).all fun port => portNets.getD port 0 == i.localToGlobalNetIdV.getD port 0

/-- What the walk along the instances of one hash key finds: an instance with the same nets at its ports, or none and the last
instance of the chain. -/
inductive Hashed where
  | found (id : Nat)
  | last (id : Nat)
  deriving DecidableEq, Repr

namespace CCvcDb

/-- The loop of `CDevice::FindParallelInstance` from an instance on, of at most the given length. -/
def searchHashed (db : CCvcDb) (portNets : List Nat) : Nat → Nat → Except Failure Hashed
  | 0, _ => .error .undefined
  | length + 1, myCheckInstanceId => do
    let myInstance ← db.instancePtr myCheckInstanceId
    if myInstance.portsMatch portNets then pure (.found myCheckInstanceId)
    else if myInstance.nextHashedInstanceId = unknownDevice then pure (.last myCheckInstanceId)
    else db.searchHashed portNets length myInstance.nextHashedInstanceId

/-- `CDevice::FindParallelInstance`: the instance that an instance with these nets at its ports is folded onto, or its own id;
then it joins the chain of its key. -/
def findParallelInstance (db : CCvcDb) (masterName instanceCount : Nat) (theInstanceId : Nat) (portNets : List Nat) :
    Except Failure (Nat × CCvcDb) := do
  let myKey := makePortHash portNets instanceCount
  if ¬ (myKey ≠ unknownDevice ∧ myKey < instanceCount) then throw .assertion
  if db.instanceHashIdV masterName myKey = unknownDevice then
    let instanceHashIdV := Function.update (db.instanceHashIdV masterName) myKey theInstanceId
    pure (theInstanceId, { db with instanceHashIdV := Function.update db.instanceHashIdV masterName instanceHashIdV })
  else
    match ← db.searchHashed portNets db.subcircuitCount (db.instanceHashIdV masterName myKey) with
    | .found id => pure (id, db)
    | .last id =>
      let myInstance ← db.instancePtr id
      pure (theInstanceId, db.setInstance id { myInstance with nextHashedInstanceId := theInstanceId })

end CCvcDb

/-- The arguments of `CInstance::AssignGlobalIDs`; the parent is the instance at `theParentId`. -/
structure InstanceCall where
  theInstanceId : Nat
  theSubcircuit : CDevice
  theParentId : Nat
  isParallel : Bool
  deriving DecidableEq, Repr

namespace Hierarchy

variable (h : Hierarchy) (theLimit : Nat) (counts : Nat → CircuitCounts)
variable (db : CCvcDb) (call : InstanceCall)

/-- `CInstance::AssignGlobalIDs` inside a parallel instance: the instance is folded onto the one at its place in the instance
that its parent is folded onto. -/
def foldInParallel (parent : CInstance) : Except Failure CCvcDb := do
  if parent.isParallelInstance = false then throw .assertion
  let myParentParallelInstance ← db.instancePtr parent.parallelInstance
  let myInstanceOffset := call.theInstanceId - parent.firstSubcircuitId
  let parallelInstanceId := myParentParallelInstance.firstSubcircuitId + myInstanceOffset
  let this ← db.instancePtr call.theInstanceId
  let db := db.setInstance call.theInstanceId { this with parallelInstance := parallelInstanceId }
  let myParallelInstance ← db.instancePtr parallelInstanceId
  if myParallelInstance.isParallelInstance then db.incrementCount myParallelInstance.parallelInstance
  else db.incrementCount parallelInstanceId

/-- `CInstance::AssignGlobalIDs` inside a kept instance: a circuit with at most as many ports as the limit is folded onto an
instance with the same nets at its ports, if there is one. -/
def foldOrKeep (parent : CInstance) : Except Failure (CCvcDb × Bool) := do
  let masterName := call.theSubcircuit.masterName
  if call.theSubcircuit.signalIdV.length ≤ theLimit then
    let portNets := call.theSubcircuit.portNets (h.circuit masterName).portCount parent.localToGlobalNetIdV
    let (myParallelInstance, db) ←
      db.findParallelInstance masterName (counts masterName).instanceCount call.theInstanceId portNets
    let this ← db.instancePtr call.theInstanceId
    if myParallelInstance = call.theInstanceId then
      pure (db.setInstance call.theInstanceId { this with parallelInstance := 1 }, false)
    else
      let db ← db.incrementCount myParallelInstance
      pure (db.setInstance call.theInstanceId { this with parallelInstance := myParallelInstance }, true)
  else pure (db, false)

/-- `CInstance::AssignGlobalIDs` of an instance that is not parallel: its nets and devices get the next ids. -/
def expandInstance (parent : CInstance) : Except Failure CCvcDb := do
  let c := h.circuit call.theSubcircuit.masterName
  let this ← db.instancePtr call.theInstanceId
  let db := db.setInstance call.theInstanceId { this with
    firstNetId := db.netCount
    firstDeviceId := db.deviceCount
    localToGlobalNetIdV := call.theSubcircuit.portNets c.portCount parent.localToGlobalNetIdV ++
      (List.range c.localNetCount).map (db.netCount + ·) }
  pure { db with
    netCount := db.netCount + c.localNetCount
    deviceCount := db.deviceCount + c.devicePtrV.length
    netParentV := db.netParentV ++ List.replicate c.localNetCount call.theInstanceId
    deviceParentV := db.deviceParentV ++ List.replicate c.devicePtrV.length call.theInstanceId }

/-- `new CInstance` with its master, parent and the ids of the subcircuits in it; the hash table of its circuit is made for
the first instance (`CCircuit::AllocateInstances`). -/
def newInstance : CCvcDb :=
  let masterName := call.theSubcircuit.masterName
  let db := if db.instanceIdV masterName = [] then
    { db with instanceHashIdV := Function.update db.instanceHashIdV masterName fun _ => unknownDevice } else db
  let db := db.setInstance call.theInstanceId
    { firstSubcircuitId := db.subcircuitCount, parentId := call.theParentId, masterName := masterName }
  { db with instanceIdV := Function.update db.instanceIdV masterName (db.instanceIdV masterName ++ [call.theInstanceId]) }

/-- The calls that an instance makes for the subcircuits in it. -/
def subcircuitCalls (firstSubcircuitId theInstanceId : Nat) (masterName : Nat) (isParallel : Bool) : List InstanceCall :=
  (h.circuit masterName).subcircuitPtrV.zipIdx.map fun (d, offset) =>
    ⟨firstSubcircuitId + offset, d, theInstanceId, isParallel⟩

/-- `CInstance::AssignGlobalIDs` up to the loop over the subcircuits, and the calls of that loop. -/
def visitInstance : Except Failure (CCvcDb × List InstanceCall) := do
  let masterName := call.theSubcircuit.masterName
  let firstSubcircuitId := db.subcircuitCount
  let db := newInstance db call
  let parent ← db.instancePtr call.theParentId
  let (db, isParallel) ←
    if call.isParallel then do
      let db ← foldInParallel db call parent
      pure (db, true)
    else h.foldOrKeep theLimit counts db call parent
  let db ← if isParallel then pure db else h.expandInstance db call parent
  pure ({ db with subcircuitCount := db.subcircuitCount + (h.circuit masterName).subcircuitPtrV.length },
    h.subcircuitCalls firstSubcircuitId call.theInstanceId masterName isParallel)

/-- `CInstance::AssignGlobalIDs`, for a circuit of at most the given depth. -/
def assignGlobalIDs : Nat → CCvcDb → InstanceCall → Except Failure CCvcDb
  | 0, _, _ => .error .undefined
  | depth + 1, db, call => do
    let (db, calls) ← h.visitInstance theLimit counts db call
    calls.foldlM (assignGlobalIDs depth) db

/-- `CInstance::AssignTopGlobalIDs` up to the loop over the subcircuits. -/
def topInstance : CCvcDb :=
  let c := h.circuit h.topBlock
  { subcircuitCount := 1 + c.subcircuitPtrV.length
    netCount := c.localSignalIdMap.length
    deviceCount := c.devicePtrV.length
    instancePtrV := Function.update (fun _ => none) 0 (some
      { firstSubcircuitId := 1, masterName := h.topBlock, localToGlobalNetIdV := List.range c.localSignalIdMap.length })
    netParentV := List.replicate c.localSignalIdMap.length 0
    deviceParentV := List.replicate c.devicePtrV.length 0
    instanceIdV := Function.update (fun _ => []) h.topBlock [0] }

/-- The calls of `CInstance::AssignTopGlobalIDs`. -/
def topCalls : List InstanceCall := h.subcircuitCalls 1 0 h.topBlock false

/-- `CInstance::AssignTopGlobalIDs`. -/
def assignTopGlobalIDs : Except Failure CCvcDb :=
  h.topCalls.foldlM (h.assignGlobalIDs theLimit counts (h.rank h.topBlock)) h.topInstance

end Hierarchy
end Cvc
