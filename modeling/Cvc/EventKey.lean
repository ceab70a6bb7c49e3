import Cvc.NetState

/-!
# Whether a device is processed, and when

The part of `CCvcDb.cc` that decides about a device before anything is changed by it: whether a transistor is off (`IsOffMos`),
whether the device has to be looked at (`IsIrrelevant`, up to the conflict of two known voltages), and the key and the place of
its event (`AdjustKey`). For the sim queue, the voltage it passes on as well (`AdjustSimVoltage`).

`pending` are the pending bits of the devices for the queue in question. The texts of an adjustment are left out; where the code
asks if there is one, its place is taken by a truth value.
-/

namespace Cvc

open Program

/-- `queueStatus_t`. -/
inductive QueueStatus where
  | enqueue | dequeue
  deriving DecidableEq, Repr

/-- `propagation_t`. -/
inductive Propagation where
  | powerNetsOnly | allNetsNoFuse | allNetsAndFuse
  deriving DecidableEq, Repr

/-- `DefaultQueuePosition_`. -/
def defaultQueuePosition (flag : Bool) (queue : EventQueueType) : QueuePosition :=
  if flag || queue == .simQueue then .mainBack else .delayFront

/-- `CCvcDb::GetCalculationType`, of a power that is not `NULL`. -/
def CPower.calculationType (power : CPower) : EventQueueType → CalculationType
  | .minQueue => power.minCalculationType
  | .simQueue => power.simCalculationType
  | .maxQueue => power.maxCalculationType

/-- `EVENT_CUTOFF`. -/
def eventCutoff : Int := 2 ^ 24

/-- `MAX_EVENT_TIME`. -/
def maxEventTime : Int := 2 ^ 31 - 1

namespace FlatCircuit

variable (c : FlatCircuit)

/-! ## Transistors that are off -/

/-- `CCvcDb::TopologicallyOffMos`. -/
def topologicallyOffMos (theQueueType : EventQueueType) (theModelType : ModelType) (theConnections : CConnection) : Bool :=
  if theQueueType == .maxQueue && theModelType.isPmos || theQueueType == .minQueue && theModelType.isNmos then
    if theConnections.drainVoltage = unknownVoltage then theConnections.gateId == theConnections.sourceId
    else theConnections.sourceVoltage == unknownVoltage && theConnections.gateId == theConnections.drainId
  else if theQueueType == .maxQueue && theModelType.isNmos || theQueueType == .minQueue && theModelType.isPmos then
    if theConnections.drainVoltage = unknownVoltage then theConnections.gateId == theConnections.drainId
    else theConnections.sourceVoltage == unknownVoltage && theConnections.gateId == theConnections.sourceId
  else false

/-- The gate of a transistor keeps it off at the voltage it would pass on. -/
def isOffAtVoltage (theQueueType : EventQueueType) (theDeviceId : Nat) (theConnections : CConnection)
    (theVoltage : Int) : NetM Bool :=
  if theConnections.sourceVoltage = theVoltage ∨ theConnections.drainVoltage = theVoltage then
    if theQueueType == .maxQueue && (c.deviceType theDeviceId).isPmos then do
      let myMinGate ← c.minVoltage theConnections.gateId
      pure (myMinGate != unknownVoltage && decide (myMinGate > theVoltage + c.vth theDeviceId))
    else if theQueueType == .minQueue && (c.deviceType theDeviceId).isNmos then do
      let myMaxGate ← c.maxVoltage theConnections.gateId
      pure (myMaxGate != unknownVoltage && decide (myMaxGate < theVoltage + c.vth theDeviceId))
    else pure false
  else pure false

variable (queue : EventQueueType) (theDeviceId : Nat) (theConnections : CConnection)

/-- A transistor is off in the simulation: `gate` and `leak` are the voltages used for unknown ones, `isOff` compares a gate with
a source or drain, and `next` are the links of the propagation that would have gone back through the transistor. -/
def isOffSim (gate : Nat → NetM Int) (leak : Nat → NetM Int) (isOff : Int → Int → Bool) (next : NetState → Nat → Nat) :
    NetM Bool := do
  let myGateVoltage ←
    if theConnections.gateVoltage = unknownVoltage then gate theConnections.gateId else pure theConnections.gateVoltage
  let mySourceVoltage ←
    if theConnections.sourceVoltage = unknownVoltage then leak theConnections.sourceId else pure theConnections.sourceVoltage
  let myDrainVoltage ←
    if theConnections.drainVoltage = unknownVoltage then leak theConnections.drainId else pure theConnections.drainVoltage
  if myGateVoltage = unknownVoltage ∨ mySourceVoltage = unknownVoltage ∨ myDrainVoltage = unknownVoltage then pure false
  else
    let mySourceOff := isOff myGateVoltage mySourceVoltage
    let myDrainOff := isOff myGateVoltage myDrainVoltage
    read fun s =>
      -- prevents vth drops back through mos
      theConnections.sourceVoltage == unknownVoltage && myDrainOff && !mySourceOff &&
          next s theConnections.sourceId == theConnections.drainId ||
        theConnections.drainVoltage == unknownVoltage && !myDrainOff && mySourceOff &&
          next s theConnections.drainId == theConnections.sourceId ||
        mySourceOff && myDrainOff

/-- The test of `IsOffMos` for the sim queue. -/
def isOffSimMos : NetM Bool :=
  if (c.deviceType theDeviceId).isPmos then
    isOffSim theConnections c.minVoltage c.maxLeakVoltage (fun gate v => decide (gate > v + c.vth theDeviceId))
      fun s => (s.virtualNet .maxQueue).next
  else if (c.deviceType theDeviceId).isNmos then
    isOffSim theConnections c.maxVoltage c.minLeakVoltage (fun gate v => decide (gate < v + c.vth theDeviceId))
      fun s => (s.virtualNet .minQueue).next
  else pure false

/-- `CCvcDb::IsOffMos`. -/
def isOffMos (theQueueType : EventQueueType) (theDeviceId : Nat) (theConnections : CConnection) (theVoltage : Int) : NetM Bool :=
  if topologicallyOffMos theQueueType (c.deviceType theDeviceId) theConnections then pure true
  else do
    let off ← c.isOffAtVoltage theQueueType theDeviceId theConnections theVoltage
    if off then pure true
    else if theQueueType = .simQueue then c.isOffSimMos theDeviceId theConnections
    else pure false

/-! ## Devices that are irrelevant -/

/-- `CCvcDb::LastNmosConnection` and `CCvcDb::LastPmosConnection`. -/
def lastConnection (isMos : ModelType → Bool) (pending : Nat → Bool) (theNetId : Nat) : Bool :=
  decide ((c.sources theNetId ++ c.drains theNetId).countP (fun d => isMos (c.deviceType d) && pending d) < 2)

def lastNmosConnection (pending : Nat → Bool) (theNetId : Nat) : Bool := c.lastConnection ModelType.isNmos pending theNetId

def lastPmosConnection (pending : Nat → Bool) (theNetId : Nat) : Bool := c.lastConnection ModelType.isPmos pending theNetId

/-- A transistor that is off and connects two known voltages: the higher of two min voltages, or the lower of two max voltages,
has a connection. -/
def clearOffConnection (s : NetState) : NetState :=
  let clear (needed : NetFlags → Bool) (clear : NetFlags → NetFlags) (isBeyond : Int → Int → Bool) : NetState :=
    if needed (s.netStatus theConnections.sourceId) && isBeyond theConnections.sourceVoltage theConnections.drainVoltage then
      s.modifyStatus theConnections.sourceId clear
    else if needed (s.netStatus theConnections.drainId) && isBeyond theConnections.drainVoltage theConnections.sourceVoltage then
      s.modifyStatus theConnections.drainId clear
    else s
  match queue with
  | .minQueue => clear NetFlags.needsMinConnection ({ · with needsMinConnection := false }) fun v w => decide (v > w)
  | .maxQueue => clear NetFlags.needsMaxConnection ({ · with needsMaxConnection := false }) fun v w => decide (v < w)
  | .simQueue => s

/-- An off transistor to an unknown net is irrelevant unless it may be the last connection of the net. -/
def isIrrelevantOffTarget (theDeviceId myTargetNet : Nat) (pending : Nat → Bool) (dequeueCount : Nat) : Bool :=
  -- first time enqueue all off mos, subsequently only process last connections
  if queue == .minQueue && (c.deviceType theDeviceId).isNmos then
    decide (dequeueCount > 0) && !c.lastNmosConnection pending myTargetNet
  else if queue == .maxQueue && (c.deviceType theDeviceId).isPmos then
    decide (dequeueCount > 0) && !c.lastPmosConnection pending myTargetNet
  else true

/-- What `IsIrrelevant` does about a transistor that is off. -/
def isIrrelevantOffMos (pending : Nat → Bool) (dequeueCount : Nat) : NetM Bool :=
  if c.leakVoltageSet then pure true
  -- first time, propagate thru off mos if only chance
  else if theConnections.sourceVoltage = unknownVoltage then
    pure (c.isIrrelevantOffTarget queue theDeviceId theConnections.sourceId pending dequeueCount)
  else if theConnections.drainVoltage = unknownVoltage then
    pure (c.isIrrelevantOffTarget queue theDeviceId theConnections.drainId pending dequeueCount)
  else do
    update (clearOffConnection queue theConnections)
    pure true

/-- `CCvcDb::IsIrrelevant`, up to the check for a conflict. -/
def isIrrelevantConnection (theVoltage : Int) (theQueueStatus : QueueStatus) (pending : Nat → Bool)
    (dequeueCount : Nat) : NetM Bool :=
  if theConnections.masterSourceNet.isEqual theConnections.masterDrainNet then pure true
  -- MIN/MAX queues don't check for off mos because not in order
  else if theQueueStatus == .enqueue && queue != .simQueue then pure false
  else do
    let off ← c.isOffMos queue theDeviceId theConnections (int16 theVoltage)
    if off then c.isIrrelevantOffMos queue theDeviceId theConnections pending dequeueCount else pure false

/-! ## Keys -/

/-- `AdjustMaxPmosKey` and `AdjustMinNmosKey`: the key and the queue position. -/
def adjustDiodeKey (gt : Int → Int → Prop) [DecidableRel gt] (opposite : ModelType) (s : NetState) (theConnections : CConnection)
    (theDrainId : Nat) (theSource theEventKey : Int) (theQueuePosition : QueuePosition) : Int × QueuePosition :=
  let vth := c.vth theConnections.deviceId
  if theConnections.gateId = theDrainId then (if gt 0 vth then theEventKey + vth else theEventKey, .mosDiode)
  else if theConnections.bulkVoltage = unknownVoltage ∨ gt theSource theConnections.bulkVoltage then (theEventKey, .delayBack)
  else (theEventKey, if (s.connectionCount theDrainId).sourceDrainType opposite then .delayFront else theQueuePosition)

/-- `CCvcDb::AdjustMaxPmosKey`. -/
def adjustMaxPmosKey := c.adjustDiodeKey (· > ·) .nmos

/-- `CCvcDb::AdjustMinNmosKey`. -/
def adjustMinNmosKey := c.adjustDiodeKey (· < ·) .pmos

/-- `AdjustMaxNmosKey` and `AdjustMinPmosKey`: the key and the queue position. -/
def adjustGateKey (voltage : Nat → NetM Int) (le : Int → Int → Prop) [DecidableRel le] (theSimGate theSource theEventKey : Int) :
    NetM (Int × QueuePosition) := do
  let vth := c.vth theConnections.deviceId
  -- do not use sim on first pass
  let myGateVoltage ← if !c.isFixedSimNet || theSimGate == unknownVoltage then voltage theConnections.gateId else pure theSimGate
  if myGateVoltage = unknownVoltage then
    read fun s =>
      if (s.connectionCount theConnections.gateId).sourceDrainCount = 0 then
        (if ¬ le vth 0 then theEventKey - vth else theEventKey, .delayBack)
      else (theEventKey, .skipQueue)
  else if le (myGateVoltage - vth) theSource then pure (myGateVoltage - vth, .delayBack)
  else pure (theSource, .delayBack)

/-- `CCvcDb::AdjustMaxNmosKey`. -/
def adjustMaxNmosKey := c.adjustGateKey theConnections c.maxVoltage (· ≤ ·)

/-- `CCvcDb::AdjustMinPmosKey`. -/
def adjustMinPmosKey := c.adjustGateKey theConnections c.minVoltage (· ≥ ·)

/-- The queue position of `AdjustKey` for a transistor in the sim queue. -/
def simQueuePosition (myLinkVoltage : Int) (myIsCalculatedPower : Bool) (theQueuePosition : QueuePosition) :
    NetM QueuePosition := do
  let vth := c.vth theDeviceId
  let type := c.deviceType theDeviceId
  if theConnections.gateId = theConnections.sourceId ∨ theConnections.gateId = theConnections.drainId then pure .delayFront
  else if theConnections.gateVoltage = unknownVoltage then do
    -- check always on
    let myMinGateVoltage ← c.minVoltage theConnections.gateId
    let myMaxGateVoltage ← c.maxVoltage theConnections.gateId
    if type.isNmos && myMinGateVoltage != unknownVoltage && decide (myMinGateVoltage > myLinkVoltage + vth) ||
        type.isPmos && myMaxGateVoltage != unknownVoltage && decide (myMaxGateVoltage < myLinkVoltage + vth) then
      pure theQueuePosition
    else pure .skipQueue
  -- off devices delayed
  else if type.isNmos && decide (theConnections.gateVoltage < myLinkVoltage + vth) then pure .delayFront
  else if type.isPmos && decide (theConnections.gateVoltage > myLinkVoltage + vth) then pure .delayFront
  else if myIsCalculatedPower then pure .delayFront
  else pure theQueuePosition

/-- `CCvcDb::AdjustKey` of a transistor, from the power it is propagated from. -/
def adjustMosKey (theEventKey : Int) (theDirection : ShortDirection) (power : CPower) : NetM (Int × QueuePosition) :=
  let myLinkNetId := theConnections.slaveId theDirection
  let myLinkVoltage := theConnections.masterVoltage theDirection
  let theQueuePosition := defaultQueuePosition power.type.powerBit queue
  -- no voltage change for HiZ nets in second min/max
  let unchanged := c.leakVoltageSet && power.type.hizBit
  match queue with
  | .maxQueue =>
    if (c.deviceType theDeviceId).isPmos then
      if unchanged then pure (theEventKey, .queueHiz)
      else read fun s => c.adjustMaxPmosKey s theConnections myLinkNetId myLinkVoltage theEventKey theQueuePosition
    else if unchanged then pure (theEventKey, .delayBack)
    else do
      let theSimGate ← c.simVoltage theConnections.gateId
      c.adjustMaxNmosKey theConnections theSimGate myLinkVoltage theEventKey
  | .minQueue =>
    if (c.deviceType theDeviceId).isNmos then
      if unchanged then pure (theEventKey, .queueHiz)
      else read fun s => c.adjustMinNmosKey s theConnections myLinkNetId myLinkVoltage theEventKey theQueuePosition
    else if unchanged then pure (theEventKey, .delayBack)
    else do
      let theSimGate ← c.simVoltage theConnections.gateId
      c.adjustMinPmosKey theConnections theSimGate myLinkVoltage theEventKey
  | .simQueue => do
    let theQueuePosition ←
      c.simQueuePosition theDeviceId theConnections myLinkVoltage power.type.simCalculatedBit theQueuePosition
    pure (theEventKey, theQueuePosition)

/-- The assertion at the top of `AdjustKey`. -/
def isAdjustable : Bool :=
  theConnections.sourceVoltage == unknownVoltage && theConnections.drainVoltage != unknownVoltage ||
    theConnections.sourceVoltage != unknownVoltage && theConnections.drainVoltage == unknownVoltage ||
    queue == .simQueue && theConnections.gateVoltage == unknownVoltage

/-- `CCvcDb::AdjustKey`: the key and the queue position. -/
def adjustKey (theEventKey : Int) (theQueuePosition : QueuePosition) (theDirection : ShortDirection) :
    NetM (Int × QueuePosition) := do
  ensure (isAdjustable queue theConnections) (.assertion "AdjustKey: one of the voltages is unknown")
  if (c.deviceType theDeviceId).isMos then do
    let power ← powerAt (theConnections.masterPower theDirection)
    c.adjustMosKey queue theDeviceId theConnections theEventKey theDirection power
  -- process fuses last
  else pure (theEventKey, if (c.deviceType theDeviceId).isFuse then .delayBack else theQueuePosition)

/-! ## The sim queue -/

/-- `CCvcDb::SimKey`. -/
def simKey (theCurrentKey : Int) (theIncrement : Nat) : NetM Int := do
  let myEventKey := if theCurrentKey < eventCutoff then theCurrentKey else eventCutoff + (theCurrentKey - eventCutoff) * 2 ^ 8
  let myEventKey := myEventKey + theIncrement
  let myEventKey := if myEventKey > eventCutoff then eventCutoff + (myEventKey - eventCutoff) / 2 ^ 8 else myEventKey
  ensure (decide (myEventKey < maxEventTime)) (.assertion "myEventKey < MAX_EVENT_TIME")
  pure myEventKey

/-- The loop of `MinSimVoltage` and `MaxSimVoltage`: the first calculated sim voltage behind a net. A chain of links that goes
round has no end, and a loop along it has no effect, which is undefined. -/
def calculatedSimVoltage (s : NetState) (queue : EventQueueType) : Nat → Nat → NetM (Option Int)
  | rounds, myNetId =>
    let next := (s.virtualNet queue).next myNetId
    if myNetId = next then pure none
    else
      match rounds with
      | 0 => fail .undefined
      | rounds + 1 =>
        match s.netVoltagePtr next with
        | some p =>
          if (s.power p).type.simCalculatedBit && (s.power p).simVoltage != unknownVoltage then pure (some (s.power p).simVoltage)
          else calculatedSimVoltage s queue rounds next
        | none => calculatedSimVoltage s queue rounds next

/-- `CCvcDb::MinSimVoltage` and `CCvcDb::MaxSimVoltage`: `limit` combines the voltage at the end with a calculated sim voltage. -/
def limitedSimVoltage (limit : Int → Int → Int) (theNetId : Nat) : NetM Int :=
  if theNetId = unknownNet then pure unknownVoltage
  else do
    c.ensureEquivalent theNetId
    let net ← virtualNetAt queue theNetId
    if net.finalNetId = unknownNet then pure unknownVoltage
    else do
      let s ← read id
      let calculated ← calculatedSimVoltage s queue c.netCount theNetId
      let myVoltage := s.voltage queue net.finalNetId
      match calculated with
      | some v => pure (if myVoltage = unknownVoltage then v else limit v myVoltage)
      | none => pure myVoltage

def minSimVoltage (theNetId : Nat) : NetM Int := c.limitedSimVoltage .minQueue max theNetId

def maxSimVoltage (theNetId : Nat) : NetM Int := c.limitedSimVoltage .maxQueue min theNetId

/-- The voltage of `AdjustSimVoltage` behind a transistor, and whether the code has a text for a change. -/
def adjustMosSimVoltage (theVoltage : Int) (theDirection : ShortDirection) (myMinTargetVoltage myMaxTargetVoltage : Int) :
    NetM (Int × Bool) := do
  let vth := c.vth theDeviceId
  let type := c.deviceType theDeviceId
  let myPower := theConnections.slavePower theDirection
  if theConnections.gateId = theConnections.slaveId theDirection then
    -- mos as diodes: only propagate if min = max
    read fun s =>
      if myMinTargetVoltage = myMaxTargetVoltage ∧ (myPower.isSome && !s.isHiz myPower) then (myMaxTargetVoltage, true)
      else (unknownVoltage, false)
  else do
    let myMinGateVoltage ← if theConnections.gateVoltage = unknownVoltage then c.minVoltage theConnections.gateId
      else pure unknownVoltage
    let myMaxGateVoltage ← if theConnections.gateVoltage = unknownVoltage then c.maxVoltage theConnections.gateId
      else pure unknownVoltage
    let gateVoltage :=
      if type.isNmos && myMinGateVoltage != unknownVoltage && decide (myMinGateVoltage > theVoltage + vth) then myMinGateVoltage
      else if type.isPmos && myMaxGateVoltage != unknownVoltage &&
        decide (myMaxGateVoltage < theVoltage + vth) then myMaxGateVoltage
      else theConnections.gateVoltage
    ensure (gateVoltage != unknownVoltage) (.assertion "theConnections.gateVoltage != UNKNOWN_VOLTAGE")
    let myGateStep := int16 (gateVoltage - vth)
    -- skip simulation propagation
    if gateVoltage = theVoltage + vth then pure (unknownVoltage, false)
    else
      read fun s =>
        if type.isNmos && myMinTargetVoltage != unknownVoltage then
          if !s.isHiz myPower && decide (myGateStep < theVoltage) then (max myGateStep myMinTargetVoltage, true)
            else (theVoltage, false)
        else if type.isPmos && myMaxTargetVoltage != unknownVoltage then
          if !s.isHiz myPower && decide (myGateStep > theVoltage) then (min myGateStep myMaxTargetVoltage, true)
            else (theVoltage, false)
        else (theVoltage, false)

/-- The last part of `AdjustSimVoltage`: a known voltage is kept between the min and the max voltage of the target. -/
def limitSimVoltage (myMinTargetVoltage myMaxTargetVoltage theVoltage : Int) (adjusted : Bool) : Int × Bool :=
  if theVoltage = unknownVoltage then (unknownVoltage, false)
  else
    let belowMin := myMinTargetVoltage != unknownVoltage && decide (theVoltage < myMinTargetVoltage)
    let theVoltage := if belowMin then myMinTargetVoltage else theVoltage
    let aboveMax := myMaxTargetVoltage != unknownVoltage && decide (theVoltage > myMaxTargetVoltage)
    (if aboveMax then myMaxTargetVoltage else theVoltage, adjusted || belowMin || aboveMax)

/-- `CCvcDb::AdjustSimVoltage`: the voltage, and whether it has a text for a change. -/
def adjustSimVoltage (theVoltage : Int) (theDirection : ShortDirection) : NetM (Int × Bool) := do
  ensure (isAdjustable .minQueue theConnections) (.assertion "AdjustSimVoltage: one of the voltages is unknown")
  let myTargetNet := theConnections.slaveId theDirection
  let myMinTargetVoltage ← c.minSimVoltage myTargetNet
  let myMaxTargetVoltage ← c.maxSimVoltage myTargetNet
  let swapped := myMinTargetVoltage != unknownVoltage && decide (myMinTargetVoltage > myMaxTargetVoltage)
  let (myMinTargetVoltage, myMaxTargetVoltage) :=
    if swapped then (myMaxTargetVoltage, myMinTargetVoltage) else (myMinTargetVoltage, myMaxTargetVoltage)
  if (c.deviceType theDeviceId).isMos then do
    let (theVoltage, adjusted) ←
      c.adjustMosSimVoltage theDeviceId theConnections theVoltage theDirection myMinTargetVoltage myMaxTargetVoltage
    pure (limitSimVoltage myMinTargetVoltage myMaxTargetVoltage theVoltage adjusted)
  else pure (limitSimVoltage myMinTargetVoltage myMaxTargetVoltage theVoltage false)

/-- Which of the two nets of a device has the wider voltages, for one end of them. -/
def isSourceTarget (isBeyond : Int → Int → Bool) (sourceVoltage drainVoltage : Int) (source drain : CVirtualNet) : Bool :=
  isBeyond sourceVoltage drainVoltage || !isBeyond drainVoltage sourceVoltage &&
    decide (source.finalResistance > drain.finalResistance)

/-- The resistances to the min and to the max voltage differ by less than a factor of 128. -/
def isBalanced (minNet maxNet : CVirtualNet) : Bool :=
  decide (minNet.finalResistance < maxResistance / 2 ^ 7) && decide (maxNet.finalResistance < maxResistance / 2 ^ 7) &&
    decide (minNet.finalResistance * 2 ^ 7 > maxNet.finalResistance) &&
      decide (minNet.finalResistance < maxNet.finalResistance * 2 ^ 7)

/-- The last part of `IsAlwaysOnCandidate`, for known voltages. -/
def isAlwaysOn (minSource minDrain maxSource maxDrain : CVirtualNet)
    (myMinSourceVoltage myMinDrainVoltage myMaxSourceVoltage myMaxDrainVoltage : Int) : Bool :=
  -- all voltages the same: no leak tie hi/lo
  if myMinSourceVoltage = myMinDrainVoltage ∧ myMinSourceVoltage = myMaxSourceVoltage ∧
    myMinDrainVoltage = myMaxDrainVoltage then true
  else
    let isSource := isSourceTarget (fun v w => decide (v < w)) myMinSourceVoltage myMinDrainVoltage minSource minDrain
    isSource == isSourceTarget (fun v w => decide (v > w)) myMaxSourceVoltage myMaxDrainVoltage maxSource maxDrain &&
      -- the drain is tested as well when the resistances of the source are too large
      if isSource && decide (minSource.finalResistance < maxResistance / 2 ^ 7) &&
          decide (maxSource.finalResistance < maxResistance / 2 ^ 7) then isBalanced minSource maxSource
      else isBalanced minDrain maxDrain

/-- The net has both an NMOS and a PMOS at a source or a drain, and no other type of device. -/
def isOutputType (sourceDrainType : ModelType → Bool) : Bool :=
  ModelType.all.all fun type => sourceDrainType type == (type == .nmos || type == .pmos)

/-- `CCvcDb::IsAlwaysOnCandidate`. -/
def isAlwaysOnCandidate (theDirection : ShortDirection) : NetM Bool := do
  if theDeviceId = unknownDevice then return false
  let s ← read id
  let mySourceNetId := c.getEquivalentNet s (c.sourceNet theDeviceId)
  let myDrainNetId := c.getEquivalentNet s (c.drainNet theDeviceId)
  let myTargetNetId := match theDirection with
    | .drainToMasterSource => myDrainNetId
    | .sourceToMasterDrain => mySourceNetId
  -- non-output devices are always true
  if !isOutputType (s.connectionCount myTargetNetId).sourceDrainType then pure true
  else do
    let minSource ← virtualNetAt .minQueue mySourceNetId
    let minDrain ← virtualNetAt .minQueue myDrainNetId
    let maxSource ← virtualNetAt .maxQueue mySourceNetId
    let maxDrain ← virtualNetAt .maxQueue myDrainNetId
    let nets := [minSource, minDrain, maxSource, maxDrain]
    if nets.any fun net => net.finalNetId == unknownNet || (s.netVoltagePtr net.finalNetId).isNone then pure false
    else
      pure (isAlwaysOn minSource minDrain maxSource maxDrain (s.voltage .minQueue minSource.finalNetId)
        (s.voltage .minQueue minDrain.finalNetId) (s.voltage .maxQueue maxSource.finalNetId)
          (s.voltage .maxQueue maxDrain.finalNetId))

end FlatCircuit
end Cvc
