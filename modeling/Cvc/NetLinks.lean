import Cvc.EventKey

/-!
# What a device does to the nets

The part of `CCvcDb.cc` that links nets and calculates voltages: `CalculatePower`, the net side of `ShortNets` and `ShortSimNets`,
`AlreadyShorted` for a device between two known voltages, the estimates of the voltage behind a transistor connected as a diode,
and the flags that say which estimates still have to be confirmed. That the device becomes inactive is left to the callers.

A link that is set without advancing `lastUpdate` shares its time with the link before it.
-/

namespace Cvc

open Program

/-! ## Powers -/

namespace CPower

/-- What a calculated power takes over from the power it is calculated from. -/
def inherit (power default : CPower) : CPower :=
  { power with
    type := { power.type with hizBit := power.type.hizBit || default.type.hizBit }
    extraData := match default.extraData with
      | some data => some { power.extraData.getD {} with
          family := data.family, implicitFamily := data.implicitFamily, relativeSet := data.relativeSet }
      | none => power.extraData
    relativeFriendly := default.relativeFriendly }

/-- How a calculated voltage compares with the one it is calculated from. -/
def comparedTo (theShortVoltage defaultVoltage : Int) (calculationType : CalculationType) : CalculationType :=
  if defaultVoltage = unknownVoltage then calculationType
  else if theShortVoltage < defaultVoltage then .downCalculation
  else if theShortVoltage > defaultVoltage then .upCalculation
  else calculationType

/-- A calculated voltage, with the net and the power it is calculated from. -/
def calculate (power : CPower) (queue : EventQueueType) (theShortVoltage : Int) (theDefaultNetId : Nat)
    (defaultVoltage : Int) : CPower :=
  match queue with
  | .minQueue =>
    { power with
      minVoltage := theShortVoltage
      defaultMinNet := theDefaultNetId
      type := { power.type with minCalculatedBit := true }
      active := { power.active with minActive := true }
      minCalculationType := comparedTo theShortVoltage defaultVoltage power.minCalculationType }
  | .maxQueue =>
    { power with
      maxVoltage := theShortVoltage
      defaultMaxNet := theDefaultNetId
      type := { power.type with maxCalculatedBit := true }
      active := { power.active with maxActive := true }
      maxCalculationType := comparedTo theShortVoltage defaultVoltage power.maxCalculationType }
  | .simQueue =>
    { power with
      simVoltage := theShortVoltage
      defaultSimNet := theDefaultNetId
      type := { power.type with simCalculatedBit := true }
      simCalculationType := comparedTo theShortVoltage defaultVoltage power.simCalculationType }

@[simp] theorem voltage_inherit (power default : CPower) : (power.inherit default).queueVoltage = power.queueVoltage := by
  funext queue
  cases queue <;> rfl

theorem isVoltage_calculate {power : CPower} (h : ∀ queue, IsVoltage (power.queueVoltage queue)) {v : Int} (hv : IsVoltage v)
    (queue : EventQueueType) (theDefaultNetId : Nat) (defaultVoltage : Int) (queue' : EventQueueType) :
    IsVoltage ((power.calculate queue v theDefaultNetId defaultVoltage).queueVoltage queue') := by
  cases queue <;> cases queue' <;> first | exact hv | exact h .minQueue | exact h .simQueue | exact h .maxQueue

/-- Write a pull voltage; the extra data are made when there are none. -/
def modifyExtraData (power : CPower) (f : CExtraPowerData → CExtraPowerData) : CPower :=
  { power with extraData := some (f (power.extraData.getD {})) }

theorem voltage_modifyExtraData (power : CPower) (f : CExtraPowerData → CExtraPowerData) :
    (power.modifyExtraData f).queueVoltage = power.queueVoltage := by
  funext queue
  cases queue <;> rfl

end CPower

namespace NetState

/-- `netVoltagePtr_v[theNetId].full = new CPower(theNetId)`, if there is no power. -/
def ensurePower (s : NetState) (theNetId : Nat) : NetState :=
  match s.netVoltagePtr theNetId with
  | some _ => s
  | none =>
    { s.setPower s.powerCount { netId := theNetId } (fun queue => by cases queue <;> exact isVoltage_unknownVoltage) with
      powerCount := s.powerCount + 1
      netVoltagePtr := Function.update s.netVoltagePtr theNetId (some s.powerCount) }

/-- The power of a net with what it takes over from its default power. -/
def inheritPower (s : NetState) (p : Nat) : Option Nat → NetState
  | some default => s.modifyPower p (fun power => power.inherit (s.power default)) fun power => by simp
  | none => s

/-- The voltage of the default power, before the calculated voltage is written, or after if the two are one power. -/
def defaultVoltage (s : NetState) (queue : EventQueueType) (p : Nat) (theShortVoltage : Int) : Option Nat → Int
  | some default => if default = p then theShortVoltage else (s.power default).queueVoltage queue
  | none => unknownVoltage

end NetState

/-- `CPowerPtrVector::CalculatePower`. The alias of the power and its definition are left out, as no propagation reads them. -/
def FlatCircuit.calculatePower (c : FlatCircuit) (queue : EventQueueType) (theShortVoltage : Int)
    (theNetId theDefaultNetId : Nat) :
    NetM Unit := fun s =>
  let theShortVoltage := int16 theShortVoltage
  let s := s.ensurePower theNetId
  match s.netVoltagePtr theNetId with
  | none => .error .undefined s
  | some p =>
    let default := s.netVoltagePtr theDefaultNetId
    let s := s.inheritPower p default
    if queue = .simQueue ∧ (s.power p).simVoltage ≠ unknownVoltage then
      .error (.eDatabaseError ("CalculatePower: Sim " ++ toString (s.power p).simVoltage ++ " at " ++ c.netName theNetId)) s
    else
      .ok ⟨⟩ (s.setPower p
        ((s.power p).calculate queue theShortVoltage theDefaultNetId (s.defaultVoltage queue p theShortVoltage default))
        (CPower.isVoltage_calculate (s.isVoltage p) (isVoltage_int16 _) _ _ _))

/-- Change the power of a net, which has one (`assert(netVoltagePtr_v[theNetId].full)`). -/
def modifyNetPower (theNetId : Nat) (f : CPower → CPower) (h : ∀ power, (f power).queueVoltage = power.queueVoltage) :
    NetM Unit := fun s =>
  match s.netVoltagePtr theNetId with
  | some p => .ok ⟨⟩ (s.modifyPower p f h)
  | none => .error (.assertion "netVoltagePtr_v[theNetId].full") s

/-- `netVoltagePtr_v[theNetId].full->type[ANALOG_BIT] = true`. -/
def setAnalog (theNetId : Nat) : NetM Unit :=
  modifyNetPower theNetId (fun power => { power with type := { power.type with analogBit := true } }) fun power => by
    funext queue
    cases queue <;> rfl

/-- `extraData->pullDownVoltage = theVoltage` of the power of a net. -/
def setPullDown (theNetId : Nat) (theVoltage : Int) : NetM Unit :=
  modifyNetPower theNetId (·.modifyExtraData fun data => { data with pullDownVoltage := theVoltage })
    fun power => power.voltage_modifyExtraData _

/-- `extraData->pullUpVoltage = theVoltage` of the power of a net. -/
def setPullUp (theNetId : Nat) (theVoltage : Int) : NetM Unit :=
  modifyNetPower theNetId (·.modifyExtraData fun data => { data with pullUpVoltage := theVoltage })
    fun power => power.voltage_modifyExtraData _

/-- Change the flags of a net. -/
def modifyNetStatus (theNetId : Nat) (f : NetFlags → NetFlags) : NetM Unit := update (·.modifyStatus theNetId f)

/-! ## Sides

The blocks about estimated voltages come in pairs, for min and for max voltages. Each pair is one function of the side. -/

/-- The voltages an estimate is about. -/
inductive EstimateSide where
  | min | max
  deriving DecidableEq, Repr

namespace EstimateSide

def dual : EstimateSide → EstimateSide
  | .min => .max
  | .max => .min

/-- The queue of the voltages. -/
def queue : EstimateSide → EventQueueType
  | .min => .minQueue
  | .max => .maxQueue

/-- The voltage of the side. -/
def ofMinMax (side : EstimateSide) (minVoltage maxVoltage : Int) : Int :=
  match side with
  | .min => minVoltage
  | .max => maxVoltage

/-- A voltage is as low as another one, or as high for max voltages. -/
def Le : EstimateSide → Int → Int → Prop
  | .min, v, w => v ≤ w
  | .max, v, w => v ≥ w

/-- A voltage is lower than another one, or higher for max voltages. -/
def Lt : EstimateSide → Int → Int → Prop
  | .min, v, w => v < w
  | .max, v, w => v > w

/-- A voltage is higher than another one, or lower for max voltages. -/
def Gt : EstimateSide → Int → Int → Prop
  | .min, v, w => v > w
  | .max, v, w => v < w

instance : (side : EstimateSide) → (v w : Int) → Decidable (side.Le v w)
  | .min, v, w => inferInstanceAs (Decidable (v ≤ w))
  | .max, v, w => inferInstanceAs (Decidable (v ≥ w))

instance : (side : EstimateSide) → (v w : Int) → Decidable (side.Lt v w)
  | .min, v, w => inferInstanceAs (Decidable (v < w))
  | .max, v, w => inferInstanceAs (Decidable (v > w))

instance : (side : EstimateSide) → (v w : Int) → Decidable (side.Gt v w)
  | .min, v, w => inferInstanceAs (Decidable (v > w))
  | .max, v, w => inferInstanceAs (Decidable (v < w))

/-- A pull voltage makes a flag unnecessary. -/
def Suppresses (side : EstimateSide) (pull myEventKey : Int) : Prop := pull ≠ unknownVoltage ∧ side.Le pull myEventKey
  deriving Decidable

/-- The accessor of the recorded pull voltage. -/
def pullVoltage : EstimateSide → CPower → Int
  | .min, power => power.pullDownVoltage
  | .max, power => power.pullUpVoltage

def needsCheck : EstimateSide → NetFlags → Bool
  | .min, status => status.needsMinCheck
  | .max, status => status.needsMaxCheck

def needsConnection : EstimateSide → NetFlags → Bool
  | .min, status => status.needsMinConnection
  | .max, status => status.needsMaxConnection

def setCheck (value : Bool) : EstimateSide → NetFlags → NetFlags
  | .min, status => { status with needsMinCheck := value }
  | .max, status => { status with needsMaxCheck := value }

def setConnection (value : Bool) : EstimateSide → NetFlags → NetFlags
  | .min, status => { status with needsMinConnection := value }
  | .max, status => { status with needsMaxConnection := value }

/-- The type of transistors that pull to the side. -/
def isMos : EstimateSide → ModelType → Bool
  | .min, type => type.isNmos
  | .max, type => type.isPmos

/-- `extraData->pullDownVoltage = theVoltage` or `extraData->pullUpVoltage = theVoltage`. -/
def setPull : EstimateSide → Nat → Int → NetM Unit
  | .min => setPullDown
  | .max => setPullUp

/-- `theDependencyMap[theKey].push_front(theNetId)`. -/
def addDependencyTo (theDependencyMap : List (Nat × List Nat)) (theKey theNetId : Nat) : List (Nat × List Nat) :=
  match theDependencyMap with
  | [] => [(theKey, [theNetId])]
  | (key, nets) :: rest => if key = theKey then (key, theNetId :: nets) :: rest
      else (key, nets) :: addDependencyTo rest theKey theNetId

/-- The net of an estimate depends on another estimate. -/
def addDependency (side : EstimateSide) (mySourceNetId myDrainNetId : Nat) (s : NetState) : NetState :=
  match side with
  | .min => { s with
      minConnectionDependencyMap := addDependencyTo s.minConnectionDependencyMap mySourceNetId myDrainNetId }
  | .max => { s with
      maxConnectionDependencyMap := addDependencyTo s.maxConnectionDependencyMap mySourceNetId myDrainNetId }

end EstimateSide

/-! ## Links -/

/-- `virtualNet_v.Set` at the time of the last link. -/
def setLink (queue : EventQueueType) (theNetId theNextNet theResistance : Nat) : NetM Unit := fun s =>
  let v := s.virtualNet queue
  match v.set theNetId theNextNet theResistance v.lastUpdate with
  | some v => .ok ⟨⟩ (s.setVirtualNet queue v)
  | none => .error .walk s

/-- `virtualNet_v.lastUpdate++`. -/
def advanceUpdate (queue : EventQueueType) : NetM Unit := update fun s => s.setVirtualNet queue (s.virtualNet queue).advance

/-- `virtualNet_v.Set` with `++virtualNet_v.lastUpdate`. -/
def setLinkLater (queue : EventQueueType) (theNetId theNextNet theResistance : Nat) : NetM Unit := do
  advanceUpdate queue
  setLink queue theNetId theNextNet theResistance

/-- A message of `ShiftVirtualNets`: the final resistance of a net, before or after it is turned round, is not the one expected.
-/
inductive ShiftMessage where
  | unexpectedDrainResistance (myNetId found expected : Nat)
  | unexpectedSourceResistance (myNetId found expected : Nat)
  deriving DecidableEq, Repr

/-- What a run of `ShiftVirtualNets` shows: the nets that are turned round, in their order, and the messages. -/
structure ShiftReport where
  shifted : List Nat := []
  messages : List ShiftMessage := []
  deriving DecidableEq, Repr

/-- The loop of `ShiftVirtualNets`: the nets along the old links of a net are turned round to it. -/
def shiftLinks (queue : EventQueueType) : Nat → Nat → CVirtualNet → Nat → Nat → NetM ShiftReport
  | shiftsLeft, theNewNetId, theLastVirtualNet, theSourceResistance, theDrainResistance =>
    if (theSourceResistance : Int) + theLastVirtualNet.resistance < (theDrainResistance : Int) - theLastVirtualNet.resistance then
      match shiftsLeft with
      | 0 => fail (.assertion "myShiftCount < 10000")
      | shiftsLeft + 1 => do
        ensure (decide (theSourceResistance + theLastVirtualNet.resistance < maxResistance))
          (.assertion "long(theSourceResistance) + theLastVirtualNet.resistance < MAX_RESISTANCE")
        let theSourceResistance := theSourceResistance + theLastVirtualNet.resistance
        -- the condition of the loop gives `theDrainResistance >= theLastVirtualNet.resistance`, which is asserted next
        let theDrainResistance := theDrainResistance - theLastVirtualNet.resistance
        let myNetId := theLastVirtualNet.nextNetId
        let theNextVirtualNet ← virtualNetAt queue myNetId
        let drainFound ← read fun s => ((s.virtualNet queue).net myNetId).finalResistance
        setLinkLater queue myNetId theNewNetId theLastVirtualNet.resistance
        let sourceFound ← read fun s => ((s.virtualNet queue).net myNetId).finalResistance
        let rest ← shiftLinks queue shiftsLeft myNetId theNextVirtualNet theSourceResistance theDrainResistance
        pure {
          shifted := myNetId :: rest.shifted
          messages :=
            (if drainFound ≠ theDrainResistance then
              [.unexpectedDrainResistance myNetId drainFound theDrainResistance] else []) ++
            (if sourceFound ≠ theSourceResistance then
              [.unexpectedSourceResistance myNetId sourceFound theSourceResistance] else []) ++ rest.messages }
    else pure {}

/-- `CCvcDb::ShiftVirtualNets`. -/
def shiftVirtualNets (queue : EventQueueType) (theNewNetId : Nat) (theLastVirtualNet : CVirtualNet)
    (theSourceResistance theDrainResistance : Nat) : NetM ShiftReport :=
  shiftLinks queue 10001 theNewNetId theLastVirtualNet theSourceResistance theDrainResistance

/-- The loop of `PropagateConnectionType`: the types of the devices of a net are added to the nets it is linked to. -/
def propagateTypes (queue : EventQueueType) (theSourceDrainType : ModelType → Bool) : Nat → Nat → NetM Unit
  | netsLeft, theNetId => do
    let s ← read id
    let next := (s.virtualNet queue).next theNetId
    let count := s.connectionCount theNetId
    if theNetId = next ∨ ModelType.all.all (fun type => !theSourceDrainType type || count.sourceDrainType type) then pure ()
    else do
      update fun s => { s with
        connectionCount := Function.update s.connectionCount theNetId
          { count with sourceDrainType := fun type => count.sourceDrainType type || theSourceDrainType type } }
      match netsLeft with
      | 0 => fail (.assertion "myPropagationCount < 10000")
      | netsLeft + 1 => propagateTypes queue theSourceDrainType netsLeft next

/-- `CCvcDb::PropagateConnectionType`, from one net to another. -/
def propagateConnectionType (queue : EventQueueType) (theFromNetId theNetId : Nat) : NetM Unit := do
  let s ← read id
  propagateTypes queue (s.connectionCount theFromNetId).sourceDrainType 10001 theNetId

namespace FlatCircuit

variable (c : FlatCircuit)

/-! ## Shorts -/

variable (queue : EventQueueType) (theDeviceId : Nat) (theConnections : CConnection) (theDirection : ShortDirection)

/-- The net side of the first `CCvcDb::ShortNets`. -/
def shortNetsLinks : NetM Unit := do
  let mySlaveNet := theConnections.slaveId theDirection
  let myMasterNet := theConnections.masterId theDirection
  setLink queue mySlaveNet myMasterNet (c.resistance theDeviceId)
  when (c.deviceType theDeviceId == .resistor) (propagateConnectionType queue mySlaveNet myMasterNet)

/-- A min voltage is not above a known sim voltage of a fixed sim net, and a max voltage not below it. -/
def limitToSim (mySlaveNet : Nat) (theShortVoltage : Int) : NetM Int :=
  if c.isFixedSimNet then do
    let mySimVoltage ← c.simVoltage mySlaveNet
    pure (match queue with
      | .minQueue => if mySimVoltage ≠ unknownVoltage ∧ theShortVoltage > mySimVoltage then mySimVoltage else theShortVoltage
      | .maxQueue => if mySimVoltage ≠ unknownVoltage ∧ theShortVoltage < mySimVoltage then mySimVoltage else theShortVoltage
      | .simQueue => theShortVoltage)
  else pure theShortVoltage

/-- The end of a net that has a calculated voltage: it links to itself, with the resistance so far. -/
def linkCalculated (mySlaveNet myMasterNet theResistance : Nat) : NetM Unit := do
  let myFinalResistance ← read fun s => ((s.virtualNet queue).net myMasterNet).finalResistance
  setLink queue mySlaveNet mySlaveNet (uint32 (theResistance + myFinalResistance))

/-- A fuse is only processed in the min and the max queue. -/
def ensureFuseQueue : NetM Unit :=
  ensure (!((c.deviceType theDeviceId).isFuse && queue == .simQueue)) (.assertion "theEventQueue.queueType == MAX_QUEUE")

/-- The net side of the second `CCvcDb::ShortNets`, for the min and the max queue. -/
def shortNetsVoltage (theShortVoltage : Int) : NetM Unit := do
  let mySlaveNet := theConnections.slaveId theDirection
  let myMasterNet := theConnections.masterId theDirection
  let theShortVoltage ← c.limitToSim queue mySlaveNet (int16 theShortVoltage)
  if theShortVoltage = theConnections.masterVoltage theDirection then
    setLink queue mySlaveNet myMasterNet (c.resistance theDeviceId)
  else do
    c.calculatePower queue theShortVoltage mySlaveNet myMasterNet
    linkCalculated queue mySlaveNet myMasterNet (c.resistance theDeviceId)
  when (c.deviceType theDeviceId == .resistor) (propagateConnectionType queue mySlaveNet myMasterNet)
  c.ensureFuseQueue queue theDeviceId

/-- The net side of `CCvcDb::ShortSimNets`. -/
def shortSimNetsLinks (theShortVoltage : Int) : NetM Unit := do
  let mySlaveNet := theConnections.slaveId theDirection
  let myMasterNet := theConnections.masterId theDirection
  let myMaxSlaveVoltage ← c.maxLeakVoltage mySlaveNet
  let myMinSlaveVoltage ← c.minLeakVoltage mySlaveNet
  let theShortVoltage :=
    if myMaxSlaveVoltage ≠ unknownVoltage ∧ myMaxSlaveVoltage < theShortVoltage then myMaxSlaveVoltage else theShortVoltage
  let theShortVoltage :=
    if myMinSlaveVoltage ≠ unknownVoltage ∧ myMinSlaveVoltage > theShortVoltage then myMinSlaveVoltage else theShortVoltage
  if theShortVoltage = theConnections.masterVoltage theDirection then
    setLink .simQueue mySlaveNet myMasterNet (c.resistance theDeviceId)
  else do
    c.calculatePower .simQueue theShortVoltage mySlaveNet myMasterNet
    -- gate/drain connections increase effective resistance
    if (c.deviceType theDeviceId).isMos && theConnections.gateId == mySlaveNet then
      linkCalculated .simQueue mySlaveNet myMasterNet (c.resistance theDeviceId * 100)
    else linkCalculated .simQueue mySlaveNet myMasterNet (c.resistance theDeviceId)
  when (c.deviceType theDeviceId == .resistor) (propagateConnectionType .simQueue mySlaveNet myMasterNet)

/-! ## Devices between known voltages -/

/-- `CCvcDb::CheckConnectionReroute`. -/
def checkConnectionReroute : NetM Bool := do
  let s ← read id
  let myNextDrainNet := (s.virtualNet queue).next (theConnections.slaveId theDirection)
  -- reroute if source is terminal, next drain not terminal
  if !(s.virtualNet queue).isTerminal myNextDrainNet then pure true
  else do
    let myNextDrainPower ← powerAt (s.netVoltagePtr myNextDrainNet)
    let mySourcePower ← powerAt (s.netVoltagePtr (theConnections.masterId theDirection))
    pure (
      if myNextDrainPower.type.powerBit then
        mySourcePower.type.powerBit && decide (theConnections.resistance < (theConnections.slaveNet theDirection).finalResistance)
      else mySourcePower.type.powerBit || myNextDrainPower.calculated queue.calculatedBit &&
        !mySourcePower.calculated queue.calculatedBit)

/-- `CCvcDb::IsPriorityDevice`. -/
def isPriorityDevice (theModel : ModelType) : Bool :=
  !(queue == .minQueue && !theModel.isNmos) && !(queue == .maxQueue && !theModel.isPmos)

/-- The slave net is linked to the master net of a direction, at a time of its own. -/
def rerouteNet : NetM Unit := do
  advanceUpdate queue
  c.shortNetsLinks queue theDeviceId theConnections theDirection

/-- On the second pass only direct connections are rerouted. -/
def isDirectReroute : NetM Bool := do
  let s ← read id
  if !(s.virtualNet queue).isTerminal (theConnections.slaveId theDirection) &&
      (s.virtualNet queue).isTerminal (theConnections.masterId theDirection) then
    checkConnectionReroute queue theConnections theDirection
  else pure false

/-- The resistance of a net by way of the device. -/
def viaResistance : Nat :=
  uint32 ((theConnections.masterNet theDirection).finalResistance + theConnections.resistance)

/-- On the first pass, a net that is not terminal is rerouted if the other net is terminal or has less resistance. -/
def isShorterReroute (s : NetState) (queue : EventQueueType) (theConnections : CConnection) (theDirection : ShortDirection) :
    Bool :=
  !(s.virtualNet queue).isTerminal (theConnections.slaveId theDirection) &&
    ((s.virtualNet queue).isTerminal (theConnections.masterId theDirection) ||
      decide (viaResistance theConnections theDirection < (theConnections.slaveNet theDirection).finalResistance))

/-- A net is rerouted on the first pass, and the nets along its old links follow. -/
def rerouteAndShift : NetM ShiftReport := do
  let mySlaveNet := theConnections.slaveId theDirection
  let myLastVirtualNet ← read fun s => (s.virtualNet queue).net mySlaveNet
  c.rerouteNet queue theDeviceId theConnections theDirection
  shiftVirtualNets queue mySlaveNet myLastVirtualNet (viaResistance theConnections theDirection)
    (theConnections.slaveNet theDirection).finalResistance

/-- `AlreadyShorted` for a device whose nets end at the same net; the report is of a shift on the first pass. -/
def rerouteShorted : NetM ShiftReport :=
  if !isPriorityDevice queue (c.deviceType theConnections.deviceId) then pure {}
  else if c.leakVoltageSet then do
    let direct ← isDirectReroute queue theConnections .drainToMasterSource
    if direct then c.rerouteNet queue theDeviceId theConnections .drainToMasterSource
    else do
      let direct ← isDirectReroute queue theConnections .sourceToMasterDrain
      when direct (c.rerouteNet queue theDeviceId theConnections .sourceToMasterDrain)
    pure {}
  else do
    let s ← read id
    if isShorterReroute s queue theConnections .drainToMasterSource then
      c.rerouteAndShift queue theDeviceId theConnections .drainToMasterSource
    else if isShorterReroute s queue theConnections .sourceToMasterDrain then
      c.rerouteAndShift queue theDeviceId theConnections .sourceToMasterDrain
    else pure {}

/-- `AlreadyShorted`, min or max queue: the slave net of a direction has an estimated voltage that needs a connection, and the
device connects it to a verified voltage. -/
def connectEstimate (side : EstimateSide) (pending : Nat → Bool) : NetM Unit := do
  let mySlaveNet := theConnections.slaveId theDirection
  let slaveVoltage := theConnections.slaveVoltage theDirection
  let masterVoltage := theConnections.masterVoltage theDirection
  let s ← read id
  if side.needsConnection (s.netStatus mySlaveNet) && masterVoltage != unknownVoltage &&
      s.isVerifiedPower (theConnections.masterNet theDirection).finalNetId then do
    let myVoltage ← c.finalVoltage side.dual.queue mySlaveNet false
    ensure (s.netVoltagePtr mySlaveNet).isSome (.assertion "netVoltagePtr_v[theNetId].full")
    -- ignore pull downs (pull ups) to HI-Z power in second pass
    if side.Gt slaveVoltage masterVoltage ∧ !(c.leakVoltageSet && s.isHiz (theConnections.masterPower theDirection)) then do
      side.setPull mySlaveNet masterVoltage
      modifyNetStatus mySlaveNet (side.setConnection false)
    else if slaveVoltage = masterVoltage ∧ masterVoltage = myVoltage ∧
        side.needsConnection (s.netStatus (theConnections.masterId theDirection)) = false then do
      side.setPull mySlaveNet masterVoltage
      modifyNetStatus mySlaveNet (side.setConnection false)
    else if !c.leakVoltageSet && (side.isMos (c.deviceType theDeviceId) && c.lastConnection side.isMos pending mySlaveNet ||
        c.isResistor theDeviceId) then do
      -- remove calculated net and reroute. only for initial power prop.
      side.setPull mySlaveNet masterVoltage
      setLinkLater side.queue mySlaveNet (theConnections.masterId theDirection) theConnections.resistance
      when (decide (side.Gt slaveVoltage masterVoltage)) (modifyNetStatus mySlaveNet (side.setConnection false))
    else pure ()
  else pure ()

/-- The family of a Hi-Z power with friends is the other power of a device: its short is not reported. -/
def isFriend (power other : CPower) : Bool := power.type.hizBit && power.relativeFriendly && power.family == other.powerSignal

/-- `AlreadyShorted` for a device between two nets that end at different nets: whether it returns before the device is made
inactive. -/
def connectEstimates (pending : Nat → Bool) : NetM Bool := do
  match queue with
  | .simQueue =>
    if c.deviceType theDeviceId = .fuseOff then pure false
    else do
      let source ← powerAt theConnections.sourcePower
      let drain ← powerAt theConnections.drainPower
      pure (isFriend source drain || isFriend drain source)
  | .minQueue => do
    c.connectEstimate theDeviceId theConnections .sourceToMasterDrain .min pending
    c.connectEstimate theDeviceId theConnections .drainToMasterSource .min pending
    pure false
  | .maxQueue => do
    c.connectEstimate theDeviceId theConnections .sourceToMasterDrain .max pending
    c.connectEstimate theDeviceId theConnections .drainToMasterSource .max pending
    pure false

/-- The net side of `CCvcDb::AlreadyShorted`: whether it returns before the device is made inactive. -/
def alreadyShortedNets (pending : Nat → Bool) : NetM Bool :=
  if theConnections.masterSourceNet.finalNetId = theConnections.masterDrainNet.finalNetId then do
    let _ ← c.rerouteShorted queue theDeviceId theConnections
    pure false
  else c.connectEstimates queue theDeviceId theConnections pending

/-! ## Estimates -/

/-- A transistor connected as a diode in the max (min) queue: the min (max) voltage behind it is estimated as well. `myEventKey`
is the voltage after the drop. -/
def estimateVoltage (side : EstimateSide) (myEventKey : Int) (myDrainNetId mySourceNetId : Nat) (myDrainVoltage : Int) :
    NetM Unit := do
  let myLeakVoltage ← c.leakVoltage side.queue myDrainNetId
  if myDrainVoltage = unknownVoltage then do
    c.calculatePower side.queue myEventKey myDrainNetId mySourceNetId
    setAnalog myDrainNetId
    setLink side.queue myDrainNetId myDrainNetId (uint32 (c.resistance theDeviceId * 100))
    let s ← read id
    if c.leakVoltageSet && myLeakVoltage != unknownVoltage && decide (side.Le myLeakVoltage myEventKey) then pure ()
    else do
      let power ← powerAt (s.netVoltagePtr myDrainNetId)
      -- a pull down (pull up) is known
      if side.Suppresses (side.pullVoltage power) myEventKey then pure ()
      else
        update fun s =>
          let s := s.modifyStatus myDrainNetId (side.setConnection true)
          if side.needsConnection (s.netStatus mySourceNetId) then side.addDependency mySourceNetId myDrainNetId s else s
  else
    when (decide (side.Lt myDrainVoltage myEventKey)) (update fun s =>
      (s.modifyStatus myDrainNetId (side.setConnection false)).modifyStatus mySourceNetId (side.setConnection false))

/-- The nets of a device with one unknown voltage: the net that gets a voltage, and the one it comes from. -/
def propagationNets : NetM (Nat × Nat) :=
  if theConnections.sourceVoltage = unknownVoltage then do
    ensure (theConnections.drainVoltage != unknownVoltage) (.assertion "myConnections.drainVoltage != UNKNOWN_VOLTAGE")
    pure (theConnections.sourceId, theConnections.drainId)
  else if theConnections.drainVoltage = unknownVoltage then pure (theConnections.drainId, theConnections.sourceId)
  else fail (.eDatabaseError ("EnqueueAttachedDevicesByTerminal: " ++ c.deviceName theDeviceId))

/-- The estimates of `EnqueueAttachedDevicesByTerminal` for a transistor connected as a diode. -/
def estimateMosDiode (theEventKey myEventKey : Int) : NetM Unit := do
  let (myDrainNetId, mySourceNetId) ← c.propagationNets theDeviceId theConnections
  let myMinSourceVoltage ← c.minVoltage mySourceNetId
  let myMaxSourceVoltage ← c.maxVoltage mySourceNetId
  let myMinDrainVoltage ← c.minVoltage myDrainNetId
  let myMaxDrainVoltage ← c.maxVoltage myDrainNetId
  match queue with
  | .maxQueue =>
    when (myMinSourceVoltage == theEventKey)
      (c.estimateVoltage theDeviceId .min myEventKey myDrainNetId mySourceNetId myMinDrainVoltage)
  | .minQueue =>
    when (myMaxSourceVoltage == theEventKey)
      (c.estimateVoltage theDeviceId .max myEventKey myDrainNetId mySourceNetId myMaxDrainVoltage)
  | .simQueue => pure ()

/-! ## Checks -/

/-- After a min voltage was raised by a PMOS the net needs a higher max voltage, after a max voltage was lowered by an NMOS a
lower min voltage. -/
def addSideCheck (side : EstimateSide) (myEventKey : Int) (myDrainId mySourceId : Nat) : NetM Unit := do
  let myVoltage ← c.finalVoltage side.queue myDrainId false
  let floating ← c.isDerivedFromFloating side.queue myDrainId
  let s ← read id
  if floating || myVoltage == unknownVoltage || myVoltage == myEventKey || side.needsCheck (s.netStatus mySourceId) then
    match s.netVoltagePtr myDrainId with
    | some p =>
      when (side.pullVoltage (s.power p) == unknownVoltage || decide (side.Gt (side.pullVoltage (s.power p)) myEventKey))
        (modifyNetStatus myDrainId (side.setCheck true))
    | none => pure ()
  else pure ()

/-- The flags that `PropagateMinMaxVoltages` sets after a drop by a threshold. -/
def addCheck (myOriginalEventKey myEventKey : Int) (myDrainId mySourceId : Nat) : NetM Unit :=
  if queue = .minQueue ∧ myOriginalEventKey < myEventKey ∧ (c.deviceType theDeviceId).isPmos then
    c.addSideCheck .max myEventKey myDrainId mySourceId
  else if queue = .maxQueue ∧ myOriginalEventKey > myEventKey ∧ (c.deviceType theDeviceId).isNmos then
    c.addSideCheck .min myEventKey myDrainId mySourceId
  else pure ()

end FlatCircuit

/-- `VoltageConflict`: the higher of two known min voltages, or the lower of two max voltages, needs no check if the other one is
verified. -/
def unsetCheck (side : EstimateSide) (theConnections : CConnection) (theDirection : ShortDirection) (masterVerified : Bool) :
    NetM Unit := do
  let mySlaveNet := theConnections.slaveId theDirection
  let status ← read fun s => s.netStatus mySlaveNet
  if (side.needsCheck status || side.needsConnection status) && theConnections.sourceVoltage != unknownVoltage &&
      theConnections.drainVoltage != unknownVoltage && masterVerified &&
      decide (side.Gt (theConnections.slaveVoltage theDirection) (theConnections.masterVoltage theDirection)) then do
    side.setPull mySlaveNet (theConnections.masterVoltage theDirection)
    modifyNetStatus mySlaveNet fun status => side.setConnection false (side.setCheck false status)
  else pure ()

/-- `VoltageConflict`: "Unset min checks" and "Unset max checks". -/
def unsetChecks (side : EstimateSide) (theConnections : CConnection) : NetM Unit := do
  let s ← read id
  let isVerified (n : Nat) : Bool := !(side.needsCheck (s.netStatus n) || side.needsConnection (s.netStatus n))
  unsetCheck side theConnections .drainToMasterSource (isVerified theConnections.sourceId)
  unsetCheck side theConnections .sourceToMasterDrain (isVerified theConnections.drainId)

end Cvc
