import Cvc.Connection

/-!
# Source and drain versus bulk checks

`FindNmosSourceVsBulkErrors` and `FindPmosSourceVsBulkErrors` of `CCvcDb_error.cc`, for one device of their loops outside of setup
mode: a bulk that is not biased against the source and the drain. A check counts an error with a heading or none.
`IsRelatedPower` is a relation of powers, of the vectors of virtual nets they are followed in and of the two flags. The power of a
voltage that is known is not `NULL` (`CFullConnection.Mapped`), which is where the code reads its default net or its type.
-/

namespace Cvc

/-- What the bulk checks read besides the device. -/
structure BulkEnv where
  nets : PowerNets
  isRelatedPower : Nat → Nat → CalculatedBit → CalculatedBit → Bool → Bool → Bool
  getEquivalentNet : Nat → Nat
  cvcBiasErrorThreshold : Int := 0

/-- The loop of `CCvcDb::PathContains`. -/
def PowerNets.pathLoop (nets : PowerNets) (bit : CalculatedBit) (myTargetNet : Nat) : Nat → Nat → Except Failure Bool
  | rounds, net =>
    let net := nets.next bit net
    if net ≠ myTargetNet then pure true
    else if net = nets.next bit net then pure false
    else
      match rounds with
      | 0 => .error .endless
      | rounds + 1 => nets.pathLoop bit myTargetNet rounds net

/-- The loop of `CCvcDb::PathContains` takes at most two rounds: it goes on only from the target net to another one. -/
theorem PowerNets.pathLoop_eq (nets : PowerNets) (bit : CalculatedBit) (target rounds net : Nat) :
    nets.pathLoop bit target (rounds + 1) net =
      .ok (nets.next bit net != target || nets.next bit (nets.next bit net) != nets.next bit net) := by
  unfold pathLoop
  by_cases htarget : nets.next bit net = target
  · by_cases hlast : target = nets.next bit target
    · simp [htarget, ← hlast, pure, Except.pure]
    have hnext : nets.next bit target ≠ target := fun h => hlast h.symm
    have hlater : nets.pathLoop bit target rounds target = .ok true := by
      unfold pathLoop
      simp [hnext, pure, Except.pure]
    simp [htarget, hlast, hnext, hlater]
  · simp [htarget, pure, Except.pure]

namespace PowerNets

/-- `CCvcDb::PathContains`, with at most `rounds` more rounds after the first one of its loop. -/
def pathContains (nets : PowerNets) (getEquivalentNet : Nat → Nat) (rounds : Nat) (theSearchVector : CalculatedBit)
    (theSearchNet theTargetNet : Nat) : Except Failure Bool :=
  let myTargetNet := getEquivalentNet theTargetNet
  if theSearchNet = myTargetNet then pure true else nets.pathLoop theSearchVector myTargetNet rounds theSearchNet

/-- The nets the first loop of `CCvcDb::PathCrosses` adds to `myTargetSet`. -/
def targetLoop (nets : PowerNets) (bit : CalculatedBit) : Nat → Nat → Except Failure (List Nat)
  | rounds, net =>
    let net := nets.next bit net
    if net = nets.next bit net then pure [net]
    else
      match rounds with
      | 0 => .error .endless
      | rounds + 1 => do pure (net :: (← nets.targetLoop bit rounds net))

/-- The second loop of `CCvcDb::PathCrosses`. -/
def crossLoop (nets : PowerNets) (bit : CalculatedBit) (myTargetSet : List Nat) : Nat → Nat → Except Failure Bool
  | rounds, net =>
    let net := nets.next bit net
    if net ∈ myTargetSet then pure true
    else if net = nets.next bit net then pure false
    else
      match rounds with
      | 0 => .error .endless
      | rounds + 1 => nets.crossLoop bit myTargetSet rounds net

/-- `CCvcDb::PathCrosses`, with at most `rounds` more rounds after the first one of each loop. -/
def pathCrosses (nets : PowerNets) (rounds : Nat) (theSearchVector : CalculatedBit) (theSearchNet : Nat)
    (theTargetVector : CalculatedBit) (theTargetNet : Nat) : Except Failure Bool := do
  let myTargetSet := theTargetNet :: (← nets.targetLoop theTargetVector rounds theTargetNet)
  if theSearchNet ∈ myTargetSet then pure true else nets.crossLoop theSearchVector myTargetSet rounds theSearchNet

end PowerNets

namespace BulkEnv

variable (env : BulkEnv) (c : CFullConnection) (bulkPower : Nat) (t : Terminal)

/-- `CCvcDb::PathContains`, with its loop as `PowerNets.pathLoop_eq` has it. -/
def pathContains (bit : CalculatedBit) (theSearchNet theTargetNet : Nat) : Bool :=
  theSearchNet == env.getEquivalentNet theTargetNet ||
    env.nets.next bit theSearchNet != env.getEquivalentNet theTargetNet ||
    env.nets.next bit (env.nets.next bit theSearchNet) != env.nets.next bit theSearchNet

/-- `IsRelatedPower`, by default true and with Hi-Z powers related to all, if the power is not `NULL`. -/
def isRelatedByDefault (bit : CalculatedBit) (bulkPower : Option Nat) (other : Option Nat) : Bool :=
  bulkPower.all fun p => other.all fun q => env.isRelatedPower p q bit bit true true

/-- A power that is not `NULL` and not related to that of the bulk. -/
def unrelated (bit testBit : CalculatedBit) (bulkPower : Nat) (other : Option Nat) : Bool :=
  other.any fun q => !env.isRelatedPower bulkPower q bit testBit false false

/-- A sim power with a known voltage and not related to that of the bulk. -/
def unrelatedSim (bit : CalculatedBit) (bulkPower : Nat) (other : Option Nat) : Bool :=
  other.any fun q => (env.nets.power q).simVoltage != unknownVoltage && !env.isRelatedPower bulkPower q bit .sim false false

/-- The default net of the power of a known voltage. -/
def defaultNet (env : BulkEnv) (bit : CalculatedBit) (power : Option Nat) : Nat :=
  (power.map fun p => (env.nets.power p).defaultNet bit).getD unknownNet

/-- A bias in the forward direction, or none and a smaller resistance than that of the bulk. -/
def forwardBias (known : Bool) (difference : Int) (same : Bool) (resistance bulkResistance : Nat) : Bool :=
  known && (decide (difference > env.cvcBiasErrorThreshold) ||
    same && env.cvcBiasErrorThreshold == 0 && decide (resistance < bulkResistance))

/-- A bias of the far ends of the voltages, but for a power calculated from the bulk, or none and a larger resistance than that of
the bulk, but for a path through the bulk. -/
def farBias (known : Bool) (difference : Int) (fromBulk same noLeak : Bool) (resistance bulkResistance : Nat)
    (isHiz path : Bool) : Bool :=
  known && (decide (difference > env.cvcBiasErrorThreshold) && !fromBulk ||
    same && env.cvcBiasErrorThreshold == 0 && noLeak && decide (resistance > bulkResistance) && !isHiz && !path)

/-- The source or the drain has some connection. -/
def hasPower : Bool :=
  c.source.minPower.isSome || c.source.simPower.isSome || c.source.maxPower.isSome ||
    c.drain.minPower.isSome || c.drain.simPower.isSome || c.drain.maxPower.isSome

/-- The tests of a bulk that is not Hi-Z. -/
def bias (known : Bool) (minBias simBias maxBias : Terminal → Bool) : Bool :=
  if !known then hasPower c
  else
    minBias c.source || minBias c.drain || simBias c.source || simBias c.drain || maxBias c.source || maxBias c.drain

/-- The tests of a terminal against a Hi-Z bulk; `beyond` is the comparison of its sim voltage. -/
def hizError (bit : CalculatedBit) (beyond : Bool) : Bool :=
  env.unrelated bit .min bulkPower t.minPower || env.unrelatedSim bit bulkPower t.simPower && beyond ||
    env.unrelated bit .max bulkPower t.maxPower

/-- The bulk is at the source and at the drain, as far as these are known. -/
def noBias (bulk source drain : Int) : Bool :=
  (bulk == source || source == unknownVoltage) && (bulk == drain || drain == unknownVoltage)

/-- The checks of a device whose powers are related: of a Hi-Z bulk, or of another one. -/
def relatedError (bulkPower : Option Nat) (hizBulk : Nat → Bool) (bias : Bool) : Bool :=
  match bulkPower.filter fun p => (env.nets.power p).type.hizBit with
  | some bulkPower => hizBulk bulkPower
  | none => bias

/-- The heading of the error of a device, from the type of the device and the answers to the tests. -/
def decision (isMos related noBias relatedError : Bool) : Option String :=
  if !isMos then none
  else if c.source.netId == c.drain.netId && c.source.netId == c.bulk.netId then none
  else if related then
    if noBias then none
    else if relatedError then some ""
    else none
  else some "Unrelated power error"

/-! ## NMOS -/

def nmosMinBias : Bool :=
  env.forwardBias (checkTerminalMinVoltages [c.bulk, t]) (c.bulk.minVoltage - t.minVoltage) (t.minVoltage == c.bulk.minVoltage)
    t.minResistance c.bulk.minResistance

def nmosSimBias : Bool :=
  env.forwardBias (checkTerminalSimVoltages [c.bulk, t]) (c.bulk.simVoltage - t.simVoltage) (t.simVoltage == c.bulk.simVoltage)
    t.simResistance c.bulk.simResistance

def nmosMaxBias : Bool :=
  env.farBias (checkTerminalMaxVoltages [c.bulk, t]) (c.bulk.maxVoltage - t.maxVoltage)
    (env.defaultNet .max t.maxPower == c.bulk.netId) (t.maxVoltage == c.bulk.maxVoltage) (t.maxVoltage != c.bulk.minVoltage)
    t.maxResistance c.bulk.maxResistance (env.nets.isHiz c.bulk.minPower) (env.pathContains .max t.netId c.bulk.netId)

/-- The tests of a terminal against a Hi-Z bulk of an NMOS device. -/
def nmosHizError : Bool := env.hizError bulkPower t .min (decide (t.simVoltage < c.bulk.maxVoltage))

/-- The bulk of an NMOS device is Hi-Z. -/
def nmosHizBulk : Bool :=
  if c.source.netId == c.bulk.netId && c.drain.netId == c.bulk.netId then false
  else env.nmosHizError c bulkPower c.source || env.nmosHizError c bulkPower c.drain

/-- The bulk of an NMOS device is not Hi-Z. -/
def nmosBias : Bool := bias c (checkTerminalMinVoltages [c.bulk]) (env.nmosMinBias c) (env.nmosSimBias c) (env.nmosMaxBias c)

/-- The max bulk is at the min source and the min drain. -/
def nmosNoBias : Bool := noBias c.bulk.maxVoltage c.source.minVoltage c.drain.minVoltage

/-- The checks of an NMOS device whose powers are related. -/
def nmosRelatedError : Bool := env.relatedError c.bulk.minPower (env.nmosHizBulk c) (env.nmosBias c)

/-- `CCvcDb::FindNmosSourceVsBulkErrors`, for one device. -/
def nmosSourceVsBulk : Option String :=
  decision c c.type.isNmos (env.isRelatedByDefault .min c.bulk.minPower c.source.minPower &&
    env.isRelatedByDefault .min c.bulk.minPower c.drain.minPower) (nmosNoBias c) (env.nmosRelatedError c)

/-! ## PMOS -/

def pmosMinBias : Bool :=
  env.farBias (checkTerminalMinVoltages [c.bulk, t]) (t.minVoltage - c.bulk.minVoltage)
    (env.defaultNet .min t.minPower == c.bulk.netId) (t.minVoltage == c.bulk.minVoltage) (t.minVoltage != c.bulk.maxVoltage)
    t.minResistance c.bulk.minResistance (env.nets.isHiz c.bulk.maxPower) (env.pathContains .min t.netId c.bulk.netId)

def pmosSimBias : Bool :=
  env.forwardBias (checkTerminalSimVoltages [c.bulk, t]) (t.simVoltage - c.bulk.simVoltage) (t.simVoltage == c.bulk.simVoltage)
    t.simResistance c.bulk.simResistance

def pmosMaxBias : Bool :=
  env.forwardBias (checkTerminalMaxVoltages [c.bulk, t]) (t.maxVoltage - c.bulk.maxVoltage) (t.maxVoltage == c.bulk.maxVoltage)
    t.maxResistance c.bulk.maxResistance

/-- The tests of a terminal against a Hi-Z bulk of a PMOS device. -/
def pmosHizError : Bool := env.hizError bulkPower t .max (decide (t.simVoltage > c.bulk.minVoltage))

/-- The bulk of a PMOS device is Hi-Z. -/
def pmosHizBulk : Bool :=
  env.pmosHizError c bulkPower c.source || env.pmosHizError c bulkPower c.drain

/-- The bulk of a PMOS device is not Hi-Z. -/
def pmosBias : Bool := bias c (checkTerminalMaxVoltages [c.bulk]) (env.pmosMinBias c) (env.pmosSimBias c) (env.pmosMaxBias c)

/-- The min bulk is at the max source and the max drain. -/
def pmosNoBias : Bool := noBias c.bulk.minVoltage c.source.maxVoltage c.drain.maxVoltage

/-- The checks of a PMOS device whose powers are related. -/
def pmosRelatedError : Bool := env.relatedError c.bulk.maxPower (env.pmosHizBulk c) (env.pmosBias c)

/-- `CCvcDb::FindPmosSourceVsBulkErrors`, for one device. -/
def pmosSourceVsBulk : Option String :=
  decision c c.type.isPmos (env.isRelatedByDefault .max c.bulk.maxPower c.source.maxPower &&
    env.isRelatedByDefault .max c.bulk.maxPower c.drain.maxPower) (pmosNoBias c) (env.pmosRelatedError c)

end BulkEnv

/-- The voltage of a power, unknown without one (`CPowerPtrVector::MinVoltage`, `SimVoltage` and `MaxVoltage`). -/
def voltageOfPower (nets : PowerNets) (voltage : CPower → Int) (power : Option Nat) : Int :=
  (power.map fun p => voltage (nets.power p)).getD unknownVoltage

/-- The voltages of a terminal are those of its powers, as `MapDeviceNets` sets them. -/
structure Terminal.Mapped (nets : PowerNets) (t : Terminal) : Prop where
  minVoltage : t.minVoltage = voltageOfPower nets (·.minVoltage) t.minPower
  simVoltage : t.simVoltage = voltageOfPower nets (·.simVoltage) t.simPower
  maxVoltage : t.maxVoltage = voltageOfPower nets (·.maxVoltage) t.maxPower

/-- The voltages of the terminals that the bulk checks read are those of their powers. -/
structure CFullConnection.Mapped (nets : PowerNets) (c : CFullConnection) : Prop where
  source : c.source.Mapped nets
  drain : c.drain.Mapped nets
  bulk : c.bulk.Mapped nets

end Cvc
