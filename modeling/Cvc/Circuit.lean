import Cvc.Types

/-!
# Circuits

`CCircuit.cc`: the circuits of a netlist. A circuit numbers its signals in the order in which its ports, devices and subcircuit
calls name them (`localSignalIdMap`), so the ports come first.

Names are the addresses of interned texts (`text_t`), here natural numbers, with the texts themselves only read by messages. A
pointer to a circuit is its name. The lists of texts kept for printing are left out.
-/

namespace Cvc

/-- `CDevice`: a device, or the call of a subcircuit with the name of its master, and the signals it connects. -/
structure CDevice where
  name : Nat
  signalIdV : List Nat
  masterName : Nat
  deriving DecidableEq, Repr, Inhabited

/-- `CCircuit`: the names of the signals in the order of their ids, the number of ports among them, the devices and the
subcircuit calls. -/
structure CCircuit where
  portCount : Nat := 0
  localSignalIdMap : List Nat := []
  devicePtrV : List CDevice := []
  subcircuitPtrV : List CDevice := []
  deriving DecidableEq, Repr, Inhabited

namespace CCircuit

/-- `CCircuit::LocalNetCount`. -/
def localNetCount (c : CCircuit) : Nat := c.localSignalIdMap.length - c.portCount

/-- `CCircuit::AddPortSignalIds`. -/
def addPortSignalIds (text : Nat → String) (name : Nat) : List Nat → CCircuit → Except Failure CCircuit
  | [], c => .ok c
  | port :: ports, c =>
    if port ∈ c.localSignalIdMap then
      .error (.eFatalError ("duplicate port " ++ text port ++ " in " ++ text name ++ "\n"))
    else
      addPortSignalIds text name ports
        { c with localSignalIdMap := c.localSignalIdMap ++ [port], portCount := c.portCount + 1 }

/-- `CCircuit::SetSignalIds`: the ids of the named signals; a name that is new gets the next id. -/
def setSignalIds : List Nat → CCircuit → CCircuit × List Nat
  | [], c => (c, [])
  | signal :: signals, c =>
    let c' := if signal ∈ c.localSignalIdMap then c else { c with localSignalIdMap := c.localSignalIdMap ++ [signal] }
    let (c'', ids) := setSignalIds signals c'
    (c'', c'.localSignalIdMap.idxOf signal :: ids)

end CCircuit

/-- A device as it is parsed: the names of its signals, and that of its master if it is the call of a subcircuit. A black box may
have no signals. -/
structure ParsedDevice where
  name : Nat
  signalList : List Nat
  masterName : Option Nat

/-- `CCircuit::LoadDevices`, with the names that are taken. -/
def CCircuit.loadDevices (used : List Nat) : List ParsedDevice → CCircuit → Except Failure CCircuit
  | [], c => .ok c
  | device :: devices, c =>
    let (c, signalIdV) := c.setSignalIds device.signalList
    if device.name ∈ used then .error .eDuplicateInstance
    else
      match device.masterName with
      | some masterName =>
        loadDevices (device.name :: used) devices
          { c with subcircuitPtrV := c.subcircuitPtrV ++ [⟨device.name, signalIdV, masterName⟩] }
      | none =>
        loadDevices (device.name :: used) devices
          { c with devicePtrV := c.devicePtrV ++ [⟨device.name, signalIdV, 0⟩] }

/-- A circuit from its ports and its devices, as the parser makes it. -/
def CCircuit.parse (text : Nat → String) (name : Nat) (ports : List Nat) (devices : List ParsedDevice) :
    Except Failure CCircuit := do
  let c ← addPortSignalIds text name ports {}
  c.loadDevices [] devices

/-- What every parsed circuit has: the ports are the first signals, and devices and subcircuit calls connect signals of the
circuit. -/
structure CCircuit.WellFormed (c : CCircuit) : Prop where
  portCount_le : c.portCount ≤ c.localSignalIdMap.length
  device_lt : ∀ d ∈ c.devicePtrV, ∀ s ∈ d.signalIdV, s < c.localSignalIdMap.length
  subcircuit_lt : ∀ d ∈ c.subcircuitPtrV, ∀ s ∈ d.signalIdV, s < c.localSignalIdMap.length

instance (c : CCircuit) : Decidable c.WellFormed :=
  decidable_of_iff (c.portCount ≤ c.localSignalIdMap.length ∧
      (∀ d ∈ c.devicePtrV, ∀ s ∈ d.signalIdV, s < c.localSignalIdMap.length) ∧
      ∀ d ∈ c.subcircuitPtrV, ∀ s ∈ d.signalIdV, s < c.localSignalIdMap.length)
    ⟨fun ⟨h₁, h₂, h₃⟩ => ⟨h₁, h₂, h₃⟩, fun ⟨h₁, h₂, h₃⟩ => ⟨h₁, h₂, h₃⟩⟩

end Cvc
