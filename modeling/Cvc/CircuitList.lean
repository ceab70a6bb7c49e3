import Cvc.Circuit

/-!
# The circuits of a process

`CCircuitPtrList` of `CCircuit.cc` through the netlists that a process loads. The parser allocates a circuit at a pointer that the
allocator chooses, which can be one that was freed before, and `Clear` frees the circuits. Names are the addresses of interned
texts; the texts of the next netlist are stored from the same address on. `GetLocalDeviceId` and `GetLocalSubcircuitId` keep the
ids of the names of one circuit in a static map, with the name of that circuit. The texts of the parameters and the number of
errors are left out.
-/

namespace Cvc

/-- A circuit with its name. -/
structure NamedCircuit extends CCircuit where
  name : Nat

/-- What a name can be the name of in a circuit. -/
inductive LocalKind where
  | device
  | subcircuit
  deriving DecidableEq

/-- The devices or the subcircuit calls of a circuit. -/
def CCircuit.members (c : CCircuit) : LocalKind → List CDevice
  | .device => c.devicePtrV
  | .subcircuit => c.subcircuitPtrV

/-- The ids of the names, where the last device with a name counts. -/
def localIds (devices : List CDevice) : Nat → Option Nat :=
  devices.zipIdx.foldl (fun ids d => Function.update ids d.1.name (some d.2)) fun _ => none

/-- A static map from names to ids, and the name of the circuit it is of: `localDeviceIdMap` and `lastDeviceMap`, or those of the
subcircuits. -/
structure LocalIdMap where
  lastMap : Option Nat := none
  ids : Nat → Option Nat := fun _ => none

/-- The map once it is the one of a circuit, as far as the name of the circuit tells. -/
def LocalIdMap.of (m : LocalIdMap) (name : Nat) (devices : List CDevice) : LocalIdMap :=
  if m.lastMap ≠ some name then { lastMap := some name, ids := localIds devices } else m

/-- `CCircuitPtrList`, the circuits that are allocated and the static maps. -/
structure CircuitPtrList where
  allocated : Nat → Option NamedCircuit := fun _ => none
  list : List Nat := []
  circuitNameMap : Nat → Option Nat := fun _ => none
  localIdMap : LocalKind → LocalIdMap := fun _ => {}

namespace CircuitPtrList

/-- `delete` of a pointer to a circuit. -/
def delete (s : CircuitPtrList) (p : Nat) : Except Failure CircuitPtrList :=
  if (s.allocated p).isSome then .ok { s with allocated := Function.update s.allocated p none } else .error .undefined

/-- `CCircuitPtrList::Clear`, which leaves the list. -/
def clear (s : CircuitPtrList) : Except Failure CircuitPtrList :=
  s.list.foldlM delete { s with circuitNameMap := fun _ => none }

/-- The parser adds a circuit that it allocated. -/
def add (s : CircuitPtrList) (c : Nat × NamedCircuit) : CircuitPtrList where
  allocated := Function.update s.allocated c.1 (some c.2)
  list := s.list ++ [c.1]
  circuitNameMap := Function.update s.circuitNameMap c.2.name (some c.1)
  localIdMap := s.localIdMap

/-- `VerifyCircuitForAllModes` loads a netlist, given by its circuits and the pointers they are allocated at. -/
def load (netlist : List (Nat × NamedCircuit)) (s : CircuitPtrList) : Except Failure CircuitPtrList := do
  return netlist.foldl add (← s.clear)

/-- The id of a name in the circuit at a pointer. -/
def getLocalId (kind : LocalKind) (s : CircuitPtrList) (p theName : Nat) : Except Failure (CircuitPtrList × Option Nat) :=
  match s.allocated p with
  | none => .error .undefined
  | some c =>
    let m := (s.localIdMap kind).of c.name (c.members kind)
    .ok ({ s with localIdMap := Function.update s.localIdMap kind m }, m.ids theName)

/-- `CCircuit::GetLocalDeviceId`, without an id for `out_of_range`. -/
def getLocalDeviceId := getLocalId .device

/-- `CCircuit::GetLocalSubcircuitId`, without an id for `out_of_range`. -/
def getLocalSubcircuitId := getLocalId .subcircuit

/-- The state after a number of look-ups in circuits that are found by their names. -/
inductive Looked (s : CircuitPtrList) : CircuitPtrList → Prop where
  | start : Looked s s
  | getLocalId {t u : CircuitPtrList} {kind : LocalKind} {name p theName : Nat} {r : Option Nat} (h : Looked s t)
    (hp : t.circuitNameMap name = some p) (hu : getLocalId kind t p theName = .ok (u, r)) : Looked s u

/-- The pointers of a netlist are those of an allocator: different, and not allocated once the circuits of before are freed. -/
structure Fresh (netlist : List (Nat × NamedCircuit)) (s : CircuitPtrList) : Prop where
  nodup : (netlist.map Prod.fst).Nodup
  free : ∀ t, s.clear = .ok t → ∀ c ∈ netlist, t.allocated c.1 = none

/-- The states of a process. -/
inductive Reachable : CircuitPtrList → Prop where
  | start : Reachable {}
  | load {s t : CircuitPtrList} {netlist : List (Nat × NamedCircuit)} (h : Reachable s) (hfresh : Fresh netlist s)
    (ht : s.load netlist = .ok t) : Reachable t
  | looked {s t : CircuitPtrList} (h : Reachable s) (ht : Looked s t) : Reachable t

/-- Nothing is left of the netlists of before: the list has every circuit of this one once, each is allocated, and the look-ups
answer from them. -/
structure Current (netlist : List (Nat × NamedCircuit)) (s : CircuitPtrList) : Prop where
  nodup : s.list.Nodup
  mem_list : ∀ c ∈ netlist, c.1 ∈ s.list
  allocated : ∀ p ∈ s.list, ∃ c, (p, c) ∈ netlist ∧ s.allocated p = some c
  getLocalDeviceId : ∀ c ∈ netlist, s.circuitNameMap c.2.name = some c.1 → ∀ theName,
    (s.getLocalDeviceId c.1 theName).map Prod.snd = .ok (localIds c.2.devicePtrV theName)
  getLocalSubcircuitId : ∀ c ∈ netlist, s.circuitNameMap c.2.name = some c.1 → ∀ theName,
    (s.getLocalSubcircuitId c.1 theName).map Prod.snd = .ok (localIds c.2.subcircuitPtrV theName)

end CircuitPtrList
end Cvc
