import Cvc.Circuit

/-!
# Linking

Linking looks up the master of every subcircuit call and counts, for every circuit, the objects below it and the number of its
instances. In a library of circuits a call may have no master or another number of signals than its master has ports, and a
circuit may call itself, directly or through others. A circuit is marked as linked at the end of its own loop only, so it is not
when one of its calls comes back to it. A hierarchy is a library without cycles whose calls fit their masters.

The recursion is followed down to a depth and fails as `undefined` below it. The counters of `CCircuit` have 32 bits: `wrap` is
what a counter makes of a number, `uint32` in the code and `id` for exact counts, with which a hierarchy is linked here.
-/

namespace Cvc

/-- The circuits of a netlist with the name of the top cell. -/
structure Library where
  text : Nat → String
  circuitNameMap : Nat → Option CCircuit
  topBlock : Nat
  wellFormed : ∀ name c, circuitNameMap name = some c → c.WellFormed

/-- The counts that linking writes in a circuit. -/
structure CircuitCounts where
  linked : Bool := false
  deviceCount : Nat := 0
  netCount : Nat := 0
  subcircuitCount : Nat := 0
  instanceCount : Nat := 0
  deriving DecidableEq, Repr, Inhabited

/-- The objects that are counted below a circuit. -/
inductive ObjectKind where
  | device | net | subcircuit
  deriving DecidableEq, Repr

/-- The counter of a kind of objects. -/
def CircuitCounts.objects (counts : CircuitCounts) : ObjectKind → Nat
  | .device => counts.deviceCount
  | .net => counts.netCount
  | .subcircuit => counts.subcircuitCount

/-- The objects of a circuit itself. -/
def CCircuit.ownObjects (c : CCircuit) : ObjectKind → Nat
  | .device => c.devicePtrV.length
  | .net => c.localNetCount
  | .subcircuit => c.subcircuitPtrV.length

namespace Library

variable (lib : Library) (wrap : Nat → Nat)
variable (counts : Nat → CircuitCounts) (name : Nat)

/-- The circuit a name points to. -/
def circuit : CCircuit := (lib.circuitNameMap name).getD {}

variable {lib name} in
theorem circuit_eq {c : CCircuit} (h : lib.circuitNameMap name = some c) : lib.circuit name = c := by
  rw [circuit, h]
  rfl

/-- `instanceCount++`. -/
def countInstance : Nat → CircuitCounts :=
  Function.update counts name { counts name with instanceCount := wrap ((counts name).instanceCount + 1) }

/-- The loop of `CCircuit::CountInstantiations`, with the call for the masters. -/
def countInstantiation (count : Nat → (Nat → CircuitCounts) → Except Failure (Nat → CircuitCounts))
    (counts : Nat → CircuitCounts) (d : CDevice) : Except Failure (Nat → CircuitCounts) := do
  if (counts d.masterName).linked = false then throw .assertion
  let counts ← (if 0 < (counts d.masterName).subcircuitCount then count d.masterName counts else pure counts)
  pure (countInstance wrap counts d.masterName)

/-- `CCircuit::CountInstantiations`, down to a depth. -/
def countInstantiations : Nat → Nat → (Nat → CircuitCounts) → Except Failure (Nat → CircuitCounts)
  | 0, _, _ => .error .undefined
  | depth + 1, name, counts =>
    (lib.circuit name).subcircuitPtrV.foldlM (countInstantiation wrap (countInstantiations depth)) counts

/-- The counts of a circuit, with the objects below one more master. -/
def addObjects (c m : CircuitCounts) : CircuitCounts :=
  { c with
    deviceCount := wrap (c.deviceCount + m.deviceCount)
    netCount := wrap (c.netCount + m.netCount)
    subcircuitCount := wrap (c.subcircuitCount + m.subcircuitCount) }

/-- The message for a call without a master. -/
def notFound (d : CDevice) : String :=
  "could not find subcircuit: " ++ lib.text d.name ++ "(" ++ lib.text d.masterName ++ ") in " ++ lib.text name ++ "\n"

/-- The message for a call with another number of signals than its master has ports. -/
def portMismatch (d : CDevice) (portCount : Nat) : String :=
  "port count mismatch in " ++ lib.text d.name ++ " of " ++ lib.text name ++ " found " ++ toString d.signalIdV.length ++
    " expected " ++ toString portCount ++ "\n"

/-- The loop of `CCircuit::CountObjectsAndLinkSubcircuits`, with the calls for masters that are linked and that are not. -/
def linkSubcircuit (count link : Nat → (Nat → CircuitCounts) → Except Failure (Nat → CircuitCounts)) (name : Nat)
    (counts : Nat → CircuitCounts) (d : CDevice) : Except Failure (Nat → CircuitCounts) :=
  match lib.circuitNameMap d.masterName with
  | none => throw (.eFatalError (lib.notFound name d))
  | some child => do
    let counts ← (
      if (counts d.masterName).linked then
        if 0 < (counts d.masterName).subcircuitCount then count d.masterName counts else pure counts
      else link d.masterName counts)
    if d.signalIdV.length ≠ child.portCount then throw (.eFatalError (lib.portMismatch name d child.portCount))
    let counts := countInstance wrap counts d.masterName
    pure (Function.update counts name (addObjects wrap (counts name) (counts d.masterName)))

/-- The counts of a circuit before its loop. -/
def ownCounts : Nat → CircuitCounts :=
  let c := lib.circuit name
  Function.update counts name { counts name with
    deviceCount := wrap c.devicePtrV.length, netCount := wrap c.localNetCount, subcircuitCount := wrap c.subcircuitPtrV.length }

/-- `CCircuit::CountObjectsAndLinkSubcircuits`, down to a depth. -/
def countObjectsAndLinkSubcircuits : Nat → Nat → (Nat → CircuitCounts) → Except Failure (Nat → CircuitCounts)
  | 0, _, _ => .error .undefined
  | depth + 1, name, counts => do
    let counts ← (lib.circuit name).subcircuitPtrV.foldlM
      (lib.linkSubcircuit wrap (lib.countInstantiations wrap depth) (countObjectsAndLinkSubcircuits depth) name)
      (lib.ownCounts wrap counts name)
    pure (Function.update counts name { counts name with linked := true })

/-- The message for a design that is too large. -/
def dataSizeMessage : String := "data size exceeds 4G items"

/-- The counts with the ports of the top circuit and the top circuit itself. -/
def addTop (portCount : Nat) (counts : Nat → CircuitCounts) : Nat → CircuitCounts :=
  Function.update counts lib.topBlock { counts lib.topBlock with
    netCount := wrap ((counts lib.topBlock).netCount + portCount)
    subcircuitCount := wrap ((counts lib.topBlock).subcircuitCount + 1)
    instanceCount := wrap ((counts lib.topBlock).instanceCount + 1) }

/-- The design is not too large. -/
def checkSize : Except Failure (Nat → CircuitCounts) :=
  let top := counts lib.topBlock
  if top.netCount > maxNet ∨ top.subcircuitCount > maxSubcircuit ∨ top.deviceCount > maxDevice then
    throw (.eFatalError dataSizeMessage)
  else pure counts

/-- `CCvcDb::CountObjectsAndLinkSubcircuits`, down to a depth. -/
def linkTop (depth : Nat) : Except Failure (Nat → CircuitCounts) :=
  match lib.circuitNameMap lib.topBlock with
  | none => throw (.eFatalError ("could not find subcircuit: " ++ lib.text lib.topBlock))
  | some c => do
    let counts ← lib.countObjectsAndLinkSubcircuits wrap depth lib.topBlock (fun _ => {})
    lib.checkSize (lib.addTop wrap c.portCount counts)

/-! ## The hierarchy of a library -/

/-- A circuit calls another one. -/
def Calls (name master : Nat) : Prop := ∃ d ∈ (lib.circuit name).subcircuitPtrV, d.masterName = master

/-- A call has as many signals as its master has ports. -/
def PortsMatch (d : CDevice) : Prop := d.signalIdV.length = (lib.circuit d.masterName).portCount

/-- The hierarchy below a circuit is complete, its calls match the ports of their masters, and it comes to an end. -/
inductive Clean (lib : Library) : Nat → Prop where
  | intro {name : Nat} (found : (lib.circuitNameMap name).isSome)
    (calls : ∀ d ∈ (lib.circuit name).subcircuitPtrV, Clean lib d.masterName)
    (ports : ∀ d ∈ (lib.circuit name).subcircuitPtrV, lib.PortsMatch d) : Clean lib name

/-- A circuit has a call of another one that comes after calls of clean circuits only, which match their ports. -/
def Enters (name master : Nat) : Prop :=
  ∃ pre d post, (lib.circuit name).subcircuitPtrV = pre ++ d :: post ∧ d.masterName = master ∧
    (lib.circuitNameMap master).isSome ∧ ∀ e ∈ pre, lib.Clean e.masterName ∧ lib.PortsMatch e

/-- The library has finitely many circuits. -/
def IsFinite : Prop := ∃ names : List Nat, ∀ name, (lib.circuitNameMap name).isSome → name ∈ names

/-- The circuits of the instances of the full expansion of a circuit, down to a depth. -/
def expansionFrom : Nat → Nat → List Nat
  | 0, _ => []
  | depth + 1, name => name :: (lib.circuit name).subcircuitPtrV.flatMap fun d => expansionFrom depth d.masterName

/-- Calls lead to circuits of a smaller rank. -/
def Ranked (rank : Nat → Nat) : Prop := ∀ name, ∀ d ∈ (lib.circuit name).subcircuitPtrV, rank d.masterName < rank name

/-- The circuits of the instances of the full expansion of a circuit. -/
def expansion (rank : Nat → Nat) (name : Nat) : List Nat := lib.expansionFrom (rank name + 1) name

end Library

/-- A library without cycles that has its top circuit and the masters of all subcircuit calls, with as many signals in a call as
its master has ports. -/
structure Hierarchy extends Library where
  rank : Nat → Nat
  top_found : (circuitNameMap topBlock).isSome
  master_found : ∀ name c, circuitNameMap name = some c → ∀ d ∈ c.subcircuitPtrV, (circuitNameMap d.masterName).isSome
  rank_lt : ∀ name c, circuitNameMap name = some c → ∀ d ∈ c.subcircuitPtrV, rank d.masterName < rank name
  ports_eq : ∀ name c, circuitNameMap name = some c → ∀ d ∈ c.subcircuitPtrV, ∀ m, circuitNameMap d.masterName = some m →
    d.signalIdV.length = m.portCount

namespace Hierarchy

/-- A hierarchy from the list of its circuits, named by their places. A circuit comes after the masters of its calls, the last one
is the top. -/
def ofCircuits (cs : List CCircuit) (nonempty : cs ≠ []) (wellFormed : ∀ c ∈ cs, c.WellFormed)
    (calls : ∀ e ∈ cs.zipIdx, ∀ d ∈ e.1.subcircuitPtrV, d.masterName < e.2 ∧
      d.signalIdV.length = (cs.getD d.masterName {}).portCount) : Hierarchy where
  text := toString
  circuitNameMap name := cs[name]?
  topBlock := cs.length - 1
  rank := id
  top_found := by
    have := List.length_pos_iff.2 nonempty
    rw [List.getElem?_eq_getElem (by omega)]
    rfl
  master_found name c hc d hd := by
    have hlt := (calls (c, name) (List.mem_zipIdx_iff_getElem?.mpr hc) d hd).1
    obtain ⟨hn, -⟩ := List.getElem?_eq_some_iff.1 hc
    rw [List.getElem?_eq_getElem (Nat.lt_trans hlt hn)]
    rfl
  rank_lt name c hc d hd := (calls (c, name) (List.mem_zipIdx_iff_getElem?.mpr hc) d hd).1
  ports_eq name c hc d hd m hm := by
    rw [(calls (c, name) (List.mem_zipIdx_iff_getElem?.mpr hc) d hd).2, List.getD_eq_getElem?_getD, hm]
    rfl
  wellFormed name c hc := wellFormed c (List.mem_of_getElem? hc)

/-- `CCvcDb::CountObjectsAndLinkSubcircuits`, with exact counters. -/
def linkTop (h : Hierarchy) : Except Failure (Nat → CircuitCounts) := h.toLibrary.linkTop id (h.rank h.topBlock + 1)

end Hierarchy
end Cvc
