import Cvc.Library

/-!
# The instance tree and its folding

What flattening is for, in terms of the hierarchy alone. A node of the instance tree is the way to it from the top: the offset of
its subcircuit call in its parent, before the way to its parent. The net of a signal is the signal at which the chain of port
connections up from it ends. An instance is folded when its parent is, or when an earlier instance of its circuit that is not
folded has the same nets at its ports and the circuit has few enough ports; it is then folded onto that instance, and what is
inside it onto what is inside that one.
-/

namespace Cvc
namespace Hierarchy

variable (h : Hierarchy)

/-- The circuit that the instance at a node is an instance of. -/
def masterOf : List Nat → Nat
  | [] => h.topBlock
  | i :: p => ((h.circuit (masterOf p)).subcircuitPtrV.getD i default).masterName

variable (tbl : FoldTable) (p : List Nat)

/-- The circuit at a node. -/
def circuitAt : CCircuit := h.circuit (h.masterOf p)

/-- The subcircuit call that makes the `i`-th instance inside a node. -/
def callOf (i : Nat) (p : List Nat) : CDevice := (h.circuitAt p).subcircuitPtrV.getD i default

/-- The number of subcircuit calls of a node. -/
def width : Nat := (h.circuitAt p).subcircuitPtrV.length

/-- The number of signals of a node. -/
def signals : Nat := (h.circuitAt p).localSignalIdMap.length

/-- The way leads to a node of the tree. -/
def IsNode : List Nat → Prop
  | [] => True
  | i :: p => IsNode p ∧ i < h.width p

/-- The nodes from a node down, depth first, for a circuit of at most the given depth. -/
def nodesFrom : Nat → List Nat → List (List Nat)
  | 0, _ => []
  | depth + 1, p => p :: (List.range (h.width p)).flatMap fun i => nodesFrom depth (i :: p)

/-- The nodes of the instance tree in the order in which they are visited. -/
def nodes : List (List Nat) := h.nodesFrom (h.rank h.topBlock + 1) []

/-- The net of a signal: the node and the signal of it at which the port connections up from the signal end. -/
def netOf : List Nat → Nat → List Nat × Nat
  | [], s => ([], s)
  | i :: p, s => if s < (h.circuitAt (i :: p)).portCount then netOf p ((h.callOf i p).signalIdV.getD s 0) else (i :: p, s)

/-- Two nodes are instances of one circuit with the same nets at their ports. -/
def samePorts (p q : List Nat) : Bool :=
  h.masterOf p == h.masterOf q && (List.range (h.circuitAt p).portCount).all fun k => h.netOf p k == h.netOf q k

/-- The nodes that have been visited, each with the node it is folded onto. -/
abbrev FoldTable := List (List Nat × Option (List Nat))

/-- The node that a visited node is folded onto, if it is. -/
def FoldTable.image : Option (List Nat) := (tbl.lookup p).join

/-- The nodes that are not folded. -/
def FoldTable.kept : List (List Nat) := (tbl.filter fun e => e.2.isNone).map Prod.fst

/-- The node that a node is counted for: the node it is folded onto, or the one that is folded onto in turn. -/
def FoldTable.target : List Nat :=
  match tbl.image p with
  | none => p
  | some t => (tbl.image t).getD t

/-- The number of nodes that are folded and counted for a node. -/
def FoldTable.countFor : Nat :=
  (tbl.map Prod.fst).countP fun x => (tbl.image x).isSome && tbl.target x == p

/-- The node that the next node is folded onto, if it is. -/
def imageOf (theLimit : Nat) (tbl : FoldTable) : List Nat → Option (List Nat)
  | [] => none
  | i :: p =>
    match tbl.image p with
    | some t => some (i :: t)
    | none => if (h.circuitAt (i :: p)).portCount ≤ theLimit then tbl.kept.find? (h.samePorts (i :: p)) else none

/-- The folding of nodes in the order in which they are visited. -/
def foldNodes (theLimit : Nat) (tbl : FoldTable) (ps : List (List Nat)) : FoldTable :=
  ps.foldl (fun tbl p => tbl ++ [(p, h.imageOf theLimit tbl p)]) tbl

/-- The folding of the instance tree. -/
def folding (theLimit : Nat) : FoldTable := h.foldNodes theLimit [] h.nodes

/-- A node is kept, or folded in at most two steps onto a kept one; a node inside a folded one that takes a single step has a
signal. -/
def settles : Bool :=
  match tbl.image p with
  | none => true
  | some t =>
    match tbl.image t with
    | none => (tbl.image p.tail).isNone || 0 < h.signals p
    | some t' => (tbl.image t').isNone

end Hierarchy
end Cvc
