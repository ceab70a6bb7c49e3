import Mathlib.Data.List.Range
import Cvc.Instance
import Cvc.Lemmas.Folding
import Cvc.Lib.Blocks
import Cvc.Lib.LinkedList

/-!
# What flattening has written

The invariants of flattening, between visits of the instance tree: the instances that have been made (`Insts`), the nets and
devices of those that are kept (`Nets`) and the hash chains they are found by (`Hashes`). They do not speak about the shared word
of the counts and the ids of parallel instances, so every write of that word keeps them.
-/

namespace Cvc

open Blocks LinkedList List Option

/-! ## Nets of the tree -/

namespace Hierarchy

variable (h : Hierarchy) {p : List Nat} {i k s : Nat}

/-- The first signal of a node that is not connected up: the top has no connections, another node has its ports. -/
def ownStart : List Nat → Nat
  | [] => 0
  | i :: p => (h.circuitAt (i :: p)).portCount

/-- The number of nets a node adds. -/
def ownNets (p : List Nat) : Nat := h.signals p - h.ownStart p

theorem portCount_le_signals (p : List Nat) : (h.circuitAt p).portCount ≤ h.signals p :=
  (h.circuit_wellFormed (h.masterOf p)).portCount_le

/-- The signal that a port is connected to is one of the parent. -/
theorem portSignal_lt (hi : i < h.width p) (hk : k < (h.circuitAt (i :: p)).portCount) :
    (h.callOf i p).signalIdV.getD k 0 < h.signals p := by
  have hmem := h.callOf_mem hi
  have hlen : k < (h.callOf i p).signalIdV.length := by
    rw [h.signals_length hmem]
    exact hk
  rw [getD_eq_getElem _ _ hlen]
  exact (h.circuit_wellFormed (h.masterOf p)).subcircuit_lt _ hmem _ (getElem_mem hlen)

theorem netOf_port (hk : k < (h.circuitAt (i :: p)).portCount) :
    h.netOf (i :: p) k = h.netOf p ((h.callOf i p).signalIdV.getD k 0) := by
  simp [netOf, hk]

theorem netOf_own (hs : h.ownStart p ≤ s) : h.netOf p s = (p, s) := by
  cases p with
  | nil => rfl
  | cons i p =>
    have : ¬ s < (h.circuitAt (i :: p)).portCount := Nat.not_lt.2 hs
    simp [netOf, this]

/-- The net of a signal is a signal that its node adds. -/
theorem netOf_spec (hp : h.IsNode p) (hs : s < h.signals p) : (h.netOf p s).1 <:+ p ∧
    h.ownStart (h.netOf p s).1 ≤ (h.netOf p s).2 ∧
      (h.netOf p s).2 < h.signals (h.netOf p s).1 := by
  induction p generalizing s with
  | nil => exact ⟨suffix_refl _, Nat.zero_le _, hs⟩
  | cons i p ih =>
    rcases Nat.lt_or_ge s (h.circuitAt (i :: p)).portCount with hlt | hge
    · rw [h.netOf_port hlt]
      obtain ⟨hsuf, hle, hlt⟩ := ih hp.1 (h.portSignal_lt hp.2 hlt)
      exact ⟨hsuf.trans (suffix_cons i p), hle, hlt⟩
    · rw [h.netOf_own (p := i :: p) hge]
      exact ⟨suffix_refl _, hge, hs⟩

/-- Every node above a kept one is kept. -/
theorem Folds.image_suffix {h : Hierarchy} {lim : Nat} {vis pend : List (List Nat)} {tbl : FoldTable} {r : List Nat}
    (hf : h.Folds lim vis tbl) (hv : h.Visiting vis pend) (hp : p ∈ vis) (hk : tbl.image p = none) (hr : r <:+ p) :
    r ∈ vis ∧ tbl.image r = none := by
  induction p with
  | nil =>
    obtain rfl := suffix_nil.1 hr
    exact ⟨hp, hk⟩
  | cons i p ih =>
    rcases suffix_cons_iff.1 hr with rfl | hr
    · exact ⟨hp, hk⟩
    · exact ih (hv.parent i p (mem_append_left _ hp)).1 (hf.image_parent hp hk) hr

end Hierarchy

/-! ## Numberings -/

/-- The ids that flattening gives to a node: its instance, the first of its nets and the first of its devices. -/
structure Numbering where
  id : List Nat → Nat
  firstNet : List Nat → Nat
  firstDevice : List Nat → Nat

/-- The numbers that a visit gives: the instances inside the node, its nets and its devices get the next ids. -/
def Numbering.visit (N : Numbering) (p : List Nat) (subcircuitCount netCount deviceCount : Nat) : Numbering where
  id
    | [] => N.id []
    | i :: q => if q = p then subcircuitCount + i else N.id (i :: q)
  firstNet := Function.update N.firstNet p netCount
  firstDevice := Function.update N.firstDevice p deviceCount

namespace Hierarchy

variable (h : Hierarchy) (N : Numbering)

/-- The global id of a net. -/
def netId (n : List Nat × Nat) : Nat := N.firstNet n.1 + (n.2 - h.ownStart n.1)

/-- The global ids of the nets at the ports of a node. -/
def portIds (p : List Nat) : List Nat := (List.range (h.circuitAt p).portCount).map fun k => h.netId N (h.netOf p k)

/-- The net map of a node. -/
def netMap (p : List Nat) : List Nat := (List.range (h.signals p)).map fun s => h.netId N (h.netOf p s)

/-- The kept nodes of a circuit under one hash key. -/
def hashed (theLimit : Nat) (counts : Nat → CircuitCounts) (tbl : FoldTable) (name key : Nat) : List (List Nat) :=
  tbl.kept.filter fun p => p != [] && h.masterOf p == name && decide ((h.circuitAt p).portCount ≤ theLimit) &&
    makePortHash (h.portIds N p) (counts name).instanceCount == key

end Hierarchy

/-! ## Invariants -/

/-- An instance without the shared word and the link of its hash chain. -/
def CInstance.shape (i : CInstance) : CInstance := { i with parallelInstance := 0, nextHashedInstanceId := 0 }

theorem CInstance.fields_of_shape {i j : CInstance} (h : i.shape = j.shape) :
    i.firstDeviceId = j.firstDeviceId ∧ i.firstSubcircuitId = j.firstSubcircuitId ∧ i.firstNetId = j.firstNetId ∧
      i.localToGlobalNetIdV = j.localToGlobalNetIdV ∧ i.parentId = j.parentId ∧ i.masterName = j.masterName := by
  simp only [shape, CInstance.mk.injEq] at h
  obtain ⟨h1, h2, h3, -, h4, -, h5, h6⟩ := h
  exact ⟨h1, h2, h3, h4, h5, h6⟩

namespace CCvcDb

/-- The instances without the words that `shape` leaves out. -/
def shapes (db : CCvcDb) (x : Nat) : Option CInstance := (db.instancePtrV x).map CInstance.shape

/-- The link of the hash chain at an id. -/
def nextHashed (db : CCvcDb) (x : Nat) : Nat := ((db.instancePtrV x).map CInstance.nextHashedInstanceId).getD unknownDevice

end CCvcDb

namespace Hierarchy

variable (h : Hierarchy) (theLimit : Nat) (counts : Nat → CircuitCounts) (N : Numbering)

/-- The ids of the known nodes are the numbers below the count, and an instance has a larger id than the one it is in. -/
structure Ids (vis pend : List (List Nat)) (subcircuitCount : Nat) : Prop where
  root : N.id [] = 0
  perm : ((vis ++ pend).map N.id).Perm (List.range subcircuitCount)
  later : ∀ i p, i :: p ∈ vis ++ pend → N.id p < N.id (i :: p)

/-- The instances of the visited nodes have been made, and no others. -/
structure Insts (vis : List (List Nat)) (db : CCvcDb) : Prop where
  made : ∀ p ∈ vis, ∃ I, db.instancePtrV (N.id p) = some I ∧ I.masterName = h.masterOf p ∧ I.parentId = N.id p.tail ∧
    ∀ i < h.width p, N.id (i :: p) = I.firstSubcircuitId + i
  not_made : ∀ x, x ∉ vis.map N.id → db.instancePtrV x = none
  lists : ∀ c, db.instanceIdV c = (vis.filter fun p => h.masterOf p == c).map N.id

/-- The kept nodes have their nets and devices, in blocks of ids that fill the tables of parents. -/
structure Nets (vis : List (List Nat)) (tbl : FoldTable) (db : CCvcDb) : Prop where
  kept : ∀ p ∈ vis, ∀ I, db.instancePtrV (N.id p) = some I → tbl.image p = none →
    I.firstNetId = N.firstNet p ∧ I.firstDeviceId = N.firstDevice p ∧ I.localToGlobalNetIdV = h.netMap N p
  folded : ∀ p ∈ vis, ∀ I, db.instancePtrV (N.id p) = some I → tbl.image p ≠ none → I.localToGlobalNetIdV = []
  nets : Fill tbl.kept N.firstNet h.ownNets N.id db.netParentV
  devices : Fill tbl.kept N.firstDevice (fun p => (h.circuitAt p).devicePtrV.length) N.id db.deviceParentV
  netCount : db.netCount = db.netParentV.length
  deviceCount : db.deviceCount = db.deviceParentV.length

/-- The kept nodes of a circuit are linked by hash key, in the order in which they were visited. -/
def Hashes (tbl : FoldTable) (db : CCvcDb) : Prop :=
  ∀ name key, Linked unknownDevice db.nextHashed (db.instanceHashIdV name key)
    ((h.hashed N theLimit counts tbl name key).map N.id)

end Hierarchy

/-! ## Writes of the shared word -/

/-- Two databases differ in nothing but the shared words of their instances and their hash chains. -/
structure CCvcDb.SameShape (db db' : CCvcDb) : Prop where
  shapes : db'.shapes = db.shapes
  subcircuitCount : db'.subcircuitCount = db.subcircuitCount
  netCount : db'.netCount = db.netCount
  deviceCount : db'.deviceCount = db.deviceCount
  netParentV : db'.netParentV = db.netParentV
  deviceParentV : db'.deviceParentV = db.deviceParentV
  instanceIdV : db'.instanceIdV = db.instanceIdV

/-- Two databases differ in nothing but the shared words of their instances. -/
structure CCvcDb.SameBut (db db' : CCvcDb) : Prop extends SameShape db db' where
  nextHashed : db'.nextHashed = db.nextHashed
  instanceHashIdV : db'.instanceHashIdV = db.instanceHashIdV

/-- The shared words of the instances. -/
def CCvcDb.words (db : CCvcDb) (x : Nat) : Option Nat := (db.instancePtrV x).map CInstance.parallelInstance

/-- Two databases differ in nothing but their hash chains. -/
structure CCvcDb.SameButHash (db db' : CCvcDb) : Prop extends SameShape db db' where
  words : db'.words = db.words

namespace CCvcDb

variable {x : Nat} {db db1 db2 db3 : CCvcDb} {i : CInstance}

theorem SameShape.refl (db : CCvcDb) : SameShape db db := ⟨rfl, rfl, rfl, rfl, rfl, rfl, rfl⟩

theorem SameShape.trans (h1 : SameShape db1 db2) (h2 : SameShape db2 db3) : SameShape db1 db3 :=
  ⟨h2.shapes.trans h1.shapes, h2.subcircuitCount.trans h1.subcircuitCount, h2.netCount.trans h1.netCount,
    h2.deviceCount.trans h1.deviceCount, h2.netParentV.trans h1.netParentV, h2.deviceParentV.trans h1.deviceParentV,
    h2.instanceIdV.trans h1.instanceIdV⟩

theorem SameBut.trans (h1 : SameBut db1 db2) (h2 : SameBut db2 db3) : SameBut db1 db3 :=
  ⟨h1.toSameShape.trans h2.toSameShape, h2.nextHashed.trans h1.nextHashed, h2.instanceHashIdV.trans h1.instanceHashIdV⟩

theorem instancePtr_eq_ok : db.instancePtr x = .ok i ↔ db.instancePtrV x = some i := by
  unfold instancePtr
  cases db.instancePtrV x <;> simp

@[simp] theorem instancePtrV_setInstance_self (db : CCvcDb) (x : Nat) (i : CInstance) :
    (db.setInstance x i).instancePtrV x = some i := by
  simp [setInstance]

theorem instancePtrV_setInstance_of_ne (db : CCvcDb) {y : Nat} (hne : y ≠ x) (i : CInstance) :
    (db.setInstance x i).instancePtrV y = db.instancePtrV y := by
  simp [setInstance, hne]

section
variable (hx : db.instancePtrV x = some i)
include hx

/-- Writing an instance keeps what is the same of it. -/
theorem map_setInstance {α : Type} {f : CInstance → α} {i' : CInstance} (hf : f i' = f i) (y : Nat) :
    ((db.setInstance x i').instancePtrV y).map f = (db.instancePtrV y).map f := by
  rcases eq_or_ne y x with rfl | hne
  · rw [instancePtrV_setInstance_self, hx, map_some, map_some, hf]
  · rw [instancePtrV_setInstance_of_ne db hne]

theorem shapes_setInstance {i' : CInstance} (hs : i'.shape = i.shape) : (db.setInstance x i').shapes = db.shapes :=
  funext fun y => map_setInstance hx hs y

/-- A write of the shared word of an instance. -/
theorem sameBut_setInstance (v : Nat) : SameBut db (db.setInstance x { i with parallelInstance := v }) := by
  refine ⟨⟨shapes_setInstance hx rfl, rfl, rfl, rfl, rfl, rfl, rfl⟩, funext fun y => ?_, rfl⟩
  rw [nextHashed, map_setInstance hx (by rfl), nextHashed]

theorem incrementCount_eq :
    db.incrementCount x = .ok (db.setInstance x { i with parallelInstance := i.parallelInstance + 1 }) := by
  unfold incrementCount
  rw [instancePtr_eq_ok.2 hx]
  rfl

end

/-- `parallelInstanceCount++` needs an instance. -/
theorem incrementCount_ok {db' : CCvcDb} (h : db.incrementCount x = .ok db') : SameBut db db' := by
  cases hx : db.instancePtrV x with
  | none => simp [incrementCount, instancePtr, hx, bind, Except.bind] at h
  | some i =>
    rw [incrementCount_eq hx] at h
    obtain rfl := Except.ok.inj h
    exact sameBut_setInstance hx _

end CCvcDb

namespace Hierarchy

variable {h : Hierarchy} {lim : Nat} {counts : Nat → CircuitCounts} {N : Numbering} {vis : List (List Nat)}
  {tbl : FoldTable} {db db' : CCvcDb}

/-- An instance of one database and the instance of the same shape in the other. -/
theorem shape_of_shapes (hs : db'.shapes = db.shapes) {x : Nat} {I' : CInstance} (hI : db'.instancePtrV x = some I') :
    ∃ I, db.instancePtrV x = some I ∧ I'.shape = I.shape := by
  have hx := congrFun hs x
  unfold CCvcDb.shapes at hx
  rw [hI, map_some] at hx
  obtain ⟨I, hI, he⟩ := map_eq_some_iff.1 hx.symm
  exact ⟨I, hI, he.symm⟩

theorem Insts.congr (hi : h.Insts N vis db) (hs : db.SameShape db') : h.Insts N vis db' := by
  refine ⟨?_, ?_, ?_⟩
  · intro p hp
    obtain ⟨I, hI, hm, hpar, hc⟩ := hi.made p hp
    obtain ⟨I', hI', he⟩ := shape_of_shapes hs.shapes.symm hI
    obtain ⟨-, hfirst, -, -, hparent, hmaster⟩ := CInstance.fields_of_shape he
    exact ⟨I', hI', hmaster ▸ hm, hparent ▸ hpar, hfirst ▸ hc⟩
  · intro x hx
    have := congrFun hs.shapes x
    unfold CCvcDb.shapes at this
    rw [hi.not_made x hx] at this
    exact map_eq_none_iff.1 this
  · rw [hs.instanceIdV]
    exact hi.lists

theorem Nets.congr (hn : h.Nets N vis tbl db) (hs : db.SameShape db') : h.Nets N vis tbl db' := by
  refine ⟨?_, ?_, hs.netParentV ▸ hn.nets, hs.deviceParentV ▸ hn.devices, ?_, ?_⟩
  · intro p hp I' hI' hk
    obtain ⟨I, hI, he⟩ := shape_of_shapes hs.shapes hI'
    obtain ⟨h1, h2, h3⟩ := hn.kept p hp I hI hk
    obtain ⟨hd, -, hf, hl, -, -⟩ := CInstance.fields_of_shape he
    exact ⟨hf.trans h1, hd.trans h2, hl.trans h3⟩
  · intro p hp I' hI' hk
    obtain ⟨I, hI, he⟩ := shape_of_shapes hs.shapes hI'
    obtain ⟨-, -, -, hl, -, -⟩ := CInstance.fields_of_shape he
    exact hl.trans (hn.folded p hp I hI hk)
  · rw [hs.netCount, hs.netParentV]
    exact hn.netCount
  · rw [hs.deviceCount, hs.deviceParentV]
    exact hn.deviceCount

theorem Hashes.congr (hh : h.Hashes lim counts N tbl db) (hn : db'.nextHashed = db.nextHashed)
    (hi : db'.instanceHashIdV = db.instanceHashIdV) : h.Hashes lim counts N tbl db' := by
  intro name key
  rw [hn, hi]
  exact hh name key

/-- What a test finds in a hierarchy that is flattened. -/
theorem exists_flat (h : Hierarchy) (lim : Nat) (P : CCvcDb → Prop) [DecidablePred P]
    (hrun : (h.linkTop >>= fun counts => h.assignTopGlobalIDs lim counts >>= fun db => pure (decide (P db))).toOption =
      some true) :
    ∃ counts db, h.linkTop = .ok counts ∧ h.assignTopGlobalIDs lim counts = .ok db ∧ P db := by
  cases hlink : h.linkTop with
  | error e => simp [hlink, bind, Except.bind, Except.toOption] at hrun
  | ok counts =>
    cases hdb : h.assignTopGlobalIDs lim counts with
    | error e => simp [hlink, hdb, bind, Except.bind, Except.toOption] at hrun
    | ok db => exact ⟨counts, db, rfl,
        hdb, by simpa [hlink, hdb, bind, Except.bind, pure, Except.pure, Except.toOption] using hrun⟩

end Hierarchy
end Cvc
