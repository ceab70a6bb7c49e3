import Cvc.Lemmas.Circuit
import Cvc.Lemmas.ParallelWords

/-!
# Flattening is faithful

The ids of instances, nets and devices after `AssignTopGlobalIDs`, against the instance tree. Flattening that returns is faithful.
It returns when every instance that is folded settles; inside instances that are folded more deeply it counts up a word that
holds an id, and can then follow the changed id to an instance that is not there.
-/

namespace Cvc

open Blocks List

namespace Hierarchy

variable (h : Hierarchy)

/-- A port of an instance and the signal of its parent that it is connected to. -/
inductive PortConnected : List Nat × Nat → List Nat × Nat → Prop
  | port {i k : Nat} {p : List Nat} (node : h.IsNode (i :: p)) (port : k < (h.circuitAt (i :: p)).portCount) :
      PortConnected (i :: p, k) (p, (h.callOf i p).signalIdV.getD k 0)

/-- The instance at a node is there and not parallel. -/
def NonParallel (db : CCvcDb) (id : List Nat → Nat) (p : List Nat) (I : CInstance) : Prop :=
  h.IsNode p ∧ db.instancePtrV (id p) = some I ∧ I.isParallelInstance = false

/-- The ids of one kind of object: the blocks of the non-parallel instances are disjoint and below the count, and the table of
parents names the instance whose block an id is in. -/
structure BlocksOf (db : CCvcDb) (id : List Nat → Nat) (first : CInstance → Nat) (len : List Nat → Nat) (count : Nat)
    (table : List Nat) : Prop where
  disjoint : ∀ p I q J n, h.NonParallel db id p I → h.NonParallel db id q J → first I ≤ n → n < first I + len p →
    first J ≤ n → n < first J + len q → p = q
  inside : ∀ p I n, h.NonParallel db id p I → first I ≤ n → n < first I + len p → n < count
  parent : ∀ p I n, h.NonParallel db id p I → first I ≤ n → n < first I + len p → table[n]? = some (id p)
  length : table.length = count

/-- Every id of one kind of object is in the block of a non-parallel instance. -/
def BlocksCover (db : CCvcDb) (id : List Nat → Nat) (first : CInstance → Nat) (len : List Nat → Nat) (count : Nat) : Prop :=
  ∀ n < count, ∃ p I, h.NonParallel db id p I ∧ first I ≤ n ∧ n < first I + len p

/-- The number of devices of the circuit of a node. -/
def ownDevices (p : List Nat) : Nat := (h.circuitAt p).devicePtrV.length

/-- The database is the flat form of the hierarchy, with the instance at each node under its id.
* The ids of the nodes are the numbers below the count, an instance comes after the one it is in and is found from it.
* Nets and devices are numbered in blocks. The block of the top has all its signals, that of another instance those that are not
  ports. Every net is in a block, and every device if no instance without signals has devices.
* Two signals have one net exactly when port connections join them. -/
structure FlatForm (db : CCvcDb) (id : List Nat → Nat) : Prop where
  id_lt : ∀ p, h.IsNode p → id p < db.subcircuitCount
  id_inj : ∀ p q, h.IsNode p → h.IsNode q → id p = id q → p = q
  id_surj : ∀ x < db.subcircuitCount, ∃ p, h.IsNode p ∧ id p = x
  parent_lt : ∀ i p, h.IsNode (i :: p) → id p < id (i :: p)
  instance_eq : ∀ p, h.IsNode p → ∃ I, db.instancePtrV (id p) = some I ∧ I.masterName = h.masterOf p ∧
    I.parentId = id p.tail ∧ ∀ i < h.width p, id (i :: p) = I.firstSubcircuitId + i
  nets : h.BlocksOf db id CInstance.firstNetId h.ownNets db.netCount db.netParentV
  nets_cover : h.BlocksCover db id CInstance.firstNetId h.ownNets db.netCount
  devices : h.BlocksOf db id CInstance.firstDeviceId h.ownDevices db.deviceCount db.deviceParentV
  devices_cover : (∀ p, h.IsNode p → h.signals p = 0 → h.ownDevices p = 0) →
    h.BlocksCover db id CInstance.firstDeviceId h.ownDevices db.deviceCount
  same_net : ∀ p I q J s t, h.NonParallel db id p I → h.NonParallel db id q J → s < h.signals p → t < h.signals q →
    (I.localToGlobalNetIdV[s]? = J.localToGlobalNetIdV[t]? ↔ Relation.EqvGen h.PortConnected (p, s) (q, t))

/-- The flat form with every device in the block of a non-parallel instance. -/
structure Faithful (db : CCvcDb) (id : List Nat → Nat) : Prop extends h.FlatForm db id where
  all_devices : h.BlocksCover db id CInstance.firstDeviceId h.ownDevices db.deviceCount

variable {h}

/-! ## Nets and port connections -/

theorem eqvGen_netOf {p : List Nat} {s : Nat} (hp : h.IsNode p) : Relation.EqvGen h.PortConnected (p, s) (h.netOf p s) := by
  induction p generalizing s with
  | nil => exact .refl _
  | cons i p ih =>
    rcases Nat.lt_or_ge s (h.circuitAt (i :: p)).portCount with hlt | hge
    · rw [h.netOf_port hlt]
      exact .trans _ _ _ (.rel _ _ (.port hp hlt)) (ih hp.1)
    · rw [h.netOf_own (p := i :: p) hge]
      exact .refl _

/-- Signals are joined by port connections exactly when they have the same net. -/
theorem eqvGen_iff_netOf {p q : List Nat} {s t : Nat} (hp : h.IsNode p) (hq : h.IsNode q) :
    Relation.EqvGen h.PortConnected (p, s) (q, t) ↔ h.netOf p s = h.netOf q t := by
  constructor
  · intro he
    have hgen : ∀ a b, Relation.EqvGen h.PortConnected a b → h.netOf a.1 a.2 = h.netOf b.1 b.2 := by
      intro a b hab
      induction hab with
      | rel a b hstep =>
        cases hstep with
        | port _ hk => exact h.netOf_port hk
      | refl a => rfl
      | symm a b _ ih => exact ih.symm
      | trans a b c _ _ ih1 ih2 => exact ih1.trans ih2
    exact hgen _ _ he
  · intro he
    have h1 := eqvGen_netOf (s := s) hp
    rw [he] at h1
    exact .trans _ _ _ h1 (.symm _ _ (eqvGen_netOf hq))

/-! ## The final state -/

variable {lim : Nat} {counts : Nat → CircuitCounts} {N : Numbering} {vis : List (List Nat)} {tbl : FoldTable} {db : CCvcDb}

section
variable (hF : h.Flat lim counts N vis [] tbl db)
include hF

/-- The instances that do not look parallel are those of the kept nodes with a signal. -/
theorem Flat.nonParallel_iff {p : List Nat} {I : CInstance} : h.NonParallel db N.id p I ↔
      p ∈ vis ∧ db.instancePtrV (N.id p) = some I ∧ tbl.image p = none ∧ 0 < h.signals p := by
  unfold NonParallel
  rw [← hF.visiting.mem_iff]
  constructor
  · rintro ⟨hp, hI, hnp⟩
    cases hk : tbl.image p with
    | some t =>
      have hl := hF.nets.folded p hp I hI (by simp [hk])
      unfold CInstance.isParallelInstance at hnp
      rw [hl] at hnp
      nomatch hnp
    | none =>
      refine ⟨hp, hI, rfl, Nat.pos_of_ne_zero fun hz => ?_⟩
      have hl := (hF.nets.kept p hp I hI hk).2.2
      unfold CInstance.isParallelInstance at hnp
      rw [hl, netMap, hz] at hnp
      nomatch hnp
  · rintro ⟨hp, hI, hk, hs⟩
    refine ⟨hp, hI, ?_⟩
    rw [hF.nets.isParallelInstance hp hI hs, hk]
    rfl

section
variable {first : CInstance → Nat} {first' len : List Nat → Nat} {count : Nat} {table : List Nat}
  (hfill : Fill tbl.kept first' len N.id table) (hlen : count = table.length)
  (hfirst : ∀ p ∈ vis, ∀ I, db.instancePtrV (N.id p) = some I → tbl.image p = none → first I = first' p)
include hfill hlen hfirst

/-- Blocks of the kept nodes are the blocks of the non-parallel instances. -/
theorem Flat.blocksOf : h.BlocksOf db N.id first len count table := by
  have hnd : vis.Nodup := (nodup_append.1 hF.visiting.nodup).1
  have hkept : ∀ {p I n}, h.NonParallel db N.id p I → first I ≤ n → n < first I + len p →
      p ∈ vis ∧ p ∈ tbl.kept ∧ In first' len p n := by
    intro p I n hp hle hlt
    obtain ⟨hpv, hI, hk, -⟩ := hF.nonParallel_iff.1 hp
    rw [hfirst p hpv I hI hk] at hle hlt
    exact ⟨hpv, (hF.folds.mem_kept hnd).2 ⟨hpv, hk⟩, hle, hlt⟩
  refine ⟨?_, ?_, ?_, hlen.symm⟩
  · intro p I q J n hp hq hp1 hp2 hq1 hq2
    obtain ⟨hpv, hpk, hpin⟩ := hkept hp hp1 hp2
    obtain ⟨hqv, hqk, hqin⟩ := hkept hq hq1 hq2
    exact hF.ids.inj (mem_append_left _ hpv) (mem_append_left _ hqv) (hfill.owner_eq hpk hqk hpin hqin)
  · intro p I n hp hle hlt
    obtain ⟨-, hpk, hin⟩ := hkept hp hle hlt
    rw [hlen]
    exact hfill.lt_length hpk hin
  · intro p I n hp hle hlt
    obtain ⟨-, hpk, hin⟩ := hkept hp hle hlt
    exact hfill.owned p hpk n hin

/-- They cover the ids, when a kept node without signals has an empty block. -/
theorem Flat.blocksCover (hzero : ∀ p ∈ vis, tbl.image p = none → h.signals p = 0 → len p = 0) :
    h.BlocksCover db N.id first len count := by
  have hnd : vis.Nodup := (nodup_append.1 hF.visiting.nodup).1
  intro n hn
  obtain ⟨p, hpk, hin⟩ := hfill.cover n (hlen ▸ hn)
  obtain ⟨hpv, hk⟩ := (hF.folds.mem_kept hnd).1 hpk
  obtain ⟨I, hI, -⟩ := hF.insts.made p hpv
  have hpos : 0 < h.signals p := by
    refine Nat.pos_of_ne_zero fun hz => ?_
    have := hzero p hpv hk hz
    have h1 := hin.1
    have h2 := hin.2
    omega
  refine ⟨p, I, hF.nonParallel_iff.2 ⟨hpv, hI, hk, hpos⟩, ?_⟩
  rw [hfirst p hpv I hI hk]
  exact hin

end

theorem Flat.firstDevice (p : List Nat) (hp : p ∈ vis) (I : CInstance) (hI : db.instancePtrV (N.id p) = some I)
    (hk : tbl.image p = none) : I.firstDeviceId = N.firstDevice p := (hF.nets.kept p hp I hI hk).2.1

/-- The final state of the run is the flat form of the hierarchy. -/
theorem Flat.flatForm : h.FlatForm db N.id := by
  have hmem : ∀ {p}, h.IsNode p → p ∈ vis ++ [] := fun hp => mem_append_left _ (hF.visiting.mem_iff.2 hp)
  have hfirst : ∀ p ∈ vis, ∀ I, db.instancePtrV (N.id p) = some I → tbl.image p = none → I.firstNetId = N.firstNet p :=
    fun p hp I hI hk => (hF.nets.kept p hp I hI hk).1
  refine ⟨fun p hp => hF.ids.lt (hmem hp), fun p q hp hq => hF.ids.inj (hmem hp) (hmem hq), ?_, ?_, ?_,
    hF.blocksOf hF.nets.nets hF.nets.netCount hfirst, hF.blocksCover hF.nets.nets hF.nets.netCount hfirst ?_,
    hF.blocksOf hF.nets.devices hF.nets.deviceCount hF.firstDevice, fun hzero => ?_, ?_⟩
  · intro x hx
    obtain ⟨p, hp, he⟩ := mem_map.1 (hF.ids.perm.mem_iff.2 (mem_range.2 hx))
    exact ⟨p, hF.visiting.isNode hp, he⟩
  · intro i p hp
    exact hF.ids.later i p (hmem hp)
  · intro p hp
    exact hF.insts.made p (hF.visiting.mem_iff.2 hp)
  · intro p _ _ hz
    unfold ownNets
    omega
  · exact hF.blocksCover hF.nets.devices hF.nets.deviceCount hF.firstDevice fun p hp _ hz => hzero p (hF.visiting.mem_iff.1 hp) hz
  · intro p I q J s t hp hq hs ht
    obtain ⟨hpv, hI, hpk, -⟩ := hF.nonParallel_iff.1 hp
    obtain ⟨hqv, hJ, hqk, -⟩ := hF.nonParallel_iff.1 hq
    rw [eqvGen_iff_netOf hp.1 hq.1, (hF.nets.kept p hpv I hI hpk).2.2, (hF.nets.kept q hqv J hJ hqk).2.2]
    unfold netMap
    rw [getElem?_map, getElem?_map, getElem?_range hs, getElem?_range ht, Option.map_some, Option.map_some]
    constructor
    · intro he
      exact hF.nets.netId_inj hF.folds hF.visiting
        (fun x hx y hy => hF.ids.inj (mem_append_left _ hx) (mem_append_left _ hy)) hpv hpk hqv hqk hs ht
        (Option.some.inj he)
    · intro he
      rw [he]

/-- With every device in the block of a non-parallel instance, no kept node without signals has devices. -/
theorem Flat.ownDevices_eq_zero {id : List Nat → Nat} (hf : h.Faithful db id) {p : List Nat} (hp : p ∈ vis)
    (hk : tbl.image p = none)
    (hz : h.signals p = 0) : h.ownDevices p = 0 := by
  by_contra hne
  have hnd : vis.Nodup := (nodup_append.1 hF.visiting.nodup).1
  have hpk : p ∈ tbl.kept := (hF.folds.mem_kept hnd).2 ⟨hp, hk⟩
  have hin : In N.firstDevice (fun p => (h.circuitAt p).devicePtrV.length) p (N.firstDevice p) :=
    ⟨Nat.le_refl _, Nat.lt_add_of_pos_right (Nat.pos_of_ne_zero hne)⟩
  have hlt := hF.nets.devices.lt_length hpk hin
  rw [← hF.nets.deviceCount] at hlt
  -- the table names the instance of the node, which looks parallel
  obtain ⟨q, I, hq, hle, hlt'⟩ := hf.all_devices _ hlt
  have hsame := (hf.devices.parent q I _ hq hle hlt').symm.trans (hF.nets.devices.owned p hpk _ hin)
  have hI := hq.2.1
  rw [Option.some.inj hsame] at hI
  have hpos := (hF.nonParallel_iff.1 ⟨hF.visiting.mem_iff.1 hp, hI, hq.2.2⟩).2.2.2
  omega

end

/-! ## Flattening -/

/-- No instance that is kept has devices but no signals. -/
def DevicesConnected (h : Hierarchy) (theLimit : Nat) : Prop :=
  ∀ p ∈ h.nodes, (h.folding theLimit).image p = none → h.signals p = 0 → h.ownDevices p = 0

instance (h : Hierarchy) (theLimit : Nat) : Decidable (h.DevicesConnected theLimit) :=
  inferInstanceAs (Decidable (∀ p ∈ h.nodes, (h.folding theLimit).image p = none → h.signals p = 0 → h.ownDevices p = 0))

/-- Flattening returns when every node settles. What it returns is the flat form of the hierarchy, with all devices in the blocks
of non-parallel instances exactly if no instance that is kept has devices but no signals. -/
theorem assignTopGlobalIDs_flatForm (h : Hierarchy) (theLimit : Nat) (counts : Nat → CircuitCounts)
    (hlink : h.linkTop = .ok counts) :
    ((∀ p ∈ h.nodes, h.settles (h.folding theLimit) p = true) → ∃ db, h.assignTopGlobalIDs theLimit counts = .ok db) ∧
    ∀ db, h.assignTopGlobalIDs theLimit counts = .ok db →
      (∃ id, h.FlatForm db id) ∧ ((∃ id, h.Faithful db id) ↔ h.DevicesConnected theLimit) := by
  have hc := counted_of_linkTop hlink
  refine ⟨assignTop_ok_of_settles hc, fun db hok => ?_⟩
  obtain ⟨N, vis, pend, tbl, hcalls, hR, -⟩ := running_of_reaches (E := fun _ _ _ _ => True) hc trivial
    (fun _ _ _ _ => trivial) (reaches_of_assignTop hok)
  obtain rfl := map_eq_nil_iff.1 hcalls.symm
  have hF := hR.toFlat
  have hnodes : vis = h.nodes := by simpa using hR.order
  refine ⟨⟨N.id, hF.flatForm⟩, ?_, fun hzero => ⟨N.id, hF.flatForm, ?_⟩⟩
  · rintro ⟨id, hf⟩ p hp hk hz
    rw [← hnodes] at hp
    rw [hR.image_folding hp] at hk
    exact hF.ownDevices_eq_zero hf hp hk hz
  · refine hF.blocksCover hF.nets.devices hF.nets.deviceCount hF.firstDevice fun p hp hk hz => ?_
    rw [← hR.image_folding hp] at hk
    exact hzero p (hnodes ▸ hp) hk hz

/-- Two instances of one circuit on one net, with a device and an instance inside: the second one is folded onto the first. -/
def twins : Hierarchy :=
  ofCircuits [
    { portCount := 1, localSignalIdMap := [0] },
    { portCount := 1, localSignalIdMap := [0, 1], devicePtrV := [⟨0, [0, 1], 0⟩], subcircuitPtrV := [⟨0, [1], 0⟩] },
    { localSignalIdMap := [0], subcircuitPtrV := [⟨0, [0], 1⟩, ⟨1, [0], 1⟩] }] (by decide) (by decide) (by decide)

theorem twins_flatForm : ∃ counts, twins.linkTop = .ok counts ∧
    ∃ db id, twins.assignTopGlobalIDs 10 counts = .ok db ∧ twins.Faithful db id := by
  obtain ⟨counts, hlink⟩ := exists_ok_of_failureOf (x := twins.linkTop) (by decide +kernel)
  obtain ⟨hreturns, hfaithful⟩ := assignTopGlobalIDs_flatForm twins 10 counts hlink
  obtain ⟨db, hdb⟩ := hreturns (by decide +kernel)
  obtain ⟨id, hid⟩ := (hfaithful db hdb).2.2 (by decide +kernel)
  exact ⟨counts, hlink, db, id, hdb, hid⟩

/-- Circuits nested three deep, all on one net. Inside the third and the fourth call of the last but one circuit an instance is
folded in three steps, and the id of the one it is folded onto in two is counted up; inside the fifth call that id, now one
without an instance, is followed. -/
def nestedFolds : Hierarchy :=
  ofCircuits [
    { portCount := 1, localSignalIdMap := [0] },
    { portCount := 1, localSignalIdMap := [0], subcircuitPtrV := [⟨0, [0], 0⟩] },
    { portCount := 1, localSignalIdMap := [0], subcircuitPtrV := [⟨0, [0], 1⟩] },
    { portCount := 1, localSignalIdMap := [0],
      subcircuitPtrV := [⟨0, [0], 1⟩, ⟨1, [0], 2⟩, ⟨2, [0], 2⟩, ⟨3, [0], 2⟩, ⟨4, [0], 1⟩] },
    { localSignalIdMap := [0], subcircuitPtrV := [⟨0, [0], 0⟩, ⟨1, [0], 3⟩, ⟨2, [0], 0⟩] }] (by decide) (by decide) (by decide)

/-- Flattening of the nested circuits dereferences a null pointer. -/
theorem nestedFolds_not_flatForm : ∃ counts, nestedFolds.linkTop = .ok counts ∧
    nestedFolds.assignTopGlobalIDs 10 counts = .error .undefined ∧
    ¬ ∃ db id, nestedFolds.assignTopGlobalIDs 10 counts = .ok db ∧ nestedFolds.Faithful db id := by
  obtain ⟨counts, hlink⟩ := exists_ok_of_failureOf (x := nestedFolds.linkTop) (by decide +kernel)
  have hfail : (nestedFolds.linkTop >>= nestedFolds.assignTopGlobalIDs 10) = .error .undefined :=
    eq_error_of_failureOf (by decide +kernel)
  rw [hlink] at hfail
  refine ⟨counts, hlink, hfail, ?_⟩
  rintro ⟨db, id, hok, -⟩
  nomatch hfail.symm.trans hok

end Hierarchy
end Cvc
