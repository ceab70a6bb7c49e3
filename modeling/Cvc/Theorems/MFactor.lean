import Cvc.Lemmas.Circuit
import Cvc.Lemmas.MFactor

/-!
# The multiplication factors of parallel instances

Every instance is counted once in the multiplication factors of the instances that are kept, and the ids of parallel instances
lead to them. It is so exactly when every node settles and no node with more ports than the limit is folded: a kept instance with
too many ports starts its count from nothing instead of one, and an instance that is folded in three steps counts up the id of one
that is folded.
-/

namespace Cvc
namespace Hierarchy

/-- Flattening returns a database in which the multiplication factors of every circuit sum up to the number of its instances and
every parallel instance leads to one that is not, of the same circuit; and no visit changes a `parallelInstanceId`. -/
def Conserved (h : Hierarchy) (theLimit : Nat) (counts : Nat → CircuitCounts) : Prop :=
  ∃ db, h.assignTopGlobalIDs theLimit counts = .ok db ∧
    (∀ name, ∃ mFactors, (db.nonParallelIds name).mapM db.calculateMFactor = .ok mFactors ∧
      mFactors.sum = (counts name).instanceCount) ∧
    (∀ x I, db.instancePtrV x = some I → I.isParallelInstance = true →
      ∃ y J, db.Leads x y ∧ db.instancePtrV y = some J ∧ J.isParallelInstance = false ∧ J.masterName = I.masterName) ∧
    ∀ s s', h.Reaches theLimit counts (h.topCalls, h.topInstance) s → h.Reaches theLimit counts s s' → s.2.KeepsIds s'.2

variable {h : Hierarchy} {lim : Nat} {counts : Nat → CircuitCounts} {N : Numbering} {vis : List (List Nat)}
  {tbl : FoldTable} {db : CCvcDb}

/-! ## Conservation -/

/-- The factors at the end sum up to the counts exactly when every folded node has few enough ports. -/
theorem Running.total_iff (hR : h.Running lim counts N vis [] tbl db) (hw : h.Words lim N vis tbl db)
    (hc : h.Counted counts) (hsig : ∀ p, h.IsNode p → 0 < h.signals p) (hs : ∀ x ∈ vis, h.settles tbl x = true) :
    (∀ name, ∃ mFactors, (db.nonParallelIds name).mapM db.calculateMFactor = .ok mFactors ∧
      mFactors.sum = (counts name).instanceCount) ↔ ∀ x ∈ vis, tbl.image x ≠ none → (h.circuitAt x).portCount ≤ lim := by
  have hvis : vis = h.nodes := by
    have := hR.order
    rwa [List.flatMap_nil, List.append_nil] at this
  rw [← sum_mFactorOf_iff hR.folds hR.visiting hs]
  refine forall_congr' fun name => ?_
  rw [mapM_calculateMFactor hR.toFlat hw (fun p hp => hsig p (hR.visiting.mem_iff.1 hp)), hc.instances, ← hvis]
  constructor
  · rintro ⟨mFactors, hok, hsum⟩
    rw [Except.ok.inj hok]
    exact hsum
  · intro hsum
    exact ⟨_, rfl, hsum⟩

/-- The factors are conserved exactly when every node settles and no node with more ports than the limit is folded. -/
theorem conserved_iff (h : Hierarchy) (theLimit : Nat) (counts : Nat → CircuitCounts)
    (hsig : ∀ name c, h.circuitNameMap name = some c → c.localSignalIdMap ≠ []) (hlink : h.linkTop = .ok counts) :
    h.Conserved theLimit counts ↔ ∀ p ∈ h.nodes, h.settles (h.folding theLimit) p = true ∧
      ((h.folding theLimit).image p ≠ none → (h.circuitAt p).portCount ≤ theLimit) := by
  have hc := counted_of_linkTop hlink
  have hpos : ∀ p, h.IsNode p → 0 < h.signals p := fun p hp => signals_pos hsig hp
  constructor
  · rintro ⟨db, hok, htotal, -, hkeep⟩
    obtain ⟨N, vis, pend, tbl, hcalls, hR, hw, hs⟩ := words_of_keepsIds hc hpos
      (fun s s' hr hstep => hkeep s s' hr (.single hstep)) (reaches_of_assignTop hok)
    obtain rfl := List.map_eq_nil_iff.1 hcalls.symm
    have hports := (hR.total_iff hw hc hpos hs).1 htotal
    intro p hp
    have hp : p ∈ vis := by
      have := hR.order
      rw [List.flatMap_nil, List.append_nil] at this
      rwa [this]
    rw [hR.settles_folding hp, hR.image_folding hp]
    exact ⟨hs p hp, hports p hp⟩
  · intro hall
    have hset : ∀ p ∈ h.nodes, h.settles (h.folding theLimit) p = true := fun p hp => (hall p hp).1
    obtain ⟨db, hok⟩ := assignTop_ok_of_settles hc hset
    obtain ⟨N, vis, pend, tbl, hcalls, hR, hw⟩ := words_of_reaches hc hset (reaches_of_assignTop hok)
    obtain rfl := List.map_eq_nil_iff.1 hcalls.symm
    have hs : ∀ x ∈ vis, h.settles tbl x = true := by
      intro x hx
      rw [← hR.settles_folding hx]
      exact hset x (hR.mem_nodes hx)
    have hvpos : ∀ p ∈ vis, 0 < h.signals p := fun p hp => hpos p (hR.visiting.mem_iff.1 hp)
    refine ⟨db, hok, (hR.total_iff hw hc hpos hs).2 ?_, ?_, fun s s' hr hr' => keepsIds_of_settles hc hpos hset hr hr'⟩
    · intro x hx
      rw [← hR.image_folding hx]
      exact (hall x (hR.mem_nodes hx)).2
    · intro x I hI hpar
      obtain ⟨p, hp, rfl, hm, -⟩ := parallel_iff hR.toFlat hvpos hI
      obtain ⟨htv, htk, htm⟩ := hR.folds.target_spec hp (hs p hp)
      obtain ⟨J, hJ, hJm, -⟩ := hR.insts.made _ htv
      refine ⟨_, J, hw.leads hR.toFlat hp, hJ, ?_, ?_⟩
      · rw [hR.nets.isParallelInstance htv hJ (hvpos _ htv), htk]
        rfl
      · rw [hJm, htm, hm]

/-- Three blocks on one net, each with two cells on one net: all but the first of each are folded, those in the later blocks in
one step or two. -/
def cellsInBlocks : Hierarchy :=
  ofCircuits [
    { portCount := 2, localSignalIdMap := [0, 1] },
    { portCount := 1, localSignalIdMap := [0, 1], subcircuitPtrV := [⟨0, [0, 1], 0⟩, ⟨1, [0, 1], 0⟩] },
    { localSignalIdMap := [0], subcircuitPtrV := [⟨0, [0], 1⟩, ⟨1, [0], 1⟩, ⟨2, [0], 1⟩] }] (by decide) (by decide) (by decide)

theorem cellsInBlocks_conserved : ∃ counts, cellsInBlocks.linkTop = .ok counts ∧ cellsInBlocks.Conserved 10 counts := by
  obtain ⟨counts, hlink⟩ := exists_ok_of_failureOf (x := cellsInBlocks.linkTop) (by decide +kernel)
  refine ⟨counts, hlink, (conserved_iff cellsInBlocks 10 counts (fun name c hc => ?_) hlink).2 (by decide +kernel)⟩
  have hmem := List.mem_of_getElem? hc
  clear hc
  revert c
  decide

/-- The number of instances of a circuit, and the factors of those that are not parallel. -/
def instancesAndMFactors (h : Hierarchy) (theLimit name : Nat) : Except Failure (Nat × List Nat) := do
  let counts ← h.linkTop
  let db ← h.assignTopGlobalIDs theLimit counts
  let mFactors ← (db.nonParallelIds name).mapM db.calculateMFactor
  pure ((counts name).instanceCount, mFactors)

theorem not_conserved {name n : Nat} {mFactors : List Nat} (heq : h.instancesAndMFactors lim name = .ok (n, mFactors))
    (hne : mFactors.sum ≠ n) : ∃ counts, h.linkTop = .ok counts ∧ ¬ h.Conserved lim counts := by
  obtain ⟨counts, hlink, heq⟩ := bind_eq_ok.1 heq
  obtain ⟨db, hok, heq⟩ := bind_eq_ok.1 heq
  obtain ⟨ms, hms, heq⟩ := bind_eq_ok.1 heq
  obtain ⟨rfl, rfl⟩ := Prod.mk.inj (Except.ok.inj heq)
  refine ⟨counts, hlink, ?_⟩
  rintro ⟨db', hok', htotal, -⟩
  obtain rfl := Except.ok.inj (hok.symm.trans hok')
  obtain ⟨ms', hms', hsum⟩ := htotal name
  obtain rfl := Except.ok.inj (hms.symm.trans hms')
  exact hne hsum

/-- A cell, a block with a cell, and two blocks with such a block, all on one net: the last cell is folded in three steps. -/
def nestedCells : Hierarchy :=
  ofCircuits [
    { portCount := 1, localSignalIdMap := [0] },
    { portCount := 1, localSignalIdMap := [0], subcircuitPtrV := [⟨0, [0], 0⟩] },
    { portCount := 1, localSignalIdMap := [0], subcircuitPtrV := [⟨0, [0], 1⟩] },
    { localSignalIdMap := [0], subcircuitPtrV := [⟨0, [0], 0⟩, ⟨1, [0], 1⟩, ⟨2, [0], 2⟩, ⟨3, [0], 2⟩] }]
    (by decide) (by decide) (by decide)

/-- With a limit of one port the cells in the blocks are kept with a count that starts from nothing, and of six cells four are
counted. Nested on one net, the last cell is counted in the id of another one, and of four cells three are counted. -/
theorem cells_not_conserved :
    (∃ counts, cellsInBlocks.linkTop = .ok counts ∧ ¬ cellsInBlocks.Conserved 1 counts) ∧
    ∃ counts, nestedCells.linkTop = .ok counts ∧ ¬ nestedCells.Conserved 10 counts := by
  have hblocks : cellsInBlocks.instancesAndMFactors 1 0 = .ok (6, [2, 2]) := by decide +kernel
  have hnested : nestedCells.instancesAndMFactors 10 0 = .ok (4, [3]) := by decide +kernel
  exact ⟨not_conserved hblocks (by decide), not_conserved hnested (by decide)⟩

end Hierarchy
end Cvc
