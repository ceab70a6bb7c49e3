import Cvc.Lemmas.InstanceVisit

/-!
# The visits of flattening

`Flat` bundles the invariants between two visits. A visit inside a kept instance always succeeds; one inside a parallel instance
reads the shared words of other instances, and keeps the invariants if it succeeds. The words themselves are followed
separately, as a function of the id.
-/

namespace Cvc

open Function (update update_self update_of_ne)
open Blocks LinkedList CCvcDb List Nat

/-! ## The shared words -/

/-- The word at an id is counted up. -/
def bump (words : Nat → Option Nat) (x : Nat) : Nat → Option Nat := update words x ((words x).map (· + 1))

theorem CCvcDb.words_setInstance (db : CCvcDb) (x : Nat) (i : CInstance) :
    (db.setInstance x i).words = update db.words x (some i.parallelInstance) := by
  ext1 y
  unfold words
  rcases eq_or_ne y x with rfl | hne
  · rw [instancePtrV_setInstance_self, update_self, Option.map_some]
  · rw [instancePtrV_setInstance_of_ne db hne, update_of_ne hne]

theorem CCvcDb.words_incrementCount {db : CCvcDb} {x : Nat} {i : CInstance} (hx : db.instancePtrV x = some i) :
    (db.setInstance x { i with parallelInstance := i.parallelInstance + 1 }).words = bump db.words x := by
  have hword : db.words x = some i.parallelInstance := by simp [words, hx]
  rw [words_setInstance]
  unfold bump
  rw [hword, Option.map_some]

namespace Hierarchy

variable {h : Hierarchy} {theLimit lim : Nat} {counts : Nat → CircuitCounts} {N : Numbering} {vis pend rest : List (List Nat)}
  {tbl : FoldTable} {db db' : CCvcDb} {p q : List Nat} {i : Nat} {x t : List Nat} {call : InstanceCall}

variable (h counts) in
/-- The counts of linking: the instances of every circuit are counted, and they all fit. -/
structure Counted : Prop where
  instances : ∀ name, (counts name).instanceCount = (h.nodes.filter fun p => h.masterOf p == name).length
  fits : h.nodes.length ≤ maxSubcircuit

variable (h theLimit counts N) in
/-- The invariants between visits. -/
structure Flat (vis pend : List (List Nat)) (tbl : FoldTable) (db : CCvcDb) : Prop where
  visiting : h.Visiting vis pend
  folds : h.Folds theLimit vis tbl
  ids : Ids N vis pend db.subcircuitCount
  insts : h.Insts N vis db
  nets : h.Nets N vis tbl db
  hashes : h.Hashes theLimit counts N tbl db

/-! ## The nodes of the tree -/

theorem mem_nodesFrom (hx : h.IsNode x) {depth : Nat} (hp : p <:+ x) (hd : h.rank (h.masterOf p) < depth) :
    x ∈ h.nodesFrom depth p := by
  induction depth generalizing p with
  | zero => exact absurd hd (not_lt_zero _)
  | succ depth ih =>
    rcases eq_or_ne p x with rfl | hne
    · exact mem_cons_self
    obtain ⟨r, rfl⟩ := hp
    rcases eq_nil_or_concat' r with rfl | ⟨r, i, rfl⟩
    · exact absurd rfl hne
    have hsuf : i :: p <:+ r ++ [i] ++ p := ⟨r, by simp⟩
    have hnode : h.IsNode (i :: p) := by
      clear ih hne hd
      induction r with
      | nil => exact hx
      | cons j r ihr => exact ihr hx.1 ⟨r, by simp⟩
    refine mem_cons_of_mem _ (mem_flatMap.2 ⟨i, mem_range.2 hnode.2, ih hsuf ?_⟩)
    have := h.rank_cons_lt hnode.2
    omega

theorem mem_nodes (hx : h.IsNode x) : x ∈ h.nodes :=
  mem_nodesFrom hx nil_suffix (lt_succ_self _)

theorem Counted.pos (hc : h.Counted counts) (hp : h.IsNode p) : 0 < (counts (h.masterOf p)).instanceCount := by
  rw [hc.instances]
  exact length_pos_of_mem (mem_filter.2 ⟨mem_nodes hp, by simp⟩)

theorem Counted.le_unknown (hc : h.Counted counts) (name : Nat) : (counts name).instanceCount ≤ unknownDevice := by
  have h1 := length_filter_le (fun p => h.masterOf p == name) h.nodes
  have h2 := hc.fits
  have h3 : maxSubcircuit ≤ unknownDevice := by decide
  rw [hc.instances]
  omega

/-! ## The instance is made -/

/-- The numbers after the visit of the next node. -/
def Flat.next (N : Numbering) (db : CCvcDb) (p : List Nat) : Numbering := N.visit p db.subcircuitCount db.netCount db.deviceCount

theorem Flat.length_eq (hF : h.Flat lim counts N vis pend tbl db) : (vis ++ pend).length = db.subcircuitCount := by
  have := hF.ids.perm.length_eq
  rwa [length_map, length_range] at this

theorem Flat.made (hF : h.Flat lim counts N vis ((i :: q) :: rest) tbl db) (hc : h.Counted counts) :
    h.Made lim counts (Flat.next N db (i :: q)) vis rest tbl (i :: q) (newInstance db (h.callAt N tbl (i :: q))) := by
  have hv := hF.visiting
  have hnd : vis.Nodup := (nodup_append.1 hv.nodup).1
  have hk : ∀ x ∈ tbl.kept, x ∈ vis := fun x hx => ((hF.folds.mem_kept hnd).1 hx).1
  have hmem : ∀ x ∈ vis ++ [i :: q], x ∈ vis ++ (i :: q) :: rest := fun x hx => by
    rw [append_cons]
    exact mem_append_left _ hx
  have hid : ∀ x ∈ vis ++ [i :: q], (Flat.next N db (i :: q)).id x = N.id x := fun x hx => visit_id hv (hmem x hx)
  obtain ⟨hsub, hnet, hdev, -, -⟩ := newInstance_tables db (h.callAt N tbl (i :: q))
  have hself : (newInstance db (h.callAt N tbl (i :: q))).instancePtrV ((Flat.next N db (i :: q)).id (i :: q)) =
      some (freshInstance db (h.callAt N tbl (i :: q))) := by
    rw [hid _ (by simp), newInstance_instancePtrV]
    exact update_self ..
  refine ⟨hv, hF.folds, hF.insts.new hF.ids hv, hF.nets.new hk hF.ids hv rfl, hF.hashes.new hF.insts hk hF.ids hv rfl, ?_, ?_, ?_,
    ?_, ?_, ?_, ?_, ?_⟩
  · intro x hx y hy he
    rw [hid x hx, hid y hy] at he
    exact hF.ids.inj (hmem x hx) (hmem y hy) he
  · intro x hx
    have h1 := hF.ids.lt (hmem x hx)
    have h2 := hF.length_eq
    have h3 := Nodup.length_le_of_subset hv.nodup fun _ hx => mem_nodes (hv.isNode hx)
    have h4 := hc.fits
    have h5 : maxSubcircuit < unknownDevice := by decide
    rw [hid x hx]
    omega
  · rw [hsub, ← hF.length_eq, length_append]
    omega
  · unfold nextHashed
    rw [hself]
    rfl
  · intro I hI
    rw [hself] at hI
    exact Option.some.inj hI ▸ rfl
  · unfold words
    rw [hself]
    rfl
  · rw [hnet]
    exact update_self ..
  · rw [hdev]
    exact update_self ..

/-! ## The instance is folded or expanded -/

theorem Nets.fold (hn : h.Nets N vis tbl db) (hp : p ∉ vis) (hf : h.Folds lim vis tbl)
    (hself : ∀ I, db.instancePtrV (N.id p) = some I → I.localToGlobalNetIdV = []) :
      h.Nets N (vis ++ [p]) (tbl ++ [(p, some t)]) db := by
  have himg : ∀ x ∈ vis, FoldTable.image (tbl ++ [(p, some t)]) x = tbl.image x := fun x hx => hf.image_concat_of_mem hp _ hx
  refine ⟨forall_mem_append.2 ⟨fun x hx I hI hk => hn.kept x hx I hI (himg x hx ▸ hk), forall_mem_singleton.2 fun I hI hk => ?_⟩,
    forall_mem_append.2 ⟨fun x hx I hI hk => hn.folded x hx I hI (himg x hx ▸ hk),
      forall_mem_singleton.2 fun I hI _ => hself I hI⟩,
    ?_, ?_, hn.netCount, hn.deviceCount⟩
  · rw [hf.image_concat_self hp] at hk
    nomatch hk
  · rw [FoldTable.kept_concat_some]
    exact hn.nets
  · rw [FoldTable.kept_concat_some]
    exact hn.devices

/-- The net map of an instance that is expanded. -/
theorem netMap_eq (hi : i < h.width q) (n : Nat) (hn : N.firstNet (i :: q) = n) :
    (h.callOf i q).portNets (h.circuitAt (i :: q)).portCount (h.netMap N q) ++
      (range (h.circuitAt (i :: q)).localNetCount).map (n + ·) = h.netMap N (i :: q) := by
  have hsplit : h.signals (i :: q) = (h.circuitAt (i :: q)).portCount + (h.circuitAt (i :: q)).localNetCount := by
    have := h.portCount_le_signals (i :: q)
    unfold CCircuit.localNetCount
    unfold signals at this ⊢
    omega
  rw [portNets_callOf hi]
  unfold netMap
  rw [hsplit, range_add, map_append, map_map]
  congr 1
  refine map_congr_left fun k _ => ?_
  simp only [Function.comp]
  have hstart : h.ownStart (i :: q) = (h.circuitAt (i :: q)).portCount := rfl
  rw [← hstart, h.netOf_own (le_add_right _ _)]
  unfold netId
  rw [hn, Nat.add_sub_cancel_left]

/-- What `expandInstance` writes. -/
theorem expandInstance_eq (parent : CInstance) {this : CInstance}
    (hthis : db.instancePtrV call.theInstanceId = some this) : ∃ db', h.expandInstance db call parent = .ok db' ∧
      db'.instancePtrV = update db.instancePtrV call.theInstanceId (some { this with
        firstNetId := db.netCount
        firstDeviceId := db.deviceCount
        localToGlobalNetIdV := call.theSubcircuit.portNets (h.circuit call.theSubcircuit.masterName).portCount
          parent.localToGlobalNetIdV ++
          (range (h.circuit call.theSubcircuit.masterName).localNetCount).map (db.netCount + ·) }) ∧
      db'.netCount = db.netCount + (h.circuit call.theSubcircuit.masterName).localNetCount ∧
      db'.deviceCount = db.deviceCount + (h.circuit call.theSubcircuit.masterName).devicePtrV.length ∧
      db'.netParentV = db.netParentV ++ .replicate (h.circuit call.theSubcircuit.masterName).localNetCount call.theInstanceId ∧
      db'.deviceParentV = db.deviceParentV ++
        .replicate (h.circuit call.theSubcircuit.masterName).devicePtrV.length call.theInstanceId ∧
      db'.subcircuitCount = db.subcircuitCount ∧ db'.instanceIdV = db.instanceIdV ∧
      db'.instanceHashIdV = db.instanceHashIdV := by
  unfold expandInstance
  rw [instancePtr_eq_ok.2 hthis]
  exact ⟨_, rfl, rfl, rfl, rfl, rfl, rfl, rfl, rfl, rfl⟩

/-- The invariants after an instance that is kept has been expanded. -/
theorem Made.expandInstance (hm : h.Made lim counts N vis rest tbl (i :: q) db) (hs : db.SameShape db')
    (hid : call.theInstanceId = N.id (i :: q)) (hsub : call.theSubcircuit = h.callOf i q)
    {parent : CInstance} (hpar : parent.localToGlobalNetIdV = h.netMap N q) :
    ∃ db'', h.expandInstance db' call parent = .ok db'' ∧ h.Insts N (vis ++ [i :: q]) db'' ∧
      h.Nets N (vis ++ [i :: q]) (tbl ++ [(i :: q, none)]) db'' ∧ db''.nextHashed = db'.nextHashed ∧
      db''.instanceHashIdV = db'.instanceHashIdV ∧ db''.words = db'.words ∧ db''.subcircuitCount = db'.subcircuitCount := by
  obtain ⟨hqv, hi⟩ := hm.visiting.parent i q (by simp)
  have hinsts := hm.insts.congr hs
  have hnets := hm.nets.congr hs
  obtain ⟨this, hthis, hmaster, hparent, hfirst⟩ := hinsts.made (i :: q) (by simp)
  obtain ⟨db'', hok, hptr, hnet, hdev, hnp, hdp, hsc, hlist, hhash⟩ :=
    expandInstance_eq (h := h) parent (show db'.instancePtrV call.theInstanceId = some this from hid ▸ hthis)
  have hcirc : h.circuit call.theSubcircuit.masterName = h.circuitAt (i :: q) := by rw [hsub]; rfl
  rw [hcirc] at hptr hnet hdev hnp hdp
  rw [hid] at hptr hnp hdp
  rw [hsub, hpar, netMap_eq hi _ (hm.firstNet_self.trans hs.netCount.symm)] at hptr
  have hold : ∀ x ∈ vis, db''.instancePtrV (N.id x) = db'.instancePtrV (N.id x) := by
    intro x hx
    rw [hptr]
    exact update_of_ne (hm.id_ne hx) _ _
  have hself : db''.instancePtrV (N.id (i :: q)) = some { this with
      firstNetId := db'.netCount
      firstDeviceId := db'.deviceCount
      localToGlobalNetIdV := h.netMap N (i :: q) } := by
    rw [hptr]
    exact update_self ..
  have himg : ∀ x ∈ vis, FoldTable.image (tbl ++ [(i :: q, none)]) x = tbl.image x :=
    fun x hx => hm.folds.image_concat_of_mem hm.visiting.not_mem _ hx
  refine ⟨db'', hok, ?_, ?_, ?_, hhash, ?_, hsc⟩
  · refine ⟨forall_mem_append.2 ⟨fun x hx => ?_, forall_mem_singleton.2 ⟨_, hself, hmaster, hparent, hfirst⟩⟩, fun x hx => ?_, ?_⟩
    · rw [hold x hx]
      exact hinsts.made x (mem_append_left _ hx)
    · rw [hptr, update_of_ne]
      · exact hinsts.not_made x hx
      · rintro rfl
        exact hx (mem_map_of_mem (by simp))
    · rw [hlist]
      exact hinsts.lists
  · refine ⟨forall_mem_append.2 ⟨fun x hx I hI hk => hnets.kept x hx I (hold x hx ▸ hI) (himg x hx ▸ hk),
        forall_mem_singleton.2 fun I hI _ => ?_⟩,
      forall_mem_append.2 ⟨fun x hx I hI hk => hnets.folded x hx I (hold x hx ▸ hI) (himg x hx ▸ hk),
        forall_mem_singleton.2 fun I hI hk => ?_⟩, ?_, ?_, ?_, ?_⟩
    · rw [hself] at hI
      obtain rfl := Option.some.inj hI
      exact ⟨hs.netCount.trans hm.firstNet_self.symm, hs.deviceCount.trans hm.firstDevice_self.symm, rfl⟩
    · exact absurd (hm.folds.image_concat_self hm.visiting.not_mem none) hk
    · rw [FoldTable.kept_concat_none, hnp]
      exact hnets.nets.concat (by rw [hm.firstNet_self, ← hs.netCount, hnets.netCount])
    · rw [FoldTable.kept_concat_none, hdp]
      exact hnets.devices.concat (by rw [hm.firstDevice_self, ← hs.deviceCount, hnets.deviceCount])
    · rw [hnet, hnp, length_append, length_replicate, hnets.netCount]
    · rw [hdev, hdp, length_append, length_replicate, hnets.deviceCount]
  all_goals
    ext1 y
    simp only [nextHashed, words, hptr]
    rcases eq_or_ne y (N.id (i :: q)) with rfl | hne
    · rw [update_self, hthis]
      rfl
    · rw [update_of_ne hne]

/-- An instance inside a kept one is folded onto the node it has to be, or joins the chain of its key. -/
theorem Made.foldOrKeep (hm : h.Made lim counts N vis rest tbl (i :: q) db) (hc : h.Counted counts)
    (hq : tbl.image q = none) (hid : call.theInstanceId = N.id (i :: q))
    (hsub : call.theSubcircuit = h.callOf i q) {parent : CInstance} (hpar : parent.localToGlobalNetIdV = h.netMap N q) :
    match h.imageOf lim tbl (i :: q) with
    | some t => ∃ db', h.foldOrKeep lim counts db call parent = .ok (db', true) ∧ db.SameBut db' ∧
        db'.words = update (bump db.words (N.id t)) (N.id (i :: q)) (some (N.id t))
    | none => ∃ db', h.foldOrKeep lim counts db call parent = .ok (db', false) ∧ db.SameShape db' ∧
        h.Hashes lim counts N (tbl ++ [(i :: q, none)]) db' ∧
        db'.words = update db.words (N.id (i :: q)) (some (if (h.circuitAt (i :: q)).portCount ≤ lim then 1 else 0)) := by
  obtain ⟨hqv, hi⟩ := hm.visiting.parent i q (by simp)
  have hnode : h.IsNode (i :: q) := hm.visiting.isNode (by simp)
  have hlen : call.theSubcircuit.signalIdV.length = (h.circuitAt (i :: q)).portCount := by
    rw [hsub]
    exact h.signals_length (h.callOf_mem hi)
  have hmaster : call.theSubcircuit.masterName = h.masterOf (i :: q) := by rw [hsub]; rfl
  have hports : call.theSubcircuit.portNets (h.circuit (h.masterOf (i :: q))).portCount parent.localToGlobalNetIdV =
      h.portIds N (i :: q) := by
    rw [hsub, hpar]
    exact portNets_callOf hi
  rw [h.imageOf_of_kept hq]
  rcases lt_or_ge lim (h.circuitAt (i :: q)).portCount with hover | hlim
  · -- the circuit has too many ports to be folded
    rw [if_neg (not_le.2 hover)]
    refine ⟨db, ?_, CCvcDb.SameShape.refl db, ?_, ?_⟩
    · unfold Hierarchy.foldOrKeep
      simp only [hlen, if_neg (not_le.2 hover)]
      rfl
    · intro name key
      rw [hashed_concat (cons_ne_nil i q), if_neg, append_nil]
      · exact hm.hashes name key
      · rintro ⟨-, hle, -⟩
        exact not_le.2 hover hle
    · rw [if_neg (not_le.2 hover), ← hm.words_self, Function.update_eq_self]
  have hfind := hm.findParallelInstance hq hlim (hc.pos hnode) (hc.le_unknown _)
  rw [if_pos hlim]
  cases hf : tbl.kept.find? (h.samePorts (i :: q)) with
  | some t =>
    rw [hf] at hfind
    obtain ⟨htv, -⟩ := hm.mem_kept.1 (mem_of_find?_eq_some hf)
    have hne := hm.id_ne htv
    obtain ⟨T, hT, -⟩ := hm.insts.made t (mem_append_left _ htv)
    obtain ⟨this, hthis, -⟩ := hm.insts.made (i :: q) (by simp)
    have hthis' : (db.setInstance (N.id t) { T with parallelInstance := T.parallelInstance + 1 }).instancePtrV
        (N.id (i :: q)) = some this := by
      rw [instancePtrV_setInstance_of_ne db hne.symm]
      exact hthis
    refine ⟨_, ?_, (sameBut_setInstance hT _).trans (sameBut_setInstance hthis' (N.id t)), ?_⟩
    · unfold Hierarchy.foldOrKeep
      simp only [hlen, if_pos hlim, hports, hmaster, hid, hfind, bind, Except.bind,
        instancePtr_eq_ok.2 hthis, if_neg hne, incrementCount_eq hT]
      rfl
    · rw [words_setInstance, words_incrementCount hT]
  | none =>
    rw [hf] at hfind
    obtain ⟨db1, hcode, hsame, hhash⟩ := hfind
    obtain ⟨this, hthis, -⟩ := (hm.insts.congr hsame.toSameShape).made (i :: q) (by simp)
    have hset := sameBut_setInstance hthis 1
    refine ⟨_, ?_, hsame.toSameShape.trans hset.toSameShape, hhash.congr hset.nextHashed hset.instanceHashIdV, ?_⟩
    · unfold Hierarchy.foldOrKeep
      simp only [hlen, if_pos hlim, hports, hmaster, hid, hcode, bind, Except.bind, instancePtr_eq_ok.2 hthis]
      rfl
    · rw [words_setInstance, hsame.words, if_pos hlim]

/-- An instance inside a parallel one, when the instances that it reads are there. -/
theorem foldInParallel_eq {parent this P T : CInstance} {pid x : Nat}
    (hpar : parent.isParallelInstance = true) (hP : db.instancePtrV parent.parallelInstance = some P)
    (hpid : P.firstSubcircuitId + (call.theInstanceId - parent.firstSubcircuitId) = pid)
    (hthis : db.instancePtrV call.theInstanceId = some this) (hne : pid ≠ call.theInstanceId)
    (hT : db.instancePtrV pid = some T) (hx : (if T.isParallelInstance then T.parallelInstance else pid) = x)
    (hsome : (db.instancePtrV x).isSome) : ∃ db', foldInParallel db call parent = .ok db' ∧
      db'.words = bump (update db.words call.theInstanceId (some pid)) x := by
  have hT' : (db.setInstance call.theInstanceId { this with parallelInstance := pid }).instancePtrV pid = some T := by
    rw [instancePtrV_setInstance_of_ne db hne]
    exact hT
  obtain ⟨X, hX⟩ : ∃ X, (db.setInstance call.theInstanceId { this with parallelInstance := pid }).instancePtrV x = some X := by
    rcases eq_or_ne x call.theInstanceId with rfl | hxne
    · exact ⟨_, instancePtrV_setInstance_self ..⟩
    · rw [instancePtrV_setInstance_of_ne db hxne]
      exact Option.isSome_iff_exists.1 hsome
  have hinc := incrementCount_eq hX
  refine ⟨_, ?_, (words_incrementCount hX).trans (by rw [words_setInstance])⟩
  unfold foldInParallel
  simp only [hpar, Bool.true_eq_false, if_false, bind, Except.bind, instancePtr_eq_ok.2 hP, hpid,
    instancePtr_eq_ok.2 hthis, instancePtr_eq_ok.2 hT']
  split at hx
  · rename_i hpt
    rw [if_pos hpt, hx, hinc]
  · rename_i hpt
    subst hx
    rw [if_neg hpt, hinc]

/-! ## The whole visit -/

variable (h theLimit) in
/-- The table after a visit. -/
def visitTable (tbl : FoldTable) (p : List Nat) : FoldTable := tbl ++ [(p, h.imageOf theLimit tbl p)]

theorem image_visitTable_self (hF : h.Flat lim counts N vis (p :: rest) tbl db) :
    FoldTable.image (h.visitTable lim tbl p) p = h.imageOf lim tbl p :=
  hF.folds.image_concat_self hF.visiting.not_mem _

theorem image_visitTable_of_mem (hF : h.Flat lim counts N vis (p :: rest) tbl db) (hx : x ∈ vis) :
    FoldTable.image (h.visitTable lim tbl p) x = tbl.image x := hF.folds.image_concat_of_mem hF.visiting.not_mem _ hx

theorem subcircuitCalls_masterOf (first id : Nat) (p : List Nat) (isParallel : Bool) :
    h.subcircuitCalls first id (h.masterOf p) isParallel =
      (range (h.width p)).map fun j => ⟨first + j, h.callOf j p, id, isParallel⟩ := by
  unfold subcircuitCalls
  refine ext_getElem (by simp [width, circuitAt]) fun j h1 h2 => ?_
  have hj : j < (h.circuit (h.masterOf p)).subcircuitPtrV.length := by simpa using h1
  simp only [getElem_map, getElem_zipIdx, getElem_range, zero_add]
  congr 1
  unfold callOf circuitAt
  rw [getD_eq_getElem _ _ hj]

/-- The calls that a visit makes are those of the instances inside the node. -/
theorem subcircuitCalls_eq (hF : h.Flat lim counts N vis (p :: rest) tbl db) :
    h.subcircuitCalls db.subcircuitCount (N.id p) (h.masterOf p) (h.imageOf lim tbl p).isSome =
      (h.children p).map (h.callAt (Flat.next N db p) (h.visitTable lim tbl p)) := by
  unfold children
  rw [subcircuitCalls_masterOf, map_map]
  refine map_congr_left fun j _ => ?_
  simp only [Function.comp, callAt]
  rw [image_visitTable_self hF]
  congr 1
  · exact (visit_id_child j).symm
  · exact (visit_id hF.visiting (by simp)).symm

/-- The invariants after the visit, from those of its parts. -/
theorem Flat.of_parts (hF : h.Flat lim counts N vis (p :: rest) tbl db) (hi : h.Insts (Flat.next N db p) (vis ++ [p]) db')
    (hn : h.Nets (Flat.next N db p) (vis ++ [p]) (h.visitTable lim tbl p) db')
    (hh : h.Hashes lim counts (Flat.next N db p) (h.visitTable lim tbl p) db') (hs : db'.subcircuitCount = db.subcircuitCount) :
    h.Flat lim counts (Flat.next N db p) (vis ++ [p]) (h.children p ++ rest) (h.visitTable lim tbl p)
      { db' with subcircuitCount := db'.subcircuitCount + h.width p } := by
  refine ⟨hF.visiting.visit, hF.folds.visit hF.visiting, ?_, ⟨hi.made, hi.not_made, hi.lists⟩,
    ⟨hn.kept, hn.folded, hn.nets, hn.devices, hn.netCount, hn.deviceCount⟩, hh⟩
  rw [hs]
  exact hF.ids.visit hF.visiting

section
variable (hF : h.Flat lim counts N vis ((i :: q) :: rest) tbl db)
include hF

/-- A visit that folds the node. -/
theorem Flat.of_sameBut (hc : h.Counted counts)
    (himg : h.imageOf lim tbl (i :: q) = some t) (hsame : (newInstance db (h.callAt N tbl (i :: q))).SameBut db') :
    h.Flat lim counts (Flat.next N db (i :: q)) (vis ++ [i :: q]) (h.children (i :: q) ++ rest)
      (h.visitTable lim tbl (i :: q)) { db' with subcircuitCount := db'.subcircuitCount + h.width (i :: q) } := by
  have hm := hF.made hc
  refine hF.of_parts (hm.insts.congr hsame.toSameShape) ?_ ?_
    (hsame.subcircuitCount.trans (newInstance_tables db (h.callAt N tbl (i :: q))).1)
  · unfold visitTable
    rw [himg]
    exact (Nets.fold hm.nets hF.visiting.not_mem hF.folds hm.nets_self).congr hsame.toSameShape
  · intro name key
    have := (hm.hashes.congr hsame.nextHashed hsame.instanceHashIdV) name key
    unfold hashed visitTable at *
    rwa [himg, FoldTable.kept_concat_some]

/-- The parent of the next node, as its call finds it. -/
theorem Flat.parent (hc : h.Counted counts) :
    ∃ I, (newInstance db (h.callAt N tbl (i :: q))).instancePtr (N.id q) = .ok I ∧ db.instancePtrV (N.id q) = some I ∧
      (tbl.image q = none → I.localToGlobalNetIdV = h.netMap (Flat.next N db (i :: q)) q) := by
  have hm := hF.made hc
  obtain ⟨hqv, hi⟩ := hF.visiting.parent i q (by simp)
  obtain ⟨I, hI, -⟩ := hF.insts.made q hqv
  have hsame : (newInstance db (h.callAt N tbl (i :: q))).instancePtrV (N.id q) = db.instancePtrV (N.id q) :=
    newInstance_of_mem hF.ids hF.visiting rfl hqv
  refine ⟨I, instancePtr_eq_ok.2 (hsame.trans hI), hI, fun hq => ?_⟩
  have hid : (Flat.next N db (i :: q)).id q = N.id q := visit_id hF.visiting (mem_append_left _ hqv)
  exact (hm.nets.kept q hqv I (by rw [hid, hsame, hI]) hq).2.2

/-- A visit inside a kept instance. -/
theorem Flat.visit_kept (hc : h.Counted counts) (hq : tbl.image q = none) :
    ∃ db', h.visitInstance lim counts db (h.callAt N tbl (i :: q)) = .ok (db',
        (h.children (i :: q)).map (h.callAt (Flat.next N db (i :: q)) (h.visitTable lim tbl (i :: q)))) ∧
      h.Flat lim counts (Flat.next N db (i :: q)) (vis ++ [i :: q]) (h.children (i :: q) ++ rest)
        (h.visitTable lim tbl (i :: q)) db' ∧
      db'.words = (match h.imageOf lim tbl (i :: q) with
        | some t => update (bump (newInstance db (h.callAt N tbl (i :: q))).words (N.id t)) (N.id (i :: q)) (some (N.id t))
        | none => update (newInstance db (h.callAt N tbl (i :: q))).words (N.id (i :: q))
            (some (if (h.circuitAt (i :: q)).portCount ≤ lim then 1 else 0))) := by
  have hm := hF.made hc
  obtain ⟨parent, hparent, -, hlocal⟩ := hF.parent hc
  have hids : ∀ x ∈ vis ++ (i :: q) :: rest, (Flat.next N db (i :: q)).id x = N.id x := fun x hx => visit_id hF.visiting hx
  have hid : (h.callAt N tbl (i :: q)).theInstanceId = (Flat.next N db (i :: q)).id (i :: q) := (hids _ (by simp)).symm
  have hfold := hm.foldOrKeep hc hq hid rfl (hlocal hq)
  have hcalls := subcircuitCalls_eq hF
  have hsub := (newInstance_tables db (h.callAt N tbl (i :: q))).1
  have hfalse : (h.callAt N tbl (i :: q)).isParallel = false := by simp [callAt, hq]
  have hshow : h.visitInstance lim counts db (h.callAt N tbl (i :: q)) = (do
      let r ← h.foldOrKeep lim counts (newInstance db (h.callAt N tbl (i :: q))) (h.callAt N tbl (i :: q)) parent
      let db1 ← if r.2 then pure r.1 else h.expandInstance r.1 (h.callAt N tbl (i :: q)) parent
      pure ({ db1 with subcircuitCount := db1.subcircuitCount + h.width (i :: q) },
        h.subcircuitCalls db.subcircuitCount (N.id (i :: q)) (h.masterOf (i :: q)) r.2)) := by
    unfold visitInstance
    simp only [hfalse, Bool.false_eq_true]
    show (instancePtr _ (N.id q) >>= _) = _
    rw [hparent]
    rfl
  rw [hshow]
  cases himg : h.imageOf lim tbl (i :: q) with
  | some t =>
    rw [himg] at hfold hcalls
    obtain ⟨db1, hcode, hsame, hwords⟩ := hfold
    have htv : t ∈ vis := by
      have := hF.folds.visit hF.visiting
      have himg' := image_visitTable_self hF
      rw [himg] at himg'
      obtain ⟨-, ht, -, hne⟩ := this.image_mem _ _ himg'
      rcases mem_append.1 ht with ht | ht
      · exact ht
      · exact absurd (mem_singleton.1 ht) hne
    rw [hids t (mem_append_left _ htv), hids _ (by simp)] at hwords
    refine ⟨_, ?_, hF.of_sameBut hc himg hsame, hwords⟩
    rw [hcode, ← hcalls]
    rfl
  | none =>
    rw [himg] at hfold hcalls
    obtain ⟨db1, hcode, hsame, hhash, hwords⟩ := hfold
    obtain ⟨db2, hexp, hins, hnets, hnext, hheads, hw, hsc⟩ := hm.expandInstance hsame hid rfl (hlocal hq)
    rw [hids _ (by simp)] at hwords
    refine ⟨_, ?_, hF.of_parts hins ?_ ?_ (hsc.trans (hsame.subcircuitCount.trans hsub)), hw.trans hwords⟩
    · rw [hcode, ← hcalls]
      show (h.expandInstance db1 (h.callAt N tbl (i :: q)) parent >>= _) = _
      rw [hexp]
      rfl
    · unfold visitTable
      rwa [himg]
    · unfold visitTable
      rw [himg]
      exact hhash.congr hnext hheads

/-- The code of a visit inside a parallel instance. -/
theorem visitInstance_folded (hq : tbl.image q = some t) {parent : CInstance}
    (hparent : (newInstance db (h.callAt N tbl (i :: q))).instancePtr (N.id q) = .ok parent) :
    h.visitInstance lim counts db (h.callAt N tbl (i :: q)) =
      (foldInParallel (newInstance db (h.callAt N tbl (i :: q))) (h.callAt N tbl (i :: q)) parent).map fun db' =>
        ({ db' with subcircuitCount := db'.subcircuitCount + h.width (i :: q) },
          (h.children (i :: q)).map (h.callAt (Flat.next N db (i :: q)) (h.visitTable lim tbl (i :: q)))) := by
  have hcalls := subcircuitCalls_eq hF
  rw [h.imageOf_of_folded hq] at hcalls
  have htrue : (h.callAt N tbl (i :: q)).isParallel = true := by simp [callAt, hq]
  rw [← hcalls]
  unfold visitInstance
  simp only [htrue]
  show (instancePtr _ (N.id q) >>= _) = _
  rw [hparent]
  show (foldInParallel _ _ parent >>= _) = _
  cases foldInParallel (newInstance db (h.callAt N tbl (i :: q))) (h.callAt N tbl (i :: q)) parent <;> rfl

end

/-- A visit that succeeds keeps the invariants and makes the calls of the instances inside the node. -/
theorem Flat.visit (hF : h.Flat lim counts N vis (p :: rest) tbl db) (hc : h.Counted counts) {calls : List InstanceCall}
    (hok : h.visitInstance lim counts db (h.callAt N tbl p) = .ok (db', calls)) :
    h.Flat lim counts (Flat.next N db p) (vis ++ [p]) (h.children p ++ rest) (h.visitTable lim tbl p) db' ∧
      calls = (h.children p).map (h.callAt (Flat.next N db p) (h.visitTable lim tbl p)) := by
  obtain ⟨i, q, rfl, -, -⟩ := hF.visiting.head_cons
  cases hq : tbl.image q with
  | none =>
    obtain ⟨db1, hcode, hflat, -⟩ := hF.visit_kept hc hq
    rw [hcode] at hok
    obtain ⟨rfl, rfl⟩ := Prod.mk.inj (Except.ok.inj hok)
    exact ⟨hflat, rfl⟩
  | some t =>
    obtain ⟨parent, hparent, -, -⟩ := hF.parent hc
    rw [visitInstance_folded hF hq hparent] at hok
    obtain ⟨db1, hfold, hok⟩ := bind_eq_ok.1 hok
    obtain ⟨rfl, rfl⟩ := Prod.mk.inj (Except.ok.inj hok)
    exact ⟨hF.of_sameBut hc (h.imageOf_of_folded hq) (foldInParallel_ok hfold), rfl⟩

end Hierarchy
end Cvc
