import Cvc.Lemmas.InstanceRun

/-!
# The counts and ids of parallel instances

The shared word of an instance, as long as every node that is visited settles: a folded node holds the id of the node it is folded
onto, and a kept one the number of nodes that are counted for it, from a start of one if its circuit can be folded.
-/

namespace Cvc

open List Option
open Function (update update_self update_of_ne)

namespace Hierarchy

variable {h : Hierarchy} {theLimit lim : Nat} {counts : Nat → CircuitCounts} {N : Numbering} {vis pend rest : List (List Nat)}
  {tbl : FoldTable} {db db' : CCvcDb} {p q t y : List Nat} {i : Nat} {x : List Nat}

variable (h theLimit) in
/-- The count that a kept node starts from: the top and the circuits that have too many ports to be folded start from nothing. -/
def startCount : List Nat → Nat
  | [] => 0
  | i :: p => if (h.circuitAt (i :: p)).portCount ≤ theLimit then 1 else 0

variable (h theLimit N) in
/-- The shared words of the visited nodes. -/
structure Words (vis : List (List Nat)) (tbl : FoldTable) (db : CCvcDb) : Prop where
  folded : ∀ x ∈ vis, ∀ t, tbl.image x = some t → db.words (N.id x) = some (N.id t)
  kept : ∀ x ∈ vis, tbl.image x = none → db.words (N.id x) = some (h.startCount theLimit x + tbl.countFor x)

/-! ## The table -/

theorem target_of_kept (ht : tbl.image p = none) : tbl.target p = p := by
  simp [FoldTable.target, ht]

theorem target_of_folded (hp : tbl.image p = some t) (ht : tbl.image t = none) : tbl.target p = t := by
  simp [FoldTable.target, hp, ht]

theorem target_of_folded_twice (hp : tbl.image p = some t) (ht : tbl.image t = some y) : tbl.target p = y := by
  simp [FoldTable.target, hp, ht]

/-- A node that settles is counted for a kept node of its circuit. -/
theorem Folds.target_spec (hf : h.Folds lim vis tbl) (hp : p ∈ vis) (hs : h.settles tbl p = true) :
    tbl.target p ∈ vis ∧ tbl.image (tbl.target p) = none ∧ h.masterOf (tbl.target p) = h.masterOf p := by
  unfold settles at hs
  cases ht : tbl.image p with
  | none =>
    rw [target_of_kept ht]
    exact ⟨hp, ht, rfl⟩
  | some t =>
    obtain ⟨-, htv, hm, -⟩ := hf.image_mem p t ht
    simp only [ht] at hs
    cases ht' : tbl.image t with
    | none =>
      rw [target_of_folded ht ht']
      exact ⟨htv, ht', hm⟩
    | some t' =>
      obtain ⟨-, htv', hm', -⟩ := hf.image_mem t t' ht'
      simp only [ht'] at hs
      rw [target_of_folded_twice ht ht']
      exact ⟨htv', isNone_iff_eq_none.1 hs, hm'.trans hm⟩

theorem target_visitTable (hF : h.Flat lim counts N vis (p :: rest) tbl db) (hx : x ∈ vis) :
    (h.visitTable lim tbl p).target x = tbl.target x := by
  unfold FoldTable.target
  rw [image_visitTable_of_mem hF hx]
  cases ht : tbl.image x with
  | none => rfl
  | some t =>
    have htv := (hF.folds.image_mem x t ht).2.1
    simp only
    rw [image_visitTable_of_mem hF htv]

/-- Whether a node settles depends on the nodes that have been visited. -/
theorem Folds.settles_eq (hf : h.Folds lim vis tbl) (hv : h.Visiting vis pend) {tbl' : FoldTable}
    (himg : ∀ x ∈ vis, tbl'.image x = tbl.image x) (hx : x ∈ vis) : h.settles tbl' x = h.settles tbl x := by
  have htail : x.tail ∈ vis := hv.suffix_mem hx (tail_suffix x)
  unfold settles
  rw [himg x hx, himg _ htail]
  cases ht : tbl.image x with
  | none => rfl
  | some t =>
    have htv := (hf.image_mem x t ht).2.1
    simp only
    rw [himg t htv]
    cases ht' : tbl.image t with
    | none => rfl
    | some t' =>
      simp only
      rw [himg t' (hf.image_mem t t' ht').2.1]

/-- The nodes counted for a node after a visit: one more, if the visited node is. -/
theorem countFor_visitTable (hF : h.Flat lim counts N vis (p :: rest) tbl db) (x : List Nat) :
    (h.visitTable lim tbl p).countFor x = tbl.countFor x +
      if (h.imageOf lim tbl p).isSome && (h.visitTable lim tbl p).target p == x then 1 else 0 := by
  have hpaths : (h.visitTable lim tbl p).map Prod.fst = tbl.map Prod.fst ++ [p] := by simp [visitTable]
  unfold FoldTable.countFor
  rw [hpaths, countP_append, countP_singleton, image_visitTable_self hF]
  congr 1
  refine countP_congr fun z hz => ?_
  rw [hF.folds.paths] at hz
  rw [image_visitTable_of_mem hF hz, target_visitTable hF hz]

/-! ## A visit -/

theorem Flat.next_id (hF : h.Flat lim counts N vis (p :: rest) tbl db) :
    (Flat.next N db p).id p = N.id p ∧ ∀ x ∈ vis, (Flat.next N db p).id x = N.id x :=
  ⟨visit_id hF.visiting (by simp), fun _ hx => visit_id hF.visiting (mem_append_left _ hx)⟩

/-- The words after a visit of a node that is kept. -/
theorem Words.keep (hw : h.Words lim N vis tbl db) (hF : h.Flat lim counts N vis (p :: rest) tbl db)
    (hs : ∀ x ∈ vis, h.settles tbl x = true) (himg : h.imageOf lim tbl p = none)
    (hself : db'.words (N.id p) = some (h.startCount lim p)) (hold : ∀ x ∈ vis, db'.words (N.id x) = db.words (N.id x)) :
    h.Words lim (Flat.next N db p) (vis ++ [p]) (h.visitTable lim tbl p) db' := by
  obtain ⟨hp, hid⟩ := hF.next_id
  have hcount : ∀ x, (h.visitTable lim tbl p).countFor x = tbl.countFor x := by
    intro x
    rw [countFor_visitTable hF, himg]
    rfl
  -- no visited node is counted for the new one
  have hzero : tbl.countFor p = 0 := by
    refine countP_eq_zero.2 fun z hz => ?_
    rw [hF.folds.paths] at hz
    simp only [Bool.and_eq_true, beq_iff_eq, not_and]
    intro _ he
    exact hF.visiting.not_mem (he ▸ (hF.folds.target_spec hz (hs z hz)).1)
  constructor
  · rw [forall_mem_append, forall_mem_singleton, image_visitTable_self hF, himg]
    refine ⟨fun x hx t ht => ?_, nofun⟩
    rw [image_visitTable_of_mem hF hx] at ht
    rw [hid x hx, hid t (hF.folds.image_mem x t ht).2.1, hold x hx]
    exact hw.folded x hx t ht
  · rw [forall_mem_append, forall_mem_singleton, hp, hself, hcount, hzero]
    refine ⟨fun x hx hk => ?_, fun _ => rfl⟩
    rw [image_visitTable_of_mem hF hx] at hk
    rw [hid x hx, hold x hx, hcount]
    exact hw.kept x hx hk

/-- The words after a visit of a node that is folded and counted for a kept one. -/
theorem Words.fold (hw : h.Words lim N vis tbl db) (hF : h.Flat lim counts N vis (p :: rest) tbl db)
    (himg : h.imageOf lim tbl p = some t) (ht : t ∈ vis) (hy : (h.visitTable lim tbl p).target p = y)
    (hyk : tbl.image y = none) (hself : db'.words (N.id p) = some (N.id t))
    (hold : ∀ x ∈ vis, db'.words (N.id x) = if x = y then (db.words (N.id x)).map (· + 1) else db.words (N.id x)) :
    h.Words lim (Flat.next N db p) (vis ++ [p]) (h.visitTable lim tbl p) db' := by
  obtain ⟨hp, hid⟩ := hF.next_id
  constructor
  · rw [forall_mem_append, forall_mem_singleton, image_visitTable_self hF, himg]
    refine ⟨fun x hx t' ht' => ?_, ?_⟩
    · rw [image_visitTable_of_mem hF hx] at ht'
      have hne : x ≠ y := by
        rintro rfl
        rw [hyk] at ht'
        nomatch ht'
      rw [hid x hx, hid t' (hF.folds.image_mem x t' ht').2.1, hold x hx, if_neg hne]
      exact hw.folded x hx t' ht'
    · rintro _ ⟨⟩
      rw [hp, hid t ht]
      exact hself
  · rw [forall_mem_append, forall_mem_singleton, image_visitTable_self hF, himg]
    refine ⟨fun x hx hk => ?_, nofun⟩
    rw [image_visitTable_of_mem hF hx] at hk
    rw [hid x hx, hold x hx, countFor_visitTable hF, himg, hy, hw.kept x hx hk]
    rcases eq_or_ne x y with rfl | hne
    · simp [Nat.add_assoc]
    · simp [hne, hne.symm]

/-- The words of the visited nodes, when the instance of the next node has been made. -/
theorem words_newInstance (hF : h.Flat lim counts N vis ((i :: q) :: rest) tbl db) (hx : x ∈ vis) :
    (newInstance db (h.callAt N tbl (i :: q))).words (N.id x) = db.words (N.id x) := by
  unfold CCvcDb.words
  rw [newInstance_of_mem hF.ids hF.visiting rfl hx]

theorem Flat.id_ne (hF : h.Flat lim counts N vis (p :: rest) tbl db) (hx : x ∈ vis) : N.id x ≠ N.id p :=
  hF.ids.id_ne hF.visiting hx

/-- A word that is counted up, and the others. -/
theorem bump_id (hF : h.Flat lim counts N vis pend tbl db) {W : Nat → Option Nat} (hx : x ∈ vis)
    (hy : y ∈ vis) : bump W (N.id y) (N.id x) = if x = y then (W (N.id x)).map (· + 1) else W (N.id x) := by
  unfold bump
  rcases eq_or_ne x y with rfl | hne
  · rw [if_pos rfl, update_self]
  · rw [if_neg hne, update_of_ne]
    intro he
    exact hne (hF.ids.inj (mem_append_left _ hx) (mem_append_left _ hy) he)

/-- A visit inside a kept instance keeps the words. -/
theorem Words.visit_kept (hw : h.Words lim N vis tbl db) (hF : h.Flat lim counts N vis ((i :: q) :: rest) tbl db)
    (hc : h.Counted counts) (hs : ∀ x ∈ vis, h.settles tbl x = true) (hq : tbl.image q = none) :
    ∃ db' calls, h.visitInstance lim counts db (h.callAt N tbl (i :: q)) = .ok (db', calls) ∧
      h.Words lim (Flat.next N db (i :: q)) (vis ++ [i :: q]) (h.visitTable lim tbl (i :: q)) db' := by
  obtain ⟨db', hok, hF', hwords⟩ := hF.visit_kept hc hq
  refine ⟨db', _, hok, ?_⟩
  cases himg : h.imageOf lim tbl (i :: q) with
  | none =>
    simp only [himg] at hwords
    refine hw.keep hF hs himg ?_ fun x hx => ?_
    · rw [hwords]
      exact update_self ..
    · rw [hwords]
      exact (update_of_ne (hF.id_ne hx) _ _).trans (words_newInstance hF hx)
  | some t =>
    simp only [himg] at hwords
    have himg' := image_visitTable_self hF
    rw [himg] at himg'
    have hq' : FoldTable.image (h.visitTable lim tbl (i :: q)) q = none := by
      rw [image_visitTable_of_mem hF (hF.visiting.parent i q (by simp)).1]
      exact hq
    obtain ⟨-, htv, -, hne⟩ := hF'.folds.image_mem _ _ himg'
    have htv : t ∈ vis := (mem_append.1 htv).resolve_right fun hm => hne (mem_singleton.1 hm)
    have htk' := (hF'.folds.direct i q t hq' himg').1
    have htk : tbl.image t = none := image_visitTable_of_mem hF htv ▸ htk'
    refine hw.fold hF himg htv (y := t) ?_ htk ?_ fun x hx => ?_
    · exact target_of_folded himg' htk'
    · rw [hwords]
      exact update_self ..
    · rw [hwords, update_of_ne (hF.id_ne hx), bump_id hF hx htv, words_newInstance hF hx]

section
variable (hn : h.Nets N vis tbl db) (hx : x ∈ vis) {I : CInstance} (hI : db.instancePtrV (N.id x) = some I)
include hn hx hI

/-- A folded instance looks parallel. -/
theorem Nets.isParallelInstance_of_folded (hk : tbl.image x = some t) : I.isParallelInstance = true := by
  unfold CInstance.isParallelInstance
  rw [hn.folded x hx I hI (by simp [hk])]
  rfl

/-- A kept instance of a circuit with a signal does not look parallel, a folded one does. -/
theorem Nets.isParallelInstance (hs : 0 < h.signals x) : I.isParallelInstance = (tbl.image x).isSome := by
  cases hk : tbl.image x with
  | none =>
    unfold CInstance.isParallelInstance
    rw [(hn.kept x hx I hI hk).2.2]
    unfold netMap
    exact isEmpty_eq_false_iff.2 (ne_nil_of_length_pos (by simpa using hs))
  | some t => exact hn.isParallelInstance_of_folded hx hI hk

end

/-- The node that a node inside a folded one is folded onto has been visited. -/
theorem Flat.child_mem (hF : h.Flat lim counts N vis ((i :: q) :: rest) tbl db) (hq : tbl.image q = some t) :
    i :: t ∈ vis ∧ i < h.width t := by
  have hi := (hF.visiting.parent i q (by simp)).2
  obtain ⟨-, htv, hm, hne⟩ := hF.folds.image_mem q t hq
  have hit : i < h.width t := by
    unfold width circuitAt at hi ⊢
    rwa [hm]
  exact ⟨hF.visiting.child_visited htv hm hne hit, hit⟩

section
variable (hw : h.Words lim N vis tbl db)
include hw

/-- The id of a folded node is that of the node it is folded onto. -/
theorem Words.link (hF : h.Flat lim counts N vis pend tbl db) (hp : p ∈ vis) (ht : tbl.image p = some t) :
    ∃ I, db.instancePtrV (N.id p) = some I ∧ I.isParallelInstance = true ∧ I.parallelInstance = N.id t := by
  obtain ⟨I, hI, -⟩ := hF.insts.made p hp
  have hword := hw.folded p hp t ht
  unfold CCvcDb.words at hword
  rw [hI] at hword
  exact ⟨I, hI, hF.nets.isParallelInstance_of_folded hp hI ht, some.inj hword⟩

section
variable (hF : h.Flat lim counts N vis ((i :: q) :: rest) tbl db) (hc : h.Counted counts) (hq : tbl.image q = some t)
include hF hc hq

/-- A visit inside a parallel instance counts up the word of the node it is counted for: the node it is folded onto, if that looks
kept, or the one that node is folded onto. -/
theorem Words.foldInParallel (hy : y ∈ vis)
    (hcase : tbl.image (i :: t) = none ∧ 0 < h.signals (i :: t) ∧ y = i :: t ∨ tbl.image (i :: t) = some y) :
    ∃ db' calls, h.visitInstance lim counts db (h.callAt N tbl (i :: q)) = .ok (db', calls) ∧
      db'.words = bump (update (newInstance db (h.callAt N tbl (i :: q))).words (N.id (i :: q)) (some (N.id (i :: t))))
        (N.id y) := by
  obtain ⟨hqv, hi⟩ := hF.visiting.parent i q (by simp)
  have htv := (hF.folds.image_mem q t hq).2.1
  obtain ⟨hitv, hit⟩ := hF.child_mem hq
  have hmade : ∀ {x I}, x ∈ vis → db.instancePtrV (N.id x) = some I →
      (newInstance db (h.callAt N tbl (i :: q))).instancePtrV (N.id x) = some I := by
    intro x I hx hI
    rw [newInstance_of_mem hF.ids hF.visiting rfl hx]
    exact hI
  obtain ⟨parent, hparent, hpI, -⟩ := hF.parent hc
  obtain ⟨P, hP, -, -, hPc⟩ := hF.insts.made t htv
  obtain ⟨T, hT, -⟩ := hF.insts.made (i :: t) hitv
  obtain ⟨Y, hY, -⟩ := hF.insts.made y hy
  obtain ⟨Q, hQ, -, -, hQc⟩ := hF.insts.made q hqv
  obtain rfl : parent = Q := some.inj (hpI.symm.trans hQ)
  obtain ⟨Q, hQ, hpar, hpid⟩ := hw.link hF hqv hq
  obtain rfl : parent = Q := some.inj (hpI.symm.trans hQ)
  have hx : (if T.isParallelInstance then T.parallelInstance else N.id (i :: t)) = N.id y := by
    rcases hcase with ⟨hk, hsig, rfl⟩ | hk
    · rw [hF.nets.isParallelInstance hitv hT hsig, hk]
      rfl
    obtain ⟨T', hT', hfolded, hid⟩ := hw.link hF hitv hk
    obtain rfl := some.inj (hT.symm.trans hT')
    rw [if_pos hfolded, hid]
  have hplace : P.firstSubcircuitId + ((h.callAt N tbl (i :: q)).theInstanceId - parent.firstSubcircuitId) = N.id (i :: t) := by
    show P.firstSubcircuitId + (N.id (i :: q) - parent.firstSubcircuitId) = _
    rw [hPc i hit, hQc i hi, Nat.add_sub_cancel_left]
  obtain ⟨db1, hfold, hwords⟩ := foldInParallel_eq hpar (hpid ▸ hmade htv hP) hplace
    (by rw [newInstance_instancePtrV]; exact update_self ..) (hF.id_ne hitv) (hmade hitv hT) hx
    (by rw [hmade hy hY]; rfl)
  have hok := visitInstance_folded hF hq hparent
  rw [hfold] at hok
  exact ⟨_, _, hok, hwords⟩

/-- A visit inside a parallel instance keeps the words, if the node settles. -/
theorem Words.visit_folded (hs : h.settles (h.visitTable lim tbl (i :: q)) (i :: q) = true) :
    ∃ db' calls, h.visitInstance lim counts db (h.callAt N tbl (i :: q)) = .ok (db', calls) ∧
      h.Words lim (Flat.next N db (i :: q)) (vis ++ [i :: q]) (h.visitTable lim tbl (i :: q)) db' := by
  have hqv := (hF.visiting.parent i q (by simp)).1
  have himg : h.imageOf lim tbl (i :: q) = some (i :: t) := h.imageOf_of_folded hq
  have himg' := (image_visitTable_self hF).trans himg
  have hm := (hF.folds.image_mem q t hq).2.2.1
  have hitv := (hF.child_mem hq).1
  have hsig : h.signals (i :: t) = h.signals (i :: q) := by
    unfold signals circuitAt masterOf
    rw [hm]
  -- the node that the new one is counted for
  obtain ⟨y, hy, hyk, htarget, hcase⟩ : ∃ y ∈ vis, tbl.image y = none ∧ (h.visitTable lim tbl (i :: q)).target (i :: q) = y ∧
      (tbl.image (i :: t) = none ∧ 0 < h.signals (i :: t) ∧ y = i :: t ∨ tbl.image (i :: t) = some y) := by
    unfold settles at hs
    simp only [himg', image_visitTable_of_mem hF hitv, tail_cons, image_visitTable_of_mem hF hqv, hq] at hs
    cases ht : tbl.image (i :: t) with
    | none =>
      simp only [ht, isNone_some, Bool.false_or, decide_eq_true_eq] at hs
      exact ⟨i :: t, hitv, ht, target_of_folded himg' (image_visitTable_of_mem hF hitv ▸ ht), Or.inl ⟨rfl, hsig ▸ hs, rfl⟩⟩
    | some y =>
      have hyv := (hF.folds.image_mem _ y ht).2.1
      simp only [ht, image_visitTable_of_mem hF hyv] at hs
      exact ⟨y, hyv, isNone_iff_eq_none.1 hs, target_of_folded_twice himg' (image_visitTable_of_mem hF hitv ▸ ht), .inr rfl⟩
  obtain ⟨db', calls, hok, hwords⟩ := hw.foldInParallel hF hc hq hy hcase
  refine ⟨db', calls, hok, hw.fold hF himg hitv htarget hyk ?_ fun x hx => ?_⟩
  · rw [hwords]
    unfold bump
    rw [update_of_ne (hF.id_ne hy).symm, update_self]
  · rw [hwords, bump_id hF hx hy, update_of_ne (hF.id_ne hx), words_newInstance hF hx]

end

/-- A visit of a node that settles succeeds and keeps the words. -/
theorem Words.visit (hF : h.Flat lim counts N vis (p :: rest) tbl db)
    (hc : h.Counted counts) (hs : ∀ x ∈ vis, h.settles tbl x = true) (hsp : h.settles (h.visitTable lim tbl p) p = true) :
    ∃ db' calls, h.visitInstance lim counts db (h.callAt N tbl p) = .ok (db', calls) ∧
      h.Words lim (Flat.next N db p) (vis ++ [p]) (h.visitTable lim tbl p) db' := by
  obtain ⟨i, q, rfl, -, -⟩ := hF.visiting.head_cons
  cases hq : tbl.image q with
  | none => exact hw.visit_kept hF hc hs hq
  | some t => exact hw.visit_folded hF hc hq hsp

end

theorem Words.start : h.Words lim Numbering.top [[]] [([], none)] h.topInstance := by
  refine ⟨forall_mem_singleton.2 nofun, forall_mem_singleton.2 fun _ => ?_⟩
  simp [CCvcDb.words, topInstance, Numbering.top, Numbering.visit, startCount, FoldTable.countFor, FoldTable.image]

/-! ## The run -/

theorem Running.settles_folding (hR : h.Running lim counts N vis pend tbl db) (hx : x ∈ vis) :
    h.settles (h.folding lim) x = h.settles tbl x :=
  hR.folds.settles_eq hR.visiting (fun _ hz => hR.image_folding hz) hx

theorem Running.settles_folding_visit (hR : h.Running lim counts N vis (p :: rest) tbl db) :
    h.settles (h.folding lim) p = h.settles (h.visitTable lim tbl p) p :=
  (hR.folds.visit hR.visiting).settles_eq hR.visiting.visit (fun _ hz => hR.image_folding_visit hz) (by simp)

theorem Running.mem_nodes (hR : h.Running lim counts N vis pend tbl db) (hx : x ∈ vis) : x ∈ h.nodes :=
  hR.order ▸ mem_append_left _ hx

/-- A visit of the run succeeds and keeps the words, if every node settles. -/
theorem Running.visit_settles (hR : h.Running lim counts N vis (p :: rest) tbl db) (hw : h.Words lim N vis tbl db)
    (hc : h.Counted counts) (hs : ∀ x ∈ h.nodes, h.settles (h.folding lim) x = true) :
    ∃ db' calls, h.visitInstance lim counts db (h.callAt N tbl p) = .ok (db', calls) ∧
      h.Words lim (Flat.next N db p) (vis ++ [p]) (h.visitTable lim tbl p) db' := by
  have hp : p ∈ h.nodes := by
    rw [← hR.order, flatMap_cons, subtree_eq p]
    simp
  refine hw.visit hR.toFlat hc (fun x hx => ?_) ?_
  · rw [← hR.settles_folding hx]
    exact hs x (hR.mem_nodes hx)
  · rw [← hR.settles_folding_visit]
    exact hs p hp

section
variable (hc : h.Counted counts) (hs : ∀ x ∈ h.nodes, h.settles (h.folding lim) x = true)
include hc hs

/-- Every state that is reached has its words, if every node settles. -/
theorem words_of_reaches {s : FlattenState} (hr : h.Reaches lim counts (h.topCalls, h.topInstance) s) :
    ∃ N vis pend tbl, s.1 = pend.map (h.callAt N tbl) ∧ h.Running lim counts N vis pend tbl s.2 ∧ h.Words lim N vis tbl s.2 := by
  refine running_of_reaches (E := h.Words lim) hc .start ?_ hr
  intro N vis p rest tbl db db' calls hR hw _ hok
  obtain ⟨db'', calls', hok', hw'⟩ := hR.visit_settles hw hc hs
  obtain ⟨rfl, -⟩ := Prod.mk.inj (Except.ok.inj (hok.symm.trans hok'))
  exact hw'

/-- Flattening returns, if every node settles. -/
theorem assignTop_ok_of_settles :
    ∃ db, h.assignTopGlobalIDs lim counts = .ok db := by
  refine assignTop_ok fun s hr hne => ?_
  obtain ⟨N, vis, pend, tbl, hcalls, hR, hw⟩ := words_of_reaches hc hs hr
  obtain ⟨calls, db⟩ := s
  cases pend with
  | nil => exact absurd hcalls hne
  | cons p rest =>
    obtain rfl : calls = _ := hcalls
    obtain ⟨db', calls, hok, -⟩ := hR.visit_settles hw hc hs
    exact ⟨_, .visit hok⟩

end

end Hierarchy
end Cvc
