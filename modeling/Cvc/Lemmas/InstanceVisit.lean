import Mathlib.Data.List.Find
import Cvc.Lemmas.Instance

/-!
# One visit of flattening

`visitInstance` makes the instance of the next node, folds or keeps it, and gives a kept one its nets and devices. Each part is
followed through the invariants of `Cvc.Lemmas.Instance`; `Flat.visit` says what the whole visit leaves.
-/

namespace Cvc

open Function (update update_self update_of_ne)
open Blocks LinkedList CCvcDb List

theorem CCvcDb.nextHashed_setInstance {db : CCvcDb} {x : Nat} (i : CInstance) (v y : Nat) :
    (db.setInstance x { i with nextHashedInstanceId := v }).nextHashed y = if y = x then v else db.nextHashed y := by
  unfold nextHashed
  rcases eq_or_ne y x with rfl | hne
  · simp
  · rw [instancePtrV_setInstance_of_ne db hne, if_neg hne]

namespace Hierarchy

variable {h : Hierarchy} {theLimit lim : Nat} {counts : Nat → CircuitCounts} {N : Numbering} {vis pend rest : List (List Nat)}
  {tbl : FoldTable} {db db' : CCvcDb} {p q : List Nat} {a b c : Nat} {x y : List Nat} {call : InstanceCall} {i s : Nat}

/-! ## Numbers -/

theorem Visiting.suffix_mem (hv : h.Visiting vis pend) {r : List Nat} (hx : x ∈ vis) (hr : r <:+ x) : r ∈ vis := by
  induction x with
  | nil => rwa [suffix_nil.1 hr]
  | cons i x ih =>
    rcases suffix_cons_iff.1 hr with rfl | hr
    · exact hx
    · exact ih (hv.parent i x (mem_append_left _ hx)).1 hr

theorem Ids.inj (hi : Ids N vis pend a) (hx : x ∈ vis ++ pend) (hy : y ∈ vis ++ pend) (he : N.id x = N.id y) : x = y :=
  inj_on_of_nodup_map (hi.perm.nodup_iff.2 nodup_range) hx hy he

theorem Ids.lt (hi : Ids N vis pend a) (hx : x ∈ vis ++ pend) : N.id x < a :=
  mem_range.1 (hi.perm.mem_iff.1 (mem_map_of_mem hx))

/-- The next node is not one of the visited ones, nor is its number. -/
theorem Ids.id_ne (hi : Ids N vis (p :: rest) a) (hv : h.Visiting vis (p :: rest)) (hx : x ∈ vis) : N.id x ≠ N.id p := fun he =>
  hv.not_mem (hi.inj (mem_append_left _ hx) (by simp) he ▸ hx)

theorem visit_id (hv : h.Visiting vis (p :: rest)) (hx : x ∈ vis ++ p :: rest) : (N.visit p a b c).id x = N.id x := by
  cases x with
  | nil => rfl
  | cons i x =>
    have hne : x ≠ p := by
      rintro rfl
      exact hv.not_mem (hv.parent i x hx).1
    simp [Numbering.visit, hne]

theorem visit_id_child (i : Nat) : (N.visit p a b c).id (i :: p) = a + i := by
  simp [Numbering.visit]

theorem visit_firstNet_of_ne (hx : x ≠ p) : (N.visit p a b c).firstNet x = N.firstNet x :=
  update_of_ne hx _ _

theorem visit_firstDevice_of_ne (hx : x ≠ p) : (N.visit p a b c).firstDevice x = N.firstDevice x :=
  update_of_ne hx _ _

section
variable (hv : h.Visiting vis (p :: rest))
include hv

/-- The nets of visited nodes keep their ids. -/
theorem visit_netId (hx : x ∈ vis) (hs : s < h.signals x) : h.netId (N.visit p a b c)
    (h.netOf x s) = h.netId N (h.netOf x s) := by
  have hsuf := (h.netOf_spec (hv.isNode (mem_append_left _ hx)) hs).1
  have hne : (h.netOf x s).1 ≠ p := by
    intro he
    exact hv.not_mem (he ▸ hv.suffix_mem hx hsuf)
  unfold netId
  rw [visit_firstNet_of_ne hne]

theorem visit_netMap (hx : x ∈ vis) : h.netMap (N.visit p a b c) x = h.netMap N x := by
  refine map_congr_left fun s hs => ?_
  exact visit_netId hv hx (mem_range.1 hs)

theorem visit_portIds (hx : x ∈ vis) : h.portIds (N.visit p a b c) x = h.portIds N x := by
  refine map_congr_left fun k hk => ?_
  exact visit_netId hv hx (Nat.lt_of_lt_of_le (mem_range.1 hk) (h.portCount_le_signals x))

end

/-- The instances inside the visited node get the next ids. -/
theorem Ids.visit (hi : Ids N vis (p :: rest) a) (hv : h.Visiting vis (p :: rest)) :
    Ids (N.visit p a b c) (vis ++ [p]) (h.children p ++ rest) (a + h.width p) := by
  refine ⟨(visit_id hv (by simp [hv.root])).trans hi.root, ?_, ?_⟩
  swap
  · intro j x hx
    have hx' : j :: x ∈ (vis ++ p :: rest) ∨ j :: x ∈ h.children p := by
      simp only [mem_append, mem_cons] at hx ⊢
      tauto
    rcases hx' with hx | hx
    · rw [visit_id hv hx, visit_id hv (mem_append_left _ (hv.parent j x hx).1)]
      exact hi.later j x hx
    obtain ⟨k, -, he⟩ := (h.mem_children).1 hx
    obtain ⟨rfl, rfl⟩ := cons.inj he
    have := hi.lt (x := x) (by simp)
    rw [visit_id_child, visit_id hv (by simp)]
    omega
  refine ((Visiting.perm_visit ..).map _).trans ?_
  rw [map_append, range_add]
  refine Perm.append ?_ ?_
  · rw [map_congr_left fun x hx => visit_id hv hx]
    exact hi.perm
  · unfold children
    rw [map_map]
    refine Perm.of_eq (map_congr_left fun i _ => ?_)
    exact visit_id_child i

/-! ## The new instance -/

variable (h) in
/-- The call of `AssignGlobalIDs` for a node. -/
def callAt (N : Numbering) (tbl : FoldTable) : List Nat → InstanceCall
  | [] => ⟨0, default, 0, false⟩
  | i :: q => ⟨N.id (i :: q), h.callOf i q, N.id q, (tbl.image q).isSome⟩

/-- The instance as it is made. -/
def freshInstance (db : CCvcDb) (call : InstanceCall) : CInstance where
  firstSubcircuitId := db.subcircuitCount
  parentId := call.theParentId
  masterName := call.theSubcircuit.masterName

section
variable (db : CCvcDb) (call : InstanceCall)

theorem newInstance_instancePtrV : (newInstance db call).instancePtrV =
      update db.instancePtrV call.theInstanceId (some (freshInstance db call)) := by
  unfold newInstance
  dsimp only [setInstance]
  split <;> rfl

theorem newInstance_instanceIdV : (newInstance db call).instanceIdV =
    update db.instanceIdV call.theSubcircuit.masterName
      (db.instanceIdV call.theSubcircuit.masterName ++ [call.theInstanceId]) := by
  unfold newInstance
  dsimp only [setInstance]
  split <;> rfl

theorem newInstance_instanceHashIdV : (newInstance db call).instanceHashIdV =
    if db.instanceIdV call.theSubcircuit.masterName = [] then
      update db.instanceHashIdV call.theSubcircuit.masterName fun _ => unknownDevice
    else db.instanceHashIdV := by
  unfold newInstance
  dsimp only [setInstance]
  split <;> rfl

theorem newInstance_tables :
    (newInstance db call).subcircuitCount = db.subcircuitCount ∧ (newInstance db call).netCount = db.netCount ∧
      (newInstance db call).deviceCount = db.deviceCount ∧ (newInstance db call).netParentV = db.netParentV ∧
      (newInstance db call).deviceParentV = db.deviceParentV := by
  unfold newInstance
  dsimp only [setInstance]
  split <;> exact ⟨rfl, rfl, rfl, rfl, rfl⟩

end

/-- The instances of other numbers are as they were. -/
theorem newInstance_of_mem (hi : Ids N vis (p :: rest) a) (hv : h.Visiting vis (p :: rest))
    (hid : call.theInstanceId = N.id p) (hx : x ∈ vis) :
      (newInstance db call).instancePtrV (N.id x) = db.instancePtrV (N.id x) := by
  rw [newInstance_instancePtrV, update_of_ne]
  exact hid ▸ hi.id_ne hv hx

theorem Insts.new (hin : h.Insts N vis db) (hi : Ids N vis ((i :: q) :: rest) db.subcircuitCount)
    (hv : h.Visiting vis ((i :: q) :: rest)) :
    h.Insts (N.visit (i :: q) db.subcircuitCount b c) (vis ++ [i :: q]) (newInstance db (h.callAt N tbl (i :: q))) := by
  have hmem : ∀ x ∈ vis, x ∈ vis ++ (i :: q) :: rest := fun x hx => mem_append_left _ hx
  have hid : ∀ x ∈ vis ++ [i :: q], (N.visit (i :: q) db.subcircuitCount b c).id x = N.id x := by
    intro x hx
    refine visit_id hv ?_
    rcases mem_append.1 hx with hx | hx
    · exact hmem x hx
    · exact mem_append_right _ (mem_singleton.1 hx ▸ mem_cons_self)
  have hq : q ∈ vis := (hv.parent i q (by simp)).1
  refine ⟨?_, ?_, ?_⟩
  · intro x hx
    rw [hid x hx]
    rcases mem_append.1 hx with hx | hx
    · obtain ⟨I, hI, hm, hpar, hc⟩ := hin.made x hx
      refine ⟨I, (newInstance_of_mem hi hv rfl hx).trans hI, hm, ?_, ?_⟩
      · rw [hpar]
        refine (visit_id hv (hmem _ ?_)).symm
        exact hv.suffix_mem hx (tail_suffix x)
      · intro j hj
        rw [visit_id hv (hv.child x hx j hj)]
        exact hc j hj
    · obtain rfl := mem_singleton.1 hx
      refine ⟨_, by rw [newInstance_instancePtrV]; exact update_self .., rfl, ?_, ?_⟩
      · exact (visit_id hv (hmem q hq)).symm
      · intro j _
        exact visit_id_child j
  · intro x hx
    rw [map_congr_left hid, map_append, mem_append, not_or] at hx
    rw [newInstance_instancePtrV, update_of_ne]
    · exact hin.not_made x hx.1
    · intro he
      exact hx.2 (by simp [he, callAt])
  · intro c'
    rw [newInstance_instanceIdV, filter_append, map_append]
    have hold : (vis.filter fun x => h.masterOf x == c').map (N.visit (i :: q) db.subcircuitCount b c).id =
      db.instanceIdV c' := by
      rw [hin.lists c']
      exact map_congr_left fun x hx => visit_id hv (hmem x (mem_of_mem_filter hx))
    have hself := hid (i :: q) (by simp)
    rw [hold]
    show update db.instanceIdV (h.masterOf (i :: q)) (db.instanceIdV (h.masterOf (i :: q)) ++ [N.id (i :: q)]) c' = _
    rcases eq_or_ne c' (h.masterOf (i :: q)) with rfl | hne
    · simp [hself]
    · simp [hne, hne.symm]

theorem Nets.new (hn : h.Nets N vis tbl db) (hk : ∀ x ∈ tbl.kept, x ∈ vis) (hi : Ids N vis (p :: rest) a)
    (hv : h.Visiting vis (p :: rest)) (hid : call.theInstanceId = N.id p) :
      h.Nets (N.visit p a b c) vis tbl (newInstance db call) := by
  obtain ⟨-, hnet, hdev, hnp, hdp⟩ := newInstance_tables db call
  have hvid : ∀ x ∈ vis, (N.visit p a b c).id x = N.id x := fun x hx => visit_id hv (mem_append_left _ hx)
  have hne : ∀ x ∈ vis, x ≠ p := fun x hx he => hv.not_mem (he ▸ hx)
  refine ⟨?_, ?_, ?_, ?_, ?_, ?_⟩
  · intro x hx I hI himg
    rw [hvid x hx, newInstance_of_mem hi hv hid hx] at hI
    rw [visit_firstNet_of_ne (hne x hx), visit_firstDevice_of_ne (hne x hx), visit_netMap hv hx]
    exact hn.kept x hx I hI himg
  · intro x hx I hI himg
    rw [hvid x hx, newInstance_of_mem hi hv hid hx] at hI
    exact hn.folded x hx I hI himg
  · rw [hnp]
    exact hn.nets.congr (fun x hx => visit_firstNet_of_ne (hne x (hk x hx))) fun x hx => hvid x (hk x hx)
  · rw [hdp]
    exact hn.devices.congr (fun x hx => visit_firstDevice_of_ne (hne x (hk x hx))) fun x hx => hvid x (hk x hx)
  · rw [hnet, hnp]
    exact hn.netCount
  · rw [hdev, hdp]
    exact hn.deviceCount

theorem mem_of_hashed {name key : Nat} (hx : x ∈ h.hashed N lim counts tbl name key) :
    x ∈ tbl.kept ∧ x ≠ [] ∧ h.masterOf x = name ∧ (h.circuitAt x).portCount ≤ lim := by
  obtain ⟨hm, hx⟩ := mem_filter.1 hx
  simp only [Bool.and_eq_true, bne_iff_ne, beq_iff_eq, decide_eq_true_eq] at hx
  exact ⟨hm, hx.1.1.1, hx.1.1.2, hx.1.2⟩

theorem Hashes.new (hh : h.Hashes lim counts N tbl db) (hin : h.Insts N vis db)
    (hk : ∀ x ∈ tbl.kept, x ∈ vis) (hi : Ids N vis (p :: rest) a) (hv : h.Visiting vis (p :: rest))
    (hid : call.theInstanceId = N.id p) : h.Hashes lim counts (N.visit p a b c) tbl (newInstance db call) := by
  intro name key
  have hids : (h.hashed N lim counts tbl name key).map (N.visit p a b c).id = (h.hashed N lim counts tbl name key).map N.id :=
    map_congr_left fun x hx => visit_id hv (mem_append_left _ (hk x (mem_of_hashed hx).1))
  have hashed : h.hashed (N.visit p a b c) lim counts tbl name key = h.hashed N lim counts tbl name key :=
    filter_congr fun x hx => by rw [visit_portIds hv (hk x hx)]
  rw [hashed, hids]
  have hlinked : Linked unknownDevice (newInstance db call).nextHashed (db.instanceHashIdV name key)
      ((h.hashed N lim counts tbl name key).map N.id) := by
    refine (hh name key).congr ?_
    intro y hy
    obtain ⟨x, hx, rfl⟩ := mem_map.1 hy
    unfold nextHashed
    rw [newInstance_of_mem hi hv hid (hk x (mem_of_hashed hx).1)]
  rw [newInstance_instanceHashIdV]
  split
  · rename_i hnone
    rcases eq_or_ne name call.theSubcircuit.masterName with rfl | hne
    · -- the table is made for the first instance of a circuit, so no instance is linked yet
      have hempty : h.hashed N lim counts tbl call.theSubcircuit.masterName key = [] := by
        refine eq_nil_iff_forall_not_mem.2 fun x hx => ?_
        obtain ⟨hx, -, hm, -⟩ := mem_of_hashed hx
        have : x ∈ vis.filter fun x => h.masterOf x == call.theSubcircuit.masterName :=
          mem_filter.2 ⟨hk x hx, by simp [hm]⟩
        have hmap := mem_map_of_mem (f := N.id) this
        rw [← hin.lists, hnone] at hmap
        exact not_mem_nil hmap
      rw [hempty, update_self]
      rfl
    · rwa [update_of_ne hne]
  · exact hlinked

/-! ## Folding inside a parallel instance -/

theorem foldInParallel_ok {parent : CInstance} (hok : foldInParallel db call parent = .ok db') : CCvcDb.SameBut db db' := by
  unfold foldInParallel at hok
  simp only [bind, Except.bind] at hok
  split at hok
  · nomatch hok
  split at hok
  · nomatch hok
  split at hok
  · nomatch hok
  rename_i this hthis
  have hset := sameBut_setInstance (instancePtr_eq_ok.1 hthis)
  split at hok
  · nomatch hok
  split at hok <;> exact (hset _).trans (incrementCount_ok hok)

/-! ## Finding the parallel instance -/

/-- The net of a signal of a kept node is in the block of a kept node. -/
theorem netOf_mem_block (hf : h.Folds lim vis tbl) (hv : h.Visiting vis pend) {z : List Nat} (hz : z ∈ vis)
    (hzk : tbl.image z = none) {u : Nat} (hu : u < h.signals z) :
    (h.netOf z u).1 ∈ vis ∧ (h.netOf z u).1 ∈ tbl.kept ∧ h.ownStart (h.netOf z u).1 ≤ (h.netOf z u).2 ∧
      In N.firstNet h.ownNets (h.netOf z u).1 (h.netId N (h.netOf z u)) := by
  have hnd : vis.Nodup := (nodup_append.1 hv.nodup).1
  obtain ⟨hsuf, hle, hlt⟩ := h.netOf_spec (hv.isNode (mem_append_left _ hz)) hu
  obtain ⟨hm, hk⟩ := hf.image_suffix hv hz hzk hsuf
  refine ⟨hm, (hf.mem_kept hnd).2 ⟨hm, hk⟩, hle, ?_⟩
  unfold In netId ownNets
  omega

/-- The nets of kept nodes have different ids. -/
theorem Nets.netId_inj (hn : h.Nets N vis tbl db) (hf : h.Folds lim vis tbl) (hv : h.Visiting vis pend)
    (hinj : ∀ x ∈ vis, ∀ y ∈ vis, N.id x = N.id y → x = y) (hx : x ∈ vis) (hxk : tbl.image x = none)
    (hy : y ∈ vis) (hyk : tbl.image y = none) {t : Nat} (hs : s < h.signals x) (ht : t < h.signals y)
    (he : h.netId N (h.netOf x s) = h.netId N (h.netOf y t)) : h.netOf x s = h.netOf y t := by
  obtain ⟨hxm, hxk, hxle, hxin⟩ := netOf_mem_block (N := N) hf hv hx hxk hs
  obtain ⟨hym, hyk, hyle, hyin⟩ := netOf_mem_block (N := N) hf hv hy hyk ht
  have hnode := hinj _ hxm _ hym (hn.nets.owner_eq hxk hyk hxin (he ▸ hyin))
  unfold netId at he
  rw [hnode] at he hxle
  exact Prod.ext hnode (by omega)

/-- The search of a chain stops at the first node that matches, or at its end. -/
theorem searchHashed_eq {portNets : List Nat} {L : List (List Nat)} {m : List Nat → Bool} {x length : Nat}
    (hlink : Linked unknownDevice db.nextHashed x (L.map N.id)) (hne : L ≠ [])
    (hinst : ∀ y ∈ L, ∃ I, db.instancePtrV (N.id y) = some I ∧ I.portsMatch portNets = m y) (hlen : L.length ≤ length) :
    db.searchHashed portNets length x = .ok (match L.find? m with
      | some y => .found (N.id y)
      | none => .last (N.id (L.getLast hne))) := by
  induction L generalizing x length with
  | nil => exact absurd rfl hne
  | cons y L ih =>
    obtain ⟨rfl, hy, hrest⟩ := hlink
    obtain ⟨I, hI, hm⟩ := hinst y mem_cons_self
    have hnext : db.nextHashed (N.id y) = I.nextHashedInstanceId := by simp [nextHashed, hI]
    rw [hnext] at hrest
    cases length with
    | zero => simp at hlen
    | succ length =>
      unfold searchHashed
      rw [instancePtr_eq_ok.2 hI]
      simp only [bind, Except.bind, pure, Except.pure, hm]
      cases hmy : m y with
      | true => simp [hmy]
      | false =>
        simp only [Bool.false_eq_true, find?_cons, hmy]
        cases L with
        | nil =>
          have hend : I.nextHashedInstanceId = unknownDevice := hrest
          simp [hend]
        | cons z L =>
          have hz : I.nextHashedInstanceId ≠ unknownDevice := hrest.1 ▸ hrest.2.1
          simp only [hz]
          rw [ih hrest (by simp) (fun w hw => hinst w (mem_cons_of_mem _ hw)) (Nat.le_of_succ_le_succ hlen)]
          simp

/-- The nets at the ports of a node, by the net map of its parent. -/
theorem portNets_callOf (hi : i < h.width q) :
    (h.callOf i q).portNets (h.circuitAt (i :: q)).portCount (h.netMap N q) = h.portIds N (i :: q) := by
  refine map_congr_left fun k hk => ?_
  have hlt := h.portSignal_lt hi (mem_range.1 hk)
  rw [h.netOf_port (mem_range.1 hk)]
  unfold netMap
  rw [getD_eq_getElem _ _ (by simpa using hlt)]
  simp

/-- An instance with the net map of a kept node has the nets of another one at its ports exactly when both nodes have. -/
theorem portsMatch_iff (hn : h.Nets N vis tbl db) (hf : h.Folds lim vis tbl) (hv : h.Visiting vis pend)
    (hinj : ∀ x ∈ vis, ∀ y ∈ vis, N.id x = N.id y → x = y) (hi : i < h.width q) (hq : q ∈ vis)
    (hqk : tbl.image q = none) (hx : x ∈ vis) (hxk : tbl.image x = none)
    (hm : h.masterOf x = h.masterOf (i :: q)) {I : CInstance} (hI : I.localToGlobalNetIdV = h.netMap N x) :
    I.portsMatch (h.portIds N (i :: q)) = h.samePorts (i :: q) x := by
  have hcirc : h.circuitAt x = h.circuitAt (i :: q) := by unfold circuitAt; rw [hm]
  have hsig : ∀ {k}, k < (h.circuitAt (i :: q)).portCount → k < h.signals x := by
    intro k hk
    rw [← hcirc] at hk
    exact Nat.lt_of_lt_of_le hk (h.portCount_le_signals x)
  rw [Bool.eq_iff_iff, h.samePorts_iff]
  unfold CInstance.portsMatch
  simp only [all_eq_true, beq_iff_eq, hI]
  have hget : ∀ k, k < (h.circuitAt (i :: q)).portCount → (h.portIds N (i :: q)).getD k 0 = h.netId N (h.netOf (i :: q) k) ∧
      (h.netMap N x).getD k 0 = h.netId N (h.netOf x k) := by
    intro k hk
    unfold portIds netMap
    rw [getD_eq_getElem _ _ (by simpa using hk), getD_eq_getElem _ _ (by simpa using hsig hk)]
    simp
  constructor
  · intro hall
    refine ⟨hm.symm, fun k hk => ?_⟩
    have := hall k (by simpa [portIds] using hk)
    rw [(hget k hk).1, (hget k hk).2, h.netOf_port hk] at this
    rw [h.netOf_port hk]
    exact hn.netId_inj hf hv hinj hq hqk hx hxk (h.portSignal_lt hi hk) (hsig hk) this
  · rintro ⟨-, hall⟩ k hk
    have hk : k < (h.circuitAt (i :: q)).portCount := by simpa [portIds] using hk
    rw [(hget k hk).1, (hget k hk).2, hall k hk]

variable (h theLimit counts N) in
/-- The instance of the next node has been made, and is neither folded nor kept yet. -/
structure Made (vis rest : List (List Nat)) (tbl : FoldTable) (p : List Nat) (db : CCvcDb) : Prop where
  visiting : h.Visiting vis (p :: rest)
  folds : h.Folds theLimit vis tbl
  insts : h.Insts N (vis ++ [p]) db
  nets : h.Nets N vis tbl db
  hashes : h.Hashes theLimit counts N tbl db
  inj : ∀ x ∈ vis ++ [p], ∀ y ∈ vis ++ [p], N.id x = N.id y → x = y
  known : ∀ x ∈ vis ++ [p], N.id x ≠ unknownDevice
  length_le : vis.length ≤ db.subcircuitCount
  next_self : db.nextHashed (N.id p) = unknownDevice
  nets_self : ∀ I, db.instancePtrV (N.id p) = some I → I.localToGlobalNetIdV = []
  words_self : db.words (N.id p) = some 0
  firstNet_self : N.firstNet p = db.netCount
  firstDevice_self : N.firstDevice p = db.deviceCount

theorem Made.mem_kept (hm : h.Made lim counts N vis rest tbl p db) : x ∈ tbl.kept ↔ x ∈ vis ∧ tbl.image x = none :=
  hm.folds.mem_kept (nodup_append.1 hm.visiting.nodup).1

theorem Made.id_ne (hm : h.Made lim counts N vis rest tbl p db) (hx : x ∈ vis) : N.id x ≠ N.id p := fun he =>
  hm.visiting.not_mem (hm.inj x (mem_append_left _ hx) p (by simp) he ▸ hx)

/-- Keeping a node adds it to the chain of its key. -/
theorem hashed_concat (hne : p ≠ []) (name key : Nat) :
    h.hashed N lim counts (tbl ++ [(p, none)]) name key = h.hashed N lim counts tbl name key ++
      if h.masterOf p = name ∧ (h.circuitAt p).portCount ≤ lim ∧
        makePortHash (h.portIds N p) (counts name).instanceCount = key then [p] else [] := by
  unfold hashed
  rw [FoldTable.kept_concat_none, filter_append]
  congr 1
  split
  · rename_i hc
    simp [hne, hc]
  · rename_i hc
    simp only [filter_eq_nil_iff, mem_singleton, forall_eq, Bool.and_eq_true, beq_iff_eq, decide_eq_true_eq]
    tauto

/-- A node of the circuit of the next node with the same nets is in the chain of its key. -/
theorem find_hashed (hm : h.Made lim counts N vis rest tbl p db) (hlim : (h.circuitAt p).portCount ≤ lim) :
    (h.hashed N lim counts tbl (h.masterOf p)
      (makePortHash (h.portIds N p) (counts (h.masterOf p)).instanceCount)).find? (h.samePorts p) =
        tbl.kept.find? (h.samePorts p) := by
  unfold hashed
  rw [find?_filter]
  refine find?_congr fun x hx => ?_
  cases hs : h.samePorts p x with
  | false => simp
  | true =>
    obtain ⟨hmaster, hnets⟩ := (h.samePorts_iff).1 hs
    have hcirc : h.circuitAt x = h.circuitAt p := by unfold circuitAt; rw [hmaster]
    have hids : h.portIds N x = h.portIds N p := by
      unfold portIds
      rw [hcirc]
      exact map_congr_left fun k hk => by rw [hnets k (mem_range.1 hk)]
    have hroot : x ≠ [] := by
      rintro rfl
      obtain ⟨i, q, rfl, -, -⟩ := hm.visiting.head_cons
      have hnode := hm.visiting.isNode (x := i :: q) (by simp)
      have := h.rank_lt_of_suffix hnode (nil_suffix) (cons_ne_nil i q).symm
      rw [hmaster] at this
      exact Nat.lt_irrefl _ this
    simp [hroot, hmaster, hcirc, hids, hlim]

section
variable (hm : h.Made lim counts N vis rest tbl p db) {key : Nat} {L : List (List Nat)}
  (hkey : makePortHash (h.portIds N p) (counts (h.masterOf p)).instanceCount = key) (hlim : (h.circuitAt p).portCount ≤ lim)
include hm hkey hlim

/-- The chains after the next node has joined the chain of its key. -/
theorem Made.hashes_concat (hL : h.hashed N lim counts tbl (h.masterOf p) key = L)
    (hnext : ∀ x ∈ vis, x ∉ L → db'.nextHashed (N.id x) = db.nextHashed (N.id x))
    (hheads : ∀ name key', ¬ (name = h.masterOf p ∧ key' = key) → db'.instanceHashIdV name key' = db.instanceHashIdV name key')
    (hself : Linked unknownDevice db'.nextHashed (db'.instanceHashIdV (h.masterOf p) key) ((L ++ [p]).map N.id)) :
    h.Hashes lim counts N (tbl ++ [(p, none)]) db' := by
  have hne : p ≠ [] := by
    obtain ⟨i, q, rfl, -, -⟩ := hm.visiting.head_cons
    exact cons_ne_nil i q
  intro name key'
  rw [hashed_concat hne]
  rcases Classical.em (name = h.masterOf p ∧ key' = key) with ⟨rfl, rfl⟩ | hother
  · rw [if_pos ⟨rfl, hlim, hkey⟩, hL]
    exact hself
  rw [if_neg, append_nil, hheads name key' hother]
  · refine (hm.hashes name key').congr ?_
    intro y hy
    obtain ⟨x, hx, rfl⟩ := mem_map.1 hy
    -- a node is only in the chain of its own circuit and key
    refine hnext x (hm.mem_kept.1 (mem_of_hashed hx).1).1 fun hxL => hother ?_
    rw [← hL] at hxL
    have h1 := (mem_filter.1 hx).2
    have h2 := (mem_filter.1 hxL).2
    simp only [Bool.and_eq_true, beq_iff_eq] at h1 h2
    have hname : name = h.masterOf p := h1.1.1.2.symm.trans h2.1.1.2
    refine ⟨hname, ?_⟩
    rw [← h1.2, ← h2.2, hname]
  · rintro ⟨rfl, -, hk⟩
    exact hother ⟨rfl, hk ▸ hkey⟩

/-- The next node begins the chain of its key. -/
theorem Made.hashes_first (hL : h.hashed N lim counts tbl (h.masterOf p) key = []) :
    h.Hashes lim counts N (tbl ++ [(p, none)]) { db with
      instanceHashIdV := update db.instanceHashIdV (h.masterOf p)
        (update (db.instanceHashIdV (h.masterOf p)) key (N.id p)) } := by
  refine hm.hashes_concat hkey hlim hL (fun _ _ _ => rfl) (fun name key' hother => ?_) ?_
  · rcases eq_or_ne name (h.masterOf p) with rfl | hname
    · simp only [update_self]
      exact update_of_ne (fun hk => hother ⟨rfl, hk⟩) _ _
    · exact congrFun (update_of_ne hname _ _) key'
  · simp only [update_self]
    exact ⟨rfl, hm.known _ (by simp), hm.next_self⟩

/-- The next node comes after the last one of the chain of its key. -/
theorem Made.hashes_last {z : List Nat} (hL : h.hashed N lim counts tbl (h.masterOf p) key = L ++ [z]) (I : CInstance) :
    h.Hashes lim counts N (tbl ++ [(p, none)]) (db.setInstance (N.id z) { I with nextHashedInstanceId := N.id p }) := by
  have hvis : ∀ x ∈ L ++ [z], x ∈ vis := fun x hx => (hm.mem_kept.1 (mem_of_hashed (hL ▸ hx)).1).1
  have hinj : ∀ x ∈ vis, N.id x = N.id z → x = z := fun x hx =>
    hm.inj x (mem_append_left _ hx) z (mem_append_left _ (hvis z (by simp)))
  refine hm.hashes_concat hkey hlim hL (fun x hx hxL => ?_) (fun _ _ _ => rfl) ?_
  · rw [nextHashed_setInstance, if_neg]
    intro he
    exact hxL (hinj x hx he ▸ by simp)
  have hlink := hm.hashes (h.masterOf p) key
  rw [hL, map_append, map_singleton] at hlink
  rw [map_append, map_append, map_singleton, map_singleton]
  refine hlink.concat (hm.known _ (by simp)) ?_ ?_ fun y hy => ?_
  · rw [nextHashed_setInstance, if_pos rfl]
  · rw [nextHashed_setInstance, if_neg (hm.id_ne (hvis z (by simp))).symm, hm.next_self]
  · obtain ⟨x, hx, rfl⟩ := mem_map.1 hy
    rw [nextHashed_setInstance, if_neg]
    intro he
    have hnodup : (L ++ [z]).Nodup := hL ▸ ((nodup_append.1 hm.visiting.nodup).1.sublist hm.folds.kept_sublist).filter _
    exact (nodup_append.1 hnodup).2.2 x hx z (by simp) (hinj x (hvis x (mem_append_left _ hx)) he)

end

theorem findParallelInstance_eq {name count id key : Nat} {portNets : List Nat} (hkey : makePortHash portNets count = key)
    (hlt : key < count) (hne : key ≠ unknownDevice) : db.findParallelInstance name count id portNets =
      if db.instanceHashIdV name key = unknownDevice then
        .ok (id, { db with instanceHashIdV := update db.instanceHashIdV name (update (db.instanceHashIdV name) key id) })
      else db.searchHashed portNets db.subcircuitCount (db.instanceHashIdV name key) >>= fun
        | .found x => .ok (x, db)
        | .last x => db.instancePtr x >>= fun I => .ok (id, db.setInstance x { I with nextHashedInstanceId := id }) := by
  unfold findParallelInstance
  simp only [hkey]
  rw [if_neg (not_not.2 ⟨hne, hlt⟩)]
  split <;> rfl

/-- `FindParallelInstance` finds the node that the next node is folded onto; without one, the next node joins the chain of its
key. -/
theorem Made.findParallelInstance (hm : h.Made lim counts N vis rest tbl (i :: q) db) (hq : tbl.image q = none)
    (hlim : (h.circuitAt (i :: q)).portCount ≤ lim) (hpos : 0 < (counts (h.masterOf (i :: q))).instanceCount)
    (hle : (counts (h.masterOf (i :: q))).instanceCount ≤ unknownDevice) :
    match tbl.kept.find? (h.samePorts (i :: q)) with
    | some t => db.findParallelInstance (h.masterOf (i :: q)) (counts (h.masterOf (i :: q))).instanceCount (N.id (i :: q))
        (h.portIds N (i :: q)) = .ok (N.id t, db)
    | none => ∃ db', db.findParallelInstance (h.masterOf (i :: q)) (counts (h.masterOf (i :: q))).instanceCount
        (N.id (i :: q)) (h.portIds N (i :: q)) = .ok (N.id (i :: q), db') ∧ CCvcDb.SameButHash db db' ∧
        h.Hashes lim counts N (tbl ++ [(i :: q, none)]) db' := by
  obtain ⟨hqv, hi⟩ := hm.visiting.parent i q (by simp)
  obtain ⟨key, hkey⟩ : ∃ key, makePortHash (h.portIds N (i :: q)) (counts (h.masterOf (i :: q))).instanceCount = key := ⟨_, rfl⟩
  obtain ⟨L, hL⟩ : ∃ L, h.hashed N lim counts tbl (h.masterOf (i :: q)) key = L := ⟨_, rfl⟩
  have hlt : key < (counts (h.masterOf (i :: q))).instanceCount := hkey ▸ Nat.mod_lt _ hpos
  have hne : key ≠ unknownDevice := by omega
  have hfind : L.find? (h.samePorts (i :: q)) = tbl.kept.find? (h.samePorts (i :: q)) := by
    rw [← hL, ← hkey]
    exact find_hashed hm hlim
  have hlink : Linked unknownDevice db.nextHashed (db.instanceHashIdV (h.masterOf (i :: q)) key) (L.map N.id) :=
    hL ▸ hm.hashes _ _
  have hLv : ∀ x ∈ L, x ∈ vis ∧ tbl.image x = none ∧ h.masterOf x = h.masterOf (i :: q) := by
    intro x hx
    obtain ⟨hk, -, hmaster, -⟩ := mem_of_hashed (hL ▸ hx)
    obtain ⟨hv, himg⟩ := hm.mem_kept.1 hk
    exact ⟨hv, himg, hmaster⟩
  have hinst : ∀ x ∈ L, ∃ I, db.instancePtrV (N.id x) = some I ∧
    I.portsMatch (h.portIds N (i :: q)) = h.samePorts (i :: q) x := by
    intro x hx
    obtain ⟨hxv, hxk, hmaster⟩ := hLv x hx
    obtain ⟨I, hI, -⟩ := hm.insts.made x (mem_append_left _ hxv)
    refine ⟨I, hI, ?_⟩
    exact portsMatch_iff hm.nets hm.folds hm.visiting
      (fun y hy z hz => hm.inj y (mem_append_left _ hy) z (mem_append_left _ hz)) hi hqv hq hxv hxk
      hmaster (hm.nets.kept x hxv I hI hxk).2.2
  have hlen : L.length ≤ db.subcircuitCount := by
    have h1 : L.length ≤ tbl.kept.length := hL ▸ length_filter_le _ _
    have h2 : tbl.kept.length ≤ vis.length := hm.folds.kept_sublist.length_le
    have h3 := hm.length_le
    omega
  rw [← hfind]
  rcases eq_nil_or_concat' L with rfl | ⟨ys, z, rfl⟩
  · exact ⟨_, (findParallelInstance_eq hkey hlt hne).trans (if_pos hlink), ⟨⟨rfl, rfl, rfl, rfl, rfl, rfl, rfl⟩, rfl⟩,
      hm.hashes_first hkey hlim hL⟩
  have hz : z ∈ ys ++ [z] := by simp
  have hhead : db.instanceHashIdV (h.masterOf (i :: q)) key ≠ unknownDevice := by
    obtain ⟨x, L', hL'⟩ := exists_cons_of_ne_nil (ne_nil_of_mem hz)
    rw [hL'] at hlink
    exact hlink.1 ▸ hlink.2.1
  have hsearch := searchHashed_eq hlink (ne_nil_of_mem hz) hinst hlen
  cases hf : (ys ++ [z]).find? (h.samePorts (i :: q)) with
  | some t =>
    rw [hf] at hsearch
    rw [findParallelInstance_eq hkey hlt hne, if_neg hhead, hsearch]
    rfl
  | none =>
    obtain ⟨I, hI, -⟩ := hinst z hz
    rw [hf] at hsearch
    simp only [getLast_append_singleton] at hsearch
    rw [findParallelInstance_eq hkey hlt hne, if_neg hhead, hsearch]
    exact ⟨_, bind_eq_ok.2 ⟨_, rfl, bind_eq_ok.2 ⟨I, instancePtr_eq_ok.2 hI, rfl⟩⟩,
      ⟨⟨shapes_setInstance hI rfl, rfl, rfl, rfl, rfl, rfl, rfl⟩, funext fun y => map_setInstance hI (by rfl) y⟩,
      hm.hashes_last hkey hlim hL I⟩

end Hierarchy
end Cvc
