import Cvc.Lemmas.Flatten

/-!
# The run of flattening

The recursion of `AssignGlobalIDs` makes visits with a stack of calls to come. The states between the visits are those that
`Reaches` leads to from the first one: the recursion returns what the visits lead to, and returns when every state it can be in
has a visit that succeeds.
-/

namespace Cvc

open List

namespace Hierarchy

variable (h : Hierarchy) (theLimit : Nat) (counts : Nat → CircuitCounts) {db db' : CCvcDb} {tbl : FoldTable}
  {vis rest : List (List Nat)} {x p : List Nat} {call : InstanceCall} {calls : List InstanceCall} {N : Numbering}
  {s : FlattenState} {f : CCvcDb → InstanceCall → Except Failure CCvcDb} {depth : Nat}

/-- A state between visits: the calls to come and the database. -/
abbrev FlattenState := List InstanceCall × CCvcDb

/-- One visit. -/
inductive VisitStep : FlattenState → FlattenState → Prop
  | visit {db db' : CCvcDb} {call : InstanceCall} {calls rest : List InstanceCall}
      (ok : h.visitInstance theLimit counts db call = .ok (db', calls)) : VisitStep (call :: rest, db) (calls ++ rest, db')

/-- Any number of visits. -/
abbrev Reaches : FlattenState → FlattenState → Prop := Relation.ReflTransGen (h.VisitStep theLimit counts)

/-- Every state that is reached with calls to come has a visit. -/
def NeverStuck (s : FlattenState) : Prop :=
  ∀ s', h.Reaches theLimit counts s s' → s'.1 ≠ [] → ∃ s'', h.VisitStep theLimit counts s' s''

variable {h theLimit counts} {lim : Nat}

theorem NeverStuck.of_reaches {s' : FlattenState} (hs : h.NeverStuck lim counts s)
    (hr : h.Reaches lim counts s s') : h.NeverStuck lim counts s' :=
  fun s'' hr' hne => hs s'' (hr.trans hr') hne

/-- The masters of the calls that an instance makes have a smaller rank than its own. -/
theorem rank_of_mem_subcircuitCalls {first id name : Nat} {isParallel : Bool}
    (hc : call ∈ h.subcircuitCalls first id name isParallel) : h.rank call.theSubcircuit.masterName < h.rank name := by
  obtain ⟨⟨d, k⟩, hd, rfl⟩ := mem_map.1 hc
  exact h.rank_master_lt (fst_mem_of_mem_zipIdx hd)

theorem rank_of_mem_calls {x : InstanceCall} (hok : h.visitInstance lim counts db call = .ok (db', calls)) (hx : x ∈ calls) :
    h.rank x.theSubcircuit.masterName < h.rank call.theSubcircuit.masterName := by
  obtain ⟨parent, -, hok⟩ := bind_eq_ok.1 hok
  split at hok
  · obtain ⟨db1, -, hok⟩ := bind_eq_ok.1 hok
    obtain ⟨-, rfl⟩ := Prod.mk.inj (Except.ok.inj hok)
    exact rank_of_mem_subcircuitCalls hx
  obtain ⟨⟨db1, isParallel⟩, -, hok⟩ := bind_eq_ok.1 hok
  cases isParallel with
  | true =>
    obtain ⟨-, rfl⟩ := Prod.mk.inj (Except.ok.inj hok)
    exact rank_of_mem_subcircuitCalls hx
  | false =>
    obtain ⟨db2, -, hok⟩ := bind_eq_ok.1 hok
    obtain ⟨-, rfl⟩ := Prod.mk.inj (Except.ok.inj hok)
    exact rank_of_mem_subcircuitCalls hx

/-! ## The recursion and the visits -/

/-- A list of calls is made one after the other. -/
theorem reaches_foldlM
    (hf : ∀ db call db', f db call = .ok db' → ∀ rest, h.Reaches lim counts (call :: rest, db) (rest, db'))
      (hok : calls.foldlM f db = .ok db') (rest : List InstanceCall) :
    h.Reaches lim counts (calls ++ rest, db) (rest, db') := by
  induction calls generalizing db with
  | nil =>
    obtain rfl := Except.ok.inj hok
    exact .refl
  | cons call calls ih =>
    obtain ⟨db1, hc, hok⟩ := bind_eq_ok.1 hok
    exact (hf db call db1 hc (calls ++ rest)).trans (ih hok)

theorem reaches_of_assignGlobalIDs (hok : h.assignGlobalIDs lim counts depth db call = .ok db') (rest : List InstanceCall) :
    h.Reaches lim counts (call :: rest, db) (rest, db') := by
  induction depth generalizing db db' call rest with
  | zero => nomatch hok
  | succ depth ih =>
    obtain ⟨⟨db1, calls⟩, hv, hok⟩ := bind_eq_ok.1 hok
    exact .head (.visit hv) (reaches_foldlM (fun db call db' hc rest => ih hc rest) hok rest)

theorem foldlM_ok {P : InstanceCall → Prop}
    (hf : ∀ db call rest, P call → h.NeverStuck lim counts (call :: rest, db) → ∃ db', f db call = .ok db')
    (hr : ∀ db call db', f db call = .ok db' → ∀ rest, h.Reaches lim counts (call :: rest, db) (rest, db'))
    {rest : List InstanceCall} (hP : ∀ call ∈ calls, P call)
    (hs : h.NeverStuck lim counts (calls ++ rest, db)) : ∃ db', calls.foldlM f db = .ok db' := by
  induction calls generalizing db with
  | nil => exact ⟨db, rfl⟩
  | cons call calls ih =>
    obtain ⟨db1, hc⟩ := hf db call (calls ++ rest) (hP call mem_cons_self) hs
    obtain ⟨db', hok⟩ := ih (fun c hc => hP c (mem_cons_of_mem _ hc)) (hs.of_reaches (hr db call db1 hc _))
    refine ⟨db', ?_⟩
    rw [foldlM_cons, hc]
    exact hok

/-- A recursion that never gets stuck returns. -/
theorem assignGlobalIDs_ok {rest : List InstanceCall}
    (hd : h.rank call.theSubcircuit.masterName < depth) (hs : h.NeverStuck lim counts (call :: rest, db)) :
    ∃ db', h.assignGlobalIDs lim counts depth db call = .ok db' := by
  induction depth generalizing db call rest with
  | zero => exact absurd hd (Nat.not_lt_zero _)
  | succ depth ih =>
    obtain ⟨s, hstep⟩ := hs _ .refl (cons_ne_nil call rest)
    cases hstep with
    | visit hv =>
      rename_i db1 calls
      have hs1 := hs.of_reaches (.single (.visit hv))
      obtain ⟨db', hok⟩ := foldlM_ok (P := fun c => h.rank c.theSubcircuit.masterName < depth)
        (fun db call rest hP hs => ih hP hs) (fun db call db' hc rest => reaches_of_assignGlobalIDs hc rest)
        (fun c hc => by have := rank_of_mem_calls hv hc; omega) hs1
      refine ⟨db', ?_⟩
      unfold assignGlobalIDs
      rw [hv]
      exact hok

/-- The result of flattening is reached from its first state. -/
theorem reaches_of_assignTop (hok : h.assignTopGlobalIDs lim counts = .ok db) :
    h.Reaches lim counts (h.topCalls, h.topInstance) ([], db) := by
  have := reaches_foldlM (fun db call db' hc rest => reaches_of_assignGlobalIDs hc rest) hok []
  rwa [append_nil] at this

theorem assignTop_ok (hs : h.NeverStuck lim counts (h.topCalls, h.topInstance)) :
    ∃ db, h.assignTopGlobalIDs lim counts = .ok db := by
  rw [← append_nil h.topCalls] at hs
  exact foldlM_ok (P := fun c => h.rank c.theSubcircuit.masterName < h.rank h.topBlock)
    (fun db call rest hP hs => assignGlobalIDs_ok hP hs) (fun db call db' hc rest => reaches_of_assignGlobalIDs hc rest)
    (fun c hc => rank_of_mem_subcircuitCalls hc) hs

/-! ## The order of the visits -/

variable (h) in
/-- The nodes from a node down. -/
def subtree (p : List Nat) : List (List Nat) := h.nodesFrom (h.rank (h.masterOf p) + 1) p

/-- A depth over the rank of the circuit is enough for all nodes. -/
theorem nodesFrom_eq {d d' : Nat} (hd : h.rank (h.masterOf p) < d) (hd' : h.rank (h.masterOf p) < d') :
    h.nodesFrom d p = h.nodesFrom d' p := by
  induction d generalizing p d' with
  | zero => exact absurd hd (Nat.not_lt_zero _)
  | succ d ih =>
    cases d' with
    | zero => exact absurd hd' (Nat.not_lt_zero _)
    | succ d' =>
      unfold nodesFrom
      congr 1
      refine flatMap_congr fun i hi => ?_
      have := h.rank_cons_lt (mem_range.1 hi)
      exact ih (by omega) (by omega)

theorem subtree_eq (p : List Nat) : h.subtree p = p :: (h.children p).flatMap h.subtree := by
  have hexp : h.subtree p = p :: (range (h.width p)).flatMap fun i => h.nodesFrom (h.rank (h.masterOf p)) (i :: p) := rfl
  unfold children
  rw [hexp, flatMap_map]
  congr 1
  refine flatMap_congr fun i hi => ?_
  have := h.rank_cons_lt (mem_range.1 hi)
  exact nodesFrom_eq this (Nat.lt_succ_self _)

theorem subtree_nil : h.subtree [] = h.nodes := rfl

/-! ## The invariants along the run -/

variable (h theLimit counts) in
/-- The invariants of a state of the run: those between visits, with the nodes visited in order and folded. -/
structure Running (N : Numbering) (vis pend : List (List Nat)) (tbl : FoldTable) (db : CCvcDb) : Prop
    extends Flat h theLimit counts N vis pend tbl db where
  order : vis ++ pend.flatMap h.subtree = h.nodes
  table : tbl = h.foldNodes theLimit [] vis

/-- The numbers of the top instance and of the instances in it. -/
def Numbering.top : Numbering := Numbering.visit ⟨fun _ => 0, fun _ => 0, fun _ => 0⟩ [] 1 0 0

theorem topCalls_eq : h.topCalls = (h.children []).map (h.callAt Numbering.top [([], none)]) := by
  have := subcircuitCalls_masterOf (h := h) 1 0 [] false
  unfold topCalls children
  rw [map_map]
  refine this.trans (map_congr_left fun j _ => ?_)
  rfl

theorem topInstance_of_ne {x : Nat} (hx : x ≠ 0) : h.topInstance.instancePtrV x = none := by
  simp [topInstance, hx]

theorem topInstance_zero : h.topInstance.instancePtrV 0 = some {
      firstSubcircuitId := 1
      masterName := h.topBlock
      localToGlobalNetIdV := range (h.circuit h.topBlock).localSignalIdMap.length } := by
  simp [topInstance]

theorem id_top (i : Nat) : Numbering.top.id [i] = 1 + i := visit_id_child i

theorem ids_top : Ids Numbering.top [[]] (h.children []) h.topInstance.subcircuitCount := by
  refine ⟨rfl, ?_, ?_⟩
  · show Perm _ (range (1 + h.width []))
    rw [range_add]
    refine Perm.of_eq ?_
    unfold children
    rw [map_append, map_map]
    rfl
  · intro i p hx
    rcases mem_append.1 hx with hx | hx
    · simp at hx
    obtain ⟨j, -, he⟩ := (h.mem_children).1 hx
    obtain ⟨rfl, rfl⟩ := cons.inj he
    show 0 < Numbering.top.id [i]
    rw [id_top]
    omega

theorem insts_top : h.Insts Numbering.top [[]] h.topInstance := by
  refine ⟨?_, ?_, ?_⟩
  · intro p hp
    obtain rfl := mem_singleton.1 hp
    exact ⟨_, topInstance_zero, rfl, rfl, fun i _ => id_top i⟩
  · intro x hx
    refine topInstance_of_ne ?_
    rintro rfl
    exact hx (mem_singleton.2 rfl)
  · intro c
    rcases eq_or_ne c h.topBlock with rfl | hne
    · show Function.update (fun _ => []) h.topBlock [0] h.topBlock = _
      rw [Function.update_self]
      have : [([] : List Nat)].filter (fun p => h.masterOf p == h.topBlock) = [[]] := by simp [masterOf]
      rw [this]
      rfl
    · show Function.update (fun _ => []) h.topBlock [0] c = _
      rw [Function.update_of_ne hne]
      have : [([] : List Nat)].filter (fun p => h.masterOf p == c) = [] := by simp [masterOf, hne.symm]
      rw [this]
      rfl

theorem nets_top : h.Nets Numbering.top [[]] [([], none)] h.topInstance := by
  have hfill : ∀ (len : List Nat → Nat) (n : Nat), len [] = n → ∀ first : List Nat → Nat, first [] = 0 →
      Blocks.Fill (FoldTable.kept [([], none)]) first len Numbering.top.id (replicate n 0) := by
    intro len n hlen first hfirst
    have hnil : Blocks.Fill ([] : List (List Nat)) first len Numbering.top.id [] :=
      ⟨fun k hk => absurd hk not_mem_nil, fun n hn => absurd hn (Nat.not_lt_zero n)⟩
    have := hnil.concat (k := []) hfirst
    rwa [hlen] at this
  refine ⟨?_, ?_, hfill _ _ rfl _ rfl, hfill _ _ rfl _ rfl, length_replicate.symm, length_replicate.symm⟩
  · intro p hp I hI _
    obtain rfl := mem_singleton.1 hp
    obtain rfl := Option.some.inj (topInstance_zero.symm.trans hI)
    refine ⟨rfl, rfl, (map_id _).symm.trans (map_congr_left fun s _ => ?_)⟩
    simp [netId, netOf, ownStart, Numbering.top, Numbering.visit]
  · intro p hp I hI hk
    obtain rfl := mem_singleton.1 hp
    exact absurd rfl hk

theorem Running.start : h.Running lim counts Numbering.top [[]] (h.children []) [([], none)] h.topInstance :=
  ⟨⟨Visiting.start, Folds.start, ids_top, insts_top, nets_top, fun _ _ => rfl⟩, (subtree_eq []).symm, rfl⟩

/-- The calls of the nodes to come do not change. -/
theorem callAt_visit (hF : h.Flat lim counts N vis (p :: rest) tbl db) (hx : x ∈ rest) :
    h.callAt (Flat.next N db p) (h.visitTable lim tbl p) x = h.callAt N tbl x := by
  have hmem : x ∈ vis ++ p :: rest := mem_append_right _ (mem_cons_of_mem _ hx)
  cases x with
  | nil => rfl
  | cons i q =>
    have hq := (hF.visiting.parent i q hmem).1
    simp only [callAt]
    rw [image_visitTable_of_mem hF hq]
    congr 1
    · exact visit_id hF.visiting hmem
    · exact visit_id hF.visiting (mem_append_left _ hq)

theorem foldNodes_concat (ps : List (List Nat)) (p : List Nat) (tbl : FoldTable) :
    h.foldNodes lim tbl (ps ++ [p]) = h.visitTable lim (h.foldNodes lim tbl ps) p := by
  unfold foldNodes
  rw [foldl_append]
  rfl

/-- A visit leads from a state of the run to the next one. -/
theorem Running.visit (hR : h.Running lim counts N vis (p :: rest) tbl db) (hc : h.Counted counts)
    (hok : h.visitInstance lim counts db (h.callAt N tbl p) = .ok (db', calls)) :
    h.Running lim counts (Flat.next N db p) (vis ++ [p]) (h.children p ++ rest) (h.visitTable lim tbl p) db' ∧
      calls ++ rest.map (h.callAt N tbl) = (h.children p ++ rest).map (h.callAt (Flat.next N db p) (h.visitTable lim tbl p)) := by
  obtain ⟨hflat, rfl⟩ := hR.toFlat.visit hc hok
  refine ⟨⟨hflat, ?_, ?_⟩, ?_⟩
  · rw [← hR.order, flatMap_append, flatMap_cons, subtree_eq p]
    simp
  · rw [hR.table, foldNodes_concat]
  · rw [map_append]
    congr 1
    exact map_congr_left fun x hx => (callAt_visit hR.toFlat hx).symm

/-- Every state that flattening reaches is a state of the run, and has every further property that the visits keep. -/
theorem running_of_reaches {E : Numbering → List (List Nat) → FoldTable → CCvcDb → Prop} (hc : h.Counted counts)
    (hstart : E Numbering.top [[]] [([], none)] h.topInstance)
    (hvisit : ∀ {N vis p rest tbl db db' calls}, h.Running lim counts N vis (p :: rest) tbl db → E N vis tbl db →
      h.Reaches lim counts (h.topCalls, h.topInstance) ((p :: rest).map (h.callAt N tbl), db) →
      h.visitInstance lim counts db (h.callAt N tbl p) = .ok (db', calls) →
      E (Flat.next N db p) (vis ++ [p]) (h.visitTable lim tbl p) db') (hr : h.Reaches lim counts (h.topCalls, h.topInstance) s) :
    ∃ N vis pend tbl, s.1 = pend.map (h.callAt N tbl) ∧ h.Running lim counts N vis pend tbl s.2 ∧ E N vis tbl s.2 := by
  induction hr with
  | refl => exact ⟨_, _, _, _, topCalls_eq, .start, hstart⟩
  | tail hreach hstep ih =>
    obtain ⟨N, vis, pend, tbl, hs, hR, hE⟩ := ih
    cases hstep with
    | visit hok =>
      cases pend with
      | nil => nomatch hs
      | cons p rest =>
        obtain ⟨rfl, rfl⟩ := cons.inj hs
        obtain ⟨hR', hcalls⟩ := hR.visit hc hok
        exact ⟨_, _, _, _, hcalls, hR', hvisit hR hE hreach hok⟩

/-- The folding of the visited nodes does not change. -/
theorem image_foldNodes (hx : x ∈ tbl.map Prod.fst) (ps : List (List Nat)) : (h.foldNodes lim tbl ps).image x = tbl.image x := by
  induction ps generalizing tbl with
  | nil => rfl
  | cons p ps ih =>
    have hstep : h.foldNodes lim tbl (p :: ps) = h.foldNodes lim (h.visitTable lim tbl p) ps := rfl
    rw [hstep, ih (by simp [visitTable, hx])]
    unfold FoldTable.image visitTable
    rw [lookup_append]
    cases hl : tbl.lookup x with
    | none =>
      obtain ⟨e, he, rfl⟩ := mem_map.1 hx
      have := lookup_eq_none_iff.1 hl e he
      simp at this
    | some t => rfl

theorem image_folding (ho : vis ++ rest = h.nodes) (ht : tbl = h.foldNodes lim [] vis)
    (hp : tbl.map Prod.fst = vis) (hx : x ∈ vis) :
    (h.folding lim).image x = tbl.image x := by
  have hsplit : h.folding lim = h.foldNodes lim tbl rest := by
    unfold folding
    rw [← ho, ht]
    unfold foldNodes
    rw [foldl_append]
  rw [hsplit]
  exact image_foldNodes (hp ▸ hx) _

theorem Running.image_folding {pend : List (List Nat)} (hR : h.Running lim counts N vis pend tbl db) (hx : x ∈ vis) :
    (h.folding lim).image x = tbl.image x :=
  Hierarchy.image_folding hR.order hR.table hR.folds.paths hx

/-- The folding of the next node is that of the whole tree, also. -/
theorem Running.image_folding_visit (hR : h.Running lim counts N vis (p :: rest) tbl db) (hx : x ∈ vis ++ [p]) :
    (h.folding lim).image x = (h.visitTable lim tbl p).image x := by
  have horder : vis ++ [p] ++ ((h.children p).flatMap h.subtree ++ rest.flatMap h.subtree) = h.nodes := by
    rw [← hR.order, flatMap_cons, subtree_eq p]
    simp
  refine Hierarchy.image_folding horder ?_ (hR.folds.visit hR.visiting).paths hx
  rw [hR.table, foldNodes_concat]

end Hierarchy
end Cvc
