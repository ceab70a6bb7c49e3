import Cvc.CircuitList

/-!
# Loading another netlist

`Clear` frees the circuits and leaves their pointers in the list, and the static maps keep the name of a circuit that is gone.
After a netlist with circuits the list of the next one therefore starts with pointers that are free, or are allocated again and
stand in it twice. `load_current_iff`: nothing is left of the netlists of before exactly when they had no circuits.
-/

namespace Cvc

open List Function

namespace CircuitPtrList

variable {s t : CircuitPtrList} {netlist : List (Nat × NamedCircuit)} {p name : Nat}

/-! ## What a load changes -/

/-- Freeing circuits takes them from the memory only. -/
theorem deletes_ok {ps : List Nat} (h : ps.foldlM delete s = .ok t) :
    t.list = s.list ∧ t.localIdMap = s.localIdMap ∧ ∀ p, (t.allocated p).isSome → (s.allocated p).isSome := by
  induction ps generalizing s with
  | nil => simp_all [pure, Except.pure]
  | cons q ps ih =>
    rw [foldlM_cons, delete] at h
    split at h
    · obtain ⟨hlist, hmap, hallocated⟩ := ih h
      refine ⟨hlist, hmap, fun p hp => ?_⟩
      have := hallocated p hp
      by_cases hpq : p = q <;> simp_all
    · exact nomatch h

/-- The circuits of a netlist follow those in the list. -/
theorem adds_list (netlist : List (Nat × NamedCircuit)) (s : CircuitPtrList) :
    (netlist.foldl add s).list = s.list ++ netlist.map Prod.fst ∧
    (netlist.foldl add s).localIdMap = s.localIdMap := by
  induction netlist generalizing s with
  | nil => simp
  | cons c cs ih => simpa [add] using ih (s.add c)

/-- Adding circuits keeps all that are allocated in the list. -/
theorem adds_allocated (h : (s.allocated p).isSome → p ∈ s.list) (hp : ((netlist.foldl add s).allocated p).isSome) :
    p ∈ (netlist.foldl add s).list := by
  induction netlist generalizing s with
  | nil => exact h hp
  | cons c cs ih =>
    refine ih (fun hc => ?_) hp
    by_cases hpc : p = c.1 <;> simp_all [add]

/-- Every circuit that is allocated is in the list, and without circuits there is no map yet. -/
structure Kept (s : CircuitPtrList) : Prop where
  mem_list : ∀ p, (s.allocated p).isSome → p ∈ s.list
  lastMap : s.list = [] → ∀ kind, (s.localIdMap kind).lastMap = none

/-- A look-up makes a map only for a circuit that is allocated. -/
theorem Looked.kept (h : Looked s t) (hs : s.Kept) : t.Kept := by
  induction h with
  | start => exact hs
  | @getLocalId t u kind name p theName r _ _ hu ih =>
    unfold CircuitPtrList.getLocalId at hu
    split at hu
    · exact nomatch hu
    · rename_i hc
      cases hu
      exact ⟨ih.mem_list, fun hnil => absurd (ih.mem_list p (by simp [hc])) (hnil ▸ not_mem_nil)⟩

/-- A load that returns frees the circuits, then adds the netlist. -/
theorem load_ok (h : s.load netlist = .ok t) : ∃ u, s.clear = .ok u ∧ netlist.foldl add u = t := by
  unfold load at h
  cases hu : s.clear with
  | error e => simp [hu, bind, Except.bind] at h
  | ok u => exact ⟨u, rfl, by simpa [hu, bind, Except.bind, pure, Except.pure] using h⟩

theorem Reachable.kept (h : Reachable s) : s.Kept := by
  induction h with
  | start => exact ⟨nofun, fun _ _ => rfl⟩
  | looked _ ht ih => exact ht.kept ih
  | @load s t netlist _ _ ht ih =>
    obtain ⟨u, hu, rfl⟩ := load_ok ht
    obtain ⟨hlist, hmap, hallocated⟩ := deletes_ok hu
    refine ⟨fun p => adds_allocated fun hp => hlist ▸ ih.mem_list p (hallocated p hp), fun hnil kind => ?_⟩
    rw [(adds_list _ _).1, append_eq_nil_iff, hlist] at hnil
    rw [(adds_list _ _).2, hmap]
    exact ih.lastMap hnil.1 kind

/-! ## The first netlist with circuits -/

/-- The list and the maps are those of a netlist. -/
structure Loaded (netlist : List (Nat × NamedCircuit)) (s : CircuitPtrList) : Prop where
  list : s.list = netlist.map Prod.fst
  allocated : ∀ c ∈ netlist, s.allocated c.1 = some c.2
  named : ∀ name p, s.circuitNameMap name = some p → ∃ c ∈ netlist, c.1 = p ∧ c.2.name = name
  lastMap : ∀ kind name, (s.localIdMap kind).lastMap = some name →
    ∃ c ∈ netlist, c.2.name = name ∧ s.circuitNameMap name = some c.1 ∧ (s.localIdMap kind).ids = localIds (c.2.members kind)

theorem Loaded.add {c : Nat × NamedCircuit} (h : Loaded netlist s) (hc : c.1 ∉ netlist.map Prod.fst)
    (hmap : ∀ kind, (s.localIdMap kind).lastMap = none) : Loaded (netlist ++ [c]) (s.add c) where
  list := by simp [CircuitPtrList.add, h.list]
  allocated := by
    intro d hd
    rcases mem_append.1 hd with hd | hd
    · have hne : d.1 ≠ c.1 := fun he => hc (he ▸ mem_map_of_mem hd)
      simp [CircuitPtrList.add, update_of_ne hne, h.allocated d hd]
    · simp [CircuitPtrList.add, mem_singleton.1 hd]
  named := by
    intro name p hp
    by_cases hname : name = c.2.name
    · subst hname
      exact ⟨c, by simp, by simpa [CircuitPtrList.add] using hp, rfl⟩
    · obtain ⟨d, hd, hdp⟩ := h.named name p (by simpa [CircuitPtrList.add, update_of_ne hname] using hp)
      exact ⟨d, mem_append_left _ hd, hdp⟩
  lastMap := fun kind name hname => nomatch (hmap kind).symm.trans hname

/-- What is read after a start without maps is loaded with it. -/
theorem Loaded.adds {before : List (Nat × NamedCircuit)} (h : Loaded before s) (hnodup : ((before ++ netlist).map Prod.fst).Nodup)
    (hmap : ∀ kind, (s.localIdMap kind).lastMap = none) : Loaded (before ++ netlist) (netlist.foldl CircuitPtrList.add s) := by
  induction netlist generalizing before s with
  | nil => simpa using h
  | cons c cs ih =>
    rw [append_cons] at hnodup ⊢
    refine ih (h.add ?_ hmap) hnodup hmap
    simp only [map_append, nodup_append] at hnodup
    exact fun hc => hnodup.1.2.2 _ hc _ (by simp) rfl

theorem LocalIdMap.lastMap_of (m : LocalIdMap) (devices : List CDevice) : (m.of name devices).lastMap = some name := by
  unfold LocalIdMap.of
  split <;> simp_all

section
variable (h : Loaded netlist s)
include h

/-- The map asked for a circuit is of its own names, made now or left from before. -/
theorem Loaded.members_eq (kind : LocalKind) {c : Nat × NamedCircuit} (hc : c ∈ netlist)
    (hname : s.circuitNameMap c.2.name = some c.1) :
    ((s.localIdMap kind).of c.2.name (c.2.members kind)).ids = localIds (c.2.members kind) := by
  unfold LocalIdMap.of
  split
  · rfl
  rename_i hlast
  obtain ⟨d, hd, -, hdname, hids⟩ := h.lastMap kind _ (Classical.not_not.1 hlast)
  have hpointer : d.1 = c.1 := Option.some.inj (hdname.symm.trans hname)
  have := h.allocated d hd
  rw [hpointer, h.allocated c hc] at this
  rw [hids, Option.some.inj this]

/-- Look-ups keep a netlist loaded. -/
theorem Loaded.looked (ht : Looked s t) : Loaded netlist t := by
  induction ht with
  | start => exact h
  | @getLocalId t u kind name p theName r _ hp hu ih =>
    obtain ⟨c, hc, rfl, rfl⟩ := ih.named name p hp
    have hids := ih.members_eq kind hc hp
    simp only [CircuitPtrList.getLocalId, ih.allocated c hc, Except.ok.injEq] at hu
    obtain ⟨rfl, -⟩ := hu
    refine ⟨ih.list, ih.allocated, ih.named, fun kind' name hname => ?_⟩
    by_cases hkind : kind' = kind
    · subst hkind
      simp only [update_self, LocalIdMap.lastMap_of, Option.some.injEq] at hname ⊢
      exact ⟨c, hc, hname, hname ▸ hp, hids⟩
    · simp only [update_of_ne hkind] at hname ⊢
      exact ih.lastMap kind' name hname

theorem Loaded.getLocalId (kind : LocalKind) {c : Nat × NamedCircuit} (hc : c ∈ netlist)
    (hname : s.circuitNameMap c.2.name = some c.1) (theName : Nat) :
    (s.getLocalId kind c.1 theName).map Prod.snd = .ok (localIds (c.2.members kind) theName) := by
  simp [CircuitPtrList.getLocalId, h.allocated c hc, Except.map, h.members_eq kind hc hname]

/-- A loaded netlist is the current one. -/
theorem Loaded.current (hnodup : (netlist.map Prod.fst).Nodup) : Current netlist s where
  nodup := h.list ▸ hnodup
  mem_list := fun c hc => h.list ▸ mem_map_of_mem hc
  allocated := by
    intro p hp
    obtain ⟨c, hc, rfl⟩ := mem_map.1 (h.list ▸ hp)
    exact ⟨c.2, hc, h.allocated c hc⟩
  getLocalDeviceId := fun _ hc => h.getLocalId .device hc
  getLocalSubcircuitId := fun _ hc => h.getLocalId .subcircuit hc

end

/-- After a load the list and the look-ups are those of the netlist, and stay so, exactly when no netlist of before had circuits.
-/
theorem load_current_iff (h : Reachable s) (hfresh : Fresh netlist s) :
    (∃ t, s.load netlist = .ok t ∧ ∀ u, Looked t u → Current netlist u) ↔ s.list = [] := by
  constructor
  · rintro ⟨t, ht, hcurrent⟩
    have hc := hcurrent t .start
    obtain ⟨u, hu, rfl⟩ := load_ok ht
    have hlist := (adds_list netlist u).1
    rw [(deletes_ok hu).1] at hlist
    refine eq_nil_iff_forall_not_mem.2 fun p hp => ?_
    -- A pointer of before is allocated only if the netlist has it, and then it stands in the list twice.
    obtain ⟨c, hmem, -⟩ := hc.allocated p (hlist ▸ mem_append_left _ hp)
    have hnodup := hc.nodup
    rw [hlist, nodup_append] at hnodup
    exact hnodup.2.2 p hp p (mem_map_of_mem hmem) rfl
  · intro hnil
    have hmap := h.kept.lastMap hnil
    have hclear : s.clear = .ok { s with circuitNameMap := fun _ => none } := by simp [clear, hnil, pure, Except.pure]
    refine ⟨netlist.foldl .add { s with circuitNameMap := fun _ => none },
      by simp [load, hclear, bind, Except.bind, pure, Except.pure], fun u hu => ?_⟩
    have hempty : Loaded [] { s with circuitNameMap := fun _ => none } :=
      ⟨hnil, nofun, nofun, fun kind name hname => nomatch (hmap kind).symm.trans hname⟩
    exact ((hempty.adds hfresh.nodup hmap).looked hu).current hfresh.nodup

/-! ## Two netlists -/

/-- A circuit with a name and one device. -/
def oneDevice (name device : Nat) : NamedCircuit where
  name := name
  devicePtrV := [{ name := device, signalIdV := [], masterName := 0 }]

/-- The first netlist of a process. -/
theorem load_current_first : ∃ t, load [(10, oneDevice 0 1)] {} = .ok t ∧ ∀ u, Looked t u → Current [(10, oneDevice 0 1)] u :=
  (load_current_iff .start ⟨by decide, fun t ht c hc => by cases ht; rfl⟩).2 rfl

/-- Once a name was looked up in the circuit of a netlist, the next netlist, with a circuit at the same address of its name, has
the freed circuit in its list and the names of that in its map. -/
theorem load_leaves_freed : ∃ s t : CircuitPtrList, Reachable s ∧ Fresh [(11, oneDevice 0 2)] s ∧
    s.load [(11, oneDevice 0 2)] = .ok t ∧ (10 ∈ t.list ∧ (t.allocated 10).isNone) ∧
      localIds (oneDevice 0 2).devicePtrV 2 = some 0 ∧
    (t.getLocalDeviceId 11 2).map Prod.snd = .ok none := by
  have hfirst : Fresh [(10, oneDevice 0 1)] {} := ⟨by decide, fun t ht c hc => by cases ht; rfl⟩
  have hlooked : Looked (add {} (10, oneDevice 0 1)) _ :=
    .getLocalId .start (rfl : circuitNameMap _ 0 = some 10) (rfl : getLocalId .device _ 10 1 = _)
  refine ⟨_, _, .looked (.load .start hfirst rfl) hlooked, ⟨by decide, fun t ht c hc => ?_⟩, rfl, ⟨mem_cons_self, rfl⟩, rfl, rfl⟩
  cases ht
  cases mem_singleton.1 hc
  rfl

end CircuitPtrList
end Cvc
