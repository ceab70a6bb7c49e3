import Mathlib.Data.List.Count
import Cvc.Library
import Cvc.Lib.Outcome
import Cvc.Lib.Paths

/-!
# What linking a library ends with

Every circuit that is linked is clean, its masters are linked, and its counters are the sums over its calls (`Consistent`).
Linking a circuit keeps that and, when it returns, has linked a clean circuit and, with exact counters, counted every instance
below it. When it runs out of depth it has followed a path of calls as long as the depth (`Paths.Deep`), each one after calls of
clean circuits only; any other failure is one of the two fatal errors, and the circuit is not clean.
-/

namespace Cvc

open Function (update update_self update_of_ne)
open Relation Paths List

/-- Numbers kept modulo something. -/
structure IsWrap (wrap : Nat → Nat) : Prop where
  add_left : ∀ a b, wrap (wrap a + b) = wrap (a + b)

theorem isWrap_id : IsWrap id := ⟨fun _ _ => rfl⟩

namespace Library

variable {lib : Library} {wrap : Nat → Nat} {name x : Nat} {counts s s' : Nat → CircuitCounts} {d : CDevice}
  {pre post : List CDevice} {s'' : Nat → CircuitCounts} {c : Char}

/-! ## Clean circuits -/

section
variable (h : lib.Clean name)
include h

theorem Clean.found : (lib.circuitNameMap name).isSome := by
  cases h with
  | intro found _ _ => exact found

theorem Clean.master (hd : d ∈ (lib.circuit name).subcircuitPtrV) : lib.Clean d.masterName ∧ lib.PortsMatch d := by
  cases h with
  | intro _ calls ports => exact ⟨calls d hd, ports d hd⟩

theorem Clean.reaches (hx : ReflTransGen lib.Calls name x) : lib.Clean x := by
  induction hx with
  | refl => exact h
  | tail _ hcall ih =>
    obtain ⟨d, hd, rfl⟩ := hcall
    exact (ih.master hd).1

/-- The calls below a clean circuit do not come back. -/
theorem Clean.not_transGen : ¬TransGen lib.Calls name name := by
  induction h with
  | intro _ _ _ ih =>
    intro hcycle
    -- the cycle can be started at its second circuit
    obtain ⟨_, ⟨d, hd, rfl⟩, hback⟩ := TransGen.head'_iff.1 hcycle
    exact ih d hd (.tail' hback ⟨d, hd, rfl⟩)

/-- A call of a clean circuit is entered after calls of clean circuits only. -/
theorem Clean.enters (hcalls : (lib.circuit name).subcircuitPtrV = pre ++ d :: post) : lib.Enters name d.masterName := by
  refine ⟨pre, d, post, hcalls, rfl, (h.master (by rw [hcalls]; simp)).1.found, fun e he => h.master ?_⟩
  rw [hcalls]
  exact mem_append_left _ he

end

theorem Enters.calls {master : Nat} (h : lib.Enters name master) : lib.Calls name master := by
  obtain ⟨pre, d, post, hcalls, hd, -, -⟩ := h
  exact ⟨d, by rw [hcalls]; simp, hd⟩

/-! ## The full expansion -/

section
variable {rank : Nat → Nat}

theorem expansionFrom_eq (hrank : lib.Ranked rank) {depth depth' : Nat} (hd : rank name < depth) (hd' : rank name < depth') :
    lib.expansionFrom depth name = lib.expansionFrom depth' name := by
  induction depth generalizing name depth' with
  | zero => exact absurd hd (Nat.not_lt_zero _)
  | succ depth ih =>
    obtain ⟨depth', rfl⟩ : ∃ k, depth' = k + 1 := ⟨depth' - 1, by omega⟩
    unfold expansionFrom
    congr 1
    refine flatMap_congr fun d hdev => ?_
    have := hrank name d hdev
    exact ih (by omega) (by omega)

/-- The full expansion of a circuit is the circuit with the expansions of its calls. -/
theorem expansion_eq (hrank : lib.Ranked rank) (name : Nat) :
    lib.expansion rank name = name :: (lib.circuit name).subcircuitPtrV.flatMap fun d => lib.expansion rank d.masterName := by
  show name :: (lib.circuit name).subcircuitPtrV.flatMap _ = _
  congr 1
  exact flatMap_congr fun d hd => expansionFrom_eq hrank (hrank name d hd) (Nat.lt_succ_self _)

end

variable (lib) in
/-- The circuits of the instances below an instance of a circuit, down to a depth. -/
def below (depth name : Nat) : List Nat := (lib.circuit name).subcircuitPtrV.flatMap fun d => lib.expansionFrom depth d.masterName

/-! ## The counts -/

/-- Two states in which the same circuits are linked, with the same objects. -/
def SameObjects (s s' : Nat → CircuitCounts) : Prop := ∀ x, (s' x).linked = (s x).linked ∧ (s' x).objects = (s x).objects

theorem SameObjects.refl (s : Nat → CircuitCounts) : SameObjects s s := fun _ => ⟨rfl, rfl⟩

theorem SameObjects.trans (h : SameObjects s s') (h' : SameObjects s' s'') : SameObjects s s'' :=
  fun x => ⟨(h' x).1.trans (h x).1, (h' x).2.trans (h x).2⟩

theorem sameObjects_countInstance (wrap : Nat → Nat) (s : Nat → CircuitCounts) (name : Nat) : SameObjects s
    (countInstance wrap s name) := by
  intro x
  unfold countInstance
  by_cases hx : x = name
  · subst hx
    rw [update_self]
    exact ⟨rfl, by funext kind; cases kind <;> rfl⟩
  · rw [update_of_ne hx]
    exact ⟨rfl, rfl⟩

/-- Instances have been counted: the same circuits are linked, with the same objects, and exact counters have grown by the
instances of a list. -/
structure Recounts (wrap : Nat → Nat) (L : List Nat) (s s' : Nat → CircuitCounts) : Prop where
  same : SameObjects s s'
  instances : wrap = id → ∀ x, (s' x).instanceCount = (s x).instanceCount + L.count x

section
variable {L L' : List Nat}

theorem Recounts.refl (wrap : Nat → Nat) (s : Nat → CircuitCounts) : Recounts wrap [] s s := ⟨.refl s, fun _ _ => rfl⟩

theorem Recounts.trans (h : Recounts wrap L s s') (h' : Recounts wrap L' s' s'') : Recounts wrap (L ++ L') s s'' := by
  refine ⟨h.same.trans h'.same, fun hid x => ?_⟩
  rw [h'.instances hid, h.instances hid, count_append, Nat.add_assoc]

theorem Recounts.perm (h : Recounts wrap L s s') (hp : L.Perm L') : Recounts wrap L' s s' :=
  ⟨h.same, fun hid x => by rw [h.instances hid, hp.count_eq]⟩

/-- One more instance of a circuit. -/
theorem Recounts.countInstance (h : Recounts wrap L s s') (name : Nat) :
    Recounts wrap (name :: L) s (countInstance wrap s' name) := by
  refine Recounts.perm (h.trans ⟨sameObjects_countInstance wrap s' name, ?_⟩) (perm_append_singleton name L)
  rintro rfl x
  unfold Library.countInstance
  rcases eq_or_ne x name with rfl | hx
  · simp
  · simp [hx, hx.symm]

end

/-- Linked circuits are clean, have linked masters, and count their own objects and those of their masters. -/
def Consistent (lib : Library) (wrap : Nat → Nat) (counts : Nat → CircuitCounts) : Prop :=
  ∀ x, (counts x).linked = true → lib.Clean x ∧
    (∀ d ∈ (lib.circuit x).subcircuitPtrV, (counts d.masterName).linked = true) ∧
    ∀ kind, (counts x).objects kind =
      wrap ((lib.circuit x).ownObjects kind +
        ((lib.circuit x).subcircuitPtrV.map fun d => (counts d.masterName).objects kind).sum)

theorem Consistent.of_sameObjects (h : lib.Consistent wrap s) (hs : SameObjects s s') : lib.Consistent wrap s' := by
  intro x hx
  rw [(hs x).1] at hx
  obtain ⟨hclean, hmasters, hobjects⟩ := h x hx
  refine ⟨hclean, fun d hd => (hs _).1.trans (hmasters d hd), fun kind => ?_⟩
  simp only [(hs _).2]
  exact hobjects kind

/-- What linking a circuit does to the others: a linked one stays as it is, and so does one that the circuit does not lead to. -/
structure Grows (lib : Library) (name : Nat) (s s' : Nat → CircuitCounts) : Prop where
  linked : ∀ x, (s x).linked = true → (s' x).linked = true ∧ (s' x).objects = (s x).objects
  frame : ∀ x, ¬ReflTransGen lib.Calls name x → (s' x).linked = (s x).linked ∧ (s' x).objects = (s x).objects

/-! ## `CountInstantiations` -/

/-- A linked circuit without subcircuits has nothing below it. -/
theorem Consistent.below_eq_nil (hs : lib.Consistent id s) (hname : (s name).linked = true)
    (hzero : ¬0 < (s name).subcircuitCount) (depth : Nat) : lib.below depth name = [] := by
  have hcalls : (s name).subcircuitCount = (lib.circuit name).subcircuitPtrV.length + _ := (hs name hname).2.2 .subcircuit
  have hnone : (lib.circuit name).subcircuitPtrV = [] := eq_nil_of_length_eq_zero (by omega)
  rw [below, hnone, flatMap_nil]

/-- A circuit is counted again only if it has subcircuits, which makes no difference. -/
theorem recount_outcome {depth : Nat} {F : Failure → Prop} (hs : lib.Consistent wrap s) (hname : (s name).linked = true)
    (h : Outcome (lib.countInstantiations wrap depth name s) (Recounts wrap (lib.below depth name) s) F) :
    Outcome (if 0 < (s name).subcircuitCount then lib.countInstantiations wrap depth name s else pure s)
      (Recounts wrap (lib.below depth name) s) F := by
  refine .ite (fun _ => h) fun hzero => .pure ⟨.refl s, ?_⟩
  rintro rfl x
  rw [hs.below_eq_nil hname hzero]
  rfl

/-- Counting the instances below a linked circuit changes nothing else, and only fails if the hierarchy below the circuit is
deeper. -/
theorem countInstantiations_outcome (depth : Nat) (hs : lib.Consistent wrap s) (hname : (s name).linked = true) :
    Outcome (lib.countInstantiations wrap depth name s) (Recounts wrap (lib.below depth name) s) fun e =>
      e = .undefined ∧ Deep lib.Enters depth name := by
  induction depth generalizing name s with
  | zero => exact ⟨rfl, trivial⟩
  | succ depth ih =>
    obtain ⟨hclean, hmasters, -⟩ := hs name hname
    refine .foldlM (I := fun (pre : List CDevice) =>
      Recounts wrap (pre.flatMap fun d => lib.expansionFrom (depth + 1) d.masterName) s)
      (.refl wrap s) fun pre d post hcalls s1 hs1 => ?_
    have hd : d ∈ (lib.circuit name).subcircuitPtrV := by rw [hcalls]; simp
    have hlinked : (s1 d.masterName).linked = true := (hs1.same _).1.trans (hmasters d hd)
    have hs1' := hs.of_sameObjects hs1.same
    unfold countInstantiation
    rw [hlinked, flatMap_append, flatMap_singleton]
    refine .bind ((recount_outcome hs1' hlinked (ih hs1' hlinked)).mono (fun _ h => h) ?_) fun s2 hs2 => ?_
    · rintro e ⟨he, hdeep⟩
      exact ⟨he, _, hclean.enters hcalls, hdeep⟩
    · exact hs1.trans (hs2.countInstance d.masterName)

/-! ## `CountObjectsAndLinkSubcircuits` -/

variable (lib) in
/-- How linking a circuit fails: below a depth, or with a fatal error that is not about the size. -/
def LinkFails (depth name : Nat) (e : Failure) : Prop :=
  (e = .undefined ∧ Deep lib.Enters depth name) ∨
    (¬lib.Clean name ∧ ∃ message, e = .eFatalError message ∧ message ≠ dataSizeMessage)

/-- What linking a circuit leaves; exact counters have grown by the instances of a list. -/
structure Linked (lib : Library) (wrap : Nat → Nat) (L : List Nat) (name : Nat) (s s' : Nat → CircuitCounts) : Prop where
  clean : lib.Clean name
  consistent : lib.Consistent wrap s'
  linked : (s' name).linked = true
  grows : lib.Grows name s s'
  instances : wrap = id → ∀ x, (s' x).instanceCount = (s x).instanceCount + L.count x

/-- What holds in the loop of a circuit: `pre` is the part of its calls that is done, each with its expansion down to a depth. -/
structure Linking (lib : Library) (wrap : Nat → Nat) (depth name : Nat) (counts : Nat → CircuitCounts) (pre : List CDevice)
    (s : Nat → CircuitCounts) : Prop where
  consistent : lib.Consistent wrap s
  unlinked : (s name).linked = false
  done : ∀ d ∈ pre, lib.Clean d.masterName ∧ lib.PortsMatch d ∧ (s d.masterName).linked = true
  objects : ∀ kind, (s name).objects kind =
    wrap ((lib.circuit name).ownObjects kind + (pre.map fun d => (s d.masterName).objects kind).sum)
  grows : lib.Grows name counts s
  instances : wrap = id → ∀ x, (s x).instanceCount = (counts x).instanceCount +
    (pre.flatMap fun d => lib.expansionFrom depth d.masterName).count x

theorem ne_of_linked {a b : Nat} (ha : (s a).linked = true) (hb : (s b).linked = false) : a ≠ b := by
  rintro rfl
  rw [ha] at hb
  nomatch hb

/-- Writing a circuit that is not linked keeps the linked ones. -/
theorem Consistent.update (h : lib.Consistent wrap s) (hname : (s name).linked = false)
    {v : CircuitCounts} (hv : v.linked = false) :
    lib.Consistent wrap (Function.update s name v) := by
  intro x hx
  have hxn : x ≠ name := by
    rintro rfl
    rw [update_self, hv] at hx
    nomatch hx
  rw [update_of_ne hxn] at hx ⊢
  obtain ⟨hclean, hmasters, hobjects⟩ := h x hx
  have hkeep : ∀ d ∈ (lib.circuit x).subcircuitPtrV, Function.update s name v d.masterName = s d.masterName :=
    fun d hd => update_of_ne (ne_of_linked (hmasters d hd) hname) _ _
  refine ⟨hclean, fun d hd => by rw [hkeep d hd]; exact hmasters d hd, fun kind => (hobjects kind).trans ?_⟩
  rw [map_congr_left fun d hd => congrArg (fun c => CircuitCounts.objects c kind) (hkeep d hd)]

theorem Linked.recounts {L L' : List Nat} (h : lib.Linked wrap L name s s') (hs : Recounts wrap L' s' s'') :
    lib.Linked wrap (L ++ L') name s s'' where
  clean := h.clean
  consistent := h.consistent.of_sameObjects hs.same
  linked := (hs.same name).1.trans h.linked
  grows :=
    ⟨fun x hx => ⟨(hs.same x).1.trans (h.grows.linked x hx).1, (hs.same x).2.trans (h.grows.linked x hx).2⟩,
      fun x hx => ⟨(hs.same x).1.trans (h.grows.frame x hx).1, (hs.same x).2.trans (h.grows.frame x hx).2⟩⟩
  instances hid x := by
    rw [hs.instances hid, h.instances hid, count_append, Nat.add_assoc]

/-- Writing a circuit keeps the numbers of instances, if that of the circuit is kept. -/
theorem instanceCount_update (s : Nat → CircuitCounts) (name : Nat) {v : CircuitCounts}
    (hv : v.instanceCount = (s name).instanceCount) (x : Nat) :
    (Function.update s name v x).instanceCount = (s x).instanceCount := by
  rcases eq_or_ne x name with rfl | hx
  · rw [update_self, hv]
  · rw [update_of_ne hx]

/-- The objects of a master are added. -/
theorem objects_addObjects (c m : CircuitCounts) (kind : ObjectKind) :
    (addObjects wrap c m).objects kind = wrap (c.objects kind + m.objects kind) := by
  cases kind <;> rfl

/-- Before the loop. -/
theorem linking_ownCounts (depth : Nat) (h : lib.Consistent wrap counts) (hname : (counts name).linked = false) :
    lib.Linking wrap depth name counts [] (lib.ownCounts wrap counts name) where
  consistent := h.update hname hname
  unlinked := by
    unfold ownCounts
    rw [update_self]
    exact hname
  done := nofun
  objects kind := by
    unfold ownCounts
    rw [update_self]
    cases kind <;> rfl
  grows := by
    refine ⟨fun x hx => ?_, fun x hx => ?_⟩
    · unfold ownCounts
      rw [update_of_ne (ne_of_linked hx hname)]
      exact ⟨hx, rfl⟩
    · unfold ownCounts
      rw [update_of_ne (by rintro rfl; exact hx .refl)]
      exact ⟨rfl, rfl⟩
  instances _ x := by
    exact instanceCount_update counts name (by rfl) x

/-- One round of the loop: the master of the call was linked, and its objects are added. -/
theorem Linking.add {depth : Nat} {L : List Nat} (hwrap : IsWrap wrap) (h : lib.Linking wrap depth name counts pre s)
    (hcalls : (lib.circuit name).subcircuitPtrV = pre ++ d :: post) (hports : lib.PortsMatch d)
    (hd : lib.Linked wrap L d.masterName s s') (hL : L.Perm (lib.expansionFrom depth d.masterName)) :
    lib.Linking wrap depth name counts (pre ++ [d]) (update s' name (addObjects wrap (s' name) (s' d.masterName))) := by
  have hcall : lib.Calls name d.masterName := ⟨d, by rw [hcalls]; simp, rfl⟩
  -- a clean master does not lead back to the circuit that calls it
  have hback : ¬ReflTransGen lib.Calls d.masterName name := fun hreach => hd.clean.not_transGen (.tail' hreach hcall)
  obtain ⟨hlinked, hobjects⟩ := hd.grows.frame name hback
  have hunlinked : (s' name).linked = false := hlinked.trans h.unlinked
  have hkeep : ∀ m, (s' m).linked = true → update s' name (addObjects wrap (s' name) (s' d.masterName)) m = s' m :=
    fun m hm => update_of_ne (ne_of_linked hm hunlinked) _ _
  have hdone : ∀ e ∈ pre, (s' e.masterName).linked = true ∧ (s' e.masterName).objects = (s e.masterName).objects :=
    fun e he => hd.grows.linked _ (h.done e he).2.2
  refine ⟨hd.consistent.update hunlinked hunlinked, ?_, ?_, ?_, ?_, fun hid x => ?_⟩
  · rw [update_self]
    exact hunlinked
  · intro e he
    rcases mem_append.1 he with he | he
    · rw [hkeep _ (hdone e he).1]
      exact ⟨(h.done e he).1, (h.done e he).2.1, (hdone e he).1⟩
    · obtain rfl := mem_singleton.1 he
      rw [hkeep _ hd.linked]
      exact ⟨hd.clean, hports, hd.linked⟩
  · intro kind
    have hpre : (pre.map fun e => (s' e.masterName).objects kind) = pre.map fun e => (s e.masterName).objects kind :=
      map_congr_left fun e he => congrFun (hdone e he).2 kind
    have hsum : ((pre ++ [d]).map fun e =>
        (update s' name (addObjects wrap (s' name) (s' d.masterName)) e.masterName).objects kind).sum =
        (pre.map fun e => (s e.masterName).objects kind).sum + (s' d.masterName).objects kind := by
      rw [map_append, sum_append, ← hpre]
      congr 1
      · refine congrArg List.sum (map_congr_left fun e he => ?_)
        rw [hkeep _ (hdone e he).1]
      · simp [hkeep _ hd.linked]
    rw [hsum, update_self, objects_addObjects, hobjects, h.objects kind, hwrap.add_left, Nat.add_assoc]
  · refine ⟨fun x hx => ?_, fun x hx => ?_⟩
    · obtain ⟨hx1, hobj1⟩ := h.grows.linked x hx
      obtain ⟨hx2, hobj2⟩ := hd.grows.linked x hx1
      rw [hkeep x hx2]
      exact ⟨hx2, hobj2.trans hobj1⟩
    · have hxn : x ≠ name := by
        rintro rfl
        exact hx .refl
      rw [update_of_ne hxn]
      obtain ⟨hl1, hobj1⟩ := h.grows.frame x hx
      obtain ⟨hl2, hobj2⟩ := hd.grows.frame x fun hreach => hx (.head hcall hreach)
      exact ⟨hl2.trans hl1, hobj2.trans hobj1⟩
  · rw [instanceCount_update s' name (v := addObjects wrap _ _) rfl, hd.instances hid, h.instances hid,
      flatMap_append, flatMap_singleton,
      count_append, hL.count_eq, Nat.add_assoc]

/-- After the loop. -/
theorem Linking.link {depth : Nat} (h : lib.Linking wrap depth name counts (lib.circuit name).subcircuitPtrV s)
    (hfound : (lib.circuitNameMap name).isSome) :
    lib.Linked wrap (lib.below depth name) name counts (update s name { s name with linked := true }) := by
  have hclean : lib.Clean name := .intro hfound (fun d hd => (h.done d hd).1) fun d hd => (h.done d hd).2.1
  have hkeep : ∀ m, (s m).linked = true → update s name { s name with linked := true } m = s m :=
    fun m hm => update_of_ne (ne_of_linked hm h.unlinked) _ _
  refine ⟨hclean, fun x hx => ?_, by rw [update_self], ⟨fun x hx => ?_, fun x hx => ?_⟩, fun hid x => ?_⟩
  · -- the masters of a circuit were linked before, and are as they were
    suffices hx' : lib.Clean x ∧ (∀ d ∈ (lib.circuit x).subcircuitPtrV, (s d.masterName).linked = true) ∧ ∀ kind,
        (update s name { s name with linked := true } x).objects kind = wrap ((lib.circuit x).ownObjects kind +
          ((lib.circuit x).subcircuitPtrV.map fun d => (s d.masterName).objects kind).sum) by
      obtain ⟨hclean', hmasters, hobjects⟩ := hx'
      refine ⟨hclean', fun d hd => by rw [hkeep _ (hmasters d hd)]; exact hmasters d hd, fun kind => (hobjects kind).trans ?_⟩
      rw [map_congr_left fun d hd => congrArg (fun c => CircuitCounts.objects c kind) (hkeep _ (hmasters d hd))]
    by_cases hxn : x = name
    · subst hxn
      refine ⟨hclean, fun d hd => (h.done d hd).2.2, fun kind => ?_⟩
      rw [update_self]
      exact (by cases kind <;> rfl : _ = (s x).objects kind).trans (h.objects kind)
    · rw [update_of_ne hxn] at hx ⊢
      exact h.consistent x hx
  · obtain ⟨hx', hobjects⟩ := h.grows.linked x hx
    rw [hkeep x hx']
    exact ⟨hx', hobjects⟩
  · rw [update_of_ne (by rintro rfl; exact hx .refl)]
    exact h.grows.frame x hx
  · rw [instanceCount_update s name (by rfl), h.instances hid]
    rfl

/-! ## Failures -/

theorem head_append {a : String} (h : a.toList.head? = some c) (b : String) : (a ++ b).toList.head? = some c := by
  rw [String.toList_append, head?_append, h]
  rfl

/-- The messages about calls are not the one about the size. -/
theorem ne_dataSizeMessage {message : String} (h : message.toList.head? = some c) (hc : c ≠ 'd') : message ≠ dataSizeMessage := by
  rintro rfl
  have hd : dataSizeMessage.toList.head? = some 'd' := by decide +kernel
  exact hc (Option.some.inj h).symm

theorem notFound_ne (d : CDevice) : lib.notFound name d ≠ dataSizeMessage := by
  have h : ("could not find subcircuit: " : String).toList.head? = some 'c' := by decide +kernel
  refine ne_dataSizeMessage (c := 'c') ?_ (by decide)
  exact head_append (head_append (head_append (head_append (head_append (head_append h _) _) _) _) _) _

theorem portMismatch_ne (d : CDevice) (portCount : Nat) : lib.portMismatch name d portCount ≠ dataSizeMessage := by
  have h : ("port count mismatch in " : String).toList.head? = some 'p' := by decide +kernel
  refine ne_dataSizeMessage (c := 'p') ?_ (by decide)
  exact head_append (head_append (head_append (head_append
    (head_append (head_append (head_append (head_append h _) _) _) _) _) _) _) _

/-- A failure at the master of a call is one at the circuit. -/
theorem LinkFails.call {depth : Nat} {e : Failure} (he : lib.LinkFails depth d.masterName e)
    (hcalls : (lib.circuit name).subcircuitPtrV = pre ++ d :: post) (hfound : (lib.circuitNameMap d.masterName).isSome)
    (hpre : ∀ e ∈ pre, lib.Clean e.masterName ∧ lib.PortsMatch e) : lib.LinkFails (depth + 1) name e := by
  rcases he with ⟨he, hdeep⟩ | ⟨hclean, he⟩
  · exact .inl ⟨he, d.masterName, ⟨pre, d, post, hcalls, rfl, hfound, hpre⟩, hdeep⟩
  · exact .inr ⟨fun h => hclean (h.master (by rw [hcalls]; simp)).1, he⟩

/-- Linking a circuit that is not linked. -/
theorem countObjectsAndLinkSubcircuits_outcome (hwrap : IsWrap wrap) (depth : Nat) (hs : lib.Consistent wrap counts)
    (hname : (counts name).linked = false) (hfound : (lib.circuitNameMap name).isSome) :
    Outcome (lib.countObjectsAndLinkSubcircuits wrap depth name counts) (lib.Linked wrap (lib.below depth name) name counts)
      (lib.LinkFails depth name) := by
  induction depth generalizing name counts with
  | zero => exact .inl ⟨rfl, trivial⟩
  | succ depth ih =>
    have hloop : Outcome ((lib.circuit name).subcircuitPtrV.foldlM
        (lib.linkSubcircuit wrap (lib.countInstantiations wrap depth) (lib.countObjectsAndLinkSubcircuits wrap depth) name)
        (lib.ownCounts wrap counts name))
        (lib.Linking wrap (depth + 1) name counts (lib.circuit name).subcircuitPtrV) (lib.LinkFails (depth + 1) name) := by
      refine .foldlM (linking_ownCounts (depth + 1) hs hname) fun pre d post hcalls s h => ?_
      have hd : d ∈ (lib.circuit name).subcircuitPtrV := by rw [hcalls]; simp
      unfold linkSubcircuit
      cases hchild : lib.circuitNameMap d.masterName with
      | none =>
        refine .throw (.inr ⟨fun hclean => ?_, _, rfl, notFound_ne d⟩)
        have := (hclean.master hd).1.found
        rw [hchild] at this
        nomatch this
      | some child =>
        have hmaster : (lib.circuitNameMap d.masterName).isSome := by rw [hchild]; rfl
        refine .bind (P := lib.Linked wrap (lib.below depth d.masterName) d.masterName s) ?_ fun s' hs' => ?_
        · have hfails : ∀ e, lib.LinkFails depth d.masterName e → lib.LinkFails (depth + 1) name e := fun e he =>
            he.call hcalls hmaster fun e he => ⟨(h.done e he).1, (h.done e he).2.1⟩
          refine .ite (fun hlinked => ?_) fun hunlinked => ?_
          · have hsame : lib.Linked wrap [] d.masterName s s :=
              ⟨(h.consistent _ hlinked).1, h.consistent, hlinked, ⟨fun _ hx => ⟨hx, rfl⟩, fun _ _ => ⟨rfl, rfl⟩⟩, fun _ _ => rfl⟩
            exact (recount_outcome h.consistent hlinked (countInstantiations_outcome depth h.consistent hlinked)).mono
              (fun _ hs' => hsame.recounts hs') fun e he => hfails e (.inl he)
          · exact (ih h.consistent (Bool.eq_false_iff.2 hunlinked) hmaster).mono (fun _ h => h) hfails
        · rw [← circuit_eq hchild]
          refine .ite (fun hports => ?_) fun hports => ?_
          · exact .throw (.inr ⟨fun hclean => hports (hclean.master hd).2, _, rfl, portMismatch_ne d _⟩)
          · exact .pure (h.add hwrap hcalls (of_not_not hports)
              (hs'.recounts ((Recounts.refl wrap s').countInstance d.masterName))
              (perm_append_singleton d.masterName _))
    exact .bind hloop fun s h => h.link hfound

/-! ## The top circuit -/

theorem consistent_init (lib : Library) (wrap : Nat → Nat) : lib.Consistent wrap fun _ => {} := nofun

theorem linkTop_of_found {c : CCircuit} (hfound : lib.circuitNameMap lib.topBlock = some c) (depth : Nat) :
    lib.linkTop wrap depth = lib.countObjectsAndLinkSubcircuits wrap depth lib.topBlock (fun _ => {}) >>= fun counts =>
      lib.checkSize (lib.addTop wrap c.portCount counts) := by
  unfold linkTop
  rw [hfound]

theorem linkTop_of_not_found (hfound : lib.circuitNameMap lib.topBlock = none) (depth : Nat) :
    lib.linkTop wrap depth = .error (.eFatalError ("could not find subcircuit: " ++ lib.text lib.topBlock)) := by
  unfold linkTop
  rw [hfound]
  rfl

section
variable {rank : Nat → Nat}

variable (lib) in
/-- The objects of a kind in the full expansion of a circuit. -/
def objectsIn (rank : Nat → Nat) (kind : ObjectKind) (name : Nat) : Nat :=
  ((lib.expansion rank name).map fun x => (lib.circuit x).ownObjects kind).sum

theorem objectsIn_eq (hrank : lib.Ranked rank) (kind : ObjectKind) (name : Nat) :
    lib.objectsIn rank kind name = (lib.circuit name).ownObjects kind +
      ((lib.circuit name).subcircuitPtrV.map fun d => lib.objectsIn rank kind d.masterName).sum := by
  unfold objectsIn
  rw [expansion_eq hrank, map_cons, sum_cons, map_flatMap, flatMap_def, sum_flatten, List.map_map]
  rfl

/-- The calls of the full expansion are its instances, without the first one. -/
theorem length_expansion (hrank : lib.Ranked rank) (name : Nat) :
    (lib.expansion rank name).length = lib.objectsIn rank .subcircuit name + 1 := by
  induction hr : rank name using Nat.strong_induction_on generalizing name with
  | _ r ih =>
    subst hr
    rw [expansion_eq hrank, length_cons, length_flatMap, objectsIn_eq hrank]
    have hcalls : ((lib.circuit name).subcircuitPtrV.map fun d => (lib.expansion rank d.masterName).length) =
        (lib.circuit name).subcircuitPtrV.map fun d => lib.objectsIn rank .subcircuit d.masterName + 1 :=
      map_congr_left fun d hd => ih _ (hrank name d hd) d.masterName rfl
    have hlength : ((lib.circuit name).subcircuitPtrV.map fun _ => 1).sum = (lib.circuit name).ownObjects .subcircuit := by
      rw [map_const', sum_replicate_nat, Nat.mul_one]
      rfl
    rw [hcalls, sum_map_add, hlength]
    omega

theorem IsWrap.sum (hwrap : IsWrap wrap) {α : Type} (a : Nat) (l : List α) (f : α → Nat) :
    wrap (a + (l.map fun x => wrap (f x)).sum) = wrap (a + (l.map f).sum) := by
  induction l generalizing a with
  | nil => rfl
  | cons x l ih =>
    rw [map_cons, map_cons, sum_cons, sum_cons, ← Nat.add_assoc, ih, ← Nat.add_assoc]
    rw [show a + wrap (f x) + (l.map f).sum = wrap (f x) + (a + (l.map f).sum) by omega, hwrap.add_left]
    congr 1
    omega

/-- The counters of a linked circuit are those of its full expansion. -/
theorem Consistent.objects_eq (hwrap : IsWrap wrap) (hrank : lib.Ranked rank) (hs : lib.Consistent wrap s) (kind : ObjectKind)
    (hname : (s name).linked = true) : (s name).objects kind = wrap (lib.objectsIn rank kind name) := by
  induction hr : rank name using Nat.strong_induction_on generalizing name with
  | _ r ih =>
    subst hr
    obtain ⟨-, hmasters, hobjects⟩ := hs name hname
    have hcalls : ((lib.circuit name).subcircuitPtrV.map fun d => (s d.masterName).objects kind) =
        (lib.circuit name).subcircuitPtrV.map fun d => wrap (lib.objectsIn rank kind d.masterName) :=
      map_congr_left fun d hd => ih _ (hrank name d hd) (hmasters d hd) rfl
    rw [hobjects kind, objectsIn_eq hrank, hcalls, IsWrap.sum hwrap]

variable (lib) in
/-- The objects of the flat design: the nets include the ports of the top circuit, the instances the top circuit itself. -/
def flatCount (rank : Nat → Nat) : ObjectKind → Nat
  | .device => lib.objectsIn rank .device lib.topBlock
  | .net => lib.objectsIn rank .net lib.topBlock + (lib.circuit lib.topBlock).portCount
  | .subcircuit => (lib.expansion rank lib.topBlock).length

/-- `MAX_DEVICE`, `MAX_NET` and `MAX_SUBCIRCUIT`. -/
def maxCount : ObjectKind → Nat
  | .device => maxDevice
  | .net => maxNet
  | .subcircuit => maxSubcircuit

section
variable (hwrap : IsWrap wrap) (hrank : lib.Ranked rank) (hs : lib.Consistent wrap s) (htop : (s lib.topBlock).linked = true)
include hwrap hrank hs htop

/-- The counters of the top circuit at the end. -/
theorem objects_addTop (kind : ObjectKind) :
    (lib.addTop wrap (lib.circuit lib.topBlock).portCount s lib.topBlock).objects kind = wrap (lib.flatCount rank kind) := by
  have hobjects := fun kind => hs.objects_eq hwrap hrank kind htop
  unfold addTop
  rw [Function.update_self]
  cases kind with
  | device => exact hobjects .device
  | net =>
    show wrap ((s lib.topBlock).objects .net + _) = _
    rw [hobjects .net, hwrap.add_left]
    rfl
  | subcircuit =>
    show wrap ((s lib.topBlock).objects .subcircuit + 1) = _
    rw [hobjects .subcircuit, hwrap.add_left, flatCount, length_expansion hrank]

/-- The test for a design that is too large. -/
theorem checkSize_outcome : Outcome (lib.checkSize (lib.addTop wrap (lib.circuit lib.topBlock).portCount s))
      (fun counts => counts = lib.addTop wrap (lib.circuit lib.topBlock).portCount s ∧
        ∀ kind, wrap (lib.flatCount rank kind) ≤ maxCount kind)
      fun e => e = .eFatalError dataSizeMessage ∧ ∃ kind, maxCount kind < wrap (lib.flatCount rank kind) := by
  have hobjects := fun kind => objects_addTop hwrap hrank hs htop kind
  refine .ite (fun h => .throw ⟨rfl, ?_⟩) fun h => .pure ⟨rfl, fun kind => ?_⟩
  · rcases h with h | h | h
    · exact ⟨.net, (hobjects .net) ▸ h⟩
    · exact ⟨.subcircuit, (hobjects .subcircuit) ▸ h⟩
    · exact ⟨.device, (hobjects .device) ▸ h⟩
  · simp only [not_or, Nat.not_lt] at h
    rw [← hobjects kind]
    cases kind with
    | device => exact h.2.2
    | net => exact h.1
    | subcircuit => exact h.2.1

end

end
end Library
end Cvc
