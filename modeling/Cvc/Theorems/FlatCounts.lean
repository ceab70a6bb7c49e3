import Cvc.Lemmas.Circuit

/-!
# The counts of a flat design

Linking a hierarchy gives every circuit below the top the numbers of the objects in its full expansion.
-/

namespace Cvc

open Relation Library

namespace Hierarchy

variable {h : Hierarchy} {x : Nat}

/-- The circuits that are linked once the top circuit is. -/
theorem linked_iff_reaches {s : Nat → CircuitCounts} (hs : h.LinkedTop s) :
    (s x).linked = true ↔ ReflTransGen h.Calls h.topBlock x := by
  constructor
  · intro hx
    by_contra hreach
    rw [(hs.grows.frame x hreach).1] at hx
    nomatch hx
  · intro hreach
    induction hreach with
    | refl => exact hs.linked
    | tail _ hcall ih =>
      obtain ⟨d, hd, rfl⟩ := hcall
      exact (hs.consistent _ ih).2.1 d hd

variable (h) in
/-- The numbers of a circuit that was linked: those of its full expansion, and the instances of it in that of the top circuit. -/
structure HasFlatCounts (counts : Nat → CircuitCounts) (x : Nat) : Prop where
  devices : (counts x).deviceCount = ((x :: h.mastersBelow x).map fun m => (h.circuit m).devicePtrV.length).sum
  nets : (counts x).netCount = ((x :: h.mastersBelow x).map fun m => (h.circuit m).localNetCount).sum +
    if x = h.topBlock then (h.circuit h.topBlock).portCount else 0
  subcircuits : (counts x).subcircuitCount = (h.mastersBelow x).length + if x = h.topBlock then 1 else 0
  instances : (counts x).instanceCount = (h.topBlock :: h.mastersBelow h.topBlock).count x

theorem objectsIn_rank (kind : ObjectKind) (x : Nat) :
    h.objectsIn h.rank kind x = ((x :: h.mastersBelow x).map fun m => (h.circuit m).ownObjects kind).sum := by
  rw [objectsIn, expansion_rank]

variable (h) in
/-- The objects of the flat design fit. -/
structure Fits : Prop where
  devices : ((h.topBlock :: h.mastersBelow h.topBlock).map fun m => (h.circuit m).devicePtrV.length).sum ≤ maxDevice
  nets : ((h.topBlock :: h.mastersBelow h.topBlock).map fun m => (h.circuit m).localNetCount).sum +
    (h.circuit h.topBlock).portCount ≤ maxNet
  instances : (h.topBlock :: h.mastersBelow h.topBlock).length ≤ maxSubcircuit

theorem Fits.flatCount_le (hfits : h.Fits) (kind : ObjectKind) : h.flatCount h.rank kind ≤ maxCount kind := by
  cases kind with
  | device => exact (objectsIn_rank .device h.topBlock).trans_le hfits.devices
  | net =>
    show h.objectsIn h.rank .net h.topBlock + (h.circuit h.topBlock).portCount ≤ maxNet
    rw [objectsIn_rank]
    exact hfits.nets
  | subcircuit =>
    show (h.expansion h.rank h.topBlock).length ≤ maxSubcircuit
    rw [expansion_rank]
    exact hfits.instances

/-- Linking a hierarchy that fits returns, with the top circuit added to the counts of the recursion. -/
theorem Fits.linkTop_eq (hfits : h.Fits) :
    ∃ s, h.LinkedTop s ∧ h.linkTop = .ok (h.addTop id (h.circuit h.topBlock).portCount s) := by
  obtain ⟨s, hs, heq⟩ := h.linkTop_eq
  refine ⟨s, hs, ?_⟩
  have hcheck := checkSize_outcome isWrap_id ranked hs.consistent hs.linked
  rw [heq]
  cases hsize : h.checkSize (h.addTop id (h.circuit h.topBlock).portCount s) with
  | ok counts => rw [(hcheck.of_ok hsize).1]
  | error e =>
    obtain ⟨-, kind, hkind⟩ := hcheck.of_error hsize
    exact absurd (hfits.flatCount_le kind) (Nat.not_le.2 hkind)

/-- The circuits below the top keep the counts of the recursion. -/
theorem addTop_of_ne {s : Nat → CircuitCounts} {portCount : Nat} (hx : x ≠ h.topBlock) : h.addTop id portCount s x = s x :=
  Function.update_of_ne hx _ _

theorem linked_addTop (s : Nat → CircuitCounts) (portCount x : Nat) : (h.addTop id portCount s x).linked = (s x).linked := by
  by_cases hx : x = h.topBlock
  · subst hx
    unfold addTop
    rw [Function.update_self]
  · rw [addTop_of_ne hx]

/-- Linking a hierarchy that fits counts the objects of its full expansion, and links the circuits the top circuit leads to. -/
theorem linkTop_counts (h : Hierarchy) (hfits : h.Fits) :
    ∃ counts, h.linkTop = .ok counts ∧ (∀ x, (counts x).linked = true ↔ ReflTransGen h.Calls h.topBlock x) ∧
      ∀ x, (counts x).linked = true → h.HasFlatCounts counts x := by
  obtain ⟨s, hs, hok⟩ := hfits.linkTop_eq
  refine ⟨_, hok, fun x => by rw [linked_addTop]; exact linked_iff_reaches hs, fun x hx => ?_⟩
  rw [linked_addTop] at hx
  have hinstances : (h.addTop id (h.circuit h.topBlock).portCount s x).instanceCount =
      (h.topBlock :: h.mastersBelow h.topBlock).count x := by
    rw [(counted_of_linkTop hok).instances, length_filter_nodes]
  by_cases hxt : x = h.topBlock
  · subst hxt
    have htop := fun kind => objects_addTop isWrap_id ranked hs.consistent hs.linked kind
    refine ⟨(htop .device).trans (objectsIn_rank .device _), ?_, ?_, hinstances⟩
    · rw [if_pos rfl]
      exact (htop .net).trans (congrArg (· + (h.circuit h.topBlock).portCount) (objectsIn_rank .net _))
    · rw [if_pos rfl]
      exact (htop .subcircuit).trans (congrArg List.length (expansion_rank h.topBlock))
  have hkinds := fun kind => (hs.consistent.objects_eq isWrap_id ranked kind hx).trans (objectsIn_rank kind x)
  have hlength := length_expansion (ranked (h := h)) x
  rw [expansion_rank, List.length_cons, objectsIn_rank] at hlength
  rw [addTop_of_ne hxt] at hinstances
  have hcounts : h.HasFlatCounts s x := by
    refine ⟨hkinds .device, ?_, ?_, hinstances⟩
    · rw [if_neg hxt]
      exact hkinds .net
    · rw [if_neg hxt]
      exact (hkinds .subcircuit).trans (Nat.succ.inj hlength).symm
  obtain ⟨hdevices, hnets, hsubcircuits, hinstances⟩ := hcounts
  constructor <;> rw [addTop_of_ne hxt] <;> assumption

/-- A circuit with one device, called twice. -/
def twice : Hierarchy :=
  .ofCircuits
    [{ portCount := 1, localSignalIdMap := [0, 1], devicePtrV := [⟨0, [0, 1], 0⟩] },
      { portCount := 1, localSignalIdMap := [0], subcircuitPtrV := [⟨0, [0], 0⟩, ⟨1, [0], 0⟩] }]
    (by decide) (by decide) (by decide)

theorem twice_counts : twice.Fits ∧ ∃ counts, twice.linkTop = .ok counts ∧
    (∀ x, (counts x).linked = true ↔ ReflTransGen twice.Calls twice.topBlock x) ∧
    ∀ x, (counts x).linked = true → twice.HasFlatCounts counts x :=
  have hfits : twice.Fits := ⟨by decide +kernel, by decide +kernel, by decide +kernel⟩
  ⟨hfits, linkTop_counts twice hfits⟩

end Hierarchy
end Cvc
