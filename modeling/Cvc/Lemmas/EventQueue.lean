import Mathlib.Data.Finset.Card
import Cvc.EventQueue
import Cvc.Lib.Threaded

/-!
# Event lists in the queue array

`CEventList.Holds` says which devices an event list holds: its first and last device and its size are those of a list of devices
threaded through the queue array. Each of the three operations is described by the list it leaves and by the entries of the
array it may write.
-/

namespace Cvc

open Function (update update_self update_of_ne)
open LinkTable List

namespace CEventList

variable {arr : Nat → Nat} {l : CEventList} {xs : List Nat} {d : Nat}

/-- The event list is the list of devices `xs`, threaded through the queue array. -/
structure Holds (queueArray : Nat → Nat) (l : CEventList) (xs : List Nat) : Prop where
  first_eq : l.first = xs.head?.getD unknownDevice
  second_eq : l.second = xs.getLast?.getD unknownDevice
  size_eq : l.eventListSize = xs.length
  threaded : Threaded queueArray xs

theorem Holds.nil (queueArray : Nat → Nat) : Holds queueArray {} [] := ⟨rfl, rfl, rfl, trivial⟩

/-- An event list is kept by writes to the entries of other devices. -/
theorem Holds.congr {arr' : Nat → Nat} (h : Holds arr l xs) (he : ∀ x ∈ xs, arr' x = arr x) : Holds arr' l xs :=
  ⟨h.first_eq, h.second_eq, h.size_eq, h.threaded.congr he⟩

/-- The event list is empty exactly when it holds no device. -/
theorem Holds.empty_iff (h : Holds arr l xs) (hx : ∀ x ∈ xs, x ≠ unknownDevice) : l.empty = true ↔ xs = [] := by
  unfold CEventList.empty
  rw [h.first_eq, beq_iff_eq]
  cases xs with
  | nil => simp
  | cons x xs => simpa using hx x mem_cons_self

/-- What a push of a device leaves: the list of devices it makes, the entry of the device now taken, and the entries of the
devices outside the list as they were. -/
structure Pushed (arr arr' : Nat → Nat) (xs : List Nat) (d : Nat) : Prop where
  taken : arr' d ≠ unknownDevice
  kept : ∀ x, x ≠ d → x ∉ xs → arr' x = arr x
  known : ∀ x ∈ xs, arr' x ≠ unknownDevice

/-- `push_back` of a device that is not queued puts it last. -/
theorem Holds.pushBack (h : Holds arr l xs) (hnd : xs.Nodup)
    (hx : ∀ x ∈ xs, x ≠ unknownDevice ∧ arr x ≠ unknownDevice) (hd : d ≠ unknownDevice) (hfree : arr d = unknownDevice) :
    ∃ arr' l', CEventList.pushBack arr l d = .ok (arr', l') ∧ Holds arr' l' (xs ++ [d]) ∧ Pushed arr arr' xs d := by
  have hdx : d ∉ xs := fun hm => (hx d hm).2 hfree
  unfold CEventList.pushBack
  rw [if_neg (not_not.2 hfree)]
  rcases eq_nil_or_concat' xs with rfl | ⟨ys, c, rfl⟩
  · have hf : l.first = unknownDevice := h.first_eq
    have hs : l.second = unknownDevice := h.second_eq
    simp only [hf, hs]
    refine ⟨_, _, rfl, ⟨rfl, rfl, by simp [h.size_eq], ?_⟩, ?_, ?_, by simp⟩
    · exact update_self ..
    · simpa using hd
    · intro x hxd _
      exact update_of_ne hxd _ _
  have hc := hx c (by simp)
  have hs : l.second = c := by simpa using h.second_eq
  have hf : l.first ≠ unknownDevice := by
    rw [h.first_eq]
    cases ys with
    | nil => simpa using hc.1
    | cons y ys => simpa using (hx y (by simp)).1
  have hdc : d ≠ c := fun he => hdx (by simp [he])
  simp only [hf, hs, hc.1, ne_eq, not_false_eq_true]
  refine ⟨_, _, rfl, ⟨?_, by simp, by simp [h.size_eq], h.threaded.concat hnd hdx⟩, ?_, ?_, ?_⟩
  · rw [h.first_eq]
    cases ys <;> simp
  · rw [update_of_ne hdc, update_self]
    exact hd
  · intro x hxd hxs
    have hxc : x ≠ c := fun he => hxs (by simp [he])
    rw [update_of_ne hxc, update_of_ne hxd]
  · intro x hxs
    by_cases hxc : x = c
    · rw [hxc, update_self]
      exact hd
    · have hxd : x ≠ d := fun he => hdx (he ▸ hxs)
      rw [update_of_ne hxc, update_of_ne hxd]
      exact (hx x hxs).2

/-- `push_front` of a device that is not queued puts it first. -/
theorem Holds.pushFront (h : Holds arr l xs)
    (hx : ∀ x ∈ xs, x ≠ unknownDevice ∧ arr x ≠ unknownDevice) (hd : d ≠ unknownDevice) (hfree : arr d = unknownDevice) :
    ∃ arr' l', CEventList.pushFront arr l d = .ok (arr', l') ∧ Holds arr' l' (d :: xs) ∧ Pushed arr arr' xs d := by
  have hdx : d ∉ xs := fun hm => (hx d hm).2 hfree
  have hkeep : ∀ (y x : Nat), x ≠ d → update arr d y x = arr x := fun y x hxd => update_of_ne hxd _ _
  have hknown : ∀ y, ∀ x ∈ xs, update arr d y x ≠ unknownDevice := by
    intro y x hxs
    rw [hkeep y x fun he => hdx (he ▸ hxs)]
    exact (hx x hxs).2
  unfold CEventList.pushFront
  rw [if_neg (not_not.2 hfree)]
  cases xs with
  | nil =>
    have hf : l.first = unknownDevice := h.first_eq
    have hs : l.second = unknownDevice := h.second_eq
    simp only [hf, hs]
    refine ⟨_, _, rfl, ⟨rfl, rfl, by simp [h.size_eq], ?_⟩, ?_, fun x hxd _ => hkeep _ x hxd, hknown _⟩
    · exact update_self ..
    · simpa using hd
  | cons b ys =>
    have hb := hx b mem_cons_self
    have hf : l.first = b := by simpa using h.first_eq
    have hs : l.second ≠ unknownDevice := by
      rw [h.second_eq, getLast?_eq_getLast_of_ne_nil (by simp)]
      exact (hx _ (getLast_mem _)).1
    simp only [hf, hb.1, hs, ne_eq, not_false_eq_true]
    refine ⟨_, _, rfl, ⟨rfl, ?_, by simp [h.size_eq], h.threaded.cons hdx⟩, ?_, fun x hxd _ => hkeep _ x hxd, hknown _⟩
    · rw [h.second_eq]
      simp
    · simpa using hb.1

/-- `pop_front` of a list that holds a device returns the first one and frees its entry. -/
theorem Holds.popFront (h : Holds arr l (d :: xs)) (hnd : (d :: xs).Nodup) (hx : ∀ x ∈ d :: xs, x ≠ unknownDevice) :
    ∃ l', CEventList.popFront arr l = .ok (d, update arr d unknownDevice, l') ∧ Holds (update arr d unknownDevice) l' xs := by
  have hf : l.first = d := by simpa using h.first_eq
  have hd := hx d mem_cons_self
  have hlink := h.threaded.link_head
  have hthr : Threaded (update arr d unknownDevice) xs :=
    h.threaded.tail.update (nodup_cons.1 hnd).1 _
  unfold CEventList.popFront
  simp only [hf, hd]
  cases xs with
  | nil =>
    have hself : d = arr d := hlink.symm
    refine ⟨_, rfl, ?_⟩
    rw [if_pos hself]
    exact ⟨rfl, rfl, by simp [h.size_eq], hthr⟩
  | cons b ys =>
    have hb : arr d = b := hlink
    have hne : d ≠ arr d := by
      rw [hb]
      rintro rfl
      exact (nodup_cons.1 hnd).1 mem_cons_self
    refine ⟨_, rfl, ?_⟩
    rw [if_neg hne]
    refine ⟨hb, ?_, by simp [h.size_eq], hthr⟩
    rw [h.second_eq]
    simp

end CEventList
end Cvc
