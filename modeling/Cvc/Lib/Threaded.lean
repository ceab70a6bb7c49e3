import Mathlib.Data.List.Nodup

/-!
# Lists threaded through a table of links

A list kept in a table `link : α → α`: every element links to the one after it and the last one links to itself. Several lists
share one table when they share no element; each operation below writes the links of one list and of the element that joins or
leaves it, and `Threaded.congr` carries every other list over.
-/

namespace LinkTable

open Function

variable {α : Type*} {link : α → α} {l : List α} {a d : α}

/-- Every element links to the next one, the last one to itself. -/
def Threaded (link : α → α) : List α → Prop
  | [] => True
  | [a] => link a = a
  | a :: b :: l => link a = b ∧ Threaded link (b :: l)

theorem Threaded.tail (h : Threaded link (a :: l)) : Threaded link l := by
  cases l with
  | nil => trivial
  | cons b l => exact h.2

/-- The first element links to the head of the rest, or to itself when there is none. -/
theorem Threaded.link_head (h : Threaded link (a :: l)) : link a = l.headD a := by
  cases l with
  | nil => exact h
  | cons b l => exact h.1

/-- Following the links from the first element gives the list. -/
theorem Threaded.iterate_eq (h : Threaded link l) (a : α) : List.iterate link (l.headD a) l.length = l := by
  induction l generalizing a with
  | nil => rfl
  | cons b l ih =>
    show b :: .iterate link (link b) l.length = b :: l
    rw [h.link_head, ih h.tail]

/-- A list is threaded through every table that agrees on its elements. -/
theorem Threaded.congr {link' : α → α} (h : Threaded link l) (he : ∀ a ∈ l, link' a = link a) : Threaded link' l := by
  induction l with
  | nil => trivial
  | cons a l ih =>
    have ha := he a List.mem_cons_self
    cases l with
    | nil => exact ha.trans h
    | cons b l => exact ⟨ha.trans h.1, ih h.2 fun x hx => he x (List.mem_cons_of_mem a hx)⟩

variable [DecidableEq α]

/-- Writing the link of an element outside the list. -/
theorem Threaded.update (h : Threaded link l) {x : α} (hx : x ∉ l) (y : α) : Threaded (update link x y) l := by
  refine h.congr fun a ha => update_of_ne ?_ _ _
  rintro rfl
  exact hx ha

/-- A new first element links to the old one. -/
theorem Threaded.cons {b : α} (h : Threaded link (b :: l)) (hd : d ∉ b :: l) :
    Threaded (Function.update link d b) (d :: b :: l) :=
  ⟨update_self .., h.update hd b⟩

/-- A new last element links to itself, and the old one to it. -/
theorem Threaded.concat {c : α} (h : Threaded link (l ++ [c])) (hnd : (l ++ [c]).Nodup)
    (hd : d ∉ l ++ [c]) : Threaded (Function.update (Function.update link d d) c d) (l ++ [c] ++ [d]) := by
  induction l with
  | nil =>
    have hcd : d ≠ c := by simpa using hd
    refine ⟨update_self .., ?_⟩
    show Function.update (Function.update link d d) c d d = d
    rw [update_of_ne hcd, update_self]
  | cons a l ih =>
    simp only [List.cons_append, List.nodup_cons, List.mem_cons, not_or] at h hnd hd ⊢
    have hac : a ≠ c := fun hac => hnd.1 (by simp [hac])
    have hrest := ih h.tail hnd.2 hd.2
    have hlink : Function.update (Function.update link d d) c d a = link a := by
      rw [update_of_ne hac, update_of_ne (.symm hd.1)]
    cases l with
    | nil | cons b l => exact ⟨hlink.trans h.1, hrest⟩

end LinkTable
