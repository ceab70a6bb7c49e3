import Mathlib.Data.List.Nodup
import Mathlib.Data.List.Perm.Subperm
import Cvc.Lib.LinkedList

/-!
# Buckets of linked elements

Lists that share one table of links: every bucket has its first element, every element the next one of its bucket and the bucket
it is in. `Holds` says that the buckets hold given lists of the members, each member in the bucket it names. An element is added
at the front (`Holds.push`), and one bucket can be poured into another one, element by element, which reverses it (`Holds.pour`).
-/

open LinkedList List

/-- The first element of each bucket, the next element of each element and its bucket. -/
structure Buckets (α β : Type*) where
  first : β → α
  next : α → α
  owner : α → β

namespace Buckets

open Function (update update_self update_of_ne)

variable {α β : Type*} [DecidableEq α] [DecidableEq β] (mark : α)

/-- The elements from one on, if there are at most as many as given. -/
def follow (next : α → α) : Nat → α → Option (List α)
  | fuel, a =>
    if a = mark then some []
    else
      match fuel with
      | 0 => none
      | fuel + 1 => (follow next fuel (next a)).map (a :: ·)

/-- Put an element in front of a bucket. -/
def putFirst (t : Buckets α β) (b : β) (a : α) : Buckets α β where
  first := update t.first b a
  next := update t.next a (t.first b)
  owner := update t.owner a b

/-- Put the elements from one on in front of a bucket, one after the other. -/
def pourLoop (b : β) : Nat → α → Buckets α β → Option (Buckets α β)
  | fuel, a, t =>
    if a = mark then some t
    else
      match fuel with
      | 0 => none
      | fuel + 1 => pourLoop b fuel (t.next a) (t.putFirst b a)

/-- Empty one bucket into another one. -/
def pour (fuel : Nat) (source b : β) (t : Buckets α β) : Option (Buckets α β) :=
  (pourLoop mark b fuel (t.first source) t).map fun t => { t with first := update t.first source mark }

/-- The buckets hold these lists of the members. -/
structure Holds (t : Buckets α β) (members : List α) (lists : β → List α) : Prop where
  linked : ∀ b, Linked mark t.next (t.first b) (lists b)
  nodup : ∀ b, (lists b).Nodup
  mem_iff : ∀ b a, a ∈ lists b ↔ a ∈ members ∧ t.owner a = b

variable {mark}

theorem follow_eq {next : α → α} {a : α} {xs : List α} (h : Linked mark next a xs) {fuel : Nat} (hfuel : xs.length ≤ fuel) :
    follow mark next fuel a = some xs := by
  induction xs generalizing a fuel with
  | nil =>
    unfold follow
    exact if_pos h
  | cons x xs ih =>
    obtain ⟨rfl, hne, hrest⟩ := h
    cases fuel with
    | zero => exact absurd hfuel (Nat.not_succ_le_zero _)
    | succ fuel =>
      rw [follow, if_neg hne]
      simp only [ih hrest (Nat.le_of_succ_le_succ hfuel)]
      rfl

section
variable {t : Buckets α β} {members : List α} {lists : β → List α}

omit [DecidableEq α] [DecidableEq β] in
theorem Holds.length_le (h : Holds mark t members lists) (b : β) : (lists b).length ≤ members.length :=
  ((h.nodup b).subperm fun a ha => ((h.mem_iff b a).1 ha).1).length_le

omit [DecidableEq α] [DecidableEq β] in
theorem Holds.not_mem_of_ne (h : Holds mark t members lists) {b c : β} (hbc : b ≠ c) {a : α} (ha : a ∈ lists b) :
    a ∉ lists c := by
  intro ha'
  exact hbc (((h.mem_iff b a).1 ha).2.symm.trans ((h.mem_iff c a).1 ha').2)

/-- A new member is put in front of its bucket. -/
theorem Holds.push (h : Holds mark t members lists) {d : α} (hd : d ∉ members) (hmark : d ≠ mark) (b : β) :
    Holds mark (t.putFirst b d) (d :: members) (update lists b (d :: lists b)) := by
  have hnot : ∀ c, d ∉ lists c := fun c hc => hd ((h.mem_iff c d).1 hc).1
  have hkeep : ∀ c, Linked mark (t.putFirst b d).next (t.first c) (lists c) := by
    intro c
    refine (h.linked c).congr fun x hx => update_of_ne ?_ _ _
    rintro rfl
    exact hnot c hx
  refine ⟨fun c => ?_, fun c => ?_, fun c a => ?_⟩
  · by_cases hc : c = b
    · subst hc
      rw [update_self]
      refine ⟨update_self .., hmark, ?_⟩
      rw [show (t.putFirst c d).next d = t.first c from update_self ..]
      exact hkeep c
    · rw [update_of_ne hc, show (t.putFirst b d).first c = t.first c from update_of_ne hc _ _]
      exact hkeep c
  · by_cases hc : c = b
    · subst hc
      rw [update_self]
      exact nodup_cons.2 ⟨hnot c, h.nodup c⟩
    · rw [update_of_ne hc]
      exact h.nodup c
  · by_cases ha : a = d
    · subst ha
      rw [show (t.putFirst b a).owner a = b from update_self ..]
      by_cases hc : c = b
      · subst hc
        simp
      · rw [update_of_ne hc]
        exact iff_of_false (hnot c) fun h => hc h.2.symm
    · rw [show (t.putFirst b d).owner a = t.owner a from update_of_ne ha _ _]
      by_cases hc : c = b
      · subst hc
        simp [ha, h.mem_iff c a]
      · rw [update_of_ne hc, h.mem_iff c a]
        simp [ha]

omit [DecidableEq α] [DecidableEq β] in
/-- What is held does not depend on the buckets that elements other than the members name. -/
theorem Holds.congr (h : Holds mark t members lists) {t' : Buckets α β} (hfirst : t'.first = t.first) (hnext : t'.next = t.next)
    (howner : ∀ a ∈ members, t'.owner a = t.owner a) : Holds mark t' members lists := by
  refine ⟨fun b => ?_, h.nodup, fun b a => ?_⟩
  · rw [hfirst, hnext]
    exact h.linked b
  · rw [h.mem_iff]
    exact and_congr_right fun ha => by rw [howner a ha]

omit [DecidableEq α] [DecidableEq β] in
theorem Holds.of_mem_iff (h : Holds mark t members lists) {members' : List α} (hmem : ∀ a, a ∈ members' ↔ a ∈ members) :
    Holds mark t members' lists :=
  ⟨h.linked, h.nodup, fun b a => by rw [h.mem_iff, hmem]⟩

/-! ## Pouring -/

/-- The loop puts the elements in front of the bucket, in reverse order, and writes nothing else. -/
theorem pourLoop_spec {b : β} {a : α} {ys : List α} (hys : Linked mark t.next a ys) (hnodup : ys.Nodup) {fuel : Nat}
    (hfuel : ys.length ≤ fuel) : ∃ t', pourLoop mark b fuel a t = some t' ∧
      (∀ zs, Linked mark t.next (t.first b) zs → (∀ y ∈ ys, y ∉ zs) → Linked mark t'.next (t'.first b) (ys.reverse ++ zs)) ∧
      (∀ c, c ≠ b → t'.first c = t.first c) ∧ (∀ x, x ∉ ys → t'.next x = t.next x) ∧
      ∀ x, t'.owner x = if x ∈ ys then b else t.owner x := by
  induction ys generalizing a t fuel with
  | nil =>
    refine ⟨t, ?_, fun zs hzs _ => hzs, fun _ _ => rfl, fun _ _ => rfl, fun _ => rfl⟩
    unfold pourLoop
    exact if_pos hys
  | cons y ys ih =>
    obtain ⟨rfl, hne, hrest⟩ := hys
    obtain ⟨hy, hnodup⟩ := nodup_cons.1 hnodup
    cases fuel with
    | zero => exact absurd hfuel (Nat.not_succ_le_zero _)
    | succ fuel =>
      have hnext : ∀ x, x ≠ a → (t.putFirst b a).next x = t.next x := fun x hx => update_of_ne hx _ _
      have hrest' : Linked mark (t.putFirst b a).next (t.next a) ys :=
        hrest.congr fun x hx => hnext x (fun heq => hy (heq ▸ hx))
      obtain ⟨t', hok, hlinked, hfirst, hother, howner⟩ := ih hrest' hnodup (Nat.le_of_succ_le_succ hfuel)
      refine ⟨t', ?_, fun zs hzs hdisjoint => ?_, fun c hc => ?_, fun x hx => ?_, fun x => ?_⟩
      · rw [pourLoop, if_neg hne]
        exact hok
      · have hcons : Linked mark (t.putFirst b a).next ((t.putFirst b a).first b) (a :: zs) := by
          refine ⟨update_self .., hne, ?_⟩
          rw [show (t.putFirst b a).next a = t.first b from update_self ..]
          exact hzs.congr fun x hx => hnext x (fun heq => hdisjoint a mem_cons_self (heq ▸ hx))
        have := hlinked (a :: zs) hcons fun x hx => by
          rw [mem_cons, not_or]
          exact ⟨fun heq => hy (heq ▸ hx), hdisjoint x (mem_cons_of_mem _ hx)⟩
        rwa [reverse_cons, append_assoc]
      · rw [hfirst c hc]
        exact update_of_ne hc _ _
      · rw [mem_cons, not_or] at hx
        rw [hother x hx.2, hnext x hx.1]
      · rw [howner]
        by_cases hx : x = a
        · subst hx
          rw [if_neg hy, if_pos mem_cons_self]
          exact update_self ..
        · rw [show (t.putFirst b a).owner x = t.owner x from update_of_ne hx _ _]
          simp [hx]

/-- One bucket after it has been poured into another one. -/
theorem Holds.pour (h : Holds mark t members lists) {source b : β} (hne : source ≠ b)
    {fuel : Nat} (hfuel : members.length ≤ fuel) :
    ∃ t', Buckets.pour mark fuel source b t = some t' ∧
      Holds mark t' members (update (update lists b ((lists source).reverse ++ lists b)) source []) ∧
      ∀ a, t'.owner a = if a ∈ lists source then b else t.owner a := by
  obtain ⟨t', hok, hlinked, hfirst, hnext, howner⟩ :=
    @pourLoop_spec _ _ _ _ mark t b _ _ (h.linked source) (h.nodup source) fuel (Nat.le_trans (h.length_le source) hfuel)
  refine ⟨{ t' with first := update t'.first source mark }, ?_, ⟨fun c => ?_, fun c => ?_, fun c a => ?_⟩, howner⟩
  · rw [Buckets.pour, hok]
    rfl
  · by_cases hcs : c = source
    · subst hcs
      rw [update_self]
      exact update_self ..
    rw [update_of_ne hcs]
    show Linked mark t'.next (update t'.first source mark c) _
    rw [update_of_ne hcs]
    by_cases hcb : c = b
    · subst hcb
      rw [update_self]
      exact hlinked _ (h.linked c) fun y hy => h.not_mem_of_ne hne hy
    · rw [update_of_ne hcb, hfirst c hcb]
      exact (h.linked c).congr fun x hx => hnext x (h.not_mem_of_ne hcs hx)
  · by_cases hcs : c = source
    · subst hcs
      rw [update_self]
      exact nodup_nil
    rw [update_of_ne hcs]
    by_cases hcb : c = b
    · subst hcb
      rw [update_self]
      refine nodup_append.2 ⟨nodup_reverse.2 (h.nodup source), h.nodup c, ?_⟩
      rintro x hx y hy rfl
      exact h.not_mem_of_ne hne (mem_reverse.1 hx) hy
    · rw [update_of_ne hcb]
      exact h.nodup c
  · rw [howner]
    by_cases hcs : c = source
    · subst hcs
      rw [update_self]
      refine iff_of_false not_mem_nil ?_
      rintro ⟨ha, heq⟩
      split at heq
      case isTrue => exact hne heq.symm
      case isFalse hnot => exact hnot ((h.mem_iff c a).2 ⟨ha, heq⟩)
    rw [update_of_ne hcs]
    by_cases hcb : c = b
    · subst hcb
      rw [update_self, mem_append, mem_reverse, h.mem_iff c a]
      by_cases ha : a ∈ lists source
      · simp [ha, ((h.mem_iff source a).1 ha).1]
      · rw [if_neg ha]
        exact or_iff_right ha
    · rw [update_of_ne hcb, h.mem_iff c a]
      refine and_congr_right fun ha => ?_
      split
      case isTrue hsource =>
        exact iff_of_false (fun heq => hcs (heq.symm.trans ((h.mem_iff source a).1 hsource).2)) (Ne.symm hcb)
      case isFalse => rfl

end
end Buckets
