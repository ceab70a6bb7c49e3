import Cvc.VirtualNet
import Cvc.Lib.Forest

/-!
# Virtual nets: what a walk finds

`WalksTo` is the end of a net's chain, said without the loop of the code: the root of the chain and the sum of the resistances
along it, cut at the largest resistance. The loop finds it in every forest (`walkLinks_of_chain`), and it depends on the links
only (`WalksTo.congr`), so that a cache may be written without changing it.
-/

namespace Cvc

open Forest List Option

/-- `AddResistance` is the sum cut at the largest resistance. -/
theorem addResistance_eq_min (a b : Nat) : addResistance a b = min maxResistance (a + b) := by
  unfold addResistance
  split <;> omega

/-- Adding resistances one at a time is adding their sum at once. -/
theorem foldl_addResistance (l : List Nat) : ∀ a, a ≤ maxResistance →
    l.foldl addResistance a = min maxResistance (a + l.sum) := by
  induction l with
  | nil => intro a ha; simp [ha]
  | cons x l ih =>
    intro a _
    rw [foldl_cons, addResistance_eq_min, ih _ (Nat.min_le_left _ _), sum_cons]
    omega

namespace CVirtualNetVector

variable {n r f m k r' : Nat} {v v' : CVirtualNetVector} {p : List Nat} {net : CVirtualNet} {t : Int}

/-- The uncached walk of a net: the root of its chain of links and the sum of the resistances along the chain, the root's
included, cut at the largest resistance. -/
def WalksTo (v : CVirtualNetVector) (n f : Nat) (r : Nat) : Prop :=
  ∃ p, Chain v.next n p ∧ p.getLast? = some f ∧ r = min maxResistance (p.map v.linkResistance).sum

/-- The links form a forest: the chain of every net stays in the table, ends within 5000 links and adds up to less than the
largest resistance. -/
def IsForest (v : CVirtualNetVector) : Prop :=
  ∀ n < v.size, ∃ p, Chain v.next n p ∧ (∀ m ∈ p, m < v.size) ∧ p.length ≤ 5001 ∧
    (p.map v.linkResistance).sum < maxResistance

/-- A net has one end. -/
theorem WalksTo.unique {f' : Nat} (h : v.WalksTo n f r) (h' : v.WalksTo n f' r') : f = f' ∧ r = r' := by
  obtain ⟨p, hp, hf, hr⟩ := h
  obtain ⟨q, hq, hf', hr'⟩ := h'
  obtain rfl := hp.unique hq
  exact ⟨some.inj (hf.symm.trans hf'), hr.trans hr'.symm⟩

/-- The end of a net depends on the links along its chain only. -/
theorem WalksTo.congr (hp : Chain v.next n p)
    (hn : ∀ m ∈ p, v'.next m = v.next m) (hr : ∀ m ∈ p, v'.linkResistance m = v.linkResistance m)
    (h : v.WalksTo n f r) : v'.WalksTo n f r := by
  obtain ⟨q, hq, hf, hsum⟩ := h
  obtain rfl := hp.unique hq
  refine ⟨p, hp.congr hn, hf, ?_⟩
  rw [hsum, map_congr_left hr]

/-- The same links have the same ends. -/
theorem WalksTo.of_links (h : v.WalksTo n f r) (hn : v'.next = v.next)
    (hr : v'.linkResistance = v.linkResistance) : v'.WalksTo n f r := by
  unfold WalksTo
  rw [hn, hr]
  exact h

/-- The same links form the same forest. -/
theorem IsForest.of_links (h : v.IsForest) (hs : v'.size = v.size) (hn : v'.next = v.next)
    (hr : v'.linkResistance = v.linkResistance) : v'.IsForest := by
  unfold IsForest
  rw [hs, hn, hr]
  exact h

/-- Every net of a forest has an end, below the largest resistance. -/
theorem IsForest.exists_walksTo (h : v.IsForest) (hn : n < v.size) : ∃ f r, v.WalksTo n f r ∧ r < maxResistance := by
  obtain ⟨p, hp, _, _, hsum⟩ := h n hn
  refine ⟨p.getLast hp.ne_nil, _, ⟨p, hp, getLast?_eq_getLast_of_ne_nil hp.ne_nil, rfl⟩, ?_⟩
  exact Nat.lt_of_le_of_lt (Nat.min_le_right _ _) hsum

/-- The loop of the code along a chain no longer than its count of links. -/
theorem walkLinks_of_chain (hp : Chain v.next n p) : ∀ (k : Nat) (r : Nat), p.length ≤ k + 1 →
      v.walkLinks k n r = some (p.getLast hp.ne_nil, (p.map v.linkResistance).foldl addResistance r) := by
  induction hp with
  | root h =>
    intro k r _
    unfold walkLinks
    rw [if_pos h.symm]
    simp
  | @link a p h hp ih =>
    intro k r hk
    have hpos : 0 < p.length := length_pos_iff.2 hp.ne_nil
    cases k with
    | zero => simp only [length_cons] at hk; omega
    | succ k =>
      unfold walkLinks
      rw [if_neg (Ne.symm h)]
      simp only [length_cons] at hk
      have hrest := ih k (addResistance r (v.linkResistance a)) (by omega)
      simp [hrest, getLast_cons hp.ne_nil]

/-- The loop of the code on a chain: the assertion holds up to 5020 links, and the sum is cut at the largest resistance. -/
theorem walkLinks_eq_of_chain (hp : Chain v.next n p) (hlen : p.length ≤ 5021) (hf : p.getLast? = some f) :
    v.walkLinks maxLinkCount n 0 = some (f, min maxResistance (p.map v.linkResistance).sum) := by
  rw [getLast?_eq_getLast_of_ne_nil hp.ne_nil] at hf
  rw [walkLinks_of_chain hp maxLinkCount 0 (by unfold maxLinkCount; omega), foldl_addResistance _ 0 (Nat.zero_le _), Nat.zero_add,
    some.inj hf]

/-- In a forest the loop of the code ends, and finds the end of the net. -/
theorem IsForest.walkLinks_eq (h : v.IsForest) (hn : n < v.size) (hw : v.WalksTo n f r) :
    v.walkLinks maxLinkCount n 0 = some (f, r) := by
  obtain ⟨p, hp, _, hlen, _⟩ := h n hn
  obtain ⟨q, hq, hf, hr⟩ := hw
  obtain rfl := hp.unique hq
  rw [walkLinks_eq_of_chain hp (by omega) hf, hr]

/-! ## The writes of a read and of a set -/

section
variable (v)
include v

@[simp] theorem next_storeFinal (n f : Nat) (r : Nat) (t : Int) : (v.storeFinal n f r t).next = v.next := by
  funext m
  by_cases h : m = n
  · subst h; simp [next, storeFinal]
  · simp [next, storeFinal, h]

@[simp] theorem linkResistance_storeFinal (n f : Nat) (r : Nat) (t : Int) :
    (v.storeFinal n f r t).linkResistance = v.linkResistance := by
  funext m
  by_cases h : m = n
  · subst h; simp [linkResistance, storeFinal]
  · simp [linkResistance, storeFinal, h]

theorem net_storeFinal_of_ne (f : Nat) (r : Nat) (t : Int) (h : m ≠ n) : (v.storeFinal n f r t).net m = v.net m := by
  simp [storeFinal, h]

@[simp] theorem lastUpdateV_link (n k r : Nat) : (v.link n k r).lastUpdateV = v.lastUpdateV := rfl

theorem next_link (n k : Nat) (r : Nat) : (v.link n k r).next = Function.update v.next n k := by
  funext m
  by_cases h : m = n
  · subst h; simp [next, link]
  · simp [next, link, h]

theorem linkResistance_link (n k : Nat) (r : Nat) : (v.link n k r).linkResistance = Function.update v.linkResistance n r := by
  funext m
  by_cases h : m = n
  · subst h; simp [linkResistance, link]
  · simp [linkResistance, link, h]

theorem net_link_of_ne (k : Nat) (r : Nat) (h : m ≠ n) : (v.link n k r).net m = v.net m := by
  simp [link, h]

/-- A link of a net to itself is always set. -/
theorem set_self (n r : Nat) (t : Int) :
    ∃ f R, v.set n n r t = some { (v.link n n r).storeFinal n f R t with lastUpdate := t } := by
  have hback : v.linksBack n n = false := by simp [linksBack]
  have hnext : (v.link n n r).next n = n := by rw [next_link, Function.update_self]
  unfold CVirtualNetVector.set
  simp only [hback, Bool.false_eq_true, hnext]
  by_cases hn : n = unknownNet
  · exact ⟨unknownNet, infiniteResistance, if_pos hn⟩
  have hwalk : (v.link n n r).walkLinks maxLinkCount n 0 = some (n, addResistance 0 ((v.link n n r).linkResistance n)) := by
    unfold walkLinks
    rw [if_pos hnext.symm]
  refine ⟨n, addResistance 0 ((v.link n n r).linkResistance n), (if_neg hn).trans ?_⟩
  rw [hwalk]
  rfl

end

/-- Linking a net that no other net leads to keeps the end of every other net. -/
theorem WalksTo.link_of_not_ledTo (h : v.WalksTo m f r) (hled : ¬LedTo v.next n) (hne : m ≠ n) :
    (v.link n k r').WalksTo m f r := by
  obtain ⟨p, hp, _, _⟩ := id h
  have hp' : ∀ x ∈ p, x ≠ n := by
    rintro x hx rfl
    exact hled (hp.ledTo_of_mem hx hne.symm)
  refine WalksTo.congr hp (fun x hx => ?_) (fun x hx => ?_) h
  · rw [next_link, Function.update_of_ne (hp' x hx)]
  · rw [linkResistance_link, Function.update_of_ne (hp' x hx)]

/-! ## The table after a call -/

/-- A read leaves the table as it is, or with the final values of the net. -/
theorem operatorCall_cases (h : CVirtualNet.operatorCall v n = some (net, v')) :
    v' = v ∨ ∃ f R, v' = v.storeFinal n f R v.lastUpdate := by
  unfold CVirtualNet.operatorCall at h
  split at h
  · obtain ⟨-, rfl⟩ := Prod.mk.inj (some.inj h)
    exact .inl rfl
  split at h
  · obtain ⟨⟨f, R⟩, -, hsome⟩ := bind_eq_some_iff.1 h
    obtain ⟨-, -, rfl⟩ : R < maxResistance ∧ _ ∧ v.storeFinal n f R v.lastUpdate = v' := by simpa using hsome
    exact .inr ⟨f, R, rfl⟩
  · obtain ⟨-, -, rfl⟩ : (v.net n).finalResistance < maxResistance ∧ _ ∧ v = v' := by simpa using h
    exact .inl rfl

/-- `Set` leaves the table as it is if the next net links back, or else with the link and the final values of the net. -/
theorem set_cases (h : v.set n k r t = some v') : v.linksBack n k = true ∧ v' = v ∨
      v.linksBack n k = false ∧ ∃ f R, v' = { (v.link n k r).storeFinal n f R t with lastUpdate := t } := by
  unfold CVirtualNetVector.set at h
  cases hback : v.linksBack n k with
  | true => exact .inl ⟨rfl, (some.inj (by simpa [hback] using h)).symm⟩
  | false =>
    simp only [hback, Bool.false_eq_true, if_false] at h
    split at h
    · exact .inr ⟨rfl, _, _, (some.inj h).symm⟩
    · obtain ⟨⟨f, R⟩, -, h⟩ := bind_eq_some_iff.1 h
      exact .inr ⟨rfl, f, R, (some.inj h).symm⟩

/-- A link set keeps the sizes. -/
theorem size_of_set (h : v.set n k r t = some v') : v'.size = v.size ∧ v'.lastUpdateSize = v.lastUpdateSize := by
  rcases set_cases h with ⟨-, rfl⟩ | ⟨-, f, R, rfl⟩ <;> exact ⟨rfl, rfl⟩

/-- A read keeps the sizes. -/
theorem size_of_read (h : CVirtualNet.operatorCall v n = some (net, v')) : v'.size = v.size ∧
    v'.lastUpdateSize = v.lastUpdateSize := by
  rcases operatorCall_cases h with rfl | ⟨f, R, rfl⟩ <;> exact ⟨rfl, rfl⟩

end CVirtualNetVector
end Cvc
