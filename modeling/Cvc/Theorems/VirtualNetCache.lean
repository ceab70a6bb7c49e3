import Cvc.Lemmas.VirtualNet

/-!
# The virtual net cache

A read of a virtual net is served from the cache or recomputed. The invariant that makes the cache right (`CacheInv`): a net
whose stamp is not older than the last link set has the end of its chain cached, and no stamp is later than the latest time
seen. A link set on a net that no other net leads to moves no other end, so it may share its time with the sets before it; a
set on a net that others lead to moves their ends, and its later time makes every other stamp old.
-/

namespace Cvc

open Forest CVirtualNet

namespace CVirtualNetVector

variable {v : CVirtualNetVector} {latest : Int} {n : Nat}

/-- The calls a table of virtual nets serves: link sets and reads. -/
inductive Op where
  | set (theNetId theNextNet : Nat) (theResistance : Nat) (theTime : Int)
  | read (theNetId : Nat)
  deriving DecidableEq, Repr

/-- One call; a read leaves the cache it wrote. -/
def Op.run (v : CVirtualNetVector) : Op → Option CVirtualNetVector
  | .set n k r t => v.set n k r t
  | .read n => (CVirtualNet.operatorCall v n).map (·.2)

/-- A sequence of calls. -/
def runOps (v : CVirtualNetVector) : List Op → Option CVirtualNetVector
  | [] => some v
  | op :: ops => (op.run v).bind (runOps · ops)

/-- The links after a `Set`: a set that would link two nets to each other is ignored. -/
def relink (v : CVirtualNetVector) (n k r : Nat) : CVirtualNetVector := if v.linksBack n k then v else v.link n k r

/-- The sequences of calls considered, from a table whose latest time is `latest`: the sets stay in the table and keep the links
a forest, their times do not decrease, and a set on a net that other nets lead to is later than every time before it. -/
def Legal (v : CVirtualNetVector) (latest : Int) : List Op → Prop
  | [] => True
  | .set n k r t :: ops =>
    n < v.size ∧ k < v.size ∧ (v.relink n k r).IsForest ∧ latest ≤ t ∧ (LedTo v.next n → latest < t) ∧
      ∀ v', v.set n k r t = some v' → Legal v' t ops
  | .read n :: ops => n < v.size ∧ ∀ c v', CVirtualNet.operatorCall v n = some (c, v') → Legal v' latest ops

/-- The invariant of the cache. -/
structure CacheInv (v : CVirtualNetVector) (latest : Int) : Prop where
  allocated : v.lastUpdateSize = v.size
  forest : v.IsForest
  update_le : v.lastUpdate ≤ latest
  stamp_le : ∀ n < v.size, v.lastUpdateV n ≤ latest
  cached : ∀ n < v.size, v.lastUpdate ≤ v.lastUpdateV n → v.WalksTo n (v.net n).finalNetId (v.net n).finalResistance

/-- Storing the end of a net at the time of the last set keeps the invariant. -/
theorem CacheInv.storeFinal (h : v.CacheInv latest) {f r : Nat}
    (hw : v.WalksTo n f r) : (v.storeFinal n f r v.lastUpdate).CacheInv latest := by
  refine ⟨h.allocated, h.forest.of_links rfl (next_storeFinal ..) (linkResistance_storeFinal ..), h.update_le, ?_, ?_⟩
  · intro m hm
    by_cases hmn : m = n
    · subst hmn
      simpa [CVirtualNetVector.storeFinal] using h.update_le
    · simpa [CVirtualNetVector.storeFinal, hmn] using h.stamp_le m hm
  · intro m hm hle
    refine .of_links (v := v) ?_ (next_storeFinal ..) (linkResistance_storeFinal ..)
    by_cases hmn : m = n
    · subst hmn
      simpa [CVirtualNetVector.storeFinal] using hw
    · simp only [CVirtualNetVector.storeFinal, Function.update_of_ne hmn] at hle ⊢
      exact h.cached m hm hle

/-- A read under the invariant does not stop the program, returns the link of the net and the end of its chain, changes no
link and keeps the invariant. -/
theorem CacheInv.operatorCall (h : v.CacheInv latest) (hn : n < v.size) :
    ∃ f r v', operatorCall v n = some (⟨v.next n, v.linkResistance n, f, r⟩, v') ∧ v.WalksTo n f r ∧
      v'.CacheInv latest ∧ v'.size = v.size ∧ v'.next = v.next ∧ v'.linkResistance = v.linkResistance := by
  obtain ⟨f, r, hw, hr⟩ := h.forest.exists_walksTo hn
  have hne : n ≠ unknownNet := Nat.ne_of_lt (Nat.lt_of_lt_of_le hn v.size_le)
  have hsize : v.lastUpdateSize > 0 := by rw [h.allocated]; omega
  unfold CVirtualNet.operatorCall
  rw [if_neg hne]
  by_cases hold : v.lastUpdateV n < v.lastUpdate
  · -- the stamp is old: the walk is made again and stored
    refine ⟨f, r, v.storeFinal n f r v.lastUpdate, ?_, hw, h.storeFinal hw, rfl, next_storeFinal .., linkResistance_storeFinal ..⟩
    simp [hsize, hold, h.forest.walkLinks_eq hn hw, hr]
  · obtain ⟨hf, hr'⟩ := (h.cached n hn (Int.not_lt.1 hold)).unique hw
    refine ⟨f, r, v, ?_, hw, h, rfl, rfl, rfl⟩
    simp [hold, hf, hr', hr]

/-- A set under the invariant does not stop the program and keeps the invariant, at its own time. -/
theorem CacheInv.set {t : Int} (h : v.CacheInv latest) {k r : Nat} (hn : n < v.size)
    (hk : k < v.size) (hforest : (v.relink n k r).IsForest) (hle : latest ≤ t) (hlt : LedTo v.next n → latest < t) :
    ∃ v', v.set n k r t = some v' ∧ v'.CacheInv t := by
  unfold CVirtualNetVector.set
  by_cases hback : v.linksBack n k = true
  · rw [if_pos hback]
    exact ⟨v, rfl, h.allocated, h.forest, Int.le_trans h.update_le hle, fun m hm => Int.le_trans (h.stamp_le m hm) hle, h.cached⟩
  have hforest' : (v.link n k r).IsForest := by simpa [relink, hback] using hforest
  have hnext : (v.link n k r).next n ≠ unknownNet := by
    rw [next_link, Function.update_self]
    exact Nat.ne_of_lt (Nat.lt_of_lt_of_le hk v.size_le)
  obtain ⟨f, R, hw, _⟩ := hforest'.exists_walksTo (n := n) hn
  have hnextS := next_storeFinal (v.link n k r) n f R t
  have hresS := linkResistance_storeFinal (v.link n k r) n f R t
  rw [if_neg hback, if_neg hnext, hforest'.walkLinks_eq (n := n) hn hw]
  refine ⟨_, rfl, h.allocated, hforest'.of_links rfl hnextS hresS, Int.le_refl t, ?_, ?_⟩
  · intro m hm
    by_cases hmn : m = n
    · subst hmn; simp [CVirtualNetVector.storeFinal]
    · simpa [CVirtualNetVector.storeFinal, hmn] using Int.le_trans (h.stamp_le m hm) hle
  · intro m hm hstamp
    refine .of_links (v := v.link n k r) ?_ hnextS hresS
    by_cases hmn : m = n
    · subst hmn
      simpa [CVirtualNetVector.storeFinal] using hw
    -- a stamp of another net at the time of this set: no net leads to `n`, and the end of the other net has not moved
    simp only [CVirtualNetVector.storeFinal, Function.update_of_ne hmn] at hstamp ⊢
    have hstamp' : t ≤ v.lastUpdateV m := hstamp
    have hm' := h.stamp_le m hm
    have hled : ¬LedTo v.next n := fun hl => by have := hlt hl; omega
    have hcached := h.cached m hm (by have := h.update_le; omega)
    rw [net_link_of_ne v k r hmn]
    exact hcached.link_of_not_ledTo hled hmn

/-- A legal sequence of calls does not stop the program, and leaves a cache that satisfies the invariant. -/
theorem CacheInv.runOps (ops : List Op) : ∀ (v : CVirtualNetVector) (latest : Int), v.CacheInv latest → v.Legal latest ops →
      ∃ v' latest', v.runOps ops = some v' ∧ v'.CacheInv latest' := by
  induction ops with
  | nil => intro v latest h _; exact ⟨v, latest, rfl, h⟩
  | cons op ops ih =>
    intro v latest h hl
    cases op with
    | set n k r t =>
      obtain ⟨hn, hk, hforest, hle, hlt, hrest⟩ := hl
      obtain ⟨v1, hset, hinv⟩ := h.set hn hk hforest hle hlt
      obtain ⟨v', latest', hrun, hinv'⟩ := ih v1 t hinv (hrest v1 hset)
      exact ⟨v', latest', by simp [CVirtualNetVector.runOps, Op.run, hset, hrun], hinv'⟩
    | read n =>
      obtain ⟨hn, hrest⟩ := hl
      obtain ⟨f, R, v1, hcall, _, hinv, _⟩ := h.operatorCall hn
      obtain ⟨v', latest', hrun, hinv'⟩ := ih v1 latest hinv (hrest _ v1 hcall)
      exact ⟨v', latest', by simp [CVirtualNetVector.runOps, Op.run, hcall, hrun], hinv'⟩

end CVirtualNetVector

open CVirtualNetVector

/-- Take a forest of virtual nets whose caches are all right, with no stamp later than `latest`. After every legal sequence of
link sets and reads, a read of any net returns its link and the end an uncached walk of the current links would find, changes no
link, and leaves the result of every read what it was. -/
theorem virtualNet_read_eq_walk (v : CVirtualNetVector) (latest : Int) (hforest : v.IsForest)
    (halloc : v.lastUpdateSize = v.size) (hcached : ∀ n < v.size, v.WalksTo n (v.net n).finalNetId (v.net n).finalResistance)
    (hupdate : v.lastUpdate ≤ latest) (hstamp : ∀ n < v.size, v.lastUpdateV n ≤ latest) (ops : List Op)
    (hlegal : v.Legal latest ops) :
    ∃ v', v.runOps ops = some v' ∧ ∀ n < v'.size, ∃ f r v'',
      operatorCall v' n = some (⟨v'.next n, v'.linkResistance n, f, r⟩, v'') ∧ v'.WalksTo n f r ∧
      v''.next = v'.next ∧ v''.linkResistance = v'.linkResistance ∧
      ∀ m < v'.size, (operatorCall v'' m).map (·.1) = (operatorCall v' m).map (·.1) := by
  obtain ⟨v', latest', hrun, hinv⟩ :=
    CacheInv.runOps ops v latest ⟨halloc, hforest, hupdate, hstamp, fun n hn _ => hcached n hn⟩ hlegal
  refine ⟨v', hrun, fun n hn => ?_⟩
  obtain ⟨f, r, v'', hcall, hw, hinv'', hsize, hnext, hres⟩ := hinv.operatorCall hn
  refine ⟨f, r, v'', hcall, hw, hnext, hres, fun m hm => ?_⟩
  obtain ⟨g, s, w, hm1, hw1, _⟩ := hinv.operatorCall hm
  obtain ⟨g', s', w', hm2, hw2, _⟩ := hinv''.operatorCall (n := m) (by rw [hsize]; exact hm)
  obtain ⟨hg, hs⟩ := (hw2.of_links hnext.symm hres.symm).unique hw1
  simp [hm1, hm2, hg, hs, hnext, hres]

/-- Three nets linked one after the other: the second set is on a net the first one leads to, so the cache of the first is old
when it is read. -/
theorem virtualNet_read_eq_walk_three : let v := selfLinked 3
    v.Legal 0 [.set 0 1 5 1, .read 0, .set 1 2 7 2] ∧
      ∃ v', v.runOps [.set 0 1 5 1, .read 0, .set 1 2 7 2] = some v' ∧ ∀ n < v'.size, ∃ f r v'',
        operatorCall v' n = some (⟨v'.next n, v'.linkResistance n, f, r⟩, v'') ∧ v'.WalksTo n f r ∧
        v''.next = v'.next ∧ v''.linkResistance = v'.linkResistance ∧
        ∀ m < v'.size, (operatorCall v'' m).map (·.1) = (operatorCall v' m).map (·.1) := by
  intro v
  have hself : ∀ n, Chain v.next n [n] := fun n => .root rfl
  have hforest : v.IsForest := fun n hn =>
    ⟨[n], hself n, by simpa using hn, by simp, (by decide : (0 : Nat) < maxResistance)⟩
  have hlegal : v.Legal 0 [.set 0 1 5 1, .read 0, .set 1 2 7 2] := by
    refine ⟨by decide, by decide, ?_, by decide, ?_, ?_⟩
    · intro n hn
      obtain rfl | rfl | rfl : n = 0 ∨ n = 1 ∨ n = 2 := by have : n < 3 := hn; omega
      · exact ⟨[0, 1], .link (by decide) (.root rfl), by decide, by decide, by decide⟩
      · exact ⟨[1], .root rfl, by decide, by decide, by decide⟩
      · exact ⟨[2], .root rfl, by decide, by decide, by decide⟩
    · intro _; decide
    rintro v1 h1
    obtain rfl := Option.some.inj h1
    refine ⟨by decide, ?_⟩
    rintro c v2 h2
    obtain ⟨rfl, rfl⟩ := Prod.mk.inj (Option.some.inj h2)
    refine ⟨by decide, by decide, ?_, by decide, fun _ => by decide, fun _ _ => trivial⟩
    intro n hn
    obtain rfl | rfl | rfl : n = 0 ∨ n = 1 ∨ n = 2 := by have : n < 3 := hn; omega
    · exact ⟨[0, 1, 2], .link (by decide) (.link (by decide) (.root rfl)), by decide, by decide, by decide⟩
    · exact ⟨[1, 2], .link (by decide) (.root rfl), by decide, by decide, by decide⟩
    · exact ⟨[2], .root rfl, by decide, by decide, by decide⟩
  exact ⟨hlegal, virtualNet_read_eq_walk v 0 hforest rfl
    (fun n _ => ⟨[n], hself n, rfl, rfl⟩) (Int.le_refl 0) (fun _ _ => Int.le_refl 0) _ hlegal⟩

end Cvc
