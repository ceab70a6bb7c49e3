import Cvc.Lemmas.VirtualNet
import Cvc.NetLinks

/-!
# Rerouting nets

One round of `ShiftVirtualNets` reads a net and links it to the net before it, which now leads to the final net another way. The
links stay a forest because the new way is the shorter one: a net on the chain of another one never has more resistance.
`Shifting` is what holds before a round, and `Shifted` what the rounds from there on do.
-/

namespace Cvc

open Function (update update_self update_of_ne)
open Forest Program List

namespace CVirtualNetVector

variable {v v' t : CVirtualNetVector} {n m k r f R : Nat} {p q : List Nat} {rest shifted : List Nat} {B y : Nat}

/-- The chain of a net stays in the table, and has this end and this resistance. -/
def Ends (v : CVirtualNetVector) (n f r : Nat) : Prop :=
  ∃ p, Chain v.next n p ∧ (∀ m ∈ p, m < v.size) ∧ p.getLast? = some f ∧ (p.map v.linkResistance).sum = r

theorem Ends.walksTo (h : v.Ends n f r) : v.WalksTo n f (min maxResistance r) := by
  obtain ⟨p, hp, -, hf, hr⟩ := h
  exact ⟨p, hp, hf, by rw [hr]⟩

theorem Ends.unique {f' r' : Nat} (h : v.Ends n f r) (h' : v.Ends n f' r') : f = f' ∧ r = r' := by
  obtain ⟨p, hp, -, hf, hr⟩ := h
  obtain ⟨q, hq, -, hf', hr'⟩ := h'
  obtain rfl := hp.unique hq
  exact ⟨Option.some.inj (hf.symm.trans hf'), hr.symm.trans hr'⟩

theorem isTerminal_iff : v.isTerminal n = true ↔ v.next n = n := by
  unfold isTerminal
  rw [beq_iff_eq]
  exact eq_comm

/-- The cache of every net whose stamp is not older than the last link set is right. -/
def HasExactFinals (v : CVirtualNetVector) : Prop :=
  ∀ n < v.size, v.lastUpdate ≤ v.lastUpdateV n → v.WalksTo n (v.net n).finalNetId (v.net n).finalResistance

/-- No stamp is later than the last link set, and the caches are right. -/
def UpToDate (v : CVirtualNetVector) : Prop := (∀ n < v.size, v.lastUpdateV n ≤ v.lastUpdate) ∧ v.HasExactFinals

/-! ## A read -/

/-- A read of a net changes at most its cache. -/
structure ReadAt (v v' : CVirtualNetVector) (n : Nat) : Prop where
  size_eq : v'.size = v.size
  allocated_eq : v'.lastUpdateSize = v.lastUpdateSize
  update_eq : v'.lastUpdate = v.lastUpdate
  next_eq : v'.next = v.next
  resistance_eq : v'.linkResistance = v.linkResistance
  net_eq : ∀ m, m ≠ n → v'.net m = v.net m
  stamp_eq : ∀ m, m ≠ n → v'.lastUpdateV m = v.lastUpdateV m

theorem ReadAt.refl : ReadAt v v n := ⟨rfl, rfl, rfl, rfl, rfl, fun _ _ => rfl, fun _ _ => rfl⟩

theorem ReadAt.storeFinal : ReadAt v (v.storeFinal n f r v.lastUpdate) n where
  size_eq := rfl
  allocated_eq := rfl
  update_eq := rfl
  next_eq := next_storeFinal ..
  resistance_eq := linkResistance_storeFinal ..
  net_eq _ hm := net_storeFinal_of_ne v _ _ _ hm
  stamp_eq _ hm := update_of_ne hm _ _

/-- A read of a net with a short chain returns its link and the end of the chain, which is in the cache afterwards. -/
theorem operatorCall_of_chain (hp : Chain v.next n p) (hn : n < v.size) (hlen : p.length ≤ 5001) (hf : p.getLast? = some f)
    (hmax : (p.map v.linkResistance).sum < maxResistance) (halloc : 0 < v.lastUpdateSize)
    (hcache : v.lastUpdate ≤ v.lastUpdateV n → v.WalksTo n (v.net n).finalNetId (v.net n).finalResistance) :
    ∃ v', CVirtualNet.operatorCall v n = some (⟨v.next n, v.linkResistance n, f, (p.map v.linkResistance).sum⟩, v') ∧
      ReadAt v v' n ∧
      (v'.net n).finalNetId = f ∧ (v'.net n).finalResistance = (p.map v.linkResistance).sum := by
  have hne : n ≠ unknownNet := Nat.ne_of_lt (Nat.lt_of_lt_of_le hn v.size_le)
  have hmin := Nat.min_eq_right (Nat.le_of_lt hmax)
  have hwalk := walkLinks_eq_of_chain hp (by omega) hf
  rw [hmin] at hwalk
  unfold CVirtualNet.operatorCall
  rw [if_neg hne]
  by_cases hold : v.lastUpdateV n < v.lastUpdate
  · refine ⟨v.storeFinal n f (p.map v.linkResistance).sum v.lastUpdate, ?_, .storeFinal, ?_, ?_⟩
    · simp [halloc, hold, hwalk, hmax]
    · simp [CVirtualNetVector.storeFinal]
    · simp [CVirtualNetVector.storeFinal]
  · obtain ⟨hfinal, hresistance⟩ := (hcache (Int.not_lt.1 hold)).unique ⟨p, hp, hf, rfl⟩
    rw [hmin] at hresistance
    refine ⟨v, ?_, .refl, hfinal, hresistance⟩
    simp [hold, hfinal, hresistance, hmax]

/-! ## A link set -/

/-- A net was linked to another one at a later time, and the end of its chain stored. -/
structure Relinked (v v' : CVirtualNetVector) (n k r : Nat) : Prop where
  size_eq : v'.size = v.size
  allocated_eq : v'.lastUpdateSize = v.lastUpdateSize
  update_eq : v'.lastUpdate = v.lastUpdate + 1
  next_eq : v'.next = update v.next n k
  resistance_eq : v'.linkResistance = update v.linkResistance n r
  net_eq : ∀ m, m ≠ n → v'.net m = v.net m
  stamp_eq : ∀ m, m ≠ n → v'.lastUpdateV m = v.lastUpdateV m
  stamp_self : v'.lastUpdateV n = v'.lastUpdate
  cached : v'.WalksTo n (v'.net n).finalNetId (v'.net n).finalResistance

/-- After a link set no other cache counts, so all are right. -/
theorem Relinked.upToDate (h : Relinked v v' n k r) (hstamp : ∀ m < v.size, m ≠ n → v.lastUpdateV m ≤ v.lastUpdate) :
    v'.UpToDate := by
  have hupdate := h.update_eq
  have hold : ∀ m < v'.size, m ≠ n → v'.lastUpdateV m < v'.lastUpdate := by
    intro m hm hmn
    have := hstamp m (h.size_eq ▸ hm) hmn
    rw [h.stamp_eq m hmn]
    omega
  constructor
  · intro m hm
    by_cases hmn : m = n
    · rw [hmn, h.stamp_self]
    · exact Int.le_of_lt (hold m hm hmn)
  · intro m hm hfresh
    by_cases hmn : m = n
    · rw [hmn]
      exact h.cached
    · exact absurd (hold m hm hmn) (Int.not_lt.2 hfresh)

/-- A link to a net whose short chain does not come back is set. -/
theorem set_of_chain (hq : Chain v.next k q) (hk : k < v.size) (hn : n ∉ q) (hlen : q.length ≤ 5000) (r : Nat) :
    ∃ v', v.setLater n k r = some v' ∧ Relinked v v' n k r := by
  have hback : v.advance.linksBack n k = false := by
    unfold linksBack
    cases hq with
    | root h =>
      have hkn : v.advance.next k = k := h
      simp [hkn]
    | link h hq =>
      have hnext : v.advance.next k ≠ n := fun h' => hn (mem_cons_of_mem _ (h' ▸ hq.head_mem))
      simp [hnext]
  have hnext : (v.advance.link n k r).next n = k := by rw [next_link, update_self]
  have hkn : k ≠ n := fun h => hn (h ▸ hq.head_mem)
  have hchain : Chain (v.advance.link n k r).next n (n :: q) := by
    refine .link (by rwa [hnext]) ?_
    rw [hnext, next_link]
    exact hq.congr fun x hx => update_of_ne (fun h : x = n => hn (h ▸ hx)) _ _
  have hlast := getLast?_eq_getLast_of_ne_nil (cons_ne_nil n q)
  have hwalk := walkLinks_eq_of_chain hchain (by simp only [length_cons]; omega) hlast
  refine ⟨(v.advance.link n k r).storeFinal n ((n :: q).getLast (cons_ne_nil n q))
    (min maxResistance ((n :: q).map (v.advance.link n k r).linkResistance).sum) v.advance.lastUpdate, ?_, ?_⟩
  · unfold setLater set
    dsimp only
    rw [if_neg (by simp [hback]), hnext, if_neg (Nat.ne_of_lt (Nat.lt_of_lt_of_le hk v.size_le)), hwalk]
    rfl
  · refine ⟨rfl, rfl, rfl, ?_, ?_, fun m hm => ?_, fun m hm => update_of_ne hm _ _, update_self .., ?_⟩
    · exact (next_storeFinal ..).trans (next_link ..)
    · exact (linkResistance_storeFinal ..).trans (linkResistance_link ..)
    · exact (net_storeFinal_of_ne _ _ _ _ hm).trans (net_link_of_ne v.advance k r hm)
    · refine .of_links (v := v.advance.link n k r) ⟨n :: q, hchain, ?_, ?_⟩ (next_storeFinal ..) (linkResistance_storeFinal ..)
      · simp [CVirtualNetVector.storeFinal, hlast]
      · simp [CVirtualNetVector.storeFinal]

section
variable (h : Relinked v v' n k r)
include h

/-- What a link does to the end of a net: nothing if its chain does not pass through the linked net, and otherwise the resistance
gets no larger if that of the linked net does not. -/
theorem Relinked.ends (hp : Chain v.next n p) (hq : Chain v.next k q) (hn : n ∉ q)
    (hlt : ∀ x ∈ q, x < v.size) (hlast : q.getLast? = p.getLast?) (he : v.Ends m f R) :
    ∃ R', v'.Ends m f R' ∧ (r + (q.map v.linkResistance).sum ≤ (p.map v.linkResistance).sum → R' ≤ R) := by
  obtain ⟨l, hl, hllt, hf, hR⟩ := he
  have hchain : Chain v'.next m (Forest.redirect n q l) := by
    rw [h.next_eq]
    exact hl.update hq hn
  have hother : ∀ x, x ≠ n → v'.linkResistance x = v.linkResistance x := by
    intro x hx
    rw [h.resistance_eq, update_of_ne hx]
  have hsum : q.map v'.linkResistance = q.map v.linkResistance :=
    map_congr_left fun x hx => hother x fun hxn => hn (hxn ▸ hx)
  refine ⟨_, ⟨_, hchain, fun x hx => ?_, getLast?_redirect hf fun hnl => ?_, rfl⟩, fun hle => ?_⟩
  · rw [h.size_eq]
    exact (mem_redirect hx).elim (hllt x) (hlt x)
  · rw [hlast, hl.getLast?_of_mem hnl hp, hf]
  · rw [← hR]
    refine hl.sum_redirect_le hp hother ?_
    rwa [hsum, h.resistance_eq, update_self]

theorem Relinked.chain_of_not_mem (hp : Chain v.next m p) (hn : n ∉ p) :
    Chain v'.next m p ∧ p.map v'.linkResistance = p.map v.linkResistance := by
  have hne : ∀ x ∈ p, x ≠ n := fun x hx hxn => hn (hxn ▸ hx)
  rw [h.next_eq, h.resistance_eq]
  exact ⟨hp.congr fun x hx => update_of_ne (hne x hx) _ _, map_congr_left fun x hx => update_of_ne (hne x hx) _ _⟩

/-- The linked net leads to the other one. -/
theorem Relinked.chain_self (hq : Chain v.next k q) (hn : n ∉ q) :
    Chain v'.next n (n :: q) ∧ ((n :: q).map v'.linkResistance).sum = r + (q.map v.linkResistance).sum := by
  obtain ⟨hchain, hsum⟩ := h.chain_of_not_mem hq hn
  have hnext : v'.next n = k := by rw [h.next_eq, update_self]
  refine ⟨.link ?_ (by rwa [hnext]), ?_⟩
  · rw [hnext]
    exact fun hkn => hn (hkn ▸ hq.head_mem)
  · rw [map_cons, sum_cons, hsum, h.resistance_eq, update_self]

end

/-! ## A round of the shift -/

/-- Before a round: the net `y` linked last leads to the final net with the resistance `S`, and the net that the virtual net
`last` leads to, from which the rest of the old chain goes on, is still where it was. -/
structure Shifting (v : CVirtualNetVector) (f y : Nat) (q : List Nat) (S : Nat) (last : CVirtualNet) (rest : List Nat)
    (D : Nat) : Prop where
  source : Chain v.next y q
  source_lt : ∀ m ∈ q, m < v.size
  source_last : q.getLast? = some f
  source_sum : (q.map v.linkResistance).sum = S
  drain : Chain v.next last.nextNetId rest
  drain_lt : ∀ m ∈ rest, m < v.size
  drain_last : rest.getLast? = some f
  drain_sum : last.resistance + (rest.map v.linkResistance).sum = D
  drain_max : D < maxResistance
  length_le : q.length + rest.length ≤ 5000
  allocated : 0 < v.lastUpdateSize
  cached : ∀ m ∈ rest, v.lastUpdate ≤ v.lastUpdateV m → v.WalksTo m (v.net m).finalNetId (v.net m).finalResistance

/-- The state before a round, when the first net of the old chain is linked to the new way. -/
theorem Relinked.shifting {D : Nat} (h : Relinked v v' n k r) (hq : Chain v.next k q)
    (hqlt : ∀ m ∈ q, m < v.size) (hqlast : q.getLast? = some f) (hn : n ∉ q)
      (hrest : Chain v.next (v.next n) rest) (hnot : n ∉ rest)
    (hlt : ∀ m ∈ n :: rest, m < v.size) (hlast : (n :: rest).getLast? = some f)
      (hsum : ((n :: rest).map v.linkResistance).sum = D)
    (hmax : D < maxResistance) (hlen : q.length + (n :: rest).length ≤ 5000) (hallocated : 0 < v.lastUpdateSize)
    (hcached : ∀ m ∈ rest, v.lastUpdate ≤ v.lastUpdateV m → v.WalksTo m (v.net m).finalNetId (v.net m).finalResistance)
    (next : CVirtualNet) (hnext : next.nextNetId = v.next n) (hres : next.resistance = v.linkResistance n) :
    Shifting v' f n (n :: q) (r + (q.map v.linkResistance).sum) next rest D := by
  obtain ⟨hsource, hsourceSum⟩ := h.chain_self hq hn
  obtain ⟨hdrain, hdrainSum⟩ := h.chain_of_not_mem hrest hnot
  rw [forall_mem_cons, ← h.size_eq] at hlt
  rw [← h.size_eq] at hqlt
  refine ⟨hsource, forall_mem_cons.2 ⟨hlt.1, hqlt⟩, ?_, hsourceSum, hnext ▸ hdrain, hlt.2, ?_, ?_, hmax, ?_, ?_, ?_⟩
  · rwa [getLast?_cons_of_ne_nil hq.ne_nil]
  · rwa [getLast?_cons_of_ne_nil hrest.ne_nil] at hlast
  · rw [hdrainSum, hres]
    exact hsum
  · simp only [length_cons] at hlen ⊢
    omega
  · rwa [h.allocated_eq]
  · intro m hm hfresh
    obtain ⟨p, hp, hmp⟩ := hrest.tail_of_mem hm
    have hmn : m ≠ n := fun heq => hnot (heq ▸ hm)
    rw [h.update_eq, h.stamp_eq m hmn] at hfresh
    rw [h.net_eq m hmn]
    have hne : ∀ x ∈ p, x ≠ n := fun x hx hxn => hnot (hp.mem (hxn ▸ hx))
    -- the chain of the net does not pass through the linked net
    refine .congr hmp (fun x hx => ?_) (fun x hx => ?_) (hcached m hm (by omega))
    · rw [h.next_eq, update_of_ne (hne x hx)]
    · rw [h.resistance_eq, update_of_ne (hne x hx)]

namespace Shifting

variable {y S D : Nat} {last : CVirtualNet} {rest : List Nat}

section
variable (h : Shifting v f y q S last rest D)
include h

/-- The next net of the old chain is not on the new way, when that is the shorter one. -/
theorem not_mem (hlt : (S : Int) + last.resistance < D - last.resistance) : last.nextNetId ∉ q := by
  intro hmem
  have hle := h.source.sum_le_of_mem hmem h.drain v.linkResistance
  have hS := h.source_sum
  have hD := h.drain_sum
  omega

/-- The rest of the old chain behind its next net, which is not the final net. -/
theorem rest_eq (hlt : (S : Int) + last.resistance < D - last.resistance) :
    ∃ rest', rest = last.nextNetId :: rest' ∧ Chain v.next (v.next last.nextNetId) rest' ∧ last.nextNetId ∉ rest' := by
  rcases h.drain.eq_or with ⟨-, hrest⟩ | ⟨hne, rest', rfl, hrest⟩
  · have hf : last.nextNetId = f := by simpa [hrest] using h.drain_last
    have hmem : last.nextNetId ∈ q := hf ▸ mem_of_getLast? h.source_last
    exact absurd hmem (h.not_mem hlt)
  · exact ⟨rest', rfl, hrest, hrest.not_mem_of_link hne⟩

/-- The read of a round. -/
theorem read : ∃ v', CVirtualNet.operatorCall v last.nextNetId =
        some (⟨v.next last.nextNetId, v.linkResistance last.nextNetId, f, D - last.resistance⟩, v') ∧ ReadAt v v' last.nextNetId ∧
      (v'.net last.nextNetId).finalResistance = D - last.resistance ∧ Shifting v' f y q S last rest D := by
  have hsum : (rest.map v.linkResistance).sum = D - last.resistance := by
    have := h.drain_sum
    omega
  have hlen := h.length_le
  have hmax := h.drain_max
  obtain ⟨v', hcall, hread, hfinal, hresistance⟩ := operatorCall_of_chain h.drain (h.drain_lt _ h.drain.head_mem)
    (by omega) h.drain_last
    (by omega) h.allocated (h.cached _ h.drain.head_mem)
  rw [hsum] at hcall hresistance
  refine ⟨v', hcall, hread, hresistance, ?_⟩
  obtain ⟨hsize, hallocated, hupdate, hnext, hres, hnet, hstamp⟩ := hread
  refine ⟨?_, ?_, h.source_last, ?_, ?_, ?_, h.drain_last, ?_, hmax, hlen, ?_, fun m hm hfresh => ?_⟩
  · rw [hnext]
    exact h.source
  · rw [hsize]
    exact h.source_lt
  · rw [hres]
    exact h.source_sum
  · rw [hnext]
    exact h.drain
  · rw [hsize]
    exact h.drain_lt
  · rw [hres]
    exact h.drain_sum
  · rw [hallocated]
    exact h.allocated
  · refine .of_links (v := v) ?_ hnext hres
    by_cases hmx : m = last.nextNetId
    · subst hmx
      rw [hfinal, hresistance]
      exact ⟨rest, h.drain, h.drain_last, by omega⟩
    · rw [hupdate, hstamp m hmx] at hfresh
      rw [hnet m hmx]
      exact h.cached m hm hfresh

/-- The link of a round: the next net of the old chain is the one linked last. -/
theorem relinked (hlt : (S : Int) + last.resistance < D - last.resistance)
    (hlink : Relinked v v' last.nextNetId y last.resistance) (next : CVirtualNet) (hnext : next.nextNetId = v.next last.nextNetId)
    (hres : next.resistance = v.linkResistance last.nextNetId) :
    Shifting v' f last.nextNetId (last.nextNetId :: q) (S + last.resistance) next rest.tail (D - last.resistance) := by
  obtain ⟨rest', rfl, hrest, hnot⟩ := h.rest_eq hlt
  have hD := h.drain_sum
  have hmax := h.drain_max
  have hlen := h.length_le
  rw [← h.source_sum, Nat.add_comm, tail_cons]
  exact hlink.shifting h.source h.source_lt h.source_last (h.not_mem hlt) hrest hnot h.drain_lt h.drain_last (by omega) (by omega)
    (by omega) h.allocated (fun m hm => h.cached m (mem_cons_of_mem _ hm)) next hnext hres

end
end Shifting

/-! ## The rounds of a shift -/

/-- What the rounds do to a table in which the rest of the old chain begins with the nets `shifted`: these are turned round. `B`
is the resistance of the first one through the device. -/
structure Shifted (v t : CVirtualNetVector) (f B : Nat) (q rest shifted : List Nat) : Prop where
  size_eq : t.size = v.size
  initial : ∃ kept, rest = shifted ++ kept
  next_eq : ∀ n, n ∉ shifted → t.next n = v.next n
  resistance_eq : ∀ n, n ∉ shifted → t.linkResistance n = v.linkResistance n
  not_mem : ∀ n ∈ q, n ∉ shifted
  ends : ∀ n e r, v.Ends n e r → ∃ r', t.Ends n e r' ∧ r' ≤ r
  through : ∀ p₁ n p₂, shifted = p₁ ++ n :: p₂ → t.Ends n f (B + (p₁.map v.linkResistance).sum) ∧
    ∀ r, v.Ends n f r → B + (p₁.map v.linkResistance).sum < r

/-- No round is made. -/
theorem Shifted.refl : Shifted v v f B q rest [] where
  size_eq := rfl
  initial := ⟨rest, rfl⟩
  next_eq _ _ := rfl
  resistance_eq _ _ := rfl
  not_mem _ _ := not_mem_nil
  ends _ _ r h := ⟨r, h, Nat.le_refl r⟩
  through p₁ n p₂ h := by simp at h

theorem Shifted.of_readAt (hread : ReadAt v v' n) (h : Shifted v' t f B q rest shifted) : Shifted v t f B q rest shifted := by
  have hends : v'.Ends = v.Ends := by
    unfold Ends
    rw [hread.next_eq, hread.resistance_eq, hread.size_eq]
  refine ⟨h.size_eq.trans hread.size_eq, h.initial, ?_, ?_, h.not_mem, ?_, ?_⟩
  · rw [← hread.next_eq]
    exact h.next_eq
  · rw [← hread.resistance_eq]
    exact h.resistance_eq
  · rw [← hends]
    exact h.ends
  · rw [← hends, ← hread.resistance_eq]
    exact h.through

/-- The net linked last is not touched by the rounds after it. -/
theorem Shifted.ends_source (h : Shifted v t f B q rest shifted) (hq : Chain v.next y q)
    (hlt : ∀ m ∈ q, m < v.size) (hlast : q.getLast? = some f) : t.Ends y f (q.map v.linkResistance).sum := by
  refine ⟨q, hq.congr fun m hm => h.next_eq m (h.not_mem m hm), fun m hm => ?_, hlast, ?_⟩
  · rw [h.size_eq]
    exact hlt m hm
  · rw [map_congr_left fun m hm => h.resistance_eq m (h.not_mem m hm)]

/-- A net whose chain does not pass through the linked net keeps its end. -/
theorem Relinked.ends_of_not_mem (h : Relinked v v' n k r) {e : Nat} (hp : Chain v.next m p) (hn : n ∉ p) (he : v.Ends m e R) :
    v'.Ends m e R := by
  obtain ⟨l, hl, hlt, hlast, rfl⟩ := he
  obtain rfl := hl.unique hp
  obtain ⟨hl, hsum⟩ := h.chain_of_not_mem hl hn
  exact ⟨l, hl, fun x hx => by rw [h.size_eq]; exact hlt x hx, hlast, by rw [hsum]⟩

/-- A round and those after it. -/
theorem Shifting.cons {S D : Nat} {last : CVirtualNet} (h : Shifting v f y q S last rest D)
    (hlt : (S : Int) + last.resistance < D - last.resistance) (hlink : Relinked v v' last.nextNetId y last.resistance)
    (hrest : Shifted v' t f (S + last.resistance + v.linkResistance last.nextNetId) (last.nextNetId :: q) rest.tail shifted) :
    Shifted v t f (S + last.resistance) q rest (last.nextNetId :: shifted) := by
  obtain ⟨rest', rfl, htail, hnot⟩ := h.rest_eq hlt
  have hS := h.source_sum
  have hD := h.drain_sum
  obtain ⟨kept, hkept⟩ := hrest.initial
  rw [tail_cons] at hkept
  refine ⟨hrest.size_eq.trans hlink.size_eq, ⟨kept, by rw [hkept]; rfl⟩, ?_, ?_, ?_, ?_, ?_⟩
  · intro n hn
    obtain ⟨hne, hn⟩ := not_or.1 (mem_cons.not.1 hn)
    rw [hrest.next_eq n hn, hlink.next_eq, update_of_ne hne]
  · intro n hn
    obtain ⟨hne, hn⟩ := not_or.1 (mem_cons.not.1 hn)
    rw [hrest.resistance_eq n hn, hlink.resistance_eq, update_of_ne hne]
  · intro n hn
    refine mem_cons.not.2 (not_or.2 ⟨fun heq => h.not_mem hlt (heq ▸ hn), ?_⟩)
    exact hrest.not_mem n (mem_cons_of_mem _ hn)
  · intro n e r hends
    obtain ⟨r1, hends1, hle1⟩ :=
      hlink.ends h.drain h.source (h.not_mem hlt) h.source_lt (h.source_last.trans h.drain_last.symm) hends
    obtain ⟨r', hends', hle'⟩ := hrest.ends n e r1 hends1
    exact ⟨r', hends', by omega⟩
  · intro p₁ n p₂ heq
    have hnext := h.relinked hlt hlink ⟨v.next last.nextNetId, v.linkResistance last.nextNetId, f, 0⟩ rfl rfl
    cases p₁ with
    | nil =>
      obtain ⟨rfl, rfl⟩ := cons.inj heq
      refine ⟨?_, fun r hr => ?_⟩
      · have hends := hrest.ends_source hnext.source hnext.source_lt hnext.source_last
        rwa [hnext.source_sum] at hends
      · obtain ⟨-, rfl⟩ := hr.unique ⟨_, h.drain, h.drain_lt, h.drain_last, rfl⟩
        simp only [map_nil, sum_nil]
        omega
    | cons x p₁ =>
      obtain ⟨rfl, rfl⟩ := cons.inj heq
      have hsub : ∀ m, m ∈ p₁ ++ n :: p₂ → m ∈ rest' := fun m hm => hkept ▸ mem_append_left kept hm
      have hsame : p₁.map v'.linkResistance = p₁.map v.linkResistance := by
        refine map_congr_left fun m hm => ?_
        rw [hlink.resistance_eq, update_of_ne fun hmx : m = last.nextNetId => hnot (hmx ▸ hsub m (mem_append_left _ hm))]
      obtain ⟨hends, hshorter⟩ := hrest.through p₁ n p₂ rfl
      rw [hsame] at hends hshorter
      rw [map_cons, sum_cons, ← Nat.add_assoc]
      obtain ⟨p, hp, hchain⟩ := htail.tail_of_mem (hsub n (by simp))
      exact ⟨hends, fun r hr => hshorter r (hlink.ends_of_not_mem hchain (fun hmem => hnot (hp.mem hmem)) hr)⟩

end CVirtualNetVector
end Cvc
