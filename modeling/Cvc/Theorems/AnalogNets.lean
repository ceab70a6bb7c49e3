import Cvc.AnalogNets
import Cvc.Lemmas.Propagation
import Cvc.Lib.Marking
import Cvc.Netlist

/-!
# The marked analog nets

The nets that `SetAnalogNets` marks are reached from a base net through sources and drains and at most one gate. The search keeps
one bit for each net, so a net that is first reached behind a gate is not searched again when it is reached without one, and the
nets behind its own gates may be missed. Which net is reached first depends on the order of the nets. A net can be reached behind
a gate first only if there is a way to that gate that does not lead through the net itself.
-/

namespace Cvc

open Function (update update_self update_of_ne)
open Marking Relation List

namespace FlatCircuit

section Reach
variable (c : FlatCircuit) (s : NetState)

/-- Some of the devices are not shorted and have the net at their source or drain. The net has no power. -/
def LeadsTo (devices : List Nat) (n : Nat) : Prop :=
  ∃ d ∈ devices, c.isShorted s d = false ∧ n ∈ c.endNets s d ∧ s.netVoltagePtr n = none

/-- From a source or drain of a device to its source or drain. -/
def ChannelStep (n m : Nat) : Prop := c.LeadsTo s (c.sources n ++ c.drains n) m

/-- From the gate of a device to its source or drain. -/
def GateStep (n m : Nat) : Prop := c.LeadsTo s (c.gates n) m

/-- The net is reached from a base net through sources and drains. -/
def Conducts (n : Nat) : Prop := ∃ b ∈ c.baseNets s, ReflTransGen (c.ChannelStep s) b n

/-- The net is reached through one gate, at one of the nets `P`, and then through sources and drains. -/
def BehindGate (P : Nat → Prop) (n : Nat) : Prop := ∃ z m, P z ∧ c.GateStep s z m ∧ ReflTransGen (c.ChannelStep s) m n

/-- The net is reached from a base net through sources and drains and at most one gate. -/
def IsAnalog (n : Nat) : Prop := c.Conducts s n ∨ c.BehindGate s (c.Conducts s) n

/-- The net is reached from another base net through sources and drains, on a way around `z`. -/
def ConductsAround (z n : Nat) : Prop := ∃ b ∈ c.baseNets s, b ≠ z ∧ ReflTransGen (fun x y => c.ChannelStep s x y ∧ y ≠ z) b n

/-- The gates of the net are followed in every order: it is a base net, or a net that is reached without a gate and cannot be
reached behind one before. -/
def GatesFollowed (z : Nat) : Prop := c.Conducts s z ∧ (z ∈ c.baseNets s ∨ ¬ c.BehindGate s (c.ConductsAround s z) z)

/-- The net is reached from a base net through sources and drains and at most one gate, at a net whose gates are always followed.
-/
def IsSurelyAnalog (n : Nat) : Prop := c.Conducts s n ∨ c.BehindGate s (c.GatesFollowed s) n

/-- The steps that the search takes from every new mark. -/
def SearchStep (n m : Nat) : Prop := c.ChannelStep s n m ∨ c.GateStep s n m ∧ ¬ c.BehindGate s (c.ConductsAround s n) n

/-- How a net has been reached that is searched when a number of gates has been passed: on a way of nets that are marked. -/
def IsSearched (analog : Nat → Bool) (theGateCount n : Nat) : Prop :=
  if theGateCount = 0 then c.Conducts s n ∧ ∀ z, analog z = false → z ≠ n → c.ConductsAround s z n
  else c.BehindGate s (c.Conducts s) n ∧ ∀ z, analog z = false → c.BehindGate s (c.ConductsAround s z) n

/-- ... and the nets that are marked then. -/
def IsAllowed (theGateCount n : Nat) : Prop := if theGateCount = 0 then c.IsAnalog s n else c.BehindGate s (c.Conducts s) n

/-- The nets at the sources and drains. -/
def channelNets : Finset Nat := ((List.range c.deviceCount).flatMap (c.endNets s)).toFinset

end Reach

variable {c : FlatCircuit} {s : NetState} {n m : Nat} {analog : Nat → Bool}

theorem LeadsTo.mem_channelNets {devices : List Nat} (h : c.LeadsTo s devices m) (hlt : ∀ d ∈ devices, d < c.deviceCount) :
    m ∈ c.channelNets s := by
  obtain ⟨d, hd, -, hm, -⟩ := h
  exact mem_toFinset.2 (mem_flatMap.2 ⟨d, mem_range.2 (hlt d hd), hm⟩)

theorem BehindGate.tail {P : Nat → Prop} (h : c.BehindGate s P n) (hstep : c.ChannelStep s n m) : c.BehindGate s P m := by
  obtain ⟨z, y, hz, hy, hn⟩ := h
  exact ⟨z, y, hz, hy, hn.tail hstep⟩

theorem IsSearched.allowed {gateCount : Nat} (h : c.IsSearched s analog gateCount n) : c.IsAllowed s gateCount n := by
  unfold IsSearched at h
  unfold IsAllowed
  split_ifs at h ⊢
  · exact .inl h.1
  · exact h.1

section
variable {a : Nat → Bool} (hmono : ∀ x, update analog n true x = true → a x = true)
include hmono

/-- What is not marked yet when the search goes on from a net has not been met. -/
theorem unmarked_of_mono {z : Nat} (hz : a z = false) : z ≠ n ∧ analog z = false := by
  have hnot : update analog n true z ≠ true := fun h => nomatch hz.symm.trans (hmono z h)
  have hne : z ≠ n := fun h => hnot (h ▸ update_self ..)
  rw [update_of_ne hne] at hnot
  exact ⟨hne, Bool.eq_false_iff.2 hnot⟩

theorem IsSearched.step {gateCount : Nat} (h : c.IsSearched s analog gateCount n) (hstep : c.ChannelStep s n m) :
    c.IsSearched s a gateCount m := by
  unfold IsSearched at h ⊢
  split_ifs at h ⊢
  · obtain ⟨⟨b, hb, hn⟩, haround⟩ := h
    refine ⟨⟨b, hb, hn.tail hstep⟩, fun z hz hne => ?_⟩
    obtain ⟨hzn, hz⟩ := unmarked_of_mono hmono hz
    obtain ⟨b, hb, hbz, hn⟩ := haround z hz hzn
    exact ⟨b, hb, hbz, hn.tail ⟨hstep, hne.symm⟩⟩
  · exact ⟨h.1.tail hstep, fun z hz => (h.2 z (unmarked_of_mono hmono hz).2).tail hstep⟩

theorem IsSearched.gate (h : c.IsSearched s analog 0 n) (hstep : c.GateStep s n m) : c.IsSearched s a 1 m := by
  obtain ⟨hn, haround⟩ := h
  refine ⟨⟨n, m, hn, hstep, .refl⟩, fun z hz => ?_⟩
  obtain ⟨hzn, hz⟩ := unmarked_of_mono hmono hz
  exact ⟨n, m, haround z hz hzn, hstep, .refl⟩

end

/-! ## The search -/

/-- The loop over the devices at a terminal marks all that they lead to. -/
theorem propagateAnalogNetTypeByTerminal_extends {step : Nat → Nat → Prop} {R : Nat → Prop} {I : (Nat → Bool) → Prop}
    {propagate : (Nat → Bool) → Nat → Except Failure (Nat → Bool)} {devices : List Nat}
    (hI : ∀ a a', (∀ x, a x = true → a' x = true) → I a → I a') (hpropagate : ∀ a n, c.LeadsTo s devices n → a n = false → I a →
      ∃ a', propagate a n = .ok a' ∧ Extends step R a a' ∧ a' n = true) (h : I analog) :
    ∃ a', c.propagateAnalogNetTypeByTerminal s propagate devices analog = .ok a' ∧ Extends step R analog a' ∧
      ∀ n, c.LeadsTo s devices n → a' n = true := by
  have hnet : ∀ d ∈ devices, c.isShorted s d = false → ∀ n ∈ c.endNets s d, ∀ a, I a →
      ∃ a', (if (s.netVoltagePtr n).isSome || a n then pure a else propagate a n) = .ok a' ∧ Extends step R a a' ∧
        (s.netVoltagePtr n = none → a' n = true) := by
    intro d hd hshort n hn a ha
    split_ifs with hskip
    · refine ⟨a, rfl, .refl a, fun hpower => ?_⟩
      simpa [hpower] using hskip
    · obtain ⟨hpower, hnew⟩ : s.netVoltagePtr n = none ∧ a n = false := by simpa using hskip
      obtain ⟨a', hrun, hext, hmarked⟩ := hpropagate a n ⟨d, hd, hshort, hn, hpower⟩ hnew ha
      exact ⟨a', hrun, hext, fun _ => hmarked⟩
  have hdevice : ∀ d ∈ devices, ∀ a, I a → ∃ a', (if c.isShorted s d then pure a else (c.endNets s d).foldlM (fun analog net =>
          if (s.netVoltagePtr net).isSome || analog net then pure analog else propagate analog net) a) = .ok a' ∧
            Extends step R a a' ∧
        (c.isShorted s d = false → ∀ n ∈ c.endNets s d, s.netVoltagePtr n = none → a' n = true) := by
    intro d hd a ha
    split_ifs with hshort
    · exact ⟨a, rfl, .refl a, fun h => nomatch hshort.symm.trans h⟩
    · obtain ⟨a', hrun, hext, hmarked⟩ := foldlM_extends (Q := fun n a => s.netVoltagePtr n = none → a n = true) hI
        (fun n a a' hmono h hpower => hmono n (h hpower)) (hnet d hd (by simpa using hshort)) ha
      exact ⟨a', hrun, hext, fun _ => hmarked⟩
  obtain ⟨a', hrun, hext, hmarked⟩ := foldlM_extends
    (Q := fun d a => c.isShorted s d = false → ∀ n ∈ c.endNets s d, s.netVoltagePtr n = none → a n = true) hI
    (fun d a a' hmono h hd n hn hpower => hmono n (h hd n hn hpower)) hdevice h
  exact ⟨a', hrun, hext, fun n ⟨d, hd, hshort, hn, hpower⟩ => hmarked d hd hshort n hn hpower⟩

/-- What a search from a net does. -/
def Searches (c : FlatCircuit) (s : NetState) (depth gateCount : Nat) : Prop :=
  ∀ (analog : Nat → Bool) (n : Nat), c.IsSearched s analog gateCount n → left (c.channelNets s) (update analog n true) < depth →
    ∃ a', c.propagateAnalogNetType s depth gateCount analog n = .ok a' ∧
      Extends (c.SearchStep s) (c.IsAllowed s gateCount) analog a' ∧ a' n = true ∧
      (gateCount = 0 → ∀ m, c.GateStep s n m → a' m = true)

theorem Searches.byTerminal {depth gateCount : Nat} {devices : List Nat} (ih : c.Searches s depth gateCount)
    (hlt : ∀ d ∈ devices, d < c.deviceCount)
    (hsearched : ∀ a n, (∀ x, analog x = true → a x = true) → c.LeadsTo s devices n → c.IsSearched s a gateCount n)
    (h : left (c.channelNets s) analog < depth + 1) :
    ∃ a', c.propagateAnalogNetTypeByTerminal s (c.propagateAnalogNetType s depth gateCount) devices analog = .ok a' ∧
      Extends (c.SearchStep s) (c.IsAllowed s gateCount) analog a' ∧ ∀ n, c.LeadsTo s devices n → a' n = true := by
  refine propagateAnalogNetTypeByTerminal_extends (I := fun a => ∀ x, analog x = true → a x = true)
    (fun a a' hmono ha x hx => hmono x (ha x hx)) (fun a n hn hnew ha => ?_) fun _ hx => hx
  have hless := (left_update_lt (hn.mem_channelNets hlt) hnew).trans_le (left_mono ha)
  obtain ⟨a', hrun, hext, hmarked, -⟩ := ih a n (hsearched a n ha hn) (by omega)
  exact ⟨a', hrun, hext, hmarked⟩

theorem extends_update {R : Nat → Prop} {step : Nat → Nat → Prop} {a : Nat → Bool}
    (h : Extends step R (update analog n true) a) (hR : R n) (hstep : analog n = false → ∀ m, step n m → a m = true) :
    Extends step R analog a where
  mono x hx := h.mono x (by by_cases hxn : x = n <;> simp [hxn, hx])
  sound x hx := by
    rcases h.sound x hx with hx | hx
    · by_cases hxn : x = n
      · exact .inr (hxn ▸ hR)
      · exact .inl (by simpa [update_of_ne hxn] using hx)
    · exact .inr hx
  closed x hx hnew y hy := by
    by_cases hxn : x = n
    · subst hxn
      exact hstep hnew y hy
    · exact h.closed x hx (by simpa [update_of_ne hxn] using hnew) y hy

theorem propagateAnalogNetType_succ (depth gateCount : Nat) (analog : Nat → Bool) (n : Nat) :
    c.propagateAnalogNetType s (depth + 1) gateCount analog n = (if gateCount < 1 then
        c.propagateAnalogNetTypeByTerminal s (c.propagateAnalogNetType s depth (gateCount + 1)) (c.gates n) (update analog n true)
      else pure (update analog n true)) >>= fun a =>
        if analog n then pure a
        else c.propagateAnalogNetTypeByTerminal s (c.propagateAnalogNetType s depth gateCount) (c.sources n) a >>=
          c.propagateAnalogNetTypeByTerminal s (c.propagateAnalogNetType s depth gateCount) (c.drains n) := by
  rw [propagateAnalogNetType]
  split_ifs <;> rfl

/-- The gates of a net that is reached without one. -/
theorem Searches.gates {depth gateCount : Nat} (ih : c.Searches s depth 1) (hn : c.IsSearched s analog gateCount n)
    (h : left (c.channelNets s) (update analog n true) < depth + 1) : ∃ a', (if gateCount < 1 then
        c.propagateAnalogNetTypeByTerminal s (c.propagateAnalogNetType s depth (gateCount + 1)) (c.gates n) (update analog n true)
      else pure (update analog n true)) = .ok a' ∧
      Extends (c.SearchStep s) (c.IsAllowed s gateCount) (update analog n true) a' ∧
      (gateCount = 0 → ∀ m, c.GateStep s n m → a' m = true) := by
  rcases Nat.eq_zero_or_pos gateCount with rfl | hpos
  · obtain ⟨a', hrun, hext, hmarked⟩ := ih.byTerminal (fun d hd => gate_lt hd) (fun a m hmono hm => hn.gate hmono hm) h
    exact ⟨a', hrun, hext.weaken fun x hx => .inr hx, fun _ => hmarked⟩
  · exact ⟨_, if_neg (by omega), .refl _, fun h => absurd h (by omega)⟩

/-- The search from a net ends, when the recursion is deeper than the number of nets that are left to mark. -/
theorem searches (depth gateCount : Nat) : c.Searches s depth gateCount := by
  induction depth generalizing gateCount with
  | zero => exact nofun
  | succ depth ih =>
    intro analog n hn hleft
    obtain ⟨a1, hrun1, hext1, hgates1⟩ := (ih 1).gates hn hleft
    have hself : a1 n = true := hext1.mono n (update_self ..)
    cases halready : analog n with
    | true =>
      -- sources and drains have been followed before
      refine ⟨a1, ?_, extends_update hext1 hn.allowed (fun h => nomatch halready.symm.trans h), hself, hgates1⟩
      rw [propagateAnalogNetType_succ, hrun1, halready]
      rfl
    | false =>
      have hsource : ∀ m, c.LeadsTo s (c.sources n) m → c.ChannelStep s n m :=
        fun m ⟨d, hd, h⟩ => ⟨d, mem_append_left _ hd, h⟩
      have hdrain : ∀ m, c.LeadsTo s (c.drains n) m → c.ChannelStep s n m :=
        fun m ⟨d, hd, h⟩ => ⟨d, mem_append_right _ hd, h⟩
      obtain ⟨a2, hrun2, hext2, hsources⟩ := (ih gateCount).byTerminal (fun d hd => source_lt hd)
        (fun a m hmono hm => hn.step (fun x hx => hmono x (hext1.mono x hx)) (hsource m hm))
          ((left_mono hext1.mono).trans_lt hleft)
      have hext12 := hext1.trans hext2
      obtain ⟨a3, hrun3, hext3, hdrains⟩ := (ih gateCount).byTerminal (fun d hd => drain_lt hd)
        (fun a m hmono hm => hn.step (fun x hx => hmono x (hext12.mono x hx)) (hdrain m hm))
          ((left_mono hext12.mono).trans_lt hleft)
      have hlater : ∀ x, a1 x = true → a3 x = true := (hext2.trans hext3).mono
      refine ⟨a3, ?_, extends_update (hext12.trans hext3) hn.allowed (fun _ m hm => ?_), hlater n hself,
        fun hzero m hm => hlater m (hgates1 hzero m hm)⟩
      · rw [propagateAnalogNetType_succ, hrun1, halready]
        exact (congrArg (· >>= _) hrun2).trans hrun3
      · rcases hm with ⟨d, hd, hm⟩ | ⟨hgate, hnot⟩
        · rcases mem_append.1 hd with hd | hd
          · exact hext3.mono m (hsources m ⟨d, hd, hm⟩)
          · exact hdrains m ⟨d, hd, hm⟩
        · -- a new net that is searched behind a gate is behind the gate of a net that is reached around it
          by_cases hzero : gateCount = 0
          · exact hlater m (hgates1 hzero m hgate)
          · rw [IsSearched, if_neg hzero] at hn
            exact absurd (hn.2 n halready) hnot

/-! ## The marked nets -/

/-- What is known of the marks, whatever the order of the search. -/
structure Marked (c : FlatCircuit) (s : NetState) (analog : Nat → Bool) : Prop where
  sound : ∀ n, analog n = true → c.IsAnalog s n
  base : ∀ b ∈ c.baseNets s, analog b = true ∧ ∀ m, c.GateStep s b m → analog m = true
  closed : ∀ n, analog n = true → ∀ m, c.SearchStep s n m → analog m = true

theorem setAnalogNets_marked {depth : Nat} (hdepth : 2 * c.deviceCount < depth) :
    ∃ analog, c.setAnalogNets s depth = .ok analog ∧ c.Marked s analog := by
  have hsearch : ∀ b ∈ c.baseNets s, ∀ a : Nat → Bool, True → ∃ a', c.propagateAnalogNetType s depth 0 a b = .ok a' ∧
      Extends (c.SearchStep s) (c.IsAllowed s 0) a a' ∧ a' b = true ∧ ∀ m, c.GateStep s b m → a' m = true := by
    intro b hb a _
    have hleft := left_le (c.channelNets s) (update a b true)
    have hcard : (c.channelNets s).card ≤ 2 * c.deviceCount :=
      (toFinset_card_le _).trans (by simp [endNets, Nat.mul_comm])
    have hb0 : c.IsSearched s a 0 b := ⟨⟨b, hb, .refl⟩, fun z _ hne => ⟨b, hb, hne.symm, .refl⟩⟩
    obtain ⟨a', hrun, hext, hself, hgates⟩ := searches depth 0 a b hb0 (by omega)
    exact ⟨a', hrun, hext, hself, hgates rfl⟩
  obtain ⟨a', hrun, hext, hbase⟩ := foldlM_extends (fun _ _ _ h => h)
    (fun b a a' hmono h => ⟨hmono b h.1, fun m hm => hmono m (h.2 m hm)⟩) hsearch trivial
  refine ⟨a', hrun, fun n hn => ?_, hbase, fun n hn => hext.closed n hn rfl⟩
  exact (hext.sound n hn).elim nofun id

namespace Marked

variable (h : c.Marked s analog)
include h

theorem of_channel (hn : analog n = true) (hpath : ReflTransGen (c.ChannelStep s) n m) : analog m = true := by
  induction hpath with
  | refl => exact hn
  | tail _ hstep ih => exact h.closed _ ih _ (.inl hstep)

theorem of_conducts (hn : c.Conducts s n) : analog n = true := by
  obtain ⟨b, hb, hpath⟩ := hn
  exact h.of_channel (h.base b hb).1 hpath

theorem of_behindGate {P : Nat → Prop} (hP : ∀ z, P z → ∀ m, c.GateStep s z m → analog m = true) (hn : c.BehindGate s P n) :
    analog n = true := by
  obtain ⟨z, m, hz, hm, hpath⟩ := hn
  exact h.of_channel (hP z hz m hm) hpath

theorem of_isSurelyAnalog (hn : c.IsSurelyAnalog s n) : analog n = true := by
  refine hn.elim h.of_conducts (h.of_behindGate fun z ⟨hz, hfollowed⟩ m hm => ?_)
  rcases hfollowed with hbase | hnot
  · exact (h.base z hbase).2 m hm
  · exact h.closed z (h.of_conducts hz) m (.inr ⟨hm, hnot⟩)

end Marked

/-- Resistors from the nets `a` and `b` to the power 5, a transistor with `a` at its gate from the power 4 to the net 2, one with
the net 2 at its gate from the power 4 to the net 3, and one that is always on between `b` and the net 2. -/
def joinedDevices (a b : Nat) : List FlatDevice :=
  [{ type := .resistor, source := a, gate := unknownNet, drain := 5, bulk := unknownNet, resistance := 1000 },
    { type := .resistor, source := b, gate := unknownNet, drain := 5, bulk := unknownNet, resistance := 1000 },
    { type := .nmos, source := 4, gate := a, drain := 2, bulk := 4 },
    { type := .nmos, source := 4, gate := 2, drain := 3, bulk := 4 },
    { type := .nmos, source := b, gate := 5, drain := 2, bulk := 4 }]

def joinedCircuit (a b : Nat) : FlatCircuit :=
  .ofDevices 6 (joinedDevices a b) (by simp [joinedDevices, unknownDevice, uint32Max]) false false

def joinedNets (devices : List FlatDevice) : NetState :=
  .ofPowers 6 devices
    [{ netId := 4, minVoltage := 0, simVoltage := 0, maxVoltage := 0, type := { powerBit := true } },
      { netId := 5, minVoltage := 1200, simVoltage := 1200, maxVoltage := 1200, type := { powerBit := true } }]

/-- A resistor from the net 0 to the power 5, transistors that are always on from the net 0 to the net 2 and on to the net 1, one
with the net 1 at its gate from the power 4 back to the net 2, and one with the net 2 at its gate from the power 4 to the net 3.
-/
def loopDevices : List FlatDevice :=
  [{ type := .resistor, source := 0, gate := unknownNet, drain := 5, bulk := unknownNet, resistance := 1000 },
    { type := .nmos, source := 0, gate := 5, drain := 2, bulk := 4 },
      { type := .nmos, source := 2, gate := 5, drain := 1, bulk := 4 },
    { type := .nmos, source := 4, gate := 1, drain := 2, bulk := 4 },
      { type := .nmos, source := 4, gate := 2, drain := 3, bulk := 4 }]

def loopCircuit : FlatCircuit := .ofDevices 6 loopDevices (by decide) false false

/-- What is reached from a list of nets that no step to a net of `K` leaves is in the list. -/
theorem mem_of_reach {nets : List Nat} {K : Nat → Prop} (hnets : ∀ x ∈ nets, ∀ d ∈ c.sources x ++ c.drains x, ∀ y ∈ c.endNets s d,
    s.netVoltagePtr y = none → K y → y ∈ nets) (hn : n ∈ nets) (hpath : ReflTransGen (fun x y => c.ChannelStep s x y ∧ K y) n m) :
    m ∈ nets := by
  induction hpath with
  | refl => exact hn
  | tail _ hstep ih =>
    obtain ⟨⟨d, hd, -, hy, hpower⟩, hK⟩ := hstep
    exact hnets _ ih d hd _ hy hpower hK

end FlatCircuit
end Cvc
