import Cvc.MinMaxPower
import Cvc.Lemmas.QueueContents

/-!
# The devices and the queues in a propagation

What the functions of a propagation do to the bits of the devices and to the queues, whatever the nets are. `DeviceState.Tracks`
says that the pending bits are those of the devices in the queues, but for a device in `VoltageConflict`, and that the keys of the
min and the max queue are small; every function keeps it, fails only in ways that have nothing to do with the queues, and makes no
inactive device active again (`DeviceState.Continues`).
-/

namespace Cvc

open Function (update update_self update_of_ne)
open Program

variable {b b' k v k' : Int} {q : EventQueueType} {d : Nat}

/-! ## Voltages and keys -/

/-- A key between two bounds. -/
def IsKey (bound : Int) (k : Int) : Prop := -bound ≤ k ∧ k ≤ bound

/-- The largest key of an event in the min or the max queue: a key of a net and a threshold. -/
def keyBound : Int := 2 ^ 16 + 2 ^ 15

theorem IsVoltage.isKey (h : IsVoltage v) : IsKey (2 ^ 15) v := by
  unfold IsVoltage at h
  unfold IsKey
  omega

theorem IsKey.mono (h : IsKey b k) (hb : b ≤ b') : IsKey b' k := by
  unfold IsKey at *
  omega

theorem IsKey.add (h : IsKey b k) (h' : IsKey b' k') : IsKey (b + b') (k + k') := by
  unfold IsKey at *
  omega

theorem IsKey.sub (h : IsKey b k) (h' : IsKey b' k') : IsKey (b + b') (k - k') := by
  unfold IsKey at *
  omega

theorem NetState.isVoltage_voltage (s : NetState) (q : EventQueueType) (n : Nat) : IsVoltage (s.voltage q n) := by
  unfold NetState.voltage
  split
  · exact isVoltage_unknownVoltage
  · split
    · exact isVoltage_unknownVoltage
    · exact s.isVoltage _ _

theorem NetState.isVoltage_scrcVoltage (s : NetState) (thePower : Option Nat) (hv : IsVoltage v) :
    IsVoltage (s.scrcVoltage thePower v) := by
  unfold NetState.scrcVoltage
  split
  · split
    · exact s.isVoltage _ .minQueue
    · exact hv
  · exact hv

/-- The voltages of the source and the drain are those a `voltage_t` holds. -/
structure CConnection.IsMapped (t : CConnection) : Prop where
  source : IsVoltage t.sourceVoltage
  drain : IsVoltage t.drainVoltage

theorem CConnection.IsMapped.master {t : CConnection} (h : t.IsMapped) (dir : ShortDirection) :
    IsVoltage (t.masterVoltage dir) := by
  cases dir with
  | drainToMasterSource => exact h.source
  | sourceToMasterDrain => exact h.drain

namespace FlatCircuit

variable (c : FlatCircuit) {q : EventQueueType} {sim v : Int} {p : Prop}

theorem returns_finalVoltage (q : EventQueueType) (n : Nat) (skip : Bool) : Returns (c.finalVoltage q n skip) IsVoltage := by
  refine .ite (fun _ => .pure isVoltage_unknownVoltage) fun _ => ?_
  refine .bind_of_forall fun _ => .bind_of_forall fun net => .read fun s => ?_
  split
  · exact isVoltage_unknownVoltage
  · exact s.isVoltage_voltage _ _

theorem returns_mapDeviceNets (q : EventQueueType) (d : Nat) : Returns (c.mapDeviceNets q d) CConnection.IsMapped := by
  refine .bind_of_forall fun _ => .bind_of_forall fun _ => .bind_of_forall fun _ => .bind_of_forall fun _ => ?_
  refine .read fun s => ⟨?_, ?_⟩
  · exact s.isVoltage_scrcVoltage _ (s.isVoltage_voltage _ _)
  · exact s.isVoltage_scrcVoltage _ (s.isVoltage_voltage _ _)

variable {c} {t : CConnection} {b key : Int}

theorem isKey_vth (d : Nat) : IsKey (2 ^ 15) (c.vth d) := (c.vth_isVoltage d).isKey

/-- A key that is changed by a threshold or not. -/
theorem isKey_ite [Decidable p] {k : Int} (hk : IsKey (b + 2 ^ 15) k) (hkey : IsKey b key) :
    IsKey (b + 2 ^ 15) (if p then k else key) := by
  split
  · exact hk
  · exact hkey.mono (by omega)

theorem isKey_adjustDiodeKey {gt : Int → Int → Prop} [DecidableRel gt] {type : ModelType} (s : NetState) (drain : Nat) (v : Int)
    (pos : QueuePosition) (hkey : IsKey b key) : IsKey (b + 2 ^ 15) (c.adjustDiodeKey gt type s t drain v key pos).1 := by
  unfold adjustDiodeKey
  split
  · exact isKey_ite (hkey.add (isKey_vth _)) hkey
  · split <;> exact hkey.mono (by omega)

/-- A computation with the gate voltage of `adjustGateKey`. -/
theorem returns_gateVoltage [Decidable p] (hsim : IsVoltage sim) (n : Nat)
    {f : Int → NetM (Int × QueuePosition)} {P : Int × QueuePosition → Prop} (hf : ∀ gate, IsVoltage gate → Returns (f gate) P) :
    Returns (if p then c.finalVoltage q n false >>= f else pure sim >>= f) P :=
  .ite (fun _ => .bind (c.returns_finalVoltage _ _ _) hf) fun _ => hf sim hsim

theorem returns_adjustGateKey {le : Int → Int → Prop} [DecidableRel le] (hsim : IsVoltage sim) (hv : IsVoltage v)
    (hb : 2 ^ 15 ≤ b) (hkey : IsKey b key) :
    Returns (c.adjustGateKey t (c.finalVoltage q · false) le sim v key) fun r => IsKey (b + 2 ^ 15) r.1 := by
  refine returns_gateVoltage hsim _ fun gate hgate => .ite (fun _ => .read fun s => ?_) fun _ => ?_
  · split
    · exact isKey_ite (hkey.sub (isKey_vth _)) hkey
    · exact hkey.mono (by omega)
  · refine .ite (fun _ => .pure ?_) fun _ => .pure ?_
    · exact (hgate.isKey.sub (isKey_vth _)).mono (by omega)
    · exact hv.isKey.mono (by omega)

/-- `AdjustKey` changes a key by a threshold, or replaces it by a voltage less a threshold. -/
theorem returns_adjustKey (hq : q ≠ .simQueue) (d : Nat) (ht : t.IsMapped) (hb : 2 ^ 15 ≤ b)
    (hkey : IsKey b key) (pos : QueuePosition) (dir : ShortDirection) :
    Returns (c.adjustKey q d t key pos dir) fun r => IsKey (b + 2 ^ 15) r.1 := by
  have same : IsKey (b + 2 ^ 15) key := hkey.mono (by omega)
  refine .bind_of_forall fun _ => .ite (fun _ => ?_) fun _ => .pure same
  refine .bind_of_forall fun power => ?_
  cases q with
  | simQueue => exact absurd rfl hq
  | maxQueue =>
    refine .ite (fun _ => ?_) fun _ => ?_
    · exact .ite (fun _ => .pure same) fun _ => .read fun s => isKey_adjustDiodeKey s _ _ _ hkey
    · exact .ite (fun _ => .pure same) fun _ =>
        .bind (c.returns_finalVoltage _ _ _) fun _ hsim => returns_adjustGateKey hsim (ht.master dir) hb hkey
  | minQueue =>
    refine .ite (fun _ => ?_) fun _ => ?_
    · exact .ite (fun _ => .pure same) fun _ => .read fun s => isKey_adjustDiodeKey s _ _ _ hkey
    · exact .ite (fun _ => .pure same) fun _ =>
        .bind (c.returns_finalVoltage _ _ _) fun _ hsim => returns_adjustGateKey hsim (ht.master dir) hb hkey

/-- The key of a device that enters the min or the max queue. -/
theorem returns_enqueueKey (d : Nat) (ht : t.IsMapped) (hkey : q ≠ .simQueue → IsKey (2 ^ 16) key) :
    Returns (c.enqueueKey q d t key) fun r => q ≠ .simQueue → IsKey keyBound r.1 := by
  refine .ite (fun _ => ?_) fun _ => ?_
  · refine .bind_of_forall fun power => ?_
    by_cases hq : q = .simQueue
    · exact .bind_of_forall fun _ => .pure fun h => absurd hq h
    · exact .bind (returns_adjustKey hq d ht (by omega) (hkey hq) _ _) fun _ hr => .pure fun _ => hr
  · exact .bind_of_forall fun _ => .bind_of_forall fun _ =>
      .pure fun hq => (hkey hq).mono (by unfold keyBound; omega)

end FlatCircuit

/-! ## The bits and the queues -/

/-- The stored keys of the devices, by queue. -/
abbrev Keys := EventQueueType → Nat → Option Int

/-- Change the key of a device. -/
def Keys.set (e : Keys) (queue : EventQueueType) (d : Nat) (k : Option Int) : Keys :=
  update e queue (update (e queue) d k)

@[simp] theorem Keys.set_self (e : Keys) (q : EventQueueType) (d : Nat) (k : Option Int) : e.set q d k q d = k := by
  simp [Keys.set]

theorem Keys.set_of_ne (e : Keys) {q' : EventQueueType} {d' : Nat} (h : ¬ (q' = q ∧ d' = d)) (k : Option Int) :
    e.set q d k q' d' = e q' d' := by
  unfold Keys.set
  rcases eq_or_ne q' q with rfl | hq
  · rw [update_self, update_of_ne fun hd => h ⟨rfl, hd⟩]
  · rw [update_of_ne hq]

/-- What holds of a device at its queue and of every other one where it was. -/
theorem Keys.set_induction {e : Keys} {k : Option Int} {P : EventQueueType → Nat → Option Int → Prop} (hself : P q d k)
    (hother : ∀ q' d', ¬ (q' = q ∧ d' = d) → P q' d' (e q' d')) (q' : EventQueueType) (d' : Nat) :
      P q' d' (e.set q d k q' d') := by
  by_cases h : q' = q ∧ d' = d
  · obtain ⟨rfl, rfl⟩ := h
    rwa [Keys.set_self]
  · rw [Keys.set_of_ne e h]
    exact hother q' d' h

namespace DeviceState

def withPending (s : DeviceState) (queue : EventQueueType) (d : Nat) (value : Bool) : DeviceState :=
  { s with deviceStatus := update s.deviceStatus d ((s.deviceStatus d).setPending value queue) }

def withInactive (s : DeviceState) (queue : EventQueueType) (d : Nat) : DeviceState :=
  { s with deviceStatus := update s.deviceStatus d ((s.deviceStatus d).setInactive queue) }

variable (s : DeviceState) (q q' : EventQueueType) (d d' : Nat) (value : Bool)

@[simp] theorem pending_withPending_self : (s.withPending q d value).pending q d = value := by
  simp only [pending, withPending, update_self]
  cases q <;> rfl

theorem pending_withPending_of_ne {q q' : EventQueueType} {d d' : Nat} (h : ¬ (q' = q ∧ d' = d)) :
    (s.withPending q d value).pending q' d' = s.pending q' d' := by
  simp only [pending, withPending]
  rcases eq_or_ne d' d with rfl | hd
  · rw [update_self]
    cases q <;> cases q' <;> first | rfl | exact absurd ⟨rfl, rfl⟩ h
  · rw [update_of_ne hd]

@[simp] theorem inactive_withPending : (s.withPending q d value).inactive q' d' = s.inactive q' d' := by
  simp only [inactive, withPending]
  rcases eq_or_ne d' d with rfl | hd
  · rw [update_self]
    cases q <;> cases q' <;> rfl
  · rw [update_of_ne hd]

@[simp] theorem pending_withInactive : (s.withInactive q d).pending q' d' = s.pending q' d' := by
  simp only [pending, withInactive]
  rcases eq_or_ne d' d with rfl | hd
  · rw [update_self]
    cases q <;> cases q' <;> rfl
  · rw [update_of_ne hd]

@[simp] theorem inactive_withInactive_self : (s.withInactive q d).inactive q d = true := by
  simp only [inactive, withInactive, update_self]
  cases q <;> rfl

theorem inactive_withInactive {q' : EventQueueType} {d' : Nat} (h : s.inactive q' d' = true) :
    (s.withInactive q d).inactive q' d' = true := by
  simp only [inactive, withInactive] at *
  rcases eq_or_ne d' d with rfl | hd
  · rw [update_self]
    cases q <;> cases q' <;> first | rfl | exact h
  · rwa [update_of_ne hd]

/-- The pending bits agree with the queues: a device in a queue has its pending bit set, and a pending device is in the queue
once, unless `VoltageConflict` is working on it. -/
structure Agrees (s : DeviceState) : Prop where
  pending_of_mem : ∀ queue d, d ∈ (s.queue queue).contents → s.pending queue d = true
  count_of_pending : ∀ queue d, s.pending queue d = true → s.conflict ≠ some (queue, d) → (s.queue queue).contents.count d = 1

/-- The queues of `n` devices hold the devices under the keys `e`, which are those of the pending devices but for the one in
`VoltageConflict`. -/
structure Tracks (n : Nat) (s : DeviceState) (e : Keys) : Prop where
  shows : ∀ queue, (s.queue queue).Shows (e queue)
  type_eq : ∀ queue, (s.queue queue).queueType = queue
  size_eq : ∀ queue, (s.queue queue).queueSize = n
  waits : ∀ queue d, (e queue d).isSome = true ↔ s.pending queue d = true ∧ s.conflict ≠ some (queue, d)
  conflict_pending : ∀ queue d, s.conflict = some (queue, d) → s.pending queue d = true
  bounded : ∀ queue d, queue ≠ .simQueue → ∀ k, e queue d = some k → IsKey keyBound k

/-- A later state of a propagation of the sim queue, or of the min and the max queue: no device has become active, and the other
queues with their pending bits are as they were. -/
structure Continues (sim : Bool) (s s' : DeviceState) : Prop where
  conflict_eq : s'.conflict = s.conflict
  started : ∀ queue, s.queueStart queue = true → s'.queueStart queue = true
  inactive : ∀ queue d, s.inactive queue d = true → s'.inactive queue d = true
  other : ∀ queue : EventQueueType, (queue == .simQueue) ≠ sim → s'.queue queue = s.queue queue ∧
    ∀ d, s'.pending queue d = s.pending queue d

theorem Continues.refl (sim : Bool) (s : DeviceState) : Continues sim s s :=
  ⟨rfl, fun _ h => h, fun _ _ h => h, fun _ _ => ⟨rfl, fun _ => rfl⟩⟩

theorem Continues.trans {sim : Bool} {s s' s'' : DeviceState} (h : Continues sim s s') (h' : Continues sim s' s'') :
    Continues sim s s'' :=
  ⟨h'.conflict_eq.trans h.conflict_eq, fun q hq => h'.started q (h.started q hq),
    fun q d hd => h'.inactive q d (h.inactive q d hd),
    fun q hq => ⟨(h'.other q hq).1.trans (h.other q hq).1, fun d => ((h'.other q hq).2 d).trans ((h.other q hq).2 d)⟩⟩

theorem Continues.withInactive (sim : Bool) : Continues sim s (s.withInactive q d) :=
  ⟨rfl, fun _ h => h, fun _ _ h => inactive_withInactive s q d h, fun _ _ => ⟨rfl, fun _ => pending_withInactive ..⟩⟩

/-- A device enters or leaves a queue. -/
theorem Continues.queued (ev : CEventQueue) : Continues (q == .simQueue) s ((s.setQueue q ev).withPending q d value) := by
  refine ⟨rfl, fun _ h => h, fun q' d' h => ?_, fun q' hq' => ?_⟩
  · rw [inactive_withPending]
    exact h
  · have hne : q' ≠ q := fun he => hq' (by rw [he])
    refine ⟨update_of_ne hne _ _, fun d' => ?_⟩
    exact pending_withPending_of_ne _ _ fun he => hne he.1

namespace Tracks

variable {n : Nat} {s : DeviceState} {e : Keys} {q : EventQueueType} {d : Nat}

section
variable (h : s.Tracks n e)
include h

theorem agrees : s.Agrees := by
  refine ⟨fun q d hd => ?_, fun q d hp hc => ?_⟩
  · exact ((h.waits q d).1 (((h.shows q).mem_contents d).1 hd)).1
  · rw [(h.shows q).count_contents, if_pos ((h.waits q d).2 ⟨hp, hc⟩)]

theorem lt {k : Int} (hd : e q d = some k) : d < n := h.size_eq q ▸ (h.shows q).lt_size hd

theorem key_eq_none (hd : ¬ (s.pending q d = true ∧ s.conflict ≠ some (q, d))) : e q d = none := by
  rw [← h.waits] at hd
  simpa using hd

theorem storedKey_eq (q : EventQueueType) (key : Int) : (s.queue q).storedKey key = Deques.orderKey q key := by
  unfold CEventQueue.storedKey
  rw [h.type_eq]
  cases q <;> rfl

theorem withInactive (q : EventQueueType) (d : Nat) : (s.withInactive q d).Tracks n e :=
  ⟨h.shows, h.type_eq, h.size_eq, fun ev d' => by rw [pending_withInactive]; exact h.waits ev d',
    fun ev d' hc => by rw [pending_withInactive]; exact h.conflict_pending ev d' hc, h.bounded⟩

/-- What a queue that gets another key for a device has to show for the devices to be tracked again. -/
theorem queued {ev : CEventQueue} {k : Option Int} (hshows : ev.Shows (update (e q) d k))
    (htype : ev.queueType = q) (hsize : ev.queueSize = n) (hc : s.conflict ≠ some (q, d))
    (hk : q ≠ .simQueue → ∀ k', k = some k' → IsKey keyBound k') :
    ((s.setQueue q ev).withPending q d k.isSome).Tracks n (e.set q d k) := by
  have at_queue : ∀ {P : EventQueueType → CEventQueue → Prop}, P q ev → (∀ q', q' ≠ q → P q' (s.queue q')) →
      ∀ q', P q' (((s.setQueue q ev).withPending q d k.isSome).queue q') := by
    intro P hself hother q'
    show P q' (update s.queue q ev q')
    rcases eq_or_ne q' q with rfl | hne
    · rwa [update_self]
    · rw [update_of_ne hne]
      exact hother q' hne
  refine ⟨at_queue (P := fun q' r => r.Shows (e.set q d k q')) ?_ ?_,
    at_queue (P := fun q' r => r.queueType = q') htype fun q' _ => h.type_eq q',
    at_queue (P := fun _ r => r.queueSize = n) hsize fun q' _ => h.size_eq q', ?_, ?_, ?_⟩
  · rwa [Keys.set, update_self]
  · intro q' hne
    rw [Keys.set, update_of_ne hne]
    exact h.shows q'
  · refine Keys.set_induction (P := fun q' d' k' => k'.isSome = true ↔ _) ?_ fun q' d' hne => ?_
    · rw [pending_withPending_self]
      exact ⟨fun hk => ⟨hk, hc⟩, fun hk => hk.1⟩
    · rw [pending_withPending_of_ne _ _ hne]
      exact h.waits q' d'
  · intro q' d' hc'
    have hne : ¬ (q' = q ∧ d' = d) := by
      rintro ⟨rfl, rfl⟩
      exact hc hc'
    rw [pending_withPending_of_ne _ _ hne]
    exact h.conflict_pending q' d' hc'
  · exact Keys.set_induction (P := fun q' d' k' => q' ≠ .simQueue → ∀ k1, k' = some k1 → IsKey keyBound k1) hk
      fun q' d' _ => h.bounded q' d'

/-- A device that is not pending enters a queue. -/
theorem addEvent (hd : d < n) (hp : s.pending q d = false) {pos : QueuePosition} (hpos : pos ≠ .skipQueue)
    {key : Int} (hkey : q ≠ .simQueue → IsKey keyBound key) : ∃ ev, (s.queue q).addEvent key d pos = .ok ev ∧
      ((s.setQueue q ev).withPending q d true).Tracks n (e.set q d (some (Deques.orderKey q key))) := by
  have hfree : e q d = none := h.key_eq_none fun hd => Bool.noConfusion (hp.symm.trans hd.1)
  have hc : s.conflict ≠ some (q, d) := fun hc => Bool.noConfusion (hp.symm.trans (h.conflict_pending q d hc))
  obtain ⟨ev, hadd, hshows, htype, hsize⟩ := (h.shows q).addEvent ((h.size_eq q).symm ▸ hd) hfree hpos key
  rw [h.storedKey_eq] at hshows
  refine ⟨ev, hadd, h.queued hshows (htype.trans (h.type_eq q)) (hsize.trans (h.size_eq q)) hc fun hq k hk => ?_⟩
  obtain rfl := Option.some.inj hk
  have hkey := hkey hq
  unfold Deques.orderKey IsKey at *
  split <;> omega

/-- A device leaves a queue that holds one. -/
theorem getEvent (hne : ∃ d k, e q d = some k) : ∃ d k ev, (s.queue q).getEvent = .ok (d, ev) ∧ e q d = some k ∧
      (q ≠ .simQueue → ∀ d' k', e q d' = some k' → k ≤ k') ∧
        ((s.setQueue q ev).withPending q d false).Tracks n (e.set q d none) := by
  obtain ⟨d, k, ev, hget, hd, hshows, htype, hsize, hleast⟩ := (h.shows q).getEvent hne
  have hc : s.conflict ≠ some (q, d) := ((h.waits q d).1 (by rw [hd]; rfl)).2
  rw [h.type_eq] at hleast
  exact ⟨d, k, ev, hget, hd, hleast,
    h.queued hshows (htype.trans (h.type_eq q)) (hsize.trans (h.size_eq q)) hc nofun⟩

/-- `VoltageConflict` sets the pending bit of a device that is in no queue. -/
theorem beginConflict (hp : s.pending q d = false) (hc : s.conflict = none) :
    ({ s with conflict := some (q, d) }.withPending q d true).Tracks n e := by
  have hfree : e q d = none := h.key_eq_none fun hd => Bool.noConfusion (hp.symm.trans hd.1)
  refine ⟨h.shows, h.type_eq, h.size_eq, fun q' d' => ?_, fun q' d' hc' => ?_, h.bounded⟩
  · by_cases hne : q' = q ∧ d' = d
    · obtain ⟨rfl, rfl⟩ := hne
      rw [hfree]
      exact iff_of_false Bool.false_ne_true fun hd => hd.2 rfl
    · rw [pending_withPending_of_ne _ _ hne, h.waits, hc]
      refine and_congr_right fun _ => iff_of_true (by simp) fun he => hne ?_
      obtain ⟨rfl, rfl⟩ := Prod.mk.inj (Option.some.inj he)
      exact ⟨rfl, rfl⟩
  · obtain ⟨rfl, rfl⟩ := Prod.mk.inj (Option.some.inj hc')
    exact pending_withPending_self ..

/-- It clears the bit at its end; the device is in no queue. -/
theorem endConflict (hc : s.conflict = some (q, d)) : ({ s.withPending q d false with conflict := none }).Tracks n e := by
  have hfree : e q d = none := h.key_eq_none fun hd => hd.2 hc
  refine ⟨h.shows, h.type_eq, h.size_eq, fun q' d' => ?_, nofun, h.bounded⟩
  show (e q' d').isSome = true ↔ (s.withPending q d false).pending q' d' = true ∧ none ≠ some (q', d')
  by_cases hne : q' = q ∧ d' = d
  · obtain ⟨rfl, rfl⟩ := hne
    rw [hfree, pending_withPending_self]
    exact iff_of_false Bool.false_ne_true fun hd => Bool.noConfusion hd.1
  · rw [pending_withPending_of_ne _ _ hne, h.waits, hc]
    refine and_congr_right fun _ => iff_of_true (fun he => hne ?_) (by simp)
    obtain ⟨rfl, rfl⟩ := Prod.mk.inj (Option.some.inj he)
    exact ⟨rfl, rfl⟩

end
end Tracks
end DeviceState
end Cvc
