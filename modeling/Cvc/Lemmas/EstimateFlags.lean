import Cvc.Lemmas.VirtualNet
import Cvc.NetLinks

/-!
# The flags of estimated voltages

What the functions about estimated voltages do to the flags of the nets is said without the reads in between: a read of a virtual
net changes a cache, but not what any read returns (`SameReads`).
-/

namespace Cvc

open Function (update update_self update_of_ne)
open Program CVirtualNetVector NetState CVirtualNet

variable {v v' : CVirtualNetVector} {n : Nat} {s : NetState}

/-! ## Reads -/

theorem CVirtualNetVector.walkLinks_congr (hnext : v'.next = v.next)
    (hres : v'.linkResistance = v.linkResistance) : v'.walkLinks = v.walkLinks := by
  funext k n r
  induction k generalizing n r with
  | zero =>
    unfold walkLinks
    rw [hnext, hres]
  | succ k ih =>
    unfold walkLinks
    simp [hnext, hres, ih]

/-- A read does not change what a read returns. -/
theorem CVirtualNet.operatorCall_of_read {net : CVirtualNet} (h : operatorCall v n = some (net, v')) (m : Nat) :
    (operatorCall v' m).map Prod.fst = (operatorCall v m).map Prod.fst := by
  by_cases hn : n = unknownNet
  · unfold operatorCall at h
    rw [if_pos hn] at h
    rw [← (Prod.mk.inj (Option.some.inj h)).2]
  by_cases hold : v.lastUpdateSize > 0 ∧ v.lastUpdateV n < v.lastUpdate
  · unfold operatorCall at h
    rw [if_neg hn, if_pos hold] at h
    cases hwalk : v.walkLinks maxLinkCount n 0 with
    | none => simp [hwalk] at h
    | some walk =>
      obtain ⟨f, r⟩ := walk
      by_cases hr : r < maxResistance
      · obtain ⟨-, rfl⟩ : _ ∧ v.storeFinal n f r v.lastUpdate = v' := by simpa [hwalk, hr] using h
        have hlinks := walkLinks_congr (next_storeFinal v n f r v.lastUpdate) (linkResistance_storeFinal v n f r v.lastUpdate)
        unfold operatorCall
        rw [next_storeFinal, linkResistance_storeFinal, hlinks]
        by_cases hmn : m = n
        · subst hmn
          simp [hn, hold, hwalk, storeFinal]
        by_cases hm : m = unknownNet
        · simp [hm]
        by_cases hmold : v.lastUpdateSize > 0 ∧ v.lastUpdateV m < v.lastUpdate
        · cases v.walkLinks maxLinkCount m 0 with
          | none => simp [hmn, hmold, storeFinal]
          | some walk => by_cases hw : walk.2 < maxResistance <;> simp [hm, hmn, hmold, storeFinal]
        · simp [hm, hmn, hmold, storeFinal]
      · simp [hwalk, hr] at h
  · unfold operatorCall at h
    rw [if_neg hn, if_neg hold] at h
    by_cases hr : (v.net n).finalResistance < maxResistance
    · obtain ⟨-, rfl⟩ : _ ∧ v = v' := by simpa [hr] using h
      rfl
    · simp [hr] at h

namespace NetState

variable {s t : NetState}

/-- Two states that differ in caches of virtual nets at most, and in none that would show in a read. -/
structure SameReads (s t : NetState) : Prop where
  power_eq : t.power = s.power
  netVoltagePtr_eq : t.netVoltagePtr = s.netVoltagePtr
  leakVoltagePtr_eq : t.leakVoltagePtr = s.leakVoltagePtr
  netStatus_eq : t.netStatus = s.netStatus
  reads_eq : ∀ queue n, (CVirtualNet.operatorCall (t.virtualNet queue) n).map Prod.fst =
    (CVirtualNet.operatorCall (s.virtualNet queue) n).map Prod.fst

theorem SameReads.refl (s : NetState) : s.SameReads s := ⟨rfl, rfl, rfl, rfl, fun _ _ => rfl⟩

theorem SameReads.trans {u : NetState} (h : s.SameReads t) (h' : t.SameReads u) : s.SameReads u where
  power_eq := h'.power_eq.trans h.power_eq
  netVoltagePtr_eq := h'.netVoltagePtr_eq.trans h.netVoltagePtr_eq
  leakVoltagePtr_eq := h'.leakVoltagePtr_eq.trans h.leakVoltagePtr_eq
  netStatus_eq := h'.netStatus_eq.trans h.netStatus_eq
  reads_eq q n := (h'.reads_eq q n).trans (h.reads_eq q n)

/-- What a read of a virtual net returns. -/
def virtualNet? (s : NetState) (queue : EventQueueType) (theNetId : Nat) : Option CVirtualNet :=
  (CVirtualNet.operatorCall (s.virtualNet queue) theNetId).map Prod.fst

theorem SameReads.virtualNet?_eq (h : s.SameReads t) : t.virtualNet? = s.virtualNet? := by
  funext q n
  exact h.reads_eq q n

end NetState

theorem wp_virtualNetAt {q : EventQueueType} {Q : CVirtualNet → NetState → Prop}
    {E : NetFailure → NetState → Prop} (hQ : ∀ net t, s.virtualNet? q n = some net → s.SameReads t → Q net t)
    (hE : s.virtualNet? q n = none → E .walk s) : wp (virtualNetAt q n) Q E s := by
  unfold wp virtualNetAt
  cases hcall : operatorCall (s.virtualNet q) n with
  | none => exact hE (by simp [virtualNet?, hcall])
  | some r =>
    obtain ⟨net, v⟩ := r
    refine hQ net _ (by simp [virtualNet?, hcall]) ⟨rfl, rfl, rfl, rfl, fun q' m => ?_⟩
    by_cases hq : q' = q
    · subst hq
      simp only [setVirtualNet, update_self]
      exact operatorCall_of_read hcall m
    · simp [setVirtualNet, update_of_ne hq]

namespace FlatCircuit

variable (c : FlatCircuit) {E : NetFailure → NetState → Prop} {Q : Int → NetState → Prop}

/-- What `finalVoltage` returns. -/
def finalVoltage? (s : NetState) (queue : EventQueueType) (theNetId : Nat) : Option Int :=
  if theNetId = unknownNet then some unknownVoltage
  else if theNetId = c.getEquivalentNet s theNetId then
    (s.virtualNet? queue theNetId).map fun net => s.voltage queue net.finalNetId
  else none

/-- What `isDerivedFromFloating` returns. -/
def isFloating? (s : NetState) (queue : EventQueueType) (theNetId : Nat) : Option Bool :=
  if theNetId = c.getEquivalentNet s theNetId then
    (s.virtualNet? queue theNetId).map fun net => s.isHiz (s.netVoltagePtr net.finalNetId)
  else none

/-- What `leakVoltage` returns. -/
def leakVoltage? (s : NetState) (queue : EventQueueType) (theNetId : Nat) : Option Int :=
  if theNetId = unknownNet || !c.leakVoltageSet then some unknownVoltage
  else if theNetId = c.getEquivalentNet s theNetId then
    some (match (c.leakNet queue theNetId).bind s.leakVoltagePtr with
      | some p => (s.power p).queueVoltage queue
      | none => unknownVoltage)
  else none

variable {c} {s t : NetState} {q : EventQueueType} {n : Nat}

theorem getEquivalentNet_of_sameReads (h : s.SameReads t) : c.getEquivalentNet t = c.getEquivalentNet s := by
  funext m
  unfold getEquivalentNet
  rw [h.netVoltagePtr_eq, h.power_eq]

theorem finalVoltage?_of_sameReads (h : s.SameReads t) : c.finalVoltage? t = c.finalVoltage? s := by
  funext q m
  unfold finalVoltage? voltage
  rw [getEquivalentNet_of_sameReads h, h.virtualNet?_eq, h.netVoltagePtr_eq, h.power_eq]

theorem isFloating?_of_sameReads (h : s.SameReads t) : c.isFloating? t = c.isFloating? s := by
  funext q m
  unfold isFloating? isHiz
  rw [getEquivalentNet_of_sameReads h, h.virtualNet?_eq, h.netVoltagePtr_eq, h.power_eq]

theorem leakVoltage?_of_sameReads (h : s.SameReads t) : c.leakVoltage? t = c.leakVoltage? s := by
  funext q m
  unfold leakVoltage?
  rw [getEquivalentNet_of_sameReads h, h.leakVoltagePtr_eq, h.power_eq]

theorem wp_ensureEquivalent {Q : Unit → NetState → Prop}
    (hQ : n = c.getEquivalentNet s n → Q ⟨⟩ s) (hE : ∀ e, n ≠ c.getEquivalentNet s n → E e s) :
      wp (c.ensureEquivalent n) Q E s := by
  refine wp_bind.2 (wp_read.2 (wp_ensure (fun h => hQ (by simpa using h)) fun h => hE _ (by simpa using h)))

theorem wp_finalVoltage (hQ : ∀ v t, c.finalVoltage? s q n = some v → s.SameReads t → Q v t)
    (hE : ∀ e, c.finalVoltage? s q n = none → E e s) : wp (c.finalVoltage q n false) Q E s := by
  refine wp_ite (fun hn => ?_) fun hn => ?_
  · exact hQ _ _ (if_pos hn) (.refl s)
  refine wp_bind.2 (wp_ensureEquivalent (fun heq => ?_) fun e hne => hE e ?_)
  · have hvoltage : c.finalVoltage? s q n = (s.virtualNet? q n).map fun net => s.voltage q net.finalNetId :=
      (if_neg hn).trans (if_pos heq)
    refine wp_bind.2 (wp_virtualNetAt (fun net t hnet ht => ?_) fun hnone => hE _ ?_)
    · refine wp_read.2 (hQ _ _ ?_ ht)
      rw [hvoltage, hnet]
      simp [voltage, ht.netVoltagePtr_eq, ht.power_eq]
    · rw [hvoltage, hnone]
      rfl
  · exact (if_neg hn).trans (if_neg hne)

/-- A read of a voltage after other reads. -/
theorem wp_finalVoltage_later (h : s.SameReads t) (hQ : ∀ v u, c.finalVoltage? s q n = some v → s.SameReads u → Q v u)
    (hE : ∀ e, c.finalVoltage? s q n = none → E e t) : wp (c.finalVoltage q n false) Q E t := by
  rw [← finalVoltage?_of_sameReads h] at hQ hE
  exact wp_finalVoltage (fun v u hv hu => hQ v u hv (h.trans hu)) hE

theorem wp_isDerivedFromFloating {Q : Bool → NetState → Prop} (hQ : ∀ b t, c.isFloating? s q n = some b → s.SameReads t → Q b t)
    (hE : ∀ e, c.isFloating? s q n = none → E e s) : wp (c.isDerivedFromFloating q n) Q E s := by
  refine wp_bind.2 (wp_ensureEquivalent (fun heq => ?_) fun e hne => hE e (if_neg hne))
  have hfloating : c.isFloating? s q n = (s.virtualNet? q n).map fun net => s.isHiz (s.netVoltagePtr net.finalNetId) :=
    if_pos heq
  refine wp_bind.2 (wp_virtualNetAt (fun net t hnet ht => ?_) fun hnone => hE _ ?_)
  · refine wp_read.2 (hQ _ _ ?_ ht)
    rw [hfloating, hnet]
    simp [isHiz, ht.netVoltagePtr_eq, ht.power_eq]
  · rw [hfloating, hnone]
    rfl

theorem wp_leakVoltage (hQ : ∀ v, c.leakVoltage? s q n = some v → Q v s) (hE : ∀ e, c.leakVoltage? s q n = none → E e s) :
    wp (c.leakVoltage q n) Q E s := by
  refine wp_ite (fun hn => hQ _ (if_pos hn)) fun hn => ?_
  refine wp_bind.2 (wp_ensureEquivalent (fun heq => wp_read.2 (hQ _ ?_)) fun e hne => hE e ?_)
  · exact (if_neg hn).trans (if_pos heq)
  · exact (if_neg hn).trans (if_neg hne)

end FlatCircuit

/-! ## What is done to the flags -/

/-- A change of the flags of one side. -/
inductive FlagChange where
  | keep
  | setConnection (theNetId : Nat)
  | clearConnections (theNetId theOtherNetId : Nat)
  | setCheck (theNetId : Nat)
  deriving DecidableEq, Repr

/-- The flags after a change. -/
def FlagChange.apply (side : EstimateSide) (netStatus : Nat → NetFlags) : FlagChange → Nat → NetFlags
  | .keep => netStatus
  | .setConnection n => update netStatus n (side.setConnection true (netStatus n))
  | .clearConnections n m =>
    let netStatus := update netStatus n (side.setConnection false (netStatus n))
    update netStatus m (side.setConnection false (netStatus m))
  | .setCheck n => update netStatus n (side.setCheck true (netStatus n))

/-- The flags of the nets of a state, whatever the program that has led to it returns. -/
def HasStatus {α : Type} (netStatus : Nat → NetFlags) (_ : α) (t : NetState) : Prop := t.netStatus = netStatus

/-- The flags of the nets after a program, whether it returns or fails. -/
def statusAfter {α : Type} (m : NetM α) (s : NetState) : Nat → NetFlags :=
  match m s with
  | .ok _ t => t.netStatus
  | .error _ t => t.netStatus

theorem statusAfter_eq {α : Type} {m : NetM α} {netStatus : Nat → NetFlags}
    (h : wp m (HasStatus netStatus) (HasStatus netStatus) s) : statusAfter m s = netStatus := by
  unfold statusAfter
  cases hm : m s with
  | ok a t => exact h.of_ok hm
  | error e t => exact h.of_error hm

/-- The pull voltage that the accessor finds for a net. -/
def NetState.pullVoltage (s : NetState) (side : EstimateSide) (theNetId : Nat) : Int :=
  match s.netVoltagePtr theNetId with
  | some p => side.pullVoltage (s.power p)
  | none => unknownVoltage

/-- The pull voltage of a net makes a flag unnecessary. -/
def NetState.isSuppressed (s : NetState) (side : EstimateSide) (myEventKey : Int) (theNetId : Nat) : Bool :=
  decide (side.Suppresses (s.pullVoltage side theNetId) myEventKey)

theorem CPower.pullVoltage_inherit (side : EstimateSide) (power default : CPower) :
    side.pullVoltage (power.inherit default) = side.pullVoltage power := by
  obtain ⟨⟩ := default
  rename_i data _ _ _ _ _ _
  cases data <;> cases hdata : power.extraData <;> cases side <;>
    simp [EstimateSide.pullVoltage, pullDownVoltage, pullUpVoltage, inherit, hdata]

theorem CPower.pullVoltage_calculate (side : EstimateSide) (power : CPower) (q : EventQueueType) (v : Int) (n : Nat) (w : Int) :
    side.pullVoltage (power.calculate q v n w) = side.pullVoltage power := by
  cases q <;> cases side <;> rfl

namespace FlatCircuit

variable {c : FlatCircuit} {s t : NetState} {side : EstimateSide} {key : Int} {d : Nat}
  {conn : CConnection}

/-- A link of a net to itself is stored with its resistance. -/
theorem setLink_self (q : EventQueueType) (n r : Nat) (s : NetState) :
    ∃ v, setLink q n n r s = .ok ⟨⟩ (s.setVirtualNet q v) ∧ v.linkResistance n = r := by
  obtain ⟨f, R, hset⟩ := (s.virtualNet q).set_self n r (s.virtualNet q).lastUpdate
  refine ⟨{ ((s.virtualNet q).link n n r).storeFinal n f R (s.virtualNet q).lastUpdate with
    lastUpdate := (s.virtualNet q).lastUpdate }, ?_, ?_⟩
  · unfold setLink
    simp [hset]
  · refine (congrFun (linkResistance_storeFinal ((s.virtualNet q).link n n r) n f R _) n).trans ?_
    rw [linkResistance_link, update_self]

/-- The net of an estimate has a power, with the flags and the pull voltage as they were before the estimate. -/
structure HasEstimate (side : EstimateSide) (theNetId : Nat) (netStatus : Nat → NetFlags) (pull : Int) (t : NetState) : Prop where
  netStatus_eq : t.netStatus = netStatus
  exists_power : ∃ p, t.netVoltagePtr theNetId = some p ∧ side.pullVoltage (t.power p) = pull

theorem calculatePower_ok (v : Int) (n m : Nat) :
    ∃ t, c.calculatePower side.queue v n m s = .ok ⟨⟩ t ∧ HasEstimate side n s.netStatus (s.pullVoltage side n) t := by
  obtain ⟨p, hp, hpull, hstatus⟩ : ∃ p, (s.ensurePower n).netVoltagePtr n = some p ∧
      side.pullVoltage ((s.ensurePower n).power p) = s.pullVoltage side n ∧ (s.ensurePower n).netStatus = s.netStatus := by
    unfold ensurePower pullVoltage
    cases hptr : s.netVoltagePtr n with
    | some p => exact ⟨p, hptr, rfl, rfl⟩
    | none =>
      refine ⟨s.powerCount, update_self .., ?_, rfl⟩
      simp only [setPower, update_self]
      cases side <;> rfl
  have hinherit : ∀ default, side.pullVoltage (((s.ensurePower n).inheritPower p default).power p) = s.pullVoltage side n := by
    intro default
    rw [← hpull]
    cases default with
    | none => rfl
    | some q =>
      simp only [inheritPower, modifyPower, setPower, update_self]
      exact CPower.pullVoltage_inherit ..
  have hframe : ∀ default, ((s.ensurePower n).inheritPower p default).netStatus = s.netStatus ∧
      ((s.ensurePower n).inheritPower p default).netVoltagePtr n = some p := by
    intro default
    cases default <;> exact ⟨hstatus, hp⟩
  unfold calculatePower
  simp only [hp]
  rw [if_neg (by cases side <;> simp [EstimateSide.queue])]
  refine ⟨_, rfl, (hframe _).1, p, (hframe _).2, ?_⟩
  simp only [setPower, update_self]
  exact (CPower.pullVoltage_calculate ..).trans (hinherit _)

namespace HasEstimate

variable {n : Nat} {netStatus : Nat → NetFlags} {pull : Int} (h : HasEstimate side n netStatus pull s)
include h

theorem setAnalog_ok : ∃ t, setAnalog n s = .ok ⟨⟩ t ∧ HasEstimate side n netStatus pull t := by
  obtain ⟨p, hp, hpull⟩ := h.exists_power
  unfold setAnalog modifyNetPower
  rw [hp]
  refine ⟨_, rfl, h.netStatus_eq, p, hp, ?_⟩
  rw [← hpull]
  simp only [modifyPower, setPower, update_self]
  cases side <;> rfl

/-- A link of a net to itself is always set. -/
theorem setLink_self_ok (q : EventQueueType) (r : Nat) : ∃ t, setLink q n n r s = .ok ⟨⟩ t ∧
    HasEstimate side n netStatus pull t := by
  obtain ⟨v, hset, -⟩ := setLink_self q n r s
  exact ⟨_, hset, h.netStatus_eq, h.exists_power⟩

theorem powerAt_ok : ∃ power, powerAt (s.netVoltagePtr n) s = .ok power s ∧ side.pullVoltage power = pull := by
  obtain ⟨p, hp, hpull⟩ := h.exists_power
  exact ⟨s.power p, by rw [hp]; rfl, hpull⟩

end HasEstimate

variable (c) in
/-- What the estimate of a voltage does to the flags, with the answer to the test of the pull voltage. -/
def estimateChange (side : EstimateSide) (s : NetState) (suppressed : Nat → Bool) (myEventKey : Int)
    (myDrainNetId mySourceNetId : Nat)
    (myDrainVoltage : Int) : FlagChange :=
  match c.leakVoltage? s side.queue myDrainNetId with
  | none => .keep
  | some myLeakVoltage =>
    if myDrainVoltage = unknownVoltage then
      if c.leakVoltageSet && myLeakVoltage != unknownVoltage && decide (side.Le myLeakVoltage myEventKey) then .keep
      else if suppressed myDrainNetId then .keep
      else .setConnection myDrainNetId
    else if side.Lt myDrainVoltage myEventKey then .clearConnections myDrainNetId mySourceNetId
    else .keep

theorem wp_estimateVoltage {myDrainNetId mySourceNetId : Nat} {myDrainVoltage : Int} :
    wp (c.estimateVoltage d side key myDrainNetId mySourceNetId myDrainVoltage)
      (HasStatus ((c.estimateChange side s (s.isSuppressed side key) key myDrainNetId mySourceNetId
        myDrainVoltage).apply side s.netStatus))
      (HasStatus ((c.estimateChange side s (s.isSuppressed side key) key myDrainNetId mySourceNetId
        myDrainVoltage).apply side s.netStatus)) s := by
  refine wp_bind.2 (wp_leakVoltage (fun leak hleak => ?_) fun e hnone => ?_)
  · refine wp_ite (fun hunknown => ?_) fun hknown => ?_
    · obtain ⟨t1, ht1, h1⟩ := @calculatePower_ok c s side key myDrainNetId mySourceNetId
      obtain ⟨t2, ht2, h2⟩ := h1.setAnalog_ok
      obtain ⟨t, ht, h⟩ := h2.setLink_self_ok side.queue (uint32 (c.resistance d * 100))
      refine wp_bind.2 (wp_of_eq_ok ht1 (wp_bind.2 (wp_of_eq_ok ht2 (wp_bind.2 (wp_of_eq_ok ht (wp_bind.2 (wp_read.2 ?_)))))))
      unfold estimateChange
      simp only [hleak]
      rw [if_pos hunknown]
      refine wp_ite (fun hsup => ?_) fun hsup => ?_
      · rw [if_pos hsup]
        exact h.netStatus_eq
      rw [if_neg hsup]
      obtain ⟨power, hpower, hpull⟩ := h.powerAt_ok
      refine wp_bind.2 (wp_of_eq_ok hpower ?_)
      rw [hpull]
      refine wp_ite (fun hpull => ?_) fun hpull => wp_update.2 ?_
      · rw [if_pos (by simpa [isSuppressed] using hpull)]
        exact h.netStatus_eq
      rw [if_neg (by simpa [isSuppressed] using hpull), ← h.netStatus_eq]
      split
      · cases side <;> rfl
      · rfl
    · unfold estimateChange
      simp only [hleak]
      rw [if_neg hknown]
      refine wp_when (fun hlt => wp_update.2 ?_) fun hle => ?_
      · rw [if_pos (of_decide_eq_true hlt)]
        rfl
      · rw [if_neg (of_decide_eq_false hle)]
        rfl
  · unfold estimateChange
    rw [hnone]
    rfl

variable (c) in
/-- What the check after a threshold does to the flags, with the answer to the test of the pull voltage. -/
def checkChange (side : EstimateSide) (s : NetState) (suppressed : Nat → Bool) (myEventKey : Int) (myDrainId mySourceId : Nat) :
    FlagChange :=
  match c.finalVoltage? s side.queue myDrainId, c.isFloating? s side.queue myDrainId with
  | some myVoltage, some floating =>
    if (floating || myVoltage == unknownVoltage || myVoltage == myEventKey || side.needsCheck (s.netStatus mySourceId)) &&
        (s.netVoltagePtr myDrainId).isSome then
      if suppressed myDrainId then .keep else .setCheck myDrainId
    else .keep
  | _, _ => .keep

theorem EstimateSide.suppresses_iff {pull : Int} :
    side.Suppresses pull key ↔ ¬ (pull == unknownVoltage || decide (side.Gt pull key)) = true := by
  simp only [Bool.or_eq_true, beq_iff_eq, decide_eq_true_eq]
  cases side <;> simp only [EstimateSide.Suppresses, EstimateSide.Le, EstimateSide.Gt] <;> omega

theorem statusAfter_addSideCheck (side : EstimateSide) (key : Int) (myDrainId mySourceId : Nat) :
    statusAfter (c.addSideCheck side key myDrainId mySourceId) s =
      (c.checkChange side s (s.isSuppressed side key) key myDrainId mySourceId).apply side s.netStatus := by
  unfold checkChange
  refine statusAfter_eq (wp_bind.2 (wp_finalVoltage (fun v t hv ht => ?_) fun e hnone => ?_))
  · refine wp_bind.2 (wp_isDerivedFromFloating (fun floating u hfloating hu => ?_) fun e hnone => ?_)
    · rw [isFloating?_of_sameReads ht] at hfloating
      replace hu := ht.trans hu
      refine wp_bind.2 (wp_read.2 ?_)
      simp only [hv, hfloating, id_eq, hu.netStatus_eq, hu.netVoltagePtr_eq]
      refine wp_ite (fun hneeds => ?_) fun hneeds => ?_
      · cases hp : s.netVoltagePtr myDrainId with
        | none =>
          simp only [Option.isSome_none, Bool.and_false, Bool.false_eq_true]
          exact hu.netStatus_eq
        | some p =>
          have hpull : s.isSuppressed side key myDrainId =
              !(side.pullVoltage (s.power p) == unknownVoltage || decide (side.Gt (side.pullVoltage (s.power p)) key)) := by
            rw [Bool.eq_iff_iff]
            simpa [isSuppressed, pullVoltage, hp] using EstimateSide.suppresses_iff
          simp only [hneeds, Option.isSome_some, Bool.and_self, if_true, hpull, hu.power_eq]
          refine wp_when (fun hset => ?_) fun hkeep => ?_
          · rw [if_neg (by simp [hset])]
            show update u.netStatus _ _ = _
            rw [hu.netStatus_eq]
            rfl
          · rw [if_pos (by simp [hkeep])]
            exact hu.netStatus_eq
      · rw [if_neg (by simp [hneeds])]
        exact hu.netStatus_eq
    · rw [isFloating?_of_sameReads ht] at hnone
      simp only [hv, hnone]
      exact ht.netStatus_eq
  · simp only [hnone]
    rfl

/-! ## A transistor connected as a diode -/

/-- The nets of `propagationNets`. -/
def propagationNets? (theConnections : CConnection) : Option (Nat × Nat) :=
  if theConnections.sourceVoltage = unknownVoltage then
    if theConnections.drainVoltage = unknownVoltage then none else some (theConnections.sourceId, theConnections.drainId)
  else if theConnections.drainVoltage = unknownVoltage then some (theConnections.drainId, theConnections.sourceId)
  else none

variable (c) in
/-- What the estimates of a transistor connected as a diode do to the flags, with the answers to the tests of the pull voltages.
-/
def diodeChange (side : EstimateSide) (s : NetState) (suppressed : Nat → Bool) (theConnections : CConnection)
    (theEventKey myEventKey : Int) : FlagChange :=
  match propagationNets? theConnections with
  | none => .keep
  | some (myDrainNetId, mySourceNetId) =>
    match c.finalVoltage? s .minQueue mySourceNetId, c.finalVoltage? s .maxQueue mySourceNetId,
      c.finalVoltage? s .minQueue myDrainNetId, c.finalVoltage? s .maxQueue myDrainNetId with
    | some myMinSourceVoltage, some myMaxSourceVoltage, some myMinDrainVoltage, some myMaxDrainVoltage =>
      if side.ofMinMax myMinSourceVoltage myMaxSourceVoltage = theEventKey then
        c.estimateChange side s suppressed myEventKey myDrainNetId mySourceNetId
          (side.ofMinMax myMinDrainVoltage myMaxDrainVoltage)
      else .keep
    | _, _, _, _ => .keep

theorem estimateChange_of_sameReads (h : s.SameReads t) : c.estimateChange side t = c.estimateChange side s := by
  funext suppressed key drain source voltage
  unfold estimateChange
  rw [leakVoltage?_of_sameReads h]

theorem isSuppressed_of_sameReads (h : s.SameReads t) : t.isSuppressed side = s.isSuppressed side := by
  funext key n
  unfold isSuppressed pullVoltage
  rw [h.netVoltagePtr_eq, h.power_eq]

theorem wp_propagationNets {Q : Nat × Nat → NetState → Prop}
    {E : NetFailure → NetState → Prop} (hQ : ∀ nets, propagationNets? conn = some nets → Q nets s)
    (hE : ∀ e, propagationNets? conn = none → E e s) : wp (c.propagationNets d conn) Q E s := by
  unfold propagationNets? at hQ hE
  refine wp_ite (fun hsource => ?_) fun hsource => wp_ite (fun hdrain => ?_) fun hdrain => ?_
  · refine wp_bind.2 (wp_ensure (fun hdrain => hQ _ ?_) fun hdrain => hE _ ?_)
    · rw [if_pos hsource, if_neg (by simpa using hdrain)]
    · rw [if_pos hsource, if_pos (by simpa using hdrain)]
  · exact hQ _ (by rw [if_neg hsource, if_pos hdrain])
  · exact hE _ (by rw [if_neg hsource, if_neg hdrain])

theorem statusAfter_estimateMosDiode (side : EstimateSide) (d : Nat) (conn : CConnection) (ev key : Int) :
    statusAfter (c.estimateMosDiode side.dual.queue d conn ev key) s =
      (c.diodeChange side s (s.isSuppressed side key) conn ev key).apply side s.netStatus := by
  unfold diodeChange
  refine statusAfter_eq (wp_bind.2 (wp_propagationNets (fun nets hnets => ?_) fun e hnone => ?_))
  · obtain ⟨myDrainNetId, mySourceNetId⟩ := nets
    refine wp_bind.2 (wp_finalVoltage (fun minSource t1 hminSource ht1 => ?_) fun e hnone => ?_)
    · refine wp_bind.2 (wp_finalVoltage_later ht1 (fun maxSource t2 hmaxSource ht2 => ?_) fun e hnone => ?_)
      · refine wp_bind.2 (wp_finalVoltage_later ht2 (fun minDrain t3 hminDrain ht3 => ?_) fun e hnone => ?_)
        · refine wp_bind.2 (wp_finalVoltage_later ht3 (fun maxDrain t4 hmaxDrain ht4 => ?_) fun e hnone => ?_)
          · simp only [hnets, hminSource, hmaxSource, hminDrain, hmaxDrain]
            have hestimate : ∀ netStatus, netStatus = FlagChange.apply side s.netStatus (if side.ofMinMax minSource maxSource =
                  ev then c.estimateChange side s (s.isSuppressed side key) key myDrainNetId mySourceNetId
                    (side.ofMinMax minDrain maxDrain) else .keep) →
                wp (when (side.ofMinMax minSource maxSource == ev) (c.estimateVoltage d side key
                  myDrainNetId mySourceNetId (side.ofMinMax minDrain maxDrain))) (HasStatus netStatus)
                    (HasStatus netStatus) t4 := by
              rintro _ rfl
              refine wp_when (fun hkey => ?_) fun hkey => ?_
              · rw [if_pos (by simpa using hkey), ← estimateChange_of_sameReads ht4, ← isSuppressed_of_sameReads ht4,
                  ← ht4.netStatus_eq]
                exact wp_estimateVoltage
              · rw [if_neg (by simpa using hkey)]
                exact ht4.netStatus_eq
            cases side <;> exact hestimate _ rfl
          · simp only [hnets, hminSource, hmaxSource, hminDrain, hnone]
            exact ht3.netStatus_eq
        · simp only [hnets, hminSource, hmaxSource, hnone]
          exact ht2.netStatus_eq
      · simp only [hnets, hminSource, hnone]
        exact ht1.netStatus_eq
    · simp only [hnets, hnone]
      rfl
  · simp only [hnone]
    rfl

end FlatCircuit

/-! ## Functions that change no flag -/

/-- Two states with the same flags. -/
def SameStatus (s t : NetState) : Prop := t.netStatus = s.netStatus

instance : IsPreorder NetState SameStatus where
  refl _ := rfl
  trans _ _ _ h h' := h'.trans h

/-- The flags stay as they are, whether the function returns or fails. -/
def KeepsStatus {α : Type} (netStatus : Nat → NetFlags) (m : NetM α) : Prop :=
  Keeps (fun s => s.netStatus = netStatus) SameStatus (fun _ s => s.netStatus = netStatus) m fun _ => True

namespace KeepsStatus

variable {netStatus : Nat → NetFlags} {q : EventQueueType}

theorem powerAt (thePower : Option Nat) : KeepsStatus netStatus (Cvc.powerAt thePower) := by
  intro s hs
  cases thePower with
  | none => exact hs
  | some p => exact ⟨hs, rfl, trivial⟩

theorem virtualNetAt (n : Nat) : KeepsStatus netStatus (Cvc.virtualNetAt q n) := by
  intro s hs
  unfold KeepsAt wp Cvc.virtualNetAt
  cases operatorCall (s.virtualNet q) n with
  | none => exact hs
  | some r => exact ⟨hs, rfl, trivial⟩

theorem setLink (n m r : Nat) : KeepsStatus netStatus (Cvc.setLink q n m r) := by
  intro s hs
  unfold KeepsAt wp Cvc.setLink
  simp only
  cases (s.virtualNet q).set n m r (s.virtualNet q).lastUpdate with
  | none => exact hs
  | some v => exact ⟨hs, rfl, trivial⟩

theorem advanceUpdate : KeepsStatus netStatus (Cvc.advanceUpdate q) := fun _ hs => ⟨hs, rfl, trivial⟩

theorem setLinkLater (n m r : Nat) : KeepsStatus netStatus (Cvc.setLinkLater q n m r) :=
  .seq advanceUpdate fun _ => setLink n m r

theorem shiftLinks (shiftsLeft newNet : Nat) (lastNet : CVirtualNet) (sourceResistance drainResistance : Nat) :
    KeepsStatus netStatus (Cvc.shiftLinks q shiftsLeft newNet lastNet sourceResistance drainResistance) := by
  induction shiftsLeft generalizing newNet lastNet sourceResistance drainResistance with
  | zero =>
    exact .ite (fun _ => .fail fun _ hs => hs) fun _ => .pure trivial
  | succ shiftsLeft ih =>
    refine .ite (fun _ => ?_) fun _ => .pure trivial
    refine .seq (.ensure fun _ hs => hs) fun _ => .seq (virtualNetAt _) fun _ => ?_
    refine .seq (.read fun _ => trivial) fun _ => .seq (setLinkLater _ _ _) fun _ => ?_
    exact .seq (.read fun _ => trivial) fun _ => .seq (ih _ _ _ _) fun _ => .pure trivial

theorem propagateTypes (types : ModelType → Bool) (netsLeft n : Nat) :
    KeepsStatus netStatus (Cvc.propagateTypes q types netsLeft n) := by
  induction netsLeft generalizing n with
  | zero =>
    intro s hs
    refine .read_bind (.ite (fun _ => .pure hs trivial) fun _ => ?_)
    exact wp_bind.2 (wp_update.2 hs)
  | succ netsLeft ih =>
    intro s hs
    refine .read_bind (.ite (fun _ => .pure hs trivial) fun _ => ?_)
    exact wp_bind.2 (wp_update.2 (ih _ _ hs))

variable {c : FlatCircuit} {d : Nat} {conn : CConnection} {dir : ShortDirection}

theorem rerouteNet : KeepsStatus netStatus (c.rerouteNet q d conn dir) := by
  refine .seq advanceUpdate fun _ => .seq (setLink _ _ _) fun _ => .when (fun _ => ?_) trivial
  exact fun s hs => .read_bind (propagateTypes _ _ _ s hs)

theorem isDirectReroute : KeepsStatus netStatus (FlatCircuit.isDirectReroute q conn dir) := by
  refine fun s hs => .read_bind (.ite (fun _ => ?_) fun _ => .pure hs trivial)
  refine .read_bind (.ite (fun _ => .pure hs trivial) fun _ => ?_)
  exact Keeps.seq (powerAt _) (fun _ => .seq (powerAt _) fun _ => .pure trivial) s hs

theorem rerouteAndShift : KeepsStatus netStatus (c.rerouteAndShift q d conn dir) := fun s hs =>
  .read_bind (Keeps.seq rerouteNet (fun _ => shiftLinks _ _ _ _ _) s hs)

theorem rerouteShorted : KeepsStatus netStatus (c.rerouteShorted q d conn) := by
  refine .ite (fun _ => .pure trivial) fun _ => .ite (fun _ => ?_) fun _ => ?_
  · refine .seq isDirectReroute fun _ => .ite (fun _ => .seq rerouteNet fun _ => .pure trivial) fun _ => ?_
    exact .seq isDirectReroute fun _ => .seq (.when (fun _ => rerouteNet) trivial) fun _ => .pure trivial
  · refine fun s hs => .read_bind (.ite (fun _ => rerouteAndShift s hs) fun _ => ?_)
    exact .ite (fun _ => rerouteAndShift s hs) fun _ => .pure hs trivial

end KeepsStatus
end Cvc
