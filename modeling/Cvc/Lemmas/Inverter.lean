import Cvc.Inverter
import Cvc.Lib.Loop
import Cvc.Lib.PartialMap

/-!
# The passes over the inverters

Both recursions are sampled walks along the inputs of the nets (`setInverterHighLow_eq`, `setInverterInput_eq`). The first one
makes the polarity, relative to a colouring of the nets, that of the net where it stops; the second one makes the input of every
net it passes the net where it stops.
-/

namespace Cvc

open Function (update update_self update_of_ne)
open PartialMap

variable {inv : Nat → Nat} {net input depth last : Nat} {passed : List Nat} {highLow : Nat → Bool}

/-- The input of the inverter of a net, if it has one. -/
def inputOf (inverterNet : Nat → Nat) (net : Nat) : Option Nat :=
  if inverterNet net = unknownNet then none else some (inverterNet net)

theorem inputOf_eq_none : inputOf inv net = none ↔ inv net = unknownNet := by
  unfold inputOf
  split <;> simp_all

theorem inputOf_eq_some : inputOf inv net = some input ↔ inv net ≠ unknownNet ∧ inv net = input := by
  unfold inputOf
  split <;> simp_all

theorem inputOf_of_ne (h : inv net ≠ unknownNet) : inputOf inv net = some (inv net) :=
  if_neg h

/-- Each net of a walk gets the inverse of its input, from the end of the walk back. -/
def invertAlong (inverterNet : Nat → Nat) (passed : List Nat) (highLow : Nat → Bool) : Nat → Bool :=
  passed.foldr (fun n highLow => update highLow n (!highLow (inverterNet n))) highLow

/-- Each net of a walk gets the end of the walk as its input. -/
def redirect (passed : List Nat) (last : Nat) (inverterNet : Nat → Nat) : Nat → Nat :=
  passed.foldr (fun n inverterNet => update inverterNet n last) inverterNet

theorem setInverterHighLow_eq (inv : Nat → Nat) (depth net : Nat) (seen : List Nat) (count : Nat) (highLow : Nat → Bool) :
    setInverterHighLow inv depth net seen count highLow =
      match sampledWalk (inputOf inv) 1024 depth seen count net with
      | none => .error .endless
      | some (passed, _) => .ok (invertAlong inv passed highLow) := by
  induction depth generalizing net seen count
  all_goals
    unfold setInverterHighLow
    by_cases hnet : inv net = unknownNet
    · rw [if_pos hnet, sampledWalk_stop (.inl (inputOf_eq_none.2 hnet))]
      rfl
    by_cases hseen : net ∈ seen
    · rw [if_neg hnet, if_pos hseen, sampledWalk_stop (.inr hseen)]
      rfl
    rw [if_neg hnet, if_neg hseen]
  · rw [sampledWalk]
    simp [inputOf_of_ne hnet, hseen]
  rename_i depth ih
  rw [sampledWalk_succ (inputOf_of_ne hnet) hseen]
  simp only [ih]
  cases sampledWalk (inputOf inv) 1024 depth (if count % 1024 = 0 then net :: seen else seen) (count + 1) (inv net) <;> rfl

theorem setInverterInput_eq (depth net : Nat) (seen : List Nat) (count : Nat) (inv : Nat → Nat) :
    setInverterInput depth net seen count inv =
      match sampledWalk (inputOf inv) 1024 depth seen count net with
      | none => .error .endless
      | some (passed, last) => .ok (last, redirect passed last inv) := by
  induction depth generalizing net seen count
  all_goals
    unfold setInverterInput
    by_cases hnet : inv net = unknownNet
    · rw [if_pos hnet, sampledWalk_stop (.inl (inputOf_eq_none.2 hnet))]
      rfl
    by_cases hseen : net ∈ seen
    · rw [if_neg hnet, if_pos hseen, sampledWalk_stop (.inr hseen)]
      rfl
    rw [if_neg hnet, if_neg hseen]
  · rw [sampledWalk]
    simp [inputOf_of_ne hnet, hseen]
  rename_i depth ih
  rw [sampledWalk_succ (inputOf_of_ne hnet) hseen]
  simp only [ih]
  cases sampledWalk (inputOf inv) 1024 depth (if count % 1024 = 0 then net :: seen else seen) (count + 1) (inv net) <;> rfl

section
variable {netCount : Nat} (hlt : ∀ n, inv n ≠ unknownNet → n < netCount ∧ inv n < netCount)
include hlt

theorem inputOf_closed : ∀ x ∈ Finset.range netCount, ∀ y, inputOf inv x = some y → y ∈ Finset.range netCount := by
  intro x _ y hy
  obtain ⟨hne, rfl⟩ := inputOf_eq_some.1 hy
  exact Finset.mem_range.2 (hlt x hne).2

/-- A walk within the nets stops within 1024 edges for each net. -/
theorem exists_walk (hdepth : netCount * 1024 ≤ depth) (hnet : net < netCount) :
    ∃ passed last, sampledWalk (inputOf inv) 1024 depth [] 0 net = some (passed, last) := by
  rw [← Finset.card_range netCount] at hdepth
  obtain ⟨walk, hwalk⟩ := exists_sampledWalk_nil (by decide : 0 < 1024) (inputOf_closed hlt) hdepth (Finset.mem_range.2 hnet)
  exact ⟨walk.1, walk.2, hwalk⟩

end

/-! ## Polarities -/

/-- The two nets of every inverter have different colours. -/
def IsColoring (inverterNet : Nat → Nat) (color : Nat → Bool) : Prop :=
  ∀ x y, inputOf inverterNet x = some y → color x = !color y

section
variable {color : Nat → Bool}

/-- The polarities after a walk: relative to a colouring, every net passed has the one of the net where the walk stops. -/
theorem invertAlong_apply (hcolor : IsColoring inv color) {seen : List Nat} (h : Walk (inputOf inv) seen net passed last)
    (n : Nat) :
    invertAlong inv passed highLow n =
      if n ∈ passed then (highLow last ^^ color last ^^ color n) else highLow n := by
  induction h generalizing n with
  | root | seen => rfl
  | @step seen seen' x y z passed hsub hy h ih =>
    obtain ⟨-, hinput⟩ := inputOf_eq_some.1 hy
    have hy' : invertAlong inv passed highLow y = (highLow z ^^ color z ^^ color y) := by
      rw [ih]
      cases h <;> simp
    show update (invertAlong inv passed highLow) x (!invertAlong inv passed highLow (inv x)) n = _
    rw [hinput, hy']
    by_cases hn : n = x
    · subst hn
      rw [update_self, if_pos List.mem_cons_self, hcolor n y hy]
      cases highLow z <;> cases color z <;> cases color y <;> rfl
    · rw [update_of_ne hn, ih]
      simp [hn]

theorem invertAlong_of_not_mem {n : Nat} (hn : n ∉ passed) : invertAlong inv passed highLow n = highLow n := by
  induction passed with
  | nil => rfl
  | cons m passed ih =>
    rw [List.mem_cons, not_or] at hn
    show update (invertAlong inv passed highLow) m _ n = _
    rw [update_of_ne hn.1, ih hn.2]

/-- The polarity relative to the colouring is the same from this net on. -/
def Settled (inverterNet : Nat → Nat) (color highLow : Nat → Bool) (net : Nat) : Prop :=
  ∀ k n, steps (inputOf inverterNet) k net = some n → (highLow n ^^ color n) = (highLow net ^^ color net)

theorem Settled.of_steps {n k : Nat} (h : Settled inv color highLow net)
    (hn : steps (inputOf inv) k net = some n) : Settled inv color highLow n := by
  intro l m hm
  rw [h k n hn]
  refine h (k + l) m ?_
  rw [steps_add, hn]
  exact hm

/-- A change that gives a net the relative polarity of its settled input settles it and keeps what is settled. -/
theorem Settled.update {value : Bool} (hinput : inputOf inv net = some input)
    (hsettled : Settled inv color highLow input) (hvalue : (value ^^ color net) = (highLow input ^^ color input)) :
    Settled inv color (Function.update highLow net value) net ∧
      ∀ m, Settled inv color highLow m → Settled inv color (Function.update highLow net value) m := by
  -- a net settled before that leads to the changed one has the polarity of the input, so nothing changes
  have hsame : Settled inv color highLow net → Function.update highLow net value = highLow := by
    intro h
    have := h 1 input (by rw [steps_succ_of_next hinput]; rfl)
    rw [this, Bool.xor_left_inj] at hvalue
    rw [hvalue, Function.update_eq_self]
  have hkeep : ∀ m, Settled inv color highLow m → Settled inv color (Function.update highLow net value) m := by
    intro m h
    by_cases hreach : ∃ k, steps (inputOf inv) k m = some net
    · obtain ⟨k, hk⟩ := hreach
      rwa [hsame (h.of_steps hk)]
    · intro k n hn
      have hne : ∀ j l, steps (inputOf inv) j m = some l → l ≠ net := fun j l hl heq => hreach ⟨j, heq ▸ hl⟩
      rw [update_of_ne (hne k n hn), update_of_ne (hne 0 m rfl)]
      exact h k n hn
  refine ⟨?_, hkeep⟩
  intro k n hn
  cases k with
  | zero => rw [Option.some.inj hn]
  | succ k =>
    rw [steps_succ_of_next hinput] at hn
    by_cases hreach : ∃ k, steps (inputOf inv) k input = some net
    · obtain ⟨j, hj⟩ := hreach
      rw [hsame (hsettled.of_steps hj), hsettled j net hj]
      exact hsettled k n hn
    · rw [hkeep input hsettled k n hn, update_self, hvalue,  update_of_ne (fun h : input = net => hreach ⟨0, h ▸ rfl⟩)]

/-- A walk settles the net it starts from, and keeps what is settled. -/
theorem Settled.invertAlong_settled (hcolor : IsColoring inv color) (h : Walk (inputOf inv) [] net passed last) :
    Settled inv color (invertAlong inv passed highLow) net ∧ ∀ m, Settled inv color highLow m →
        Settled inv color (invertAlong inv passed highLow) m := by
  have hvalue := @invertAlong_apply _ _ _ _ highLow _ hcolor _ h
  have hpassed : ∀ n, n ∈ passed ∨ n = last → (invertAlong inv passed highLow n ^^ color n) = (highLow last ^^ color last) := by
    rintro n (hn | rfl)
    · rw [hvalue, if_pos hn, Bool.xor_assoc, Bool.xor_self, Bool.xor_false]
    · rw [hvalue]
      split
      · rw [Bool.xor_assoc, Bool.xor_self, Bool.xor_false]
      · rfl
  refine ⟨?_, ?_⟩
  · intro k n hn
    rw [hpassed n (h.mem_of_steps hn), hpassed net (h.mem_of_steps (k := 0) rfl)]
  · intro m hm
    -- on its way a settled net meets the walk only with the polarity of its end, so its own way is unchanged
    have hsame : ∀ k n, steps (inputOf inv) k m = some n →
      (invertAlong inv passed highLow n ^^ color n) = (highLow n ^^ color n) := by
      intro k n hn
      by_cases hmem : n ∈ passed
      · obtain ⟨j, hj⟩ := h.exists_steps_of_mem hmem
        rw [hpassed n (.inl hmem)]
        exact (hm.of_steps hn) (j + 1) last hj
      · rw [hvalue, if_neg hmem]
    intro k n hn
    rw [hsame k n hn, hsame 0 m rfl]
    exact hm k n hn

end

namespace InverterNets

variable (nets : InverterNets)

/-- A round of the first loop stops and only changes nets with an input; for every colouring it settles its net, if it has one,
and keeps what is settled. -/
theorem setHighLow_spec (hdepth : nets.netCount * 1024 ≤ depth) (highLow : Nat → Bool) (net : Nat) :
    ∃ highLow', nets.setHighLow depth highLow net = .ok highLow' ∧
      (∀ m, nets.inverterNet m = unknownNet → highLow' m = highLow m) ∧
      ∀ color, IsColoring nets.inverterNet color →
        (∀ m, Settled nets.inverterNet color highLow m → Settled nets.inverterNet color highLow' m) ∧
        (nets.inverterNet net ≠ unknownNet → Settled nets.inverterNet color highLow' net) := by
  unfold setHighLow
  by_cases hinput : nets.inverterNet net = unknownNet
  · refine ⟨highLow, ?_, fun _ _ => rfl, fun _ _ => ⟨fun _ => id, fun h => absurd hinput h⟩⟩
    simp only [hinput, if_true, ite_self]
    rfl
  have hnet := inputOf_of_ne hinput
  obtain ⟨passed, last, hwalk⟩ := exists_walk nets.lt_netCount hdepth (nets.lt_netCount net hinput).2
  refine ⟨update (invertAlong nets.inverterNet passed highLow) net
    (!invertAlong nets.inverterNet passed highLow (nets.inverterNet net)), ?_, fun m hm => ?_, fun color hcolor => ?_⟩
  · simp only [nets.master net hinput, setInverterHighLow_eq, hwalk, if_neg hinput]
    rfl
  · have hpassed : m ∉ passed := by
      intro hmem
      obtain ⟨y, hy⟩ := (walk_of_sampledWalk hwalk).exists_next hmem
      exact (inputOf_eq_some.1 hy).1 hm
    rw [update_of_ne (fun heq : m = net => hinput (heq ▸ hm)), invertAlong_of_not_mem hpassed]
  · obtain ⟨hstart, hkeep⟩ := @Settled.invertAlong_settled _ _ _ _ highLow _ hcolor (walk_of_sampledWalk hwalk)
    obtain ⟨hsettled, hkeep'⟩ := @Settled.update _ _ _ _ _ (!invertAlong nets.inverterNet passed highLow (nets.inverterNet net))
      hnet hstart (by rw [hcolor net _ hnet]; simp)
    exact ⟨fun m hm => hkeep' m (hkeep m hm), fun _ => hsettled⟩

/-- The first loop stops, only changes nets with an input, and settles each of them. -/
theorem exists_highLow (hdepth : nets.netCount * 1024 ≤ depth) (highLow : Nat → Bool) :
    ∃ highLow', (List.range nets.netCount).foldlM (nets.setHighLow depth) highLow = .ok highLow' ∧
      (∀ net, nets.inverterNet net = unknownNet → highLow' net = highLow net) ∧ ∀ color, IsColoring nets.inverterNet color →
        ∀ net, nets.inverterNet net ≠ unknownNet → Settled nets.inverterNet color highLow' net := by
  obtain ⟨highLow', hok, hroot, hsettled⟩ := @Loop.exists_foldlM_range _ _ _ (fun i highLow1 =>
      (∀ net, nets.inverterNet net = unknownNet → highLow1 net = highLow net) ∧ ∀ color, IsColoring nets.inverterNet color →
        ∀ net < i, nets.inverterNet net ≠ unknownNet → Settled nets.inverterNet color highLow1 net) _
    (fun i highLow1 _ ⟨hroot, hsettled⟩ => by
      obtain ⟨highLow2, hok, hsame, hround⟩ := nets.setHighLow_spec hdepth highLow1 i
      refine ⟨highLow2, hok, fun net hnet => (hsame net hnet).trans (hroot net hnet), fun color hcolor net hnet hinput => ?_⟩
      obtain ⟨hkeep, hnew⟩ := hround color hcolor
      rcases Nat.lt_succ_iff_lt_or_eq.1 hnet with hlt | rfl
      · exact hkeep net (hsettled color hcolor net hlt hinput)
      · exact hnew hinput) _ ⟨fun _ _ => rfl, fun _ _ _ h => absurd h (Nat.not_lt_zero _)⟩
  refine ⟨highLow', hok, hroot, fun color hcolor net hinput => ?_⟩
  exact hsettled color hcolor net (nets.lt_netCount net hinput).1 hinput

end InverterNets

/-! ## Inputs -/

theorem redirect_apply (passed : List Nat) (last n : Nat) : redirect passed last inv n = if n ∈ passed then last else inv n := by
  induction passed with
  | nil => rfl
  | cons m passed ih =>
    show update (redirect passed last inv) m last n = _
    by_cases hn : n = m
    · subst hn
      simp
    · rw [update_of_ne hn, ih]
      simp [hn]

theorem inputOf_redirect_of_mem {n : Nat} (hn : n ∈ passed) (hlast : last ≠ unknownNet) :
    inputOf (redirect passed last inv) n = some last := by
  rw [inputOf, redirect_apply, if_pos hn, if_neg hlast]

theorem inputOf_redirect_of_not_mem {n : Nat} (hn : n ∉ passed) : inputOf (redirect passed last inv) n = inputOf inv n := by
  rw [inputOf, redirect_apply, if_neg hn, inputOf]

/-- A net that leads to one of the nets of a walk, or to its end, leads to the end of the walk afterwards. -/
theorem exists_steps_redirect (hlast : last ≠ unknownNet) {n w k : Nat}
    (hn : steps (inputOf inv) k n = some w) (hw : w ∈ passed ∨ w = last) :
    ∃ l, steps (inputOf (redirect passed last inv)) l n = some last := by
  by_cases hmem : n ∈ passed
  · exact ⟨1, by rw [steps_succ_of_next (inputOf_redirect_of_mem hmem hlast)]; rfl⟩
  induction k generalizing n with
  | zero =>
    cases hn
    exact ⟨0, congrArg some (hw.resolve_left hmem)⟩
  | succ k ih =>
    obtain ⟨m, hm, hn⟩ := steps_succ_eq_some.1 hn
    have hm' : inputOf (redirect passed last inv) n = some m := (inputOf_redirect_of_not_mem hmem).trans hm
    by_cases hmem' : m ∈ passed
    · exact ⟨2, by rw [steps_succ_of_next hm', steps_succ_of_next (inputOf_redirect_of_mem hmem' hlast)]; rfl⟩
    · obtain ⟨l, hl⟩ := ih hn hmem'
      exact ⟨l + 1, by rw [steps_succ_of_next hm', hl]⟩

/-- A way that does not meet a walk is the same afterwards. -/
theorem steps_redirect_of_not_mem {n w k : Nat}
    (havoid : ∀ j m, steps (inputOf inv) j n = some m → m ∉ passed) (hn : steps (inputOf inv) k n = some w) :
    steps (inputOf (redirect passed last inv)) k n = some w := by
  induction k generalizing n with
  | zero => exact hn
  | succ k ih =>
    obtain ⟨m, hm, hn⟩ := steps_succ_eq_some.1 hn
    rw [steps_succ_of_next ((inputOf_redirect_of_not_mem (havoid 0 n rfl)).trans hm)]
    exact ih (fun j l hl => havoid (j + 1) l (by rw [steps_succ_of_next hm, hl])) hn

/-- The inputs while the second loop runs: the nets are connected as they were, every two connected nets lead to a common one,
and the input of a net already handled leads nowhere else. -/
structure Redirected (nets : InverterNets) (inverterNet : Nat → Nat) (done : Nat) : Prop where
  unknown_iff : ∀ n, inverterNet n = unknownNet ↔ nets.inverterNet n = unknownNet
  lt_netCount : ∀ n, inverterNet n ≠ unknownNet → n < nets.netCount ∧ inverterNet n < nets.netCount
  connected : ∀ n m, inputOf inverterNet n = some m → ∃ k, Path (inputOf nets.inverterNet) n m k
  meet : ∀ n m k, Path (inputOf nets.inverterNet) n m k →
    ∃ w i j, steps (inputOf inverterNet) i n = some w ∧ steps (inputOf inverterNet) j m = some w
  absorbing : ∀ n < done, inverterNet n ≠ unknownNet →
    inputOf inverterNet (inverterNet n) = none ∨ inputOf inverterNet (inverterNet n) = some (inverterNet n)

namespace Redirected

variable {nets : InverterNets} {done : Nat}

theorem initial (nets : InverterNets) : Redirected nets nets.inverterNet 0 where
  unknown_iff _ := .rfl
  lt_netCount := nets.lt_netCount
  connected n m h := ⟨1, .forth (.refl n) h⟩
  meet n m k h := by
    obtain ⟨i, j, w, hi, hj, -⟩ := h.meet
    exact ⟨w, i, j, hi, hj⟩
  absorbing n h := absurd h (Nat.not_lt_zero n)

theorem path_of_steps (h : Redirected nets inv done) {k n m : Nat} (hm : steps (inputOf inv) k n = some m) :
    ∃ l, Path (inputOf nets.inverterNet) n m l := by
  induction k generalizing n with
  | zero =>
    cases hm
    exact ⟨0, .refl _⟩
  | succ k ih =>
    obtain ⟨l, hn, hm⟩ := steps_succ_eq_some.1 hm
    obtain ⟨i, hi⟩ := h.connected n l hn
    obtain ⟨j, hj⟩ := ih hm
    exact ⟨i + j, hi.trans hj⟩

/-- The input of a net with nothing further on is the end of every way of its component. -/
theorem eq_of_path (h : Redirected nets inv done) {n m k : Nat} (hpath : Path (inputOf nets.inverterNet) n m k)
    (hn : n < done) (hinput : inv n ≠ unknownNet) (hm : inputOf inv m = none ∨ inputOf inv m = some m) : inv n = m := by
  obtain ⟨l, hl⟩ := h.connected n (inv n) (inputOf_of_ne hinput)
  obtain ⟨w, i, j, hi, hj⟩ := h.meet _ _ _ (hl.symm.trans hpath)
  exact (eq_of_steps (h.absorbing n hn hinput) hi).symm.trans (eq_of_steps hm hj)

/-- A walk in the second loop handles the net it starts from. -/
theorem redirect_walk (h : Redirected nets inv done) (hwalk : Walk (inputOf inv) [] done passed last)
    (hdone : done ∈ passed) (hlast : last ≠ unknownNet) (hlt : last < nets.netCount) :
    Redirected nets (redirect passed last inv) (done + 1) where
  unknown_iff n := by
    rw [redirect_apply]
    split
    case isTrue hn =>
      obtain ⟨y, hy⟩ := hwalk.exists_next hn
      exact iff_of_false hlast (mt (h.unknown_iff n).2 (inputOf_eq_some.1 hy).1)
    case isFalse => exact h.unknown_iff n
  lt_netCount n := by
    rw [redirect_apply]
    split
    case isTrue hn =>
      obtain ⟨y, hy⟩ := hwalk.exists_next hn
      exact fun _ => ⟨(h.lt_netCount n (inputOf_eq_some.1 hy).1).1, hlt⟩
    case isFalse => exact h.lt_netCount n
  connected n m := by
    intro hm
    by_cases hn : n ∈ passed
    · rw [inputOf_redirect_of_mem hn hlast] at hm
      cases hm
      obtain ⟨k, hk⟩ := hwalk.exists_steps_of_mem hn
      exact h.path_of_steps hk
    · rw [inputOf_redirect_of_not_mem hn] at hm
      exact h.connected n m hm
  meet n m k hpath := by
    by_cases hcomponent : ∃ l, Path (inputOf nets.inverterNet) n done l
    · -- the nets connected to the walk all lead to its end
      obtain ⟨l, hl⟩ := hcomponent
      have hlead : ∀ m l, Path (inputOf nets.inverterNet) m done l →
          ∃ l, steps (inputOf (redirect passed last inv)) l m = some last := by
        intro m l hl
        obtain ⟨w, i, j, hi, hj⟩ := h.meet m done l hl
        exact exists_steps_redirect hlast hi (hwalk.mem_of_steps hj)
      obtain ⟨i, hi⟩ := hlead n l hl
      obtain ⟨j, hj⟩ := hlead m _ (hpath.symm.trans hl)
      exact ⟨last, i, j, hi, hj⟩
    · -- the others never meet the walk
      have havoid : ∀ l, (∃ k, Path (inputOf nets.inverterNet) n l k) → ∀ j x, steps (inputOf inv) j l = some x → x ∉ passed := by
        rintro l ⟨k, hk⟩ j x hx hmem
        obtain ⟨a, ha⟩ := h.path_of_steps hx
        obtain ⟨i, hi⟩ := hwalk.exists_steps_of_mem hmem
        obtain ⟨b, hb⟩ := h.path_of_steps hi
        obtain ⟨c, hc⟩ := h.path_of_steps hwalk.exists_steps
        exact hcomponent ⟨_, (((hk.trans ha).trans hb).trans hc.symm)⟩
      obtain ⟨w, i, j, hi, hj⟩ := h.meet n m k hpath
      exact ⟨w, i, j, steps_redirect_of_not_mem (havoid n ⟨0, .refl n⟩) hi, steps_redirect_of_not_mem (havoid m ⟨k, hpath⟩) hj⟩
  absorbing n hn hinput := by
    rw [redirect_apply] at hinput ⊢
    by_cases hmem : n ∈ passed
    · rw [if_pos hmem]
      by_cases hend : last ∈ passed
      · exact .inr (inputOf_redirect_of_mem hend hlast)
      rw [inputOf_redirect_of_not_mem hend]
      rcases hwalk.stop with hstop | hstop | hstop
      · exact .inl hstop
      · exact nomatch hstop
      · exact absurd hstop hend
    · rw [if_neg hmem] at hinput ⊢
      have hlt : n < done := by
        have : n ≠ done := fun heq => hmem (heq ▸ hdone)
        omega
      have habsorbing := h.absorbing n hlt hinput
      by_cases hnext : inv n ∈ passed
      · -- the walk passes an input that leads only to itself, so it ends there
        obtain ⟨k, hk⟩ := hwalk.exists_steps_of_mem hnext
        rw [← eq_of_steps habsorbing hk]
        exact .inr (inputOf_redirect_of_mem (eq_of_steps habsorbing hk ▸ hnext) hlast)
      · rwa [inputOf_redirect_of_not_mem hnext]

end Redirected

namespace InverterNets

variable (nets : InverterNets)

/-- A round of the second loop stops and handles its net. -/
theorem setInput_spec (hdepth : nets.netCount * 1024 ≤ depth) (h : Redirected nets inv net) :
    ∃ inverterNet', nets.setInput depth inv net = .ok inverterNet' ∧ Redirected nets inverterNet' (net + 1) := by
  unfold setInput
  by_cases hinput : inv net = unknownNet
  · refine ⟨inv, ?_, h.unknown_iff, h.lt_netCount, h.connected, h.meet, fun n hn hne => ?_⟩
    · simp only [hinput, if_true, ite_self]
      rfl
    · have : n ≠ net := fun heq => hne (heq ▸ hinput)
      exact h.absorbing n (by omega) hne
  obtain ⟨passed, last, hok⟩ := exists_walk h.lt_netCount hdepth (h.lt_netCount net hinput).2
  have hwalk : Walk (inputOf inv) [] net (net :: passed) last :=
    .step (List.nil_subset _) (inputOf_of_ne hinput) (walk_of_sampledWalk hok)
  obtain ⟨w, hw⟩ : ∃ w, inputOf inv w = some last := hwalk.exists_last List.mem_cons_self
  obtain ⟨hne, rfl⟩ := inputOf_eq_some.1 hw
  refine ⟨redirect (net :: passed) (inv w) inv, ?_, h.redirect_walk hwalk List.mem_cons_self hne (h.lt_netCount w hne).2⟩
  simp only [nets.master net (mt (h.unknown_iff net).2 hinput), setInverterInput_eq, hok, if_neg hinput]
  rfl

/-- The second loop stops with every net handled. -/
theorem exists_inverterNet (hdepth : nets.netCount * 1024 ≤ depth) :
    ∃ inv, (List.range nets.netCount).foldlM (nets.setInput depth) nets.inverterNet = .ok inv ∧
      Redirected nets inv nets.netCount :=
  @Loop.exists_foldlM_range _ _ _ (fun done inv => Redirected nets inv done) _
    (fun _ _ _ h => nets.setInput_spec hdepth h) _ (.initial nets)

end InverterNets
end Cvc
