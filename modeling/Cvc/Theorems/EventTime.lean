import Cvc.Netlist

/-!
# Event times of the sim queue

The key of an event in the sim queue is a time on two scales: up to `EVENT_CUTOFF` a unit is one ohm, and above it 256. `SimKey`
adds the resistance of a device on the finer scale and rounds down. `simKey_consistent`: times never fall along a path, they keep
the order of times and resistances, and a path that is split into more resistors is at most one unit earlier for each of them.
-/

namespace Cvc

open Program

namespace FlatCircuit

/-- The time that `SimKey` returns if it is below `MAX_EVENT_TIME`. -/
def simTime (theCurrentKey : Int) (theIncrement : Nat) : Int :=
  let myEventKey := (if theCurrentKey < eventCutoff then theCurrentKey else eventCutoff + (theCurrentKey - eventCutoff) * 2 ^ 8) +
    theIncrement
  if myEventKey > eventCutoff then eventCutoff + (myEventKey - eventCutoff) / 2 ^ 8 else myEventKey

variable {t t' r : Int} {a b : Nat} {s s' : NetState} {l : List Nat}

theorem simKey_eq_ok : simKey t a s = .ok r s' ↔ (r = simTime t a ∧ s' = s) ∧ r < maxEventTime := by
  show (ensure (decide (simTime t a < maxEventTime)) _ >>= fun _ => pure (simTime t a) : NetM Int) s = _ ↔ _
  rw [run_bind_eq_ok]
  constructor
  · rintro ⟨⟨⟩, u, hensure, hpure⟩
    unfold ensure at hensure
    split at hensure
    case isTrue hlt =>
      cases hensure
      cases hpure
      exact ⟨⟨rfl, rfl⟩, of_decide_eq_true hlt⟩
    case isFalse => nomatch hensure
  · rintro ⟨⟨rfl, rfl⟩, hlt⟩
    exact ⟨⟨⟩, s', by rw [ensure, decide_eq_true hlt]; rfl, rfl⟩

theorem le_simTime : t ≤ simTime t a := by
  unfold simTime
  dsimp only
  split <;> split <;> omega

/-- What is rounded off by the first of two resistors is less than a unit. -/
theorem simTime_simTime : simTime (simTime t a) b = simTime t (a + b) ∨ simTime (simTime t a) b = simTime t (a + b) - 1 := by
  unfold simTime
  dsimp only
  split <;> split <;> split <;> split <;> split <;> omega

theorem foldl_simTime (a : Nat) (l : List Nat) :
    simTime t (a + l.sum) - l.length ≤ l.foldl simTime (simTime t a) ∧ l.foldl simTime (simTime t a) ≤ simTime t (a + l.sum) := by
  induction l generalizing t a with
  | nil => simp
  | cons b l ih =>
    -- the rest of the path is one resistor behind the first one
    have hrest := @ih (simTime t a) b
    have hsplit := @simTime_simTime t a (b + l.sum)
    simp only [List.foldl_cons, List.sum_cons, List.length_cons]
    omega

theorem foldlM_simKey (h : l.foldlM simKey t s = .ok r s') : r = l.foldl simTime t := by
  induction l generalizing t s with
  | nil =>
    cases h
    rfl
  | cons a l ih =>
    obtain ⟨u, v, hkey, hrest⟩ := run_bind_eq_ok.1 h
    obtain ⟨⟨rfl, -⟩, -⟩ := simKey_eq_ok.1 hkey
    exact ih hrest

/-- The times of the sim queue, where they are below the limit: for a device, for two of them, and along a path. -/
theorem simKey_consistent (s : NetState) (t : Int) :
    (∀ a r, simKey t a s = .ok r s → t ≤ r) ∧
    (∀ t' a b r u, t ≤ t' → a ≤ b → simKey t a s = .ok r s → simKey t' b s = .ok u s → r ≤ u) ∧
    (∀ a b r u w, simKey t a s = .ok r s → simKey r b s = .ok u s → simKey t (a + b) s = .ok w s → u = w ∨ u = w - 1) ∧
    ∀ a l u w, (a :: l).foldlM simKey t s = .ok u s → simKey t (a :: l).sum s = .ok w s → w - l.length ≤ u ∧ u ≤ w := by
  refine ⟨fun a r hr => ?_, fun t' a b r u ht hab hr hu => ?_, fun a b r u w hr hu hw => ?_, fun a l u w hu hw => ?_⟩
  · obtain ⟨⟨rfl, -⟩, -⟩ := simKey_eq_ok.1 hr
    exact le_simTime
  · obtain ⟨⟨rfl, -⟩, -⟩ := simKey_eq_ok.1 hr
    obtain ⟨⟨rfl, -⟩, -⟩ := simKey_eq_ok.1 hu
    unfold simTime
    dsimp only
    split <;> split <;> split <;> split <;> omega
  · obtain ⟨⟨rfl, -⟩, -⟩ := simKey_eq_ok.1 hr
    obtain ⟨⟨rfl, -⟩, -⟩ := simKey_eq_ok.1 hu
    obtain ⟨⟨rfl, -⟩, -⟩ := simKey_eq_ok.1 hw
    exact simTime_simTime
  · obtain ⟨⟨rfl, -⟩, -⟩ := simKey_eq_ok.1 hw
    rw [foldlM_simKey hu]
    exact foldl_simTime a l

/-- At the cutoff, 255 and 1 do not make a unit of 256. -/
theorem simKey_split_at_cutoff : let s := NetState.ofPowers 0 [] []
    let path := [255, 1].foldlM simKey eventCutoff s
    path = .ok (2 ^ 24) s ∧ simKey eventCutoff 256 s = .ok (2 ^ 24 + 1) s ∧ (2 ^ 24 + 1 - 1 : Int) ≤ 2 ^ 24 := by
  refine ⟨rfl, rfl, ?_⟩
  exact ((simKey_consistent (NetState.ofPowers 0 [] []) eventCutoff).2.2.2 255 [1] (2 ^ 24) (2 ^ 24 + 1) rfl rfl).1

end FlatCircuit
end Cvc
