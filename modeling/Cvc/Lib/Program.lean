import Mathlib.Order.Defs.Unbundled

/-!
# Programs with a state and failures

A program over a state `σ` that may fail with an `ε` is an `EStateM ε σ`: it ends with a value or a failure, and in both cases
with the state it has reached. `wp m Q E s` says that `m`, started in `s`, ends with a value and a state in `Q` or with a failure
and a state in `E`; it is computed along the program by the lemmas below. A program over a part of the state runs on the whole of
it by `zoom`.

Two properties of a whole program are built from it. `Returns m P` says that every value `m` returns has the property `P`, and
`Keeps I R E m P` that from every state with the invariant `I` it goes to one with the invariant that is related by `R` to the
state it came from, and fails only with a failure in `E`.
-/

namespace Program

universe u

variable {ε ε' σ τ α β : Type u} {get : σ → τ} {set : τ → σ → σ} {embed : ε' → ε} {m : EStateM ε' τ α} {Q : α → σ → Prop}
  {E : ε → σ → Prop} {s : σ}

/-- The weakest precondition of a program for what holds when it returns and what holds when it fails. -/
def wp (m : EStateM ε σ α) (Q : α → σ → Prop) (E : ε → σ → Prop) (s : σ) : Prop :=
  match m s with
  | .ok a s' => Q a s'
  | .error e s' => E e s'

/-- Stop with a failure. -/
def fail (e : ε) : EStateM ε σ α := fun s => .error e s

/-- A value of the state. -/
def read (f : σ → α) : EStateM ε σ α := fun s => .ok (f s) s

/-- Change the state. -/
def update (f : σ → σ) : EStateM ε σ PUnit := fun s => .ok ⟨⟩ (f s)

/-- An assertion. -/
def ensure (b : Bool) (e : ε) : EStateM ε σ PUnit := if b then pure ⟨⟩ else fail e

/-- A program that is run under a condition. -/
def when (b : Bool) (m : EStateM ε σ PUnit) : EStateM ε σ PUnit := if b then m else pure ⟨⟩

/-- Repeat a program while a condition holds, for a number of rounds; more rounds fail. -/
def repeatWhile (e : ε) (cond : σ → Bool) (m : EStateM ε σ PUnit) : Nat → EStateM ε σ PUnit
  | 0 => fun s => if cond s then .error e s else .ok ⟨⟩ s
  | rounds + 1 => fun s => if cond s then (m >>= fun _ => repeatWhile e cond m rounds) s else .ok ⟨⟩ s

/-- Run a program on a part of the state. -/
def zoom (get : σ → τ) (set : τ → σ → σ) (embed : ε' → ε) (m : EStateM ε' τ α) : EStateM ε σ α := fun s =>
  match m (get s) with
  | .ok a t => .ok a (set t s)
  | .error e t => .error (embed e) (set t s)

section Rules
variable {Q Q' : α → σ → Prop} {E E' : ε → σ → Prop} {s : σ} {m : EStateM ε σ α} {a : α} {s' : σ} {f : β → EStateM ε σ α}

theorem wp.mono (h : wp m Q E s) (hQ : ∀ a s', Q a s' → Q' a s') (hE : ∀ e s', E e s' → E' e s') : wp m Q' E' s := by
  unfold wp at *
  split at h
  · exact hQ _ _ h
  · exact hE _ _ h

theorem wp.imp (h : wp m Q E s) (hQ : ∀ a s', Q a s' → Q' a s') : wp m Q' E s := h.mono hQ fun _ _ h => h

/-- A program ends in some way. -/
theorem wp.of_forall (hQ : ∀ a s', m s = .ok a s' → Q a s') (hE : ∀ e s', m s = .error e s' → E e s') : wp m Q E s := by
  unfold wp
  split
  case h_1 a s' h => exact hQ a s' h
  case h_2 e s' h => exact hE e s' h

/-- A program that is known to return. -/
theorem wp_of_eq_ok (hm : m s = .ok a s') (h : Q a s') : wp m Q E s := by
  unfold wp
  rwa [hm]

theorem wp.of_ok (h : wp m Q E s) (hm : m s = .ok a s') : Q a s' := by
  unfold wp at h
  rwa [hm] at h

theorem wp.of_error {e : ε} (h : wp m Q E s) (hm : m s = .error e s') : E e s' := by
  unfold wp at h
  rwa [hm] at h

@[simp] theorem wp_pure : wp (pure a : EStateM ε σ α) Q E s ↔ Q a s := Iff.rfl

theorem wp_bind {m : EStateM ε σ β} : wp (m >>= f) Q E s ↔ wp m (fun b s' => wp (f b) Q E s') E s := by
  unfold wp
  show (match EStateM.bind m f s with | .ok a s' => Q a s' | .error e s' => E e s') ↔ _
  unfold EStateM.bind
  cases m s <;> rfl

theorem wp.bind {m : EStateM ε σ β} {P : β → σ → Prop} (h : wp m P E s) (hf : ∀ b s', P b s' → wp (f b) Q E s') :
    wp (m >>= f) Q E s := wp_bind.2 (h.imp hf)

/-- A program that returns has returned from its first part. -/
theorem run_bind_eq_ok {m : EStateM ε σ β} : (m >>= f) s = .ok a s' ↔ ∃ b s1, m s = .ok b s1 ∧ f b s1 = .ok a s' := by
  show EStateM.bind m f s = _ ↔ _
  unfold EStateM.bind
  cases hm : m s with
  | ok b s1 => exact ⟨fun h => ⟨b, s1, rfl, h⟩, fun ⟨_, _, hb, hf⟩ => by cases hb; exact hf⟩
  | error e s1 => exact ⟨nofun, fun ⟨_, _, hb, _⟩ => nomatch hb⟩

@[simp] theorem wp_read {f : σ → α} : wp (read f : EStateM ε σ α) Q E s ↔ Q (f s) s := Iff.rfl

theorem wp_ite {b : Prop} [Decidable b] {n : EStateM ε σ α} (hm : b → wp m Q E s) (hn : ¬ b → wp n Q E s) :
    wp (if b then m else n) Q E s := by
  split
  case isTrue h => exact hm h
  case isFalse h => exact hn h

end Rules

section Unit
variable {Q : PUnit → σ → Prop} {E : ε → σ → Prop} {s : σ} {e : ε} {m : EStateM ε σ PUnit} {cond : σ → Bool} {b : Bool}
  {rounds : Nat}

@[simp] theorem wp_update {f : σ → σ} : wp (update f : EStateM ε σ PUnit) Q E s ↔ Q ⟨⟩ (f s) := Iff.rfl

theorem wp_ensure (hQ : b = true → Q ⟨⟩ s) (hE : b = false → E e s) : wp (ensure b e) Q E s := by
  cases b with
  | true => exact hQ rfl
  | false => exact hE rfl

theorem wp_when (hm : b = true → wp m Q E s) (hQ : b = false → Q ⟨⟩ s) : wp (when b m) Q E s := by
  cases b with
  | true => exact hm rfl
  | false => exact hQ rfl

theorem wp_repeatWhile_zero (hE : cond s = true → E e s) (hQ : cond s = false → Q ⟨⟩ s) : wp (repeatWhile e cond m 0) Q E s := by
  unfold wp repeatWhile
  cases hc : cond s with
  | true => simpa using hE hc
  | false => simpa using hQ hc

theorem wp_repeatWhile_succ
    (hm : cond s = true → wp m (fun _ s' => wp (repeatWhile e cond m rounds) Q E s') E s) (hQ : cond s = false → Q ⟨⟩ s) :
    wp (repeatWhile e cond m (rounds + 1)) Q E s := by
  cases hc : cond s with
  | true =>
    have h := wp_bind.2 (hm hc)
    unfold wp at h ⊢
    simpa only [repeatWhile, hc, if_true] using h
  | false =>
    unfold wp repeatWhile
    simpa [hc] using hQ hc

/-- A loop whose condition does not hold. -/
theorem wp_repeatWhile_of_false (hc : cond s = false) (hQ : Q ⟨⟩ s) : wp (repeatWhile e cond m rounds) Q E s := by
  cases rounds with
  | zero => exact wp_repeatWhile_zero (fun h => nomatch hc.symm.trans h) fun _ => hQ
  | succ rounds => exact wp_repeatWhile_succ (fun h => nomatch hc.symm.trans h) fun _ => hQ

end Unit

/-- What every round of a loop over the first numbers leads to, the loop leads to. -/
theorem wp_foldlM_range {I : Nat → α → σ → Prop} {f : α → Nat → EStateM ε σ α} {n : Nat} {a : α} (hstart : I 0 a s)
    (hstep : ∀ i < n, ∀ a s, I i a s → wp (f a i) (I (i + 1)) E s) : wp ((List.range n).foldlM f a) (I n) E s := by
  induction n with
  | zero => exact hstart
  | succ n ih =>
    rw [List.range_succ, List.foldlM_append]
    refine wp_bind.2 ((ih fun i hi => hstep i (Nat.lt_succ_of_lt hi)).mono (fun a s ha => ?_) fun _ _ he => he)
    exact wp_bind.2 ((hstep n (Nat.lt_succ_self n) a s ha).mono (fun _ _ h => h) fun _ _ he => he)

theorem wp_zoom : wp (zoom get set embed m) Q E s ↔ wp m (fun a t => Q a (set t s))
    (fun e t => E (embed e) (set t s)) (get s) := by
  unfold wp zoom
  cases m (get s) <;> rfl

/-- A program on a part of the state, of which only what it leaves alone matters. -/
theorem wp_zoom_of_forall (hQ : ∀ a t, Q a (set t s)) (hE : ∀ e t, E (embed e) (set t s)) : wp (zoom get set embed m) Q E s :=
  wp_zoom.2 (wp.of_forall (fun a t _ => hQ a t) (fun e t _ => hE e t))

/-! ## What a program returns -/

/-- Every value the program returns has the property. -/
def Returns (m : EStateM ε σ α) (P : α → Prop) : Prop := ∀ s, wp m (fun a _ => P a) (fun _ _ => True) s

namespace Returns

variable {m : EStateM ε σ α} {P : α → Prop} {n : EStateM ε σ β} {f : β → EStateM ε σ α}

theorem pure {a : α} (h : P a) : Returns (Pure.pure a : EStateM ε σ α) P := fun _ => h

theorem read {f : σ → α} (h : ∀ s, P (f s)) : Returns (Program.read f : EStateM ε σ α) P := h

theorem trivial : Returns m fun _ => True := fun _ => wp.of_forall (fun _ _ _ => .intro) fun _ _ _ => .intro

theorem bind {Q : β → Prop} (hn : Returns n Q) (hf : ∀ b, Q b → Returns (f b) P) : Returns (n >>= f) P := fun s => by
  rw [wp_bind]
  exact (hn s).imp fun b s' hb => hf b hb s'

/-- What the first program returns does not matter. -/
theorem bind_of_forall (hf : ∀ b, Returns (f b) P) : Returns (n >>= f) P :=
  .bind .trivial fun b _ => hf b

theorem ite {b : Prop} [Decidable b] {n : EStateM ε σ α} (hm : b → Returns m P) (hn : ¬ b → Returns n P) :
    Returns (if b then m else n) P := fun s => wp_ite (fun h => hm h s) fun h => hn h s

end Returns

/-! ## What a program keeps -/

/-- From the state `s` the program goes to a related state with the invariant and returns a value with the property, or fails in a
way that is allowed. -/
def KeepsAt (I : σ → Prop) (R : σ → σ → Prop) (E : ε → σ → Prop) (m : EStateM ε σ α) (P : α → Prop) (s : σ) : Prop :=
  wp m (fun a s' => I s' ∧ R s s' ∧ P a) E s

/-- The same from every state with the invariant. -/
def Keeps (I : σ → Prop) (R : σ → σ → Prop) (E : ε → σ → Prop) (m : EStateM ε σ α) (P : α → Prop) : Prop :=
  ∀ s, I s → KeepsAt I R E m P s

namespace KeepsAt

variable {I : σ → Prop} {R : σ → σ → Prop} {E E' : ε → σ → Prop} {m : EStateM ε σ α} {P P' : α → Prop} {s : σ}

theorem mono (h : KeepsAt I R E m P s) (hP : ∀ a, P a → P' a) (hE : ∀ e s, E e s → E' e s) : KeepsAt I R E' m P' s :=
  wp.mono h (fun a _ h => ⟨h.1, h.2.1, hP a h.2.2⟩) hE

theorem ite {b : Prop} [Decidable b] {n : EStateM ε σ α} (hm : b → KeepsAt I R E m P s) (hn : ¬ b → KeepsAt I R E n P s) :
    KeepsAt I R E (if b then m else n) P s := wp_ite hm hn

theorem read_bind {f : σ → β} {k : β → EStateM ε σ α} (h : KeepsAt I R E (k (f s)) P s) :
    KeepsAt I R E (Program.read f >>= k) P s := wp_bind.2 (wp_read.2 h)

variable [IsPreorder σ R]

theorem pure {a : α} (hs : I s) (h : P a) : KeepsAt I R E (Pure.pure a) P s := ⟨hs, refl s, h⟩

theorem when {b : Bool} {m : EStateM ε σ PUnit} {P : PUnit → Prop} (hs : I s) (hm : b = true → KeepsAt I R E m P s) (hP : P ⟨⟩) :
    KeepsAt I R E (Program.when b m) P s := wp_when hm fun _ => ⟨hs, refl s, hP⟩

/-- After a program from `s` to a related state, what is kept from there is kept from `s`. -/
theorem wp_of {s' : σ} (h : KeepsAt I R E m P s') (hR : R s s') : wp m (fun a s'' => I s'' ∧ R s s'' ∧ P a) E s' :=
  wp.imp h fun _ _ h => ⟨h.1, Trans.trans hR h.2.1, h.2.2⟩

theorem bind {n : EStateM ε σ β} {f : β → EStateM ε σ α} {Q : β → Prop} (hn : KeepsAt I R E n Q s)
    (hf : ∀ b, Q b → Keeps I R E (f b) P) : KeepsAt I R E (n >>= f) P s := by
  unfold KeepsAt at *
  rw [wp_bind]
  exact hn.imp fun b s' h => (hf b h.2.2 s' h.1).wp_of h.2.1

end KeepsAt

namespace Keeps

variable {I : σ → Prop} {R : σ → σ → Prop} {E : ε → σ → Prop} {m : EStateM ε σ α} {P : α → Prop} {e : ε}
  {n : EStateM ε σ β} {f : β → EStateM ε σ α} {b : Bool}

/-- A property of the state that goes from every state to the related ones joins the invariant. -/
theorem and_stable {J : σ → Prop} (hJ : ∀ s s', R s s' → J s → J s') (h : ∀ s, I s → J s → KeepsAt I R E m P s) :
    Keeps (fun s => I s ∧ J s) R E m P := fun s hs =>
  wp.mono (h s hs.1 hs.2) (fun _ s' h' => ⟨⟨h'.1, hJ s s' h'.2.1 hs.2⟩, h'.2⟩) fun _ _ h' => h'

theorem ite {b : Prop} [Decidable b] {n : EStateM ε σ α} (hm : b → Keeps I R E m P) (hn : ¬ b → Keeps I R E n P) :
    Keeps I R E (if b then m else n) P := fun s hs => wp_ite (fun h => hm h s hs) fun h => hn h s hs

theorem fail (h : ∀ s, I s → E e s) : Keeps I R E (Program.fail e) P := h

variable [IsPreorder σ R]

theorem pure {a : α} (h : P a) : Keeps I R E (Pure.pure a) P := fun s hs => ⟨hs, refl s, h⟩

theorem read {f : σ → α} (h : ∀ s, P (f s)) : Keeps I R E (Program.read f) P := fun s hs => ⟨hs, refl s, h s⟩

theorem bind {Q : β → Prop} (hn : Keeps I R E n Q) (hf : ∀ b, Q b → Keeps I R E (f b) P) : Keeps I R E (n >>= f) P := fun s hs =>
    (hn s hs).bind hf

/-- What the first program returns does not matter. -/
theorem seq (hn : Keeps I R E n fun _ => True) (hf : ∀ b, Keeps I R E (f b) P) : Keeps I R E (n >>= f) P :=
    hn.bind fun b _ => hf b

theorem when {m : EStateM ε σ PUnit} {P : PUnit → Prop} (hm : b = true → Keeps I R E m P) (hP : P ⟨⟩) :
    Keeps I R E (Program.when b m) P := fun s hs => wp_when (fun h => hm h s hs) fun _ => ⟨hs, refl s, hP⟩

theorem ensure (h : ∀ s, I s → E e s) : Keeps I R E (Program.ensure b e) fun _ => True := fun s hs =>
  wp_ensure (fun _ => ⟨hs, refl s, trivial⟩) fun _ => h s hs

theorem forM {l : List β} {f : β → EStateM ε σ PUnit} (hf : ∀ b ∈ l, Keeps I R E (f b) fun _ => True) :
    Keeps I R E (l.forM f) fun _ => True := by
  induction l with
  | nil => exact .pure trivial
  | cons b l ih =>
    exact .bind (hf b List.mem_cons_self) fun _ _ => ih fun b' hb' => hf b' (List.mem_cons_of_mem _ hb')

/-- A loop keeps what its body keeps, and ends when its condition does not hold. -/
theorem repeatWhile {cond : σ → Bool} {m : EStateM ε σ PUnit} (hm : Keeps I R E m fun _ => True)
    (he : ∀ s, I s → E e s) (rounds : Nat)
    {s : σ} (hs : I s) : wp (repeatWhile e cond m rounds) (fun _ s' => I s' ∧ R s s' ∧ cond s' = false) E s := by
  induction rounds generalizing s with
  | zero => exact wp_repeatWhile_zero (fun _ => he s hs) fun hc => ⟨hs, refl s, hc⟩
  | succ rounds ih =>
    refine wp_repeatWhile_succ (fun _ => ?_) fun hc => ⟨hs, refl s, hc⟩
    refine wp.imp (hm s hs) fun _ s' h => ?_
    exact (ih h.1).mono (fun _ _ h' => ⟨h'.1, Trans.trans h.2.1 h'.2.1, h'.2.2⟩) fun _ _ h' => h'

end Keeps
end Program
