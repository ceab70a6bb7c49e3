import Mathlib.Data.List.Basic
import Cvc.Types

/-!
# Instance lines

The `subcircuit` rule of `cdlParser.yy`: the parameters of an instance are taken from the end of its tokens, up to the first token
without an equals sign, which is the name of the master. The grammar asks for one token or more, not for one that is no parameter,
and the loop has no test for the empty list: `back` and `pop_back` of an empty list are undefined.
-/

namespace Cvc

/-- What the rule stores of an instance; the parameters with the name of the master before them. -/
structure SubcircuitCall where
  name : Text
  masterName : Text
  signalList : List Text
  parameters : Option (List Text)
  deriving DecidableEq, Repr

/-- The tokens, the last one first, are taken off while they are parameters: the name of the master, the tokens before it, the
last one first, and `myParameterList`. -/
def parameterLoop : List Text → List Text → Except Failure (Text × List Text × List Text)
  | [], _ => .error .undefined
  | myString :: stringList, myParameterList =>
    if '=' ∈ myString then parameterLoop stringList (myString :: myParameterList)
    else .ok (myString, stringList, myParameterList)

/-- The action of the `subcircuit` rule for `SUBCIRCUIT stringList EOL`. -/
def subcircuit (name : Text) (stringList : List Text) : Except Failure SubcircuitCall := do
  let (masterName, signals, myParameterList) ← parameterLoop stringList.reverse []
  .ok ⟨name, masterName, signals.reverse, if myParameterList.isEmpty then none else some (masterName :: myParameterList)⟩

/-- The loop stops at the first token that is no parameter. -/
theorem exists_parameterLoop {tokens : List Text} (h : ∃ s ∈ tokens, '=' ∉ s) (done : List Text) :
    ∃ params master rest, tokens = params ++ master :: rest ∧ (∀ p ∈ params, '=' ∈ p) ∧ '=' ∉ master ∧
      parameterLoop tokens done = .ok (master, rest, params.reverse ++ done) := by
  induction tokens generalizing done with
  | nil => simp at h
  | cons s tokens ih =>
    by_cases hs : '=' ∈ s
    · have hlater : ∃ t ∈ tokens, '=' ∉ t := by simpa [hs] using h
      obtain ⟨params, master, rest, rfl, hparams, hmaster, hloop⟩ := ih hlater (s :: done)
      refine ⟨s :: params, master, rest, rfl, List.forall_mem_cons.2 ⟨hs, hparams⟩, hmaster, ?_⟩
      rw [parameterLoop, if_pos hs, hloop]
      simp
    · exact ⟨[], s, tokens, rfl, nofun, hs, by rw [parameterLoop, if_neg hs]; rfl⟩

/-- The tokens of an instance are split into ports, master and parameters, each in order, exactly if some token is no parameter.
Otherwise the rule goes beyond the beginning of the list. -/
theorem subcircuit_splits_iff (name : Text) (tokens : List Text) :
    (∃ call params, subcircuit name tokens = .ok call ∧ call.name = name ∧ '=' ∉ call.masterName ∧ (∀ p ∈ params, '=' ∈ p) ∧
      tokens = call.signalList ++ call.masterName :: params ∧
      call.parameters = if params.isEmpty then none else some (call.masterName :: params)) ↔
    ∃ s ∈ tokens, '=' ∉ s := by
  constructor
  · rintro ⟨call, params, -, -, hmaster, -, rfl, -⟩
    exact ⟨call.masterName, by simp, hmaster⟩
  · rintro ⟨s, hs, hno⟩
    obtain ⟨params, master, rest, hsplit, hparams, hmaster, hloop⟩ :=
      exists_parameterLoop ⟨s, List.mem_reverse.2 hs, hno⟩ []
    refine ⟨⟨name, master, rest.reverse, if params.reverse.isEmpty then none else some (master :: params.reverse)⟩,
      params.reverse, ?_,
      rfl, hmaster, fun p hp => hparams p (List.mem_reverse.1 hp), ?_, rfl⟩
    · rw [subcircuit, hloop, List.append_nil]
      rfl
    · rw [← List.reverse_reverse tokens, hsplit]
      simp

/-- An instance with nothing but a parameter. -/
theorem subcircuit_only_parameters : subcircuit "X1".toList ["w=1".toList] = .error .undefined := by
  decide

end Cvc
