import Mathlib.Algebra.Order.Ring.Int

/-!
# The scalar types and their marks

The identifiers, voltages, resistances and event times of `CvcTypes.hh`. `netId_t`, `deviceId_t`, `instanceId_t` and
`resistance_t` are unsigned 32-bit numbers, here natural numbers; `voltage_t` is a signed 16-bit and `eventKey_t` a signed 32-bit
number, here integers. The marks the code reserves at the ends of the ranges are the constants below.
-/

namespace Cvc

/-- `UINT32_MAX`. -/
def uint32Max : Nat := 2 ^ 32 - 1

/-- `INFINITE_RESISTANCE`. -/
def infiniteResistance : Nat := uint32Max

/-- `MAX_RESISTANCE`: one giga-ohm; anything over it truncates to it. -/
def maxResistance : Nat := uint32Max / 4 - 1

/-- `UNKNOWN_NET`. -/
def unknownNet : Nat := uint32Max

/-- `UNKNOWN_DEVICE`. -/
def unknownDevice : Nat := uint32Max

theorem two_pow_le_unknownDevice : 2 ^ 31 ≤ unknownDevice := by decide

/-- `MAX_NET`. -/
def maxNet : Nat := uint32Max - 1

/-- `MAX_SUBCIRCUIT`. -/
def maxSubcircuit : Nat := uint32Max - 1

/-- `MAX_DEVICE`. -/
def maxDevice : Nat := uint32Max - 1

/-- `UNKNOWN_VOLTAGE`. -/
def unknownVoltage : Int := 2 ^ 15 - 1

/-- `MAX_VOLTAGE`. -/
def maxVoltage : Int := unknownVoltage - 1

/-- A number stored in a `voltage_t`. -/
def int16 (v : Int) : Int := v.bmod (2 ^ 16)

/-- A text. -/
abbrev Text := List Char

/-- One of the characters of `" \t"`. -/
def isBlank (c : Char) : Bool := c == ' ' || c == '\t'

/-- One of the characters of `" \t\n"`. -/
def isSpace (c : Char) : Bool := isBlank c || c == '\n'

/-- `trim_`, of a text with a character that is not a space. -/
def trim (s : Text) : Text := ((s.reverse.dropWhile isSpace).reverse).dropWhile isSpace

/-- `modelType_t`, the types that a model can be given. -/
inductive ModelType where
  | nmos
  | pmos
  | resistor
  | capacitor
  | diode
  | bipolar
  | fuseOn
  | fuseOff
  | switchOn
  | switchOff
  | mosfet
  | lddn
  | lddp
  | box
  deriving DecidableEq, Repr

/-- Every model type. -/
def ModelType.all : List ModelType :=
  [.nmos, .pmos, .resistor, .capacitor, .diode, .bipolar, .fuseOn, .fuseOff, .switchOn, .switchOff, .mosfet, .lddn, .lddp, .box]

/-- The bits of `deviceStatus_t`. -/
structure DeviceStatus where
  minInactive : Bool := false
  minPending : Bool := false
  maxInactive : Bool := false
  maxPending : Bool := false
  simInactive : Bool := false
  simPending : Bool := false
  deriving DecidableEq, Repr

/-- The ways a function of the program does not return: a failed `assert` (with its expression where there are several), an
access the language leaves undefined, the exceptions of `CCvcExceptions.hh` with their messages, `std::out_of_range`, and a loop
that goes on longer than it is followed. -/
inductive Failure where
  | assertion
  | assertionFailed (expression : String)
  | undefined
  | eQueueError (message : String)
  | eFatalError (message : String)
  | eDuplicateInstance
  | eEquivalenceError
  | eUnknownModel
  | eDatabaseError (message : String)
  | ePowerError (message : Text)
  | eModelError (message : Text)
  | eResistanceError (message : Text)
  | outOfRange
  | endless
  deriving DecidableEq, Repr

/-- A computation that returns has returned from its first part. -/
theorem bind_eq_ok {ε α β : Type} {x : Except ε α} {f : α → Except ε β} {b : β} : (x >>= f) = .ok b ↔
    ∃ a, x = .ok a ∧ f a = .ok b := by
  cases x with
  | error e => exact ⟨nofun, fun ⟨_, h, _⟩ => (nomatch h)⟩
  | ok a => exact ⟨fun h => ⟨a, rfl, h⟩, fun ⟨_, h, hf⟩ => Except.ok.inj h ▸ hf⟩

theorem mapM_ok {ε α β : Type} {f : α → Except ε β} {g : α → β} {l : List α} (hf : ∀ x ∈ l, f x = .ok (g x)) :
    l.mapM f = .ok (l.map g) := by
  induction l with
  | nil => rfl
  | cons x l ih =>
    rw [List.mapM_cons, hf x List.mem_cons_self, ih fun y hy => hf y (List.mem_cons_of_mem _ hy)]
    rfl

/-- The failure of a computation that does not return. -/
def failureOf {α : Type} : Except Failure α → Option Failure
  | .ok _ => none
  | .error e => some e

section
variable {α : Type} {x : Except Failure α}

theorem exists_ok_of_failureOf (hx : failureOf x = none) : ∃ a, x = .ok a := by
  cases x with
  | ok a => exact ⟨a, rfl⟩
  | error e => nomatch hx

theorem eq_error_of_failureOf {e : Failure} (hx : failureOf x = some e) : x = .error e := by
  cases x with
  | ok a => nomatch hx
  | error e' => rw [Option.some.inj hx]

theorem eq_ok_of_toOption {a : α} (hx : x.toOption = some a) : x = .ok a := by
  cases x with
  | ok b => rw [Option.some.inj hx]
  | error e => nomatch hx

end

end Cvc
