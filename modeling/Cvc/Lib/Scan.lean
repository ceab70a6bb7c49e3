import Mathlib.Data.List.Basic
import Mathlib.Algebra.Order.Field.Rat

/-!
# Reading numbers from texts

Two readers of the C and C++ libraries, over texts as lists of characters: `sscanf` with a format of the directives below, of
which only the number of conversions is kept, and the extraction of a decimal number from a stream, in exact arithmetic.
-/

namespace Scan

/-- `isspace`. -/
def isSpace (c : Char) : Bool := c ∈ [' ', '\t', '\n', '\x0b', '\x0c', '\r']

/-- The text after an optional sign. -/
def dropSign : List Char → List Char
  | [] => []
  | c :: s => if c = '-' ∨ c = '+' then s else c :: s

/-! ## `sscanf` -/

/-- A directive of a format: `%d`, `%[...]`, `%1[...]`, `%1s` or a character. -/
inductive Directive where
  | int
  | run (set : List Char)
  | one (set : List Char)
  | word
  | char (c : Char)

/-- What a directive converts and the text after it, or none if it does not match. -/
def Directive.read : Directive → List Char → Option (Nat × List Char)
  | .int, s =>
    let s := dropSign (s.dropWhile isSpace)
    if s.takeWhile Char.isDigit = [] then none else some (1, s.dropWhile Char.isDigit)
  | .run set, s => if s.takeWhile (· ∈ set) = [] then none else some (1, s.dropWhile (· ∈ set))
  | .one set, s =>
    match s with
    | c :: s => if c ∈ set then some (1, s) else none
    | [] => none
  | .word, s =>
    match s.dropWhile isSpace with
    | _ :: s => some (1, s)
    | [] => none
  | .char c, s =>
    match s with
    | d :: s => if d = c then some (0, s) else none
    | [] => none

/-- The number of conversions of a format. -/
def sscanf : List Directive → List Char → Nat
  | [], _ => 0
  | d :: format, s =>
    match d.read s with
    | none => 0
    | some (n, s) => n + sscanf format s

section
variable {c d : Char} {s set : List Char} {format : List Directive}

theorem sscanf_char : sscanf (.char c :: format) (d :: s) = if d = c then sscanf format s else 0 := by
  simp only [sscanf, Directive.read]
  split <;> simp_all

theorem sscanf_one : sscanf (.one set :: format) (d :: s) = if d ∈ set then 1 + sscanf format s else 0 := by
  simp only [sscanf, Directive.read]
  split <;> simp_all

theorem sscanf_word (hd : isSpace d = false) : sscanf (.word :: format) (d :: s) = 1 + sscanf format s := by
  simp only [sscanf, Directive.read]
  rw [List.dropWhile_cons_of_neg (by simp [hd])]

theorem sscanf_word_nil : sscanf (.word :: format) [] = 0 := rfl

/-- `%d` does not read a text without digits at its head, after a sign or not. -/
theorem sscanf_int_of_not_digit (hdigit : d.isDigit = false) (hspace : isSpace d = false) (hsign : d ≠ '-' ∧ d ≠ '+') :
    sscanf (.int :: format) (d :: s) = 0 ∧ sscanf (.int :: format) ('-' :: d :: s) = 0 := by
  have hdrop : (d :: s).dropWhile isSpace = d :: s := List.dropWhile_cons_of_neg (by simp [hspace])
  have hdrop' : ('-' :: d :: s).dropWhile isSpace = '-' :: d :: s := rfl
  have htake : (d :: s).takeWhile Char.isDigit = [] := List.takeWhile_cons_of_neg (by simp [hdigit])
  have hdropSign : dropSign (d :: s) = d :: s := if_neg fun h => h.elim hsign.1 hsign.2
  have hdropSign' : dropSign ('-' :: d :: s) = d :: s := rfl
  simp only [sscanf, Directive.read, hdrop, hdrop', hdropSign, hdropSign', htake, if_true, and_self]

/-- `%[...]` reads no text that does not start with one of the characters. -/
theorem sscanf_run_of_not_mem (hd : d ∉ set) : sscanf (.run set :: format) (d :: s) = 0 := by
  simp [sscanf, Directive.read, hd]

theorem sscanf_run_of_mem (hc : c ∈ set) (hd : d ∉ set) : sscanf (.run set :: format)
    (c :: d :: s) = 1 + sscanf format (d :: s) := by
  simp [sscanf, Directive.read, hc, hd]

end

/-! ## Decimal numbers -/

/-- The number of a text of digits. -/
def natOf (digits : List Char) : Nat := digits.foldl (fun n c => 10 * n + (c.toNat - 48)) 0

/-- The number of the digits before and after the point. -/
def decimal (integer fraction : List Char) : ℚ := natOf (integer ++ fraction) / 10 ^ fraction.length

/-- The sign at the head of a text. -/
def signOf : List Char → Int
  | '-' :: _ => -1
  | _ => 1

/-- The digits after the point, if there is one, and the rest. -/
def readFraction : List Char → List Char × List Char
  | [] => ([], [])
  | c :: s => if c = '.' then (s.takeWhile Char.isDigit, s.dropWhile Char.isDigit) else ([], c :: s)

/-- A number with the exponent that follows it, if there is one, and the rest; none for an exponent without digits. -/
def readExponent (x : ℚ) : List Char → Option (ℚ × List Char)
  | [] => some (x, [])
  | c :: s =>
    if c = 'e' ∨ c = 'E' then
      let digits := (dropSign s).takeWhile Char.isDigit
      if digits = [] then none
      else some (x * 10 ^ (signOf s * (natOf digits : Int)), (dropSign s).dropWhile Char.isDigit)
    else some (x, c :: s)

/-- `stream >> number`: the number and the rest of the stream, or none if the extraction fails. -/
def readNumber (s : List Char) : Option (ℚ × List Char) :=
  let s := s.dropWhile isSpace
  let integer := (dropSign s).takeWhile Char.isDigit
  let (fraction, rest) := readFraction ((dropSign s).dropWhile Char.isDigit)
  if integer = [] ∧ fraction = [] then none else readExponent (signOf s * decimal integer fraction) rest

/-- `stream >> integer`: the integer and the rest of the stream, or none if the extraction fails. -/
def readInt (s : List Char) : Option (Int × List Char) :=
  let s := s.dropWhile isSpace
  let digits := (dropSign s).takeWhile Char.isDigit
  if digits = [] then none else some (signOf s * natOf digits, (dropSign s).dropWhile Char.isDigit)

/-! ## Texts of digits -/

/-- A decidable property of the elements of a list, by evaluation along the list. -/
theorem forall_mem {α : Type} {p : α → Prop} [DecidablePred p] {l : List α} (h : l.all (fun c => decide (p c)) = true) :
    ∀ c ∈ l, p c :=
  fun c hc => of_decide_eq_true (List.all_eq_true.1 h c hc)

/-- A text of digits. -/
structure Digits (digits : List Char) : Prop where
  ne_nil : digits ≠ []
  isDigit : ∀ c ∈ digits, c.isDigit = true

/-- A text does not go on with a digit. -/
def NoDigit (s : List Char) : Prop := ∀ c ∈ s.head?, c.isDigit = false

theorem isSpace_of_isDigit {c : Char} (hc : c.isDigit = true) : isSpace c = false := by
  unfold isSpace
  simp only [List.mem_cons, List.not_mem_nil, or_false, decide_eq_false_iff_not]
  rintro (rfl | rfl | rfl | rfl | rfl | rfl) <;> exact absurd hc (by decide)

theorem dropWhile_eq_self {p : Char → Bool} {s : List Char} (hs : ∀ c ∈ s.head?, p c = false) : s.dropWhile p = s := by
  cases s with
  | nil => rfl
  | cons c s => rw [List.dropWhile_cons_of_neg (by simpa using hs c rfl)]

theorem takeWhile_eq_nil {p : Char → Bool} {s : List Char} (hs : ∀ c ∈ s.head?, p c = false) : s.takeWhile p = [] := by
  cases s with
  | nil => rfl
  | cons c s => rw [List.takeWhile_cons_of_neg (by simpa using hs c rfl)]

section Digits
variable {digits s : List Char} (hd : Digits digits)
include hd

theorem Digits.head? {c : Char} (hc : c ∈ (digits ++ s).head?) : c.isDigit = true := by
  obtain ⟨hne, hall⟩ := hd
  cases digits with
  | nil => exact absurd rfl hne
  | cons d digits =>
    obtain rfl : d = c := Option.some.inj hc
    exact hall d List.mem_cons_self

theorem Digits.dropWhile_isSpace : (digits ++ s).dropWhile isSpace = digits ++ s :=
  dropWhile_eq_self fun _ hc => isSpace_of_isDigit (hd.head? hc)

theorem Digits.dropSign : Scan.dropSign (digits ++ s) = digits ++ s := by
  obtain ⟨hne, hall⟩ := hd
  cases digits with
  | nil => exact absurd rfl hne
  | cons d digits =>
    have hdigit := hall d List.mem_cons_self
    refine if_neg ?_
    rintro (rfl | rfl) <;> exact absurd hdigit (by decide)

theorem Digits.takeWhile (hs : NoDigit s) : (digits ++ s).takeWhile Char.isDigit = digits := by
  rw [List.takeWhile_append_of_pos hd.isDigit, takeWhile_eq_nil hs, List.append_nil]

theorem Digits.dropWhile (hs : NoDigit s) : (digits ++ s).dropWhile Char.isDigit = s := by
  rw [List.dropWhile_append_of_pos hd.isDigit, dropWhile_eq_self hs]

theorem Digits.signOf : Scan.signOf (digits ++ s) = 1 := by
  unfold Scan.signOf
  split
  · rename_i heq
    exact absurd (hd.head? (show '-' ∈ (digits ++ s).head? by rw [heq]; rfl)) (by decide)
  · rfl

theorem Digits.readInt_eq (hs : NoDigit s) : readInt (digits ++ s) = some ((natOf digits : Int), s) := by
  simp [readInt, hd.dropWhile_isSpace, hd.dropSign, hd.takeWhile hs, hd.dropWhile hs, if_neg hd.ne_nil, hd.signOf]

/-- `%d` reads the digits, with a minus sign or without. -/
theorem Digits.sscanf_int (hs : NoDigit s) (format : List Directive) :
    sscanf (.int :: format) (digits ++ s) = 1 + sscanf format s := by
  simp [sscanf, Directive.read, hd.dropWhile_isSpace, hd.dropSign, hd.takeWhile hs, hd.dropWhile hs, if_neg hd.ne_nil]

theorem Digits.sscanf_int_minus (hs : NoDigit s) (format : List Directive) :
    sscanf (.int :: format) ('-' :: (digits ++ s)) = 1 + sscanf format s := by
  have hspace : ('-' :: (digits ++ s)).dropWhile isSpace = '-' :: (digits ++ s) := rfl
  have hsign : Scan.dropSign ('-' :: (digits ++ s)) = digits ++ s := rfl
  simp [sscanf, Directive.read, hspace, hsign, hd.takeWhile hs, hd.dropWhile hs, if_neg hd.ne_nil]

theorem Digits.sscanf_run {set : List Char} (hset : ∀ c ∈ set, c.isDigit = false) (format : List Directive) :
    sscanf (.run set :: format) (digits ++ s) = 0 := by
  have hnone : (digits ++ s).takeWhile (· ∈ set) = [] :=
    takeWhile_eq_nil fun c hc => by
      have hdigit := hd.head? hc
      refine decide_eq_false fun hmem => ?_
      rw [hset c hmem] at hdigit
      nomatch hdigit
  simp only [sscanf, Directive.read, hnone, if_true]

theorem Digits.sscanf_run_minus {set : List Char} (hset : ∀ c ∈ set, c.isDigit = false) (hminus : '-' ∈ set)
    (format : List Directive) : sscanf (.run set :: format) ('-' :: (digits ++ s)) = 1 + sscanf format (digits ++ s) := by
  have hdrop : (digits ++ s).dropWhile (· ∈ set) = digits ++ s :=
    dropWhile_eq_self fun c hc => by
      have hdigit := hd.head? hc
      refine decide_eq_false fun hmem => ?_
      rw [hset c hmem] at hdigit
      nomatch hdigit
  simp [sscanf, Directive.read, hminus, hdrop]

end Digits

/-! ## Decimal texts -/

/-- The text of the digits after the point, with the point. -/
def fractionText : Option (List Char) → List Char
  | none => []
  | some fraction => '.' :: fraction

/-- A text does not go on as a decimal number. -/
def NoDecimal (s : List Char) : Prop := ∀ c ∈ s.head?, c.isDigit = false ∧ c ≠ '.' ∧ c ≠ 'e' ∧ c ≠ 'E'

theorem NoDecimal.noDigit {s : List Char} (hs : NoDecimal s) : NoDigit s := fun c hc => (hs c hc).1

theorem noDigit_fractionText {fraction : Option (List Char)} {s : List Char} (hs : NoDigit s) :
    NoDigit (fractionText fraction ++ s) := by
  cases fraction with
  | none => exact hs
  | some fraction =>
    intro c hc
    obtain rfl : '.' = c := Option.some.inj hc
    rfl

variable {integer s : List Char} {fraction : Option (List Char)}

theorem readFraction_fractionText (hf : ∀ f ∈ fraction, Digits f) (hs : NoDecimal s) :
    readFraction (fractionText fraction ++ s) = (fraction.getD [], s) := by
  cases fraction with
  | none =>
    cases s with
    | nil => rfl
    | cons c s => exact if_neg (hs c rfl).2.1
  | some f =>
    have hf := hf f rfl
    show (if '.' = '.' then ((f ++ s).takeWhile Char.isDigit, (f ++ s).dropWhile Char.isDigit) else ([], '.' :: (f ++ s))) = _
    rw [if_pos rfl, hf.takeWhile hs.noDigit, hf.dropWhile hs.noDigit]
    rfl

theorem readExponent_of_noDecimal (x : ℚ) (hs : NoDecimal s) : readExponent x s = some (x, s) := by
  cases s with
  | nil => rfl
  | cons c s => exact if_neg fun h => h.elim (hs c rfl).2.2.1 (hs c rfl).2.2.2

variable (hi : Digits integer) (hf : ∀ f ∈ fraction, Digits f) (hs : NoDecimal s)
include hi hf hs

/-- A decimal text is read as its number, with a sign or without. -/
theorem readNumber_of_dropSign {t : List Char} (ht : dropSign (t.dropWhile isSpace) = integer ++ (fractionText fraction ++ s)) :
    readNumber t = some (signOf (t.dropWhile isSpace) * decimal integer (fraction.getD []), s) := by
  have hno := @noDigit_fractionText fraction _ hs.noDigit
  unfold readNumber
  simp only [ht, hi.takeWhile hno, hi.dropWhile hno, readFraction_fractionText hf hs]
  rw [if_neg fun h => hi.ne_nil h.1, readExponent_of_noDecimal _ hs]

theorem readNumber_decimal :
    readNumber (integer ++ (fractionText fraction ++ s)) = some (decimal integer (fraction.getD []), s) := by
  rw [readNumber_of_dropSign hi hf hs (by rw [hi.dropWhile_isSpace, hi.dropSign]), hi.dropWhile_isSpace, hi.signOf]
  simp

theorem readNumber_minus_decimal :
    readNumber ('-' :: (integer ++ (fractionText fraction ++ s))) = some (-decimal integer (fraction.getD []), s) := by
  have hspace : ('-' :: (integer ++ (fractionText fraction ++ s))).dropWhile isSpace =
    '-' :: (integer ++ (fractionText fraction ++ s)) := rfl
  rw [readNumber_of_dropSign hi hf hs (by rw [hspace]; rfl), hspace]
  simp [signOf]

end Scan
