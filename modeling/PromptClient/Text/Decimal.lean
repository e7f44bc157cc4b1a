/-! # Whole numbers in decimal digits

Writing without leading zeros, and reading with an optional sign within bounds.
-/

namespace PromptClient.Text.Decimal

def digit (value : Nat) : Char :=
  Char.ofNat (48 + value)

def digitValue? (char : Char) : Option Nat :=
  let code := char.toNat
  if 48 ≤ code && code ≤ 57 then some (code - 48) else none

def isDigit (char : Char) : Bool :=
  (digitValue? char).isSome

/-- The digits of a number, most significant first; zero has one digit. -/
def digits (value : Nat) : List Char :=
  if value < 10 then [digit value] else digits (value / 10) ++ [digit (value % 10)]
termination_by value

/-- The number that digits stand for; `none` if there is another character. -/
def valueFrom? (start : Nat) : List Char → Option Nat
  | [] => some start
  | char :: rest => do
      let value ← digitValue? char
      valueFrom? (start * 10 + value) rest

def natural? (chars : List Char) : Option Nat :=
  if chars.isEmpty then none else valueFrom? 0 chars

def writeInt (value : Int) : List Char :=
  if value < 0 then '-' :: digits value.natAbs else digits value.natAbs

def integer? : List Char → Option Int
  | '-' :: rest => (natural? rest).map fun value => -(value : Int)
  | '+' :: rest => (natural? rest).map fun value => (value : Int)
  | chars => (natural? chars).map fun value => (value : Int)

def ofNat (value : Nat) : String :=
  String.ofList (digits value)

def ofInt (value : Int) : String :=
  String.ofList (writeInt value)

/-- A number filled up with leading zeros to at least `width` digits. -/
def padded (width value : Nat) : List Char :=
  let written := digits value
  List.replicate (width - written.length) '0' ++ written

example : ofInt (-120) = "-120" := by cbv

/-! ## Round trip -/

theorem digits_forall {P : Char → Prop} (each : ∀ value < 10, P (digit value)) (value : Nat) :
    ∀ char ∈ digits value, P char := by
  induction value using digits.induct with
  | case1 value small =>
      unfold digits
      simp [small, each value small]
  | case2 value large induction =>
      unfold digits
      simp only [large, if_false, List.forall_mem_append, List.forall_mem_singleton]
      exact ⟨induction, each _ (by omega)⟩

theorem writeInt_forall {P : Char → Prop} (minus : P '-') (each : ∀ value < 10, P (digit value))
    (value : Int) : ∀ char ∈ writeInt value, P char := by
  unfold writeInt
  split
  · exact List.forall_mem_cons.mpr ⟨minus, digits_forall each _⟩
  · exact digits_forall each _

theorem digits_ne_nil (value : Nat) : digits value ≠ [] := by
  unfold digits
  split <;> simp

theorem digitValue?_digit : ∀ value < 10, digitValue? (digit value) = some value := by
  decide

theorem valueFrom?_append (start : Nat) (first second : List Char) :
    valueFrom? start (first ++ second) =
      (valueFrom? start first).bind fun value => valueFrom? value second := by
  induction first generalizing start with
  | nil => rfl
  | cons char rest induction =>
      cases known : digitValue? char with
      | none => simp [valueFrom?, known]
      | some value => simp [valueFrom?, known, induction]

theorem natural?_digits (value : Nat) : natural? (digits value) = some value := by
  have read : valueFrom? 0 (digits value) = some value := by
    induction value using digits.induct with
    | case1 value small =>
        unfold digits
        simp [small, valueFrom?, digitValue?_digit value small]
    | case2 value large induction =>
        have last := digitValue?_digit (value % 10) (by omega)
        have whole : value / 10 * 10 + value % 10 = value := by omega
        unfold digits
        simp [large, valueFrom?_append, induction, valueFrom?, last, whole]
  simp [natural?, digits_ne_nil, read]

theorem integer?_digits (value : Nat) : integer? (digits value) = some (value : Int) := by
  have unsigned : ∀ char ∈ digits value, char ≠ '-' ∧ char ≠ '+' :=
    digits_forall (by decide) value
  have read := natural?_digits value
  generalize digits value = written at unsigned read
  unfold integer?
  split
  · exact absurd rfl (unsigned _ List.mem_cons_self).1
  · exact absurd rfl (unsigned _ List.mem_cons_self).2
  · rw [read]
    rfl

theorem integer?_writeInt (value : Int) : integer? (writeInt value) = some value := by
  unfold writeInt
  split
  case isTrue negative =>
    have back : -(value.natAbs : Int) = value := by omega
    simp only [integer?, natural?_digits]
    exact congrArg some back
  case isFalse positive =>
    have back : (value.natAbs : Int) = value := by omega
    rw [integer?_digits, back]

/-! ## The extent of a number -/

theorem isDigit_digit : ∀ value < 10, isDigit (digit value) = true := by
  decide

/-- A number goes on as far as there are digits. -/
theorem extent {written after : List Char} (all : ∀ char ∈ written, isDigit char = true)
    (ends : ∀ char ∈ after.head?, isDigit char = false) :
    (written ++ after).takeWhile isDigit = written ∧
      (written ++ after).dropWhile isDigit = after := by
  rw [List.takeWhile_append_of_pos all, List.dropWhile_append_of_pos all]
  cases after with
  | nil => simp
  | cons char rest => simp [ends char rfl]

theorem takeWhile_digits (value : Nat) {char : Char} (ends : isDigit char = false)
    (rest : List Char) :
    (digits value ++ char :: rest).takeWhile isDigit = digits value ∧
      (digits value ++ char :: rest).dropWhile isDigit = char :: rest := by
  apply extent
  · exact digits_forall (P := fun char => isDigit char = true) isDigit_digit value
  · intro first found
    cases found
    exact ends

theorem valueFrom?_forall {chars : List Char} {start value : Nat}
    (read : valueFrom? start chars = some value) : ∀ char ∈ chars, isDigit char = true := by
  induction chars generalizing start with
  | nil => simp
  | cons char rest induction =>
      rcases Option.bind_eq_some_iff.mp read with ⟨digit, known, others⟩
      have first : isDigit char = true := by simp [isDigit, known]
      exact List.forall_mem_cons.mpr ⟨first, induction others⟩

theorem natural?_forall {chars : List Char} {value : Nat} (read : natural? chars = some value) :
    ∀ char ∈ chars, isDigit char = true := by
  unfold natural? at read
  split at read
  · cases read
  · exact valueFrom?_forall read

/-- No number starts with a zero but zero itself. -/
theorem digits_head (value : Nat) :
    digits value = ['0'] ∨ ∃ first rest, digits value = first :: rest ∧ first ≠ '0' := by
  induction value using digits.induct with
  | case1 value small =>
      unfold digits
      rw [if_pos small]
      by_cases zero : digit value = '0'
      · exact .inl (by rw [zero])
      · exact .inr ⟨_, [], rfl, zero⟩
  | case2 value large induction =>
      unfold digits
      rw [if_neg large]
      rcases induction with zero | ⟨first, rest, written, notZero⟩
      · have read := natural?_digits (value / 10)
        have nothing : natural? ['0'] = some 0 := by decide
        rw [zero, nothing] at read
        have more := Option.some.inj read
        omega
      · exact .inr ⟨first, rest ++ [digit (value % 10)], by simp [written], notZero⟩

end PromptClient.Text.Decimal
