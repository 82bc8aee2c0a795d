/-!
# Signed 32-bit words

Memory cells and registers hold signed words of 32 bits. An integer enters a
cell or a register through `wrap`, which keeps its class modulo `2 ^ 32` and
picks the representative between `least` and `greatest`.

The main facts are that `wrap` always lands in the range (`fits_wrap`) and
leaves the range alone (`wrap_of_fits`). Division is the one operation that can
fail; `quotient` rounds toward zero and refuses a zero divisor.
-/

set_option autoImplicit false

namespace RegisterMachine

namespace Word

/-- The number of different words. -/
def modulus : Nat := 4294967296

/-- The least word. -/
def least : Int := -2147483648

/-- The greatest word. -/
def greatest : Int := 2147483647

/-- A value that is a word as it stands. -/
def Fits (value : Int) : Prop := least ≤ value ∧ value ≤ greatest

instance (value : Int) : Decidable (Fits value) :=
  inferInstanceAs (Decidable (_ ∧ _))

/-- The word in the class of `value` modulo `2 ^ 32`. -/
def wrap (value : Int) : Int := value.bmod modulus

/-- Wrapping always gives a word. -/
theorem fits_wrap (value : Int) : Fits (wrap value) := by
  have lower := Int.le_bmod (x := value) (m := modulus) (by decide)
  have upper := Int.bmod_lt (x := value) (m := modulus) (by decide)
  simp only [modulus] at lower upper
  simp only [Fits, wrap, least, greatest, modulus]
  omega

/-- A word wraps to itself. -/
theorem wrap_of_fits {value : Int} (fits : Fits value) : wrap value = value := by
  simp only [Fits, least, greatest] at fits
  simp only [wrap, modulus, Int.bmod_def]
  omega

/-- Wrapping changes what is no word, and that only. -/
theorem wrap_eq_self_iff {value : Int} : wrap value = value ↔ Fits value :=
  ⟨fun same => same ▸ fits_wrap value, wrap_of_fits⟩

/-- Wrapping twice is wrapping once. -/
@[simp] theorem wrap_wrap (value : Int) : wrap (wrap value) = wrap value :=
  wrap_of_fits (fits_wrap value)

/-! ## Division -/

/-- The ways in which a division can fail. -/
inductive DivisionError where
  | zeroDivisor
  deriving DecidableEq, Repr

def DivisionError.message : DivisionError → String
  | .zeroDivisor => "integer division or modulo by zero"

/-- The quotient rounded toward zero; a zero divisor has none. -/
def quotient (dividend divisor : Int) : Except DivisionError Int :=
  if divisor = 0 then .error .zeroDivisor else .ok (dividend.tdiv divisor)

/-- Division succeeds exactly for a divisor other than zero. -/
theorem quotient_eq_ok_iff {dividend divisor q : Int} :
    quotient dividend divisor = .ok q ↔ divisor ≠ 0 ∧ q = dividend.tdiv divisor := by
  unfold quotient
  split <;> simp_all [eq_comm]

end Word

end RegisterMachine
