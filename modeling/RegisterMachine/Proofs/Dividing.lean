import RegisterMachine.Proofs.Comparing

/-!
# Dividing

The quotient of two integers is rounded toward zero. That is a matter of what is left over: the
rest is smaller in magnitude than the divisor, and it is zero or has the sign of the dividend
(`Word.Truncates`). There is one quotient with such a rest, and division finds it whenever the
divisor is not zero (`Word.quotient_eq_ok_iff_truncates`). It can be had from the magnitudes of
the two integers, with the sign put in front afterwards (`Word.quotient_eq_of_magnitudes`).

The quotient of a word is a word again, with one exception: the least word has no opposite, so its
quotient by -1 lies just above the greatest word (`Word.Truncates.fits_iff`). So a division stores
the quotient as it is, but for that one case, and even there the flags are those of the quotient
itself (`State.divides_exactly`).
-/

set_option autoImplicit false

namespace RegisterMachine

namespace Word

/-! ## Rounding toward zero -/

/-- The dividend is so many times the divisor, rounded toward zero, and a rest. -/
structure Truncates (dividend divisor whole rest : Int) : Prop where
  sum : dividend = whole * divisor + rest
  small : rest.natAbs < divisor.natAbs
  directed : rest = 0 ∨ rest.sign = dividend.sign

variable {dividend divisor whole rest : Int}

theorem truncates_tdiv (dividend : Int) (nonzero : divisor ≠ 0) :
    Truncates dividend divisor (dividend.tdiv divisor) (dividend.tmod divisor) where
  sum := (Int.tdiv_mul_add_tmod dividend divisor).symm
  small := by
    rw [Int.natAbs_tmod]
    exact Nat.mod_lt _ (Int.natAbs_pos.2 nonzero)
  directed := by
    have sign := Int.sign_tmod dividend divisor
    split at sign
    · exact .inl (Int.sign_eq_zero_iff_zero.1 sign)
    · exact .inr sign

/-- No other number rounds toward zero. -/
theorem Truncates.eq_tdiv (truncates : Truncates dividend divisor whole rest) :
    whole = dividend.tdiv divisor := by
  obtain ⟨sum, small, directed⟩ := truncates
  have nonzero : divisor ≠ 0 := by omega
  have total : rest + divisor * whole = dividend := by
    rw [sum, Int.mul_comm, Int.add_comm]
  rcases Int.le_total 0 dividend with nonneg | nonpos
  · have lower : 0 ≤ rest := by
      rcases directed with zero | sign
      · omega
      · rwa [← Int.sign_nonneg_iff, sign, Int.sign_nonneg_iff]
    exact ((Int.tdiv_tmod_unique nonneg nonzero).2 ⟨total, lower, by omega⟩).1.symm
  · have upper : rest ≤ 0 := by
      rcases directed with zero | sign
      · omega
      · rwa [← Int.sign_nonpos_iff, sign, Int.sign_nonpos_iff]
    exact ((Int.tdiv_tmod_unique' nonpos nonzero).2 ⟨total, by omega, upper⟩).1.symm

/-- **Division gives the number that rounds toward zero, and nothing if there is none.** -/
theorem quotient_eq_ok_iff_truncates :
    quotient dividend divisor = .ok whole ↔ ∃ rest, Truncates dividend divisor whole rest := by
  rw [quotient_eq_ok_iff]
  constructor
  · rintro ⟨nonzero, rfl⟩
    exact ⟨_, truncates_tdiv dividend nonzero⟩
  · rintro ⟨rest, truncates⟩
    have small := truncates.small
    exact ⟨by omega, truncates.eq_tdiv⟩

example : quotient (-7) 2 = .ok (-3) := rfl

/-- The quotient is the quotient of the magnitudes, with a minus in front if one of the two
integers is negative and the other is not. -/
theorem quotient_eq_of_magnitudes (dividend : Int) (nonzero : divisor ≠ 0) :
    quotient dividend divisor = .ok
      (if dividend < 0 ↔ divisor < 0 then ((dividend.natAbs / divisor.natAbs : Nat) : Int)
      else -((dividend.natAbs / divisor.natAbs : Nat) : Int)) := by
  refine quotient_eq_ok_iff.2 ⟨nonzero, ?_⟩
  cases dividend with
  | ofNat m =>
    cases divisor with
    | ofNat n =>
      exact if_pos (iff_of_false (Int.not_lt.2 (Int.natCast_nonneg m))
        (Int.not_lt.2 (Int.natCast_nonneg n)))
    | negSucc n => exact if_neg (by simp)
  | negSucc m =>
    cases divisor with
    | ofNat n => exact if_neg (by simp)
    | negSucc n => exact if_pos (by simp)

/-! ## Quotients of words -/

namespace Truncates

theorem natAbs_eq (truncates : Truncates dividend divisor whole rest) :
    whole.natAbs = dividend.natAbs / divisor.natAbs := by
  rw [truncates.eq_tdiv]
  exact Int.natAbs_tdiv dividend divisor

/-- The quotient is zero if the dividend is the smaller one in magnitude. -/
theorem eq_zero_iff (truncates : Truncates dividend divisor whole rest) :
    whole = 0 ↔ dividend.natAbs < divisor.natAbs := by
  have nonzero : divisor.natAbs ≠ 0 := Nat.ne_zero_of_lt truncates.small
  rw [← Int.natAbs_eq_zero, truncates.natAbs_eq, Nat.div_eq_zero_iff]
  exact or_iff_right nonzero

/-- **The quotient of a word is a word, unless the least word is divided by -1.** -/
theorem fits_iff (truncates : Truncates dividend divisor whole rest) (fits : Fits dividend) :
    Fits whole ↔ ¬ (dividend = -2147483648 ∧ divisor = -1) := by
  have magnitude := truncates.natAbs_eq
  obtain ⟨sum, small, -⟩ := truncates
  simp only [Fits, least, greatest] at fits ⊢
  by_cases unit : divisor.natAbs = 1
  · rcases Int.natAbs_eq_iff.1 unit with rfl | rfl <;> omega
  · -- From 2 on, a divisor leaves half of the magnitude at most.
    have half : dividend.natAbs / divisor.natAbs ≤ dividend.natAbs / 2 :=
      Nat.div_le_div_left (by omega) (by decide)
    omega

theorem eq_of_overflow (truncates : Truncates dividend divisor whole rest)
    (low : dividend = -2147483648) (minus : divisor = -1) : whole = 2147483648 := by
  obtain ⟨sum, small, -⟩ := truncates
  subst low minus
  omega

/-- The flags do not show whether the quotient was wrapped. -/
theorem ofResult_wrap (truncates : Truncates dividend divisor whole rest) (fits : Fits dividend) :
    Flags.ofResult (wrap whole) = Flags.ofResult whole := by
  by_cases overflows : dividend = -2147483648 ∧ divisor = -1
  · rw [truncates.eq_of_overflow overflows.1 overflows.2]
    decide
  · rw [wrap_of_fits ((truncates.fits_iff fits).2 overflows)]

end Truncates

end Word

/-! ## The instruction -/

namespace State

variable {s : State}

/-- **A division is exact.** A register that holds a word is divided by one that does not hold
zero, by any register codes. The quotient rounds toward zero, and unless the least word is divided
by -1 it is a word and is stored as it is; then the least word is stored. The zero flag tells
whether the dividend is smaller in magnitude than the divisor, and the carry flag whether the
quotient lies outside the range that leaves it clear. And any two integers have a quotient that
rounds toward zero, if the second one is not zero, namely that of the magnitudes with its sign. -/
theorem divides_exactly (words : ∀ r, Word.Fits (s.registers.get r))
    {left right dividend divisor : Int} (dividend_eq : s.registers.get (.ofCode left) = dividend)
    (divisor_eq : s.registers.get (.ofCode right) = divisor) (nonzero : divisor ≠ 0) :
    (∃ (divided : State) (whole rest : Int),
      s.executeCells [Opcode.div.code, left, right] = .ok divided ∧
      Word.quotient dividend divisor = .ok whole ∧
      Word.Truncates dividend divisor whole rest ∧
      (¬ (dividend = -2147483648 ∧ divisor = -1) →
        Word.Fits whole ∧ divided.registers.get (.ofCode left) = whole) ∧
      (dividend = -2147483648 ∧ divisor = -1 →
        ¬ Word.Fits whole ∧ divided.registers.get (.ofCode left) = -2147483648 ∧
          divided.flags.carry = true) ∧
      (divided.flags.zero = true ↔ dividend.natAbs < divisor.natAbs) ∧
      (divided.flags.carry = true ↔ whole < -32768 ∨ 65535 < whole)) ∧
    ∀ a b : Int, b ≠ 0 → ∃ whole rest,
      Word.quotient a b = .ok whole ∧ Word.Truncates a b whole rest ∧
        whole = if a < 0 ↔ b < 0 then ((a.natAbs / b.natAbs : Nat) : Int)
          else -((a.natAbs / b.natAbs : Nat) : Int) := by
  refine ⟨?instruction, ?integers⟩
  case integers =>
    intro a b nonzero
    have found := Word.quotient_eq_of_magnitudes a nonzero
    obtain ⟨rest, truncates⟩ := Word.quotient_eq_ok_iff_truncates.1 found
    exact ⟨_, rest, found, truncates, rfl⟩
  have truncates := Word.truncates_tdiv dividend nonzero
  have word : Word.Fits dividend := dividend_eq ▸ words _
  have executed : s.executeCells [Opcode.div.code, left, right]
      = .ok (s.execute (.divide (.ofCode left) (.ofCode right))) := executeCells_of_instruction? rfl
  rw [s.execute_divide (divisor_eq ▸ nonzero), dividend_eq, divisor_eq,
    truncates.ofResult_wrap word] at executed
  have carry : (Flags.ofResult (dividend.tdiv divisor)).carry = true ↔
      dividend.tdiv divisor < -32768 ∨ 65535 < dividend.tdiv divisor :=
    decide_eq_true_iff.trans or_comm
  refine ⟨_, _, _, executed, Word.quotient_eq_ok_iff.2 ⟨nonzero, rfl⟩, truncates, ?stored,
    ?overflows, ?zero, carry⟩
  case stored =>
    intro within
    have fits := (truncates.fits_iff word).2 within
    exact ⟨fits, by rw [Registers.get_set, if_pos rfl, Word.wrap_of_fits fits]⟩
  case overflows =>
    intro least
    have beyond := truncates.eq_of_overflow least.1 least.2
    refine ⟨mt (truncates.fits_iff word).1 (not_not_intro least), ?_, carry.2 (by omega)⟩
    rw [Registers.get_set, if_pos rfl, beyond]
    decide
  case zero =>
    rw [← truncates.eq_zero_iff]
    exact decide_eq_true_iff

/-- The least word is divided by -1, the divisor being in the last register. -/
theorem divides_exactly_beyond_the_greatest :
    let s : State := { registers := { ax := -2147483648, sp := -1 } }
    (∀ r, Word.Fits (s.registers.get r)) ∧ s.registers.get (.ofCode 7) = -2147483648 ∧
      s.registers.get (.ofCode 4) = -1 ∧ (-1 : Int) ≠ 0 ∧
      ∃ (divided : State) (whole rest : Int),
        s.executeCells [Opcode.div.code, 7, 4] = .ok divided ∧
        Word.quotient (-2147483648) (-1) = .ok whole ∧
        Word.Truncates (-2147483648) (-1) whole rest ∧ ¬ Word.Fits whole ∧
        divided.registers.get .ax = -2147483648 ∧ divided.flags.carry = true ∧
        ¬ divided.flags.zero = true := by
  intro s
  have words : ∀ r, Word.Fits (s.registers.get r) := by intro r; cases r <;> decide
  obtain ⟨⟨divided, whole, rest, executed, found, truncates, -, overflows, zero, -⟩, -⟩ :=
    @divides_exactly s words 7 4 _ _ rfl rfl (by decide)
  obtain ⟨beyond, stored, carry⟩ := overflows ⟨rfl, rfl⟩
  exact ⟨words, rfl, rfl, by decide, divided, whole, rest, executed, found, truncates, beyond,
    stored, carry, mt zero.1 (by decide)⟩

end State

end RegisterMachine
