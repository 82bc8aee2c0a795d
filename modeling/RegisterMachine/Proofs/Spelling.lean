import Mathlib.Data.List.Forall2
import RegisterMachine.Proofs.Arguments

/-!
# Spellings of integers

An integer may be spelled in decimal, without leading zeros, or in hexadecimal behind a base
mark, and a sign may stand before either (`Numeral.Spells`). However it is spelled, the literal
denotes the integer (`Numeral.literal?_of_spells`). What is written in decimal is such a
spelling, if it is not too long (`Numeral.spells_toString`).
-/

set_option autoImplicit false

namespace RegisterMachine

namespace Numeral

/-! ## The spellings -/

/-- The character stands for the digit. Letters may stand in either case. -/
def StandsFor (digit : Nat) (c : Char) : Prop :=
  c = Nat.digitChar digit ∨ c = (Nat.digitChar digit).toUpper

/-- The digits, the most significant first, that the characters stand for in a base. -/
structure Digits (base : Nat) (digits : List Nat) (chars : List Char) : Prop where
  small : ∀ digit ∈ digits, digit < base
  stand : List.Forall₂ StandsFor digits chars
  present : digits ≠ []

/-- The spellings of a natural number. -/
inductive Magnitude : List Char → Nat → Prop
  | decimal {digits : List Nat} {chars : List Char} (written : Digits 10 digits chars)
      (leading : digits.head? = some 0 → digits = [0]) (few : digits.length ≤ digitLimit) :
    Magnitude chars (Nat.ofDigits 10 digits.reverse)
  | hexadecimal {mark : Char} {digits : List Nat} {chars : List Char}
      (marks : mark = 'x' ∨ mark = 'X') (written : Digits 16 digits chars) :
    Magnitude ('0' :: mark :: chars) (Nat.ofDigits 16 digits.reverse)

/-- The spellings of an integer. -/
inductive Spells : List Char → Int → Prop
  | unsigned {chars : List Char} {n : Nat} (magnitude : Magnitude chars n) : Spells chars n
  | plus {chars : List Char} {n : Nat} (magnitude : Magnitude chars n) : Spells ('+' :: chars) n
  | minus {chars : List Char} {n : Nat} (magnitude : Magnitude chars n) : Spells ('-' :: chars) (-n)

/-! ## Digits are read -/

theorem hexValue?_of_lt : ∀ digit < 16,
    hexValue? (Nat.digitChar digit) = some digit ∧
      hexValue? (Nat.digitChar digit).toUpper = some digit := by
  decide

theorem baseDigit?_of_standsFor {base digit : Nat} (small : digit < base) (base_le : base ≤ 16)
    {c : Char} (stands : StandsFor digit c) : baseDigit? base c = some digit := by
  obtain ⟨lower, upper⟩ := hexValue?_of_lt digit (Nat.lt_of_lt_of_le small base_le)
  have read : hexValue? c = some digit := by
    rcases stands with rfl | rfl
    · exact lower
    · exact upper
  rw [baseDigit?, read]
  exact Option.filter_eq_some_iff.2 ⟨rfl, by simpa using small⟩

/-- The characters of digits are letters and digits of ASCII. -/
theorem isAlphanum_of_lt : ∀ digit < 16,
    (Nat.digitChar digit).isAlphanum = true ∧ (Nat.digitChar digit).toUpper.isAlphanum = true := by
  decide

theorem Digits.isAlphanum {base : Nat} {digits : List Nat} {chars : List Char}
    (written : Digits base digits chars) (base_le : base ≤ 16) :
    ∀ c ∈ chars, c.isAlphanum = true := by
  obtain ⟨small, stand, -⟩ := written
  induction stand with
  | nil => simp
  | @cons digit c digits chars here _ ih =>
    obtain ⟨first, others⟩ := List.forall_mem_cons.1 small
    obtain ⟨lower, upper⟩ := isAlphanum_of_lt digit (Nat.lt_of_lt_of_le first base_le)
    refine List.forall_mem_cons.2 ⟨?_, ih others⟩
    rcases here with rfl | rfl
    · exact lower
    · exact upper

/-- **Digits are read as what they stand for.** -/
theorem Digits.digitRun_eq {base : Nat} {digits : List Nat} {chars : List Char}
    (written : Digits base digits chars) (base_le : base ≤ 16) :
    digitRun base chars = some digits := by
  have alphanumeric := written.isAlphanum base_le
  obtain ⟨small, stand, present⟩ := written
  induction stand with
  | nil => exact absurd rfl present
  | @cons digit c digits chars here later ih =>
    obtain ⟨first, others⟩ := List.forall_mem_cons.1 small
    have read := baseDigit?_of_standsFor first base_le here
    cases later with
    | nil => simp [digitRun, read]
    | @cons second next digits chars there later =>
      obtain ⟨-, rest⟩ := List.forall_mem_cons.1 alphanumeric
      have run := ih rest others (List.cons_ne_nil _ _)
      have digital : next ≠ '_' := by
        rintro rfl
        have underscore := rest '_' List.mem_cons_self
        cases underscore
      rw [digitRun, read, run]
      · rfl
      · exact digital

/-! ## Literals -/

/-- The code points of letters and digits of ASCII. -/
theorem toNat_of_isAlphanum {c : Char} (alphanumeric : c.isAlphanum = true) :
    48 ≤ c.toNat ∧ c.toNat ≤ 57 ∨ 65 ≤ c.toNat ∧ c.toNat ≤ 90 ∨ 97 ≤ c.toNat ∧ c.toNat ≤ 122 := by
  rcases Bool.or_eq_true_iff.1 alphanumeric with letter | digit
  · rcases Bool.or_eq_true_iff.1 letter with upper | lower
    · exact .inr (.inl (of_decide_eq_true upper))
    · obtain ⟨low, high⟩ := Bool.and_eq_true_iff.1 lower
      exact .inr (.inr ⟨of_decide_eq_true low, of_decide_eq_true high⟩)
  · exact .inl (Char.isDigit_iff_toNat.1 digit)

theorem toAscii_of_lt {chars : List Char} (ascii : ∀ c ∈ chars, c.toNat < 128) :
    toAscii chars = chars := by
  induction chars with
  | nil => rfl
  | cons c rest ih =>
    obtain ⟨here, later⟩ := List.forall_mem_cons.1 ascii
    rw [toAscii, if_pos here, ih later]

/-- A magnitude begins with a digit, and consists of letters and digits. -/
theorem Magnitude.exists_cons {chars : List Char} {n : Nat} (magnitude : Magnitude chars n) :
    ∃ first rest, chars = first :: rest ∧ ∀ c ∈ chars, c.isAlphanum = true := by
  cases magnitude with
  | @decimal digits chars written leading few =>
    cases chars with
    | nil =>
      obtain ⟨-, stand, present⟩ := written
      cases stand
      exact absurd rfl present
    | cons first rest => exact ⟨first, rest, rfl, written.isAlphanum (by decide)⟩
  | hexadecimal marks written =>
    refine ⟨_, _, rfl, List.forall_mem_cons.2 ⟨rfl, List.forall_mem_cons.2 ⟨?_, ?_⟩⟩⟩
    · rcases marks with rfl | rfl <;> rfl
    · exact written.isAlphanum (by decide)

theorem digitChar_not_mark : ∀ digit < 10,
    Nat.digitChar digit ∉ ['x', 'X', 'o', 'O', 'b', 'B'] ∧
      (Nat.digitChar digit).toUpper ∉ ['x', 'X', 'o', 'O', 'b', 'B'] := by
  decide

/-- In base ten no digit is a base mark. -/
theorem Digits.not_mark {digits : List Nat} {first second : Char} {rest : List Char}
    (written : Digits 10 digits (first :: second :: rest)) :
    second ∉ ['x', 'X', 'o', 'O', 'b', 'B'] := by
  obtain ⟨small, stand, -⟩ := written
  cases stand with
  | cons _ later =>
    cases later with
    | @cons digit _ digits _ there _ =>
      obtain ⟨lower, upper⟩ := digitChar_not_mark digit (small digit (by simp))
      rcases there with rfl | rfl
      · exact lower
      · exact upper

theorem magnitude?_eq_plainDigits {digits : List Nat} {chars : List Char}
    (written : Digits 10 digits chars) : magnitude? chars = plainDigits chars := by
  unfold magnitude?
  split
  case h_7 => rfl
  all_goals exact absurd (by decide) written.not_mark

theorem markedDigits_eq {chars : List Char} (alphanumeric : ∀ c ∈ chars, c.isAlphanum = true)
    (base : Nat) : markedDigits base chars = (digitRun base chars).map (ofDigits base) := by
  unfold markedDigits
  split
  · have underscore := alphanumeric '_' List.mem_cons_self
    cases underscore
  · rfl

/-- **A magnitude is read as what it spells.** -/
theorem Magnitude.magnitude?_eq {chars : List Char} {n : Nat} (magnitude : Magnitude chars n) :
    magnitude? chars = some n := by
  cases magnitude with
  | @decimal digits chars written leading few =>
    have run := written.digitRun_eq (by decide)
    have zeros : ¬ digits.head? = some 0 ∨ ∀ digit ∈ digits, digit = 0 := by
      by_cases zero : digits.head? = some 0
      · right
        rw [leading zero]
        simp
      · exact .inl zero
    rw [magnitude?_eq_plainDigits written, plainDigits, run, ← ofDigits_eq]
    simp [few, zeros]
  | @hexadecimal mark digits chars marks written =>
    have run := written.digitRun_eq (by decide)
    have value : markedDigits 16 chars = some (Nat.ofDigits 16 digits.reverse) := by
      rw [markedDigits_eq (written.isAlphanum (by decide)), run, Option.map_some, ofDigits_eq]
    rcases marks with rfl | rfl
    · exact value
    · exact value

/-- The characters of a spelling: letters, digits and signs. -/
theorem Spells.chars {chars : List Char} {value : Int} (spells : Spells chars value) :
    ∀ c ∈ chars, c.isAlphanum = true ∨ c = '+' ∨ c = '-' := by
  cases spells with
  | unsigned magnitude =>
    obtain ⟨_, _, -, alphanumeric⟩ := magnitude.exists_cons
    exact fun c present => .inl (alphanumeric c present)
  | plus magnitude =>
    obtain ⟨_, _, -, alphanumeric⟩ := magnitude.exists_cons
    exact List.forall_mem_cons.2 ⟨.inr (.inl rfl), fun c present => .inl (alphanumeric c present)⟩
  | minus magnitude =>
    obtain ⟨_, _, -, alphanumeric⟩ := magnitude.exists_cons
    exact List.forall_mem_cons.2 ⟨.inr (.inr rfl), fun c present => .inl (alphanumeric c present)⟩

/-- A spelling has a character. -/
theorem Spells.ne_nil {chars : List Char} {value : Int} (spells : Spells chars value) :
    chars ≠ [] := by
  rintro rfl
  cases spells with
  | unsigned magnitude =>
    obtain ⟨_, _, same, -⟩ := magnitude.exists_cons
    cases same

theorem Spells.toAscii_eq {chars : List Char} {value : Int} (spells : Spells chars value) :
    toAscii chars = chars := by
  refine toAscii_of_lt fun c present => ?_
  rcases spells.chars c present with alphanumeric | rfl | rfl
  · have bounds := toNat_of_isAlphanum alphanumeric
    omega
  · decide
  · decide

/-- No sign is split off from a magnitude. -/
theorem Magnitude.splitSign_eq {chars : List Char} {n : Nat} (magnitude : Magnitude chars n) :
    splitSign chars = (false, chars) := by
  obtain ⟨first, rest, rfl, alphanumeric⟩ := magnitude.exists_cons
  have here := alphanumeric first List.mem_cons_self
  unfold splitSign
  split
  · rename_i same
    obtain ⟨rfl, -⟩ := List.cons.inj same
    cases here
  · rename_i same
    obtain ⟨rfl, -⟩ := List.cons.inj same
    cases here
  · rfl

/-- **A spelled integer is a literal for it.** -/
theorem literal?_of_spells {chars : List Char} {value : Int} (spells : Spells chars value) :
    literal? chars = some value := by
  rw [literal?, spells.toAscii_eq]
  cases spells with
  | unsigned magnitude =>
    rw [magnitude.splitSign_eq]
    simp only [magnitude.magnitude?_eq]
    rfl
  | plus magnitude =>
    simp only [splitSign, magnitude.magnitude?_eq]
    rfl
  | minus magnitude =>
    simp only [splitSign, magnitude.magnitude?_eq]
    rfl

/-! ## What is written -/

/-- The digits of a number in decimal. -/
theorem exists_digits_toDigits (n : Nat) :
    ∃ digits, Digits 10 digits (Nat.toDigits 10 n) ∧ (digits.head? = some 0 → digits = [0]) ∧
      Nat.ofDigits 10 digits.reverse = n := by
  induction n using Nat.strongRecOn with
  | ind n ih =>
    rw [Nat.toDigits_eq_if (by decide)]
    by_cases small : n < 10
    · rw [if_pos small]
      refine ⟨[n], ⟨by simpa using small, .cons (.inl rfl) .nil, by simp⟩, ?_, ?_⟩
      · intro zero
        obtain rfl := Option.some.inj zero
        rfl
      · simp
    · rw [if_neg small]
      obtain ⟨digits, ⟨bound, stand, present⟩, leading, value⟩ := ih (n / 10) (by omega)
      refine ⟨digits ++ [n % 10], ⟨?_, ?_, by simp⟩, ?_, ?_⟩
      · intro digit listed
        rcases List.mem_append.1 listed with earlier | last
        · exact bound digit earlier
        · obtain rfl := List.mem_singleton.1 last
          omega
      · exact List.rel_append stand (.cons (.inl rfl) .nil)
      · intro zero
        rw [List.head?_append_of_ne_nil digits present] at zero
        rw [leading zero] at value
        simp at value
        omega
      · rw [List.reverse_append, List.reverse_singleton, List.singleton_append, Nat.ofDigits_cons,
          value]
        omega

/-- What is written in decimal is a magnitude, if it is not too long. -/
theorem magnitude_repr {n : Nat} (short : n < 10 ^ digitLimit) : Magnitude n.repr.toList n := by
  obtain ⟨digits, written, leading, value⟩ := exists_digits_toDigits n
  have few : digits.length ≤ digitLimit := by
    rw [written.stand.length_eq]
    exact (Nat.length_toDigits_le_iff (by decide) (by decide)).2 short
  have magnitude := Magnitude.decimal written leading few
  rw [value] at magnitude
  rwa [Nat.toList_repr]

/-- **What is written in decimal is a spelling**, if it is not too long. -/
theorem spells_toString {value : Int} (short : value.natAbs < 10 ^ digitLimit) :
    Spells (toString value).toList value := by
  cases value with
  | ofNat n => exact .unsigned (magnitude_repr short)
  | negSucc n =>
    rw [toList_negSucc]
    exact .minus (magnitude_repr short)

/-- An integer is written in decimal, if it is not too long. -/
theorem writeDecimal_of_short {value : Int} (short : value.natAbs < 10 ^ digitLimit) :
    writeDecimal value = .ok (toString value) := by
  have few : (toString value.natAbs).length ≤ digitLimit :=
    (Nat.length_repr_le_iff (by decide)).2 short
  rw [writeDecimal, if_pos few]

end Numeral

end RegisterMachine
