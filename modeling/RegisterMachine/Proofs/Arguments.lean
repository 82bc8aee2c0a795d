import Mathlib.Data.Nat.Digits.Defs
import RegisterMachine.CommandLine.Settings

/-!
# Numbers among the arguments

An argument that is a number has no more digits than can be read, and so it can be written
again (`Numeral.writeDecimal_of_readDecimal`). That holds for the cycle limit of every
session (`Settings.written_of_ofArguments`), so a report that names it never fails.
-/

set_option autoImplicit false

namespace RegisterMachine

namespace Numeral

theorem lt_of_baseDigit? {base digit : Nat} {c : Char} (found : baseDigit? base c = some digit) :
    digit < base := by
  have kept := (Option.filter_eq_some_iff.1 found).2
  simpa using kept

/-- The digits of a text are digits of its base. -/
theorem lt_of_mem_digitRun {base : Nat} {text : List Char} {digits : List Nat}
    (read : digitRun base text = some digits) : ∀ digit ∈ digits, digit < base := by
  fun_induction digitRun base text generalizing digits with
  | case1 => cases read
  | case2 c =>
    obtain ⟨digit, found, rfl⟩ := Option.map_eq_some_iff.1 read
    simpa using lt_of_baseDigit? found
  | case3 c rest ih =>
    obtain ⟨digit, found, later⟩ := Option.bind_eq_some_iff.1 read
    obtain ⟨others, follow, joined⟩ := Option.bind_eq_some_iff.1 later
    obtain rfl := Option.some.inj joined
    exact List.forall_mem_cons.2 ⟨lt_of_baseDigit? found, ih follow⟩
  | case4 c next rest _ ih =>
    obtain ⟨digit, found, later⟩ := Option.bind_eq_some_iff.1 read
    obtain ⟨others, follow, joined⟩ := Option.bind_eq_some_iff.1 later
    obtain rfl := Option.some.inj joined
    exact List.forall_mem_cons.2 ⟨lt_of_baseDigit? found, ih follow⟩

/-- A number from its digits, which are read here with the least significant first. -/
theorem ofDigits_eq (base : Nat) (digits : List Nat) :
    ofDigits base digits = Nat.ofDigits base digits.reverse := by
  rw [Nat.ofDigits_eq_foldr, List.foldr_reverse, ofDigits]
  congr 1
  funext value digit
  rw [Nat.mul_comm, Nat.add_comm, Nat.cast_id]

theorem ofDigits_lt {digits : List Nat} (small : ∀ digit ∈ digits, digit < 10) :
    ofDigits 10 digits < 10 ^ digits.length := by
  rw [ofDigits_eq, ← List.length_reverse]
  exact Nat.ofDigits_lt_base_pow_length (by decide) fun digit listed =>
    small digit (List.mem_reverse.1 listed)

theorem natAbs_signed (negative : Bool) (magnitude : Nat) :
    (signed negative magnitude).natAbs = magnitude := by
  cases negative <;> simp [signed]

/-- **What was read in decimal can be written in decimal.** -/
theorem writeDecimal_of_readDecimal {text : String} {value : Int}
    (read : readDecimal text = .ok value) : writeDecimal value = .ok (toString value) := by
  unfold readDecimal at read
  generalize splitSign ((toAscii text.toList).dropWhile isSpace) = split at read
  obtain ⟨negative, rest⟩ := split
  cases run : digitRun 10 (rest.takeWhile isDigitOrUnderscore) with
  | none => simp [run] at read
  | some digits =>
    simp only [run] at read
    split_ifs at read with long
    obtain rfl := Except.ok.inj read
    have few : digits.length ≤ digitLimit := Nat.le_of_not_lt long
    have small : (signed negative (ofDigits 10 digits)).natAbs < 10 ^ digitLimit := by
      rw [natAbs_signed]
      exact Nat.lt_of_lt_of_le (ofDigits_lt (lt_of_mem_digitRun run))
        (Nat.pow_le_pow_right (by decide) few)
    exact if_pos ((Nat.length_repr_le_iff (by decide)).2 small)

end Numeral

namespace CommandLine

theorem exists_of_map_eq_ok {ε α β : Type} {f : α → β} {outcome : Except ε α} {result : β}
    (mapped : outcome.map f = .ok result) : ∃ value, outcome = .ok value ∧ f value = result := by
  cases outcome with
  | error cause => cases mapped
  | ok value => exact ⟨value, rfl, Except.ok.inj mapped⟩

/-- The integer that an option gives can be written. -/
theorem Use.written_of_integer {u : Use Key} {value : Option Int} (read : u.integer = .ok value) :
    ∀ number ∈ value, Numeral.writeDecimal number = .ok (toString number) := by
  rintro number rfl
  unfold Use.integer at read
  cases given : u.given with
  | none => simp [given] at read
  | some text =>
    cases decimal : Numeral.readDecimal text with
    | error cause => simp [given, decimal] at read
    | ok n =>
      simp only [given, decimal, Except.ok.injEq, Option.some.injEq] at read
      exact Numeral.writeDecimal_of_readDecimal (read ▸ decimal)

namespace Settings

/-- The cycle limit of the settings can be written, if there is one. -/
def Written (s : Settings) : Prop :=
  ∀ limit ∈ s.maxCycles, Numeral.writeDecimal limit = .ok (toString limit)

theorem Written.apply {s t : Settings} {u : Use Key} (written : s.Written)
    (applied : s.apply u = .ok t) : t.Written := by
  unfold Settings.apply at applied
  cases key : u.option.key <;> rw [key] at applied
  case maxCycles =>
    obtain ⟨value, read, rfl⟩ := exists_of_map_eq_ok applied
    exact Use.written_of_integer read
  case memorySize =>
    obtain ⟨value, read, rfl⟩ := exists_of_map_eq_ok applied
    exact written
  case program =>
    obtain ⟨value, read, rfl⟩ := exists_of_map_eq_ok applied
    exact written
  all_goals
    obtain rfl := Except.ok.inj applied
    exact written

theorem Written.ofUses {s t : Settings} {last : Settings → Request} {uses : List (Use Key)}
    (written : s.Written) (ends : ∀ s t, last s = .settings t → s = t)
    (read : Request.ofUses s last uses = .settings t) : t.Written := by
  induction uses generalizing s with
  | nil => exact ends s t read ▸ written
  | cons u rest ih =>
    rw [Request.ofUses] at read
    split at read
    · cases read
    · cases applied : s.apply u with
      | error cause => simp [applied] at read
      | ok next =>
        rw [applied] at read
        exact ih (written.apply applied) read

/-- **The cycle limit of an argument list can be written** as it was read. -/
theorem written_of_ofArguments {arguments : List String} {s : Settings}
    (asked : Request.ofArguments arguments = .settings s) : s.Written := by
  have default : ({} : Settings).Written := by
    rintro limit ⟨⟩
    exact if_pos (by decide)
  unfold Request.ofArguments at asked
  cases taken : takeAll catalogue arguments with
  | error cause => simp [taken] at asked
  | ok parts =>
    rw [taken] at asked
    refine default.ofUses ?_ asked
    intro s t ends
    split at ends
    · cases ends
    · split at ends
      · exact Request.settings.inj ends
      · cases ends

end Settings

end CommandLine

end RegisterMachine
