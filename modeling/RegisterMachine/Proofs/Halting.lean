import Mathlib.Logic.ExistsUnique
import RegisterMachine.Proofs.Course
import RegisterMachine.Proofs.Reporting

/-!
# Why a machine has halted

A halted machine shows why it halted: the reason that it gives and the cells around its
program counter fit one of four ways to halt (`Halt.Explains`), and only one
(`Halt.eq_of_explains`). A division by zero has moved the program counter past the
instruction, so its opcode is found three cells back.

A load makes the machine run and clears the reason, and a step keeps what the reason
says true (`Explained.stepped`). So from the first load on, throughout a history and
whatever the sink does, a running machine gives no reason and a halted one is explained
in exactly one way (`explained_after_load`).
-/

set_option autoImplicit false

namespace RegisterMachine

/-- The ways in which a machine halts. -/
inductive Halt where
  /-- It executed a halt instruction. -/
  | instruction
  /-- It divided by zero. -/
  | division
  /-- It found a cell that is no opcode. -/
  | unknown
  /-- Its program counter left the memory. -/
  | outside
  deriving DecidableEq, Repr

namespace Halt

/-- What each way to halt says of the state afterwards and of the reason given. -/
def Explains (halt : Halt) (s : State) (reason? : Option String) : Prop :=
  match halt with
  | instruction => reason? = none ∧ s.memory.InRange s.pc ∧ s.memory.read s.pc = 12
  | division =>
    reason? = some "Division by zero" ∧ s.memory.InRange (s.pc - 3) ∧
      s.memory.read (s.pc - 3) = 6 ∧
      s.registers.get (.ofCode (s.memory.read (s.pc - 1))) = 0
  | unknown =>
    reason? = some ("Unknown instruction: " ++ toString (s.memory.read s.pc)) ∧
      s.memory.InRange s.pc ∧ ¬ (1 ≤ s.memory.read s.pc ∧ s.memory.read s.pc ≤ 12)
  | outside =>
    reason? = some ("PC out of range: " ++ toString s.pc) ∧ ¬ s.memory.InRange s.pc

/-- The first letter of the reason that is given for a halt. -/
def letter? : Halt → Option Char
  | instruction => none
  | division => some 'D'
  | unknown => some 'U'
  | outside => some 'P'

theorem letter?_injective : Function.Injective letter? := by
  intro first second same
  cases first <;> cases second <;> first | rfl | cases same

theorem Explains.letter?_eq {halt : Halt} {s : State} {reason? : Option String}
    (explains : halt.Explains s reason?) :
    reason?.bind (·.toList.head?) = halt.letter? := by
  cases halt with
  | instruction | division =>
    rw [explains.1]
    rfl
  | unknown | outside =>
    rw [explains.1, Option.bind_some, String.toList_append]
    rfl

/-- **A halt is explained in one way only.** -/
theorem eq_of_explains {first second : Halt} {s : State} {reason? : Option String}
    (one : first.Explains s reason?) (other : second.Explains s reason?) : first = second :=
  letter?_injective (one.letter?_eq.symm.trans other.letter?_eq)

end Halt

/-! ## Instructions that halt -/

/-- The opcodes are the numbers from 1 to 12. -/
theorem Opcode.ofCode?_eq_none_iff {code : Int} :
    ofCode? code = none ↔ ¬ (1 ≤ code ∧ code ≤ 12) := by
  unfold ofCode?
  split
  case h_13 => grind
  all_goals simp

namespace State

variable {s : State}

/-- The divisor of a division is named by the second cell after the opcode. -/
theorem divisor_of_instruction? {dest src : Register}
    (found : s.instruction? = some (.divide dest src)) :
    src = .ofCode (s.memory.read (s.pc + 2)) := by
  obtain ⟨op, -, same⟩ := Option.map_eq_some_iff.1 found
  cases op with
  | div =>
    injection same with _ second
    exact second.symm
  | _ => cases same

/-- An instruction lets the machine run on, or it is a halt or divides by zero. -/
theorem running_execute_cases (runs : s.running = true) (i : Instruction) :
    (s.execute i).running = true ∨ i = .halt ∨
      ∃ dest src, i = .divide dest src ∧ s.registers.get src = 0 := by
  cases i with
  | halt => exact .inr (.inl rfl)
  | divide dest src =>
    by_cases zero : s.registers.get src = 0
    · exact .inr (.inr ⟨dest, src, rfl, zero⟩)
    · left
      rw [s.execute_divide zero]
      exact runs
  | store src address =>
    left
    rw [execute_store]
    exact runs
  | branch ifEqual left right address =>
    left
    rw [execute_branch]
    exact runs
  | _ => exact .inl (by simp [execute, Effect.apply, Instruction.effect, runs])

/-- **A step that halts a running state is explained** by what was abnormal, or else by
the halt instruction. -/
theorem explained_next (runs : s.running = true) (halts : s.next.running = false) :
    ∃ halt : Halt, halt.Explains s.next (s.abnormal?.map HaltReason.message) := by
  cases found : s.fetch with
  | stopped => exact absurd found (fetch_ne_stopped runs)
  | outside =>
    obtain ⟨-, outside⟩ := fetch_eq_iff.1 found
    rw [next, abnormal?, found]
    exact ⟨.outside, rfl, outside⟩
  | unknown cell =>
    obtain ⟨-, inside, unknown, rfl⟩ := fetch_eq_iff.1 found
    rw [next, abnormal?, found]
    exact ⟨.unknown, rfl, inside, Opcode.ofCode?_eq_none_iff.1 (Option.map_eq_none_iff.1 unknown)⟩
  | instruction i =>
    obtain ⟨-, inside, known⟩ := fetch_eq_iff.1 found
    have executed : s.next = s.execute i := next_of_instruction found
    have abnormal : s.abnormal? = i.haltReason? s.registers := by rw [abnormal?, found]
    rw [executed] at halts ⊢
    rw [abnormal]
    rcases running_execute_cases runs i with goesOn | rfl | ⟨dest, src, rfl, zero⟩
    · rw [goesOn] at halts
      cases halts
    · exact ⟨.instruction, rfl, inside, read_of_instruction? known⟩
    · refine ⟨.division, by rw [Instruction.haltReason?, if_pos zero]; rfl, ?_⟩
      -- The counter has moved on by three cells, and nothing else that matters here changed.
      have back : s.pc + 3 - 3 = s.pc := by omega
      have operand : s.pc + 3 - 1 = s.pc + 2 := by omega
      rw [s.execute_divide_zero zero]
      dsimp only
      rw [back, operand, ← divisor_of_instruction? known]
      exact ⟨inside, read_of_instruction? known, zero⟩

end State

/-! ## Machines -/

namespace Machine

/-- A running machine gives no reason, and a halted one is explained by its reason. -/
structure Explained (m : Machine) : Prop where
  running : m.state.running = true → m.haltReason = none
  halted : m.state.running = false →
    ∃ halt : Halt, halt.Explains m.state (m.haltReason.map HaltReason.message)

theorem explained_load (m : Machine) (program : List Int) : (m.load program).Explained where
  running _ := rfl
  halted stopped := by cases stopped

/-- **A step keeps the machine explained**, whatever the sink does. -/
theorem Explained.stepped {m : Machine} (explained : m.Explained) : m.stepped.Explained := by
  by_cases runs : m.state.running = true
  · have reason : m.stepped.haltReason = m.state.abnormal? := by
      rw [haltReason_stepped, haltReason_proceed, explained.running runs, Option.or_none]
    constructor
    · intro goesOn
      rw [state_stepped] at goesOn
      rw [reason]
      cases abnormal : m.state.abnormal? with
      | none => rfl
      | some cause =>
        rw [State.halts_of_abnormal abnormal] at goesOn
        cases goesOn
    · intro halts
      rw [reason, state_stepped]
      exact State.explained_next runs (by rwa [← state_stepped])
  · rw [stepped_of_stopped (Bool.eq_false_iff.2 runs)]
    exact explained

theorem after_append (m : Machine) (earlier later : List Operation) :
    m.after (earlier ++ later) = (m.after earlier).after later := List.foldl_append

/-- Once a program is loaded, the machine stays explained. -/
theorem explained_after {m : Machine} {history : List Operation}
    (loaded : history.any Operation.loads = true) : (m.after history).Explained := by
  obtain ⟨op, member, loads⟩ := List.any_eq_true.1 loaded
  obtain ⟨earlier, later, rfl⟩ := List.append_of_mem member
  rw [after_append, after_cons]
  have start : (op.apply (m.after earlier)).Explained := by
    obtain ⟨program, loaded⟩ := Operation.exists_load loads
    rw [(loaded _).1]
    exact explained_load _ program
  exact after_induction (motive := Explained) (fun m program _ => m.explained_load program)
    (fun _ => Explained.stepped) (fun _ _ explained => ⟨explained.running, explained.halted⟩)
    start later

/-- **After a load a machine always shows why it halted.** As long as it runs it gives no
reason; when it has halted, its state and the text of its reason fit exactly one way to
halt. -/
theorem explained_after_load (m : Machine) {history : List Operation}
    (loaded : history.any Operation.loads = true) :
    ((m.after history).state.running = true → (m.after history).haltReason = none) ∧
    ((m.after history).state.running = false →
      ∃! halt : Halt, halt.Explains (m.after history).state
        ((m.after history).haltReason.map HaltReason.message)) := by
  have explained := m.explained_after loaded
  refine ⟨explained.running, fun halted => ?_⟩
  obtain ⟨halt, explains⟩ := explained.halted halted
  exact ⟨halt, explains, fun other also => Halt.eq_of_explains also explains⟩

/-- A division by zero whose divisor lies past the end of the memory. -/
theorem explained_after_truncated_division :
    let history := [Operation.load (.list [.int 6, .int 1]), .step, .load .nothing, .step]
    history.any Operation.loads = true ∧
      ((powerOn 2).after history).state.running = false ∧
      ∃! halt : Halt, halt.Explains ((powerOn 2).after history).state
        (((powerOn 2).after history).haltReason.map HaltReason.message) := by
  intro history
  have loaded : history.any Operation.loads = true := rfl
  have halted : ((powerOn 2).after history).state.running = false := by decide
  exact ⟨loaded, halted, ((powerOn 2).explained_after_load loaded).2 halted⟩

end Machine

end RegisterMachine
