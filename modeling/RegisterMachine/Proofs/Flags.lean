import RegisterMachine.Proofs.Bounds
import RegisterMachine.Proofs.Course

/-!
# What the flags tell

A sum, a difference, a product, a quotient and a comparison have a result, which can be
read off the cells and the registers of the state before the step (`State.result?`). The
result is the word that the first register receives, and a comparison keeps it to itself
(`State.receives_result`). It sets both flags, and nothing else touches them
(`State.flags_next`).

So the flags go by the latest result, however long ago that was. Steps without a result
leave them alone, and so does a load, which starts everything else afresh: over all the
steps of a history, loads included, the latest result decides (`Walk.flags`,
`flags_reflect_after`). A machine that has had no result yet shows the flags of power-on.
-/

set_option autoImplicit false

namespace RegisterMachine

/-! ## Results -/

/-- The result that an instruction computes from the registers. A division by zero has
none. -/
def Instruction.result? (i : Instruction) (file : Registers) : Option Int :=
  match i with
  | combine how dest src => some (Word.wrap (how.combine (file.get dest) (file.get src)))
  | divide dest src =>
    if file.get src = 0 then none
    else some (Word.wrap ((file.get dest).tdiv (file.get src)))
  | compare left right => some (Word.wrap (file.get left - file.get right))
  | _ => none

/-- The result that the step of a state computes: the word of the sum, the difference, the
product or the quotient of the two registers that are named behind the opcode, or of their
difference if they are compared. -/
def State.result? (s : State) : Option Int :=
  let left := s.registers.get (.ofCode (s.memory.read (s.pc + 1)))
  let right := s.registers.get (.ofCode (s.memory.read (s.pc + 2)))
  if s.running = true ∧ s.memory.InRange s.pc then
    match s.memory.read s.pc with
    | 3 => some (Word.wrap (left + right))
    | 4 => some (Word.wrap (left - right))
    | 5 => some (Word.wrap (left * right))
    | 6 => if right = 0 then none else some (Word.wrap (left.tdiv right))
    | 10 => some (Word.wrap (left - right))
    | _ => none
  else none

theorem Instruction.result_effect (i : Instruction) (file : Registers) (size : Nat) :
    (i.effect file size).result = i.result? file := by
  cases i with
  | store src address =>
    rw [effect]
    split <;> rfl
  | divide dest src =>
    by_cases zero : file.get src = 0 <;> simp [effect, result?, zero]
  | branch ifEqual left right address =>
    rw [effect]
    split <;> rfl
  | _ => rfl

namespace State

variable {s : State}

theorem result?_of_instruction {i : Instruction} (found : s.fetch = .instruction i) :
    s.result? = i.result? s.registers := by
  obtain ⟨runs, inside, decoded⟩ := fetch_eq_iff.1 found
  obtain ⟨op, known, rfl⟩ := Option.map_eq_some_iff.1 decoded
  have code : s.memory.read s.pc = op.code := Opcode.ofCode?_eq_some_iff.1 known
  rw [result?, if_pos ⟨runs, inside⟩, code]
  cases op <;> rfl

/-- Where no instruction is found there is no result. -/
theorem result?_eq_none (nothing : ∀ i, s.fetch ≠ .instruction i) : s.result? = none := by
  by_cases goesOn : s.running = true ∧ s.memory.InRange s.pc
  · have unknown : Opcode.ofCode? (s.memory.read s.pc) = none := by
      cases known : Opcode.ofCode? (s.memory.read s.pc) with
      | none => rfl
      | some op =>
        have decoded : s.instruction? = some _ := Option.map_eq_some_iff.2 ⟨op, known, rfl⟩
        have found : s.fetch = .instruction _ := fetch_eq_iff.2 ⟨goesOn.1, goesOn.2, decoded⟩
        exact absurd found (nothing _)
    rw [result?, if_pos goesOn]
    split
    case h_6 => rfl
    all_goals
      rename_i opcode
      rw [opcode] at unknown
      cases unknown
  · rw [result?, if_neg goesOn]

/-- **A step sets the flags by its result**, and without a result it leaves them. -/
theorem flags_next (s : State) : s.next.flags = (s.result?.map Flags.ofResult).getD s.flags := by
  cases found : s.fetch with
  | instruction i =>
    rw [next_of_instruction found, result?_of_instruction found,
      ← i.result_effect s.registers s.memory.size]
    cases result : (i.effect s.registers s.memory.size).result <;>
      simp [execute, Effect.apply, Effect.flags, result]
  | _ =>
    rw [result?_eq_none (by simp [found]), next, found]
    rfl

theorem flags_next_of_result?_eq_none (nothing : s.result? = none) : s.next.flags = s.flags := by
  rw [flags_next, nothing]
  rfl

/-- An instruction puts its result into the first register, unless it compares. -/
theorem get_execute_of_result? {op : Opcode} {first second third result : Int}
    (computes : (Instruction.ofCells op first second third).result? s.registers = some result) :
    op = .cmp ∨
      (s.execute (.ofCells op first second third)).registers.get (.ofCode first) = result := by
  cases op with
  | add | sub | mul =>
    right
    obtain rfl := Option.some.inj computes
    rw [Instruction.ofCells, execute_combine, Registers.get_set, if_pos rfl]
  | div =>
    right
    by_cases zero : s.registers.get (.ofCode second) = 0
    · simp [Instruction.ofCells, Instruction.result?, zero] at computes
    · rw [Instruction.ofCells, Instruction.result?, if_neg zero] at computes
      obtain rfl := Option.some.inj computes
      rw [Instruction.ofCells, s.execute_divide zero, Registers.get_set, if_pos rfl]
  | cmp => exact .inl rfl
  | _ => cases computes

/-- **The result is what the first register receives**, except that a comparison has the
difference of its registers for a result and stores nothing. -/
theorem receives_result {result : Int} (computes : s.result? = some result) :
    s.memory.read s.pc = 10 ∨
      s.next.registers.get (.ofCode (s.memory.read (s.pc + 1))) = result := by
  cases found : s.fetch with
  | instruction i =>
    rw [result?_of_instruction found] at computes
    obtain ⟨-, -, decoded⟩ := fetch_eq_iff.1 found
    obtain ⟨op, known, rfl⟩ := Option.map_eq_some_iff.1 decoded
    rw [next_of_instruction found]
    refine (get_execute_of_result? computes).imp_left ?_
    rintro rfl
    exact Opcode.ofCode?_eq_some_iff.1 known
  | _ =>
    rw [result?_eq_none (by simp [found])] at computes
    cases computes

end State

/-! ## The latest result -/

namespace Flags

/-- The flags after some results: those of the latest, or what they were if there are none. -/
def since (start : Flags) (results : List Int) : Flags := (results.getLast?.map ofResult).getD start

theorem since_append (start : Flags) (first second : List Int) :
    start.since (first ++ second) = (start.since first).since second := by
  unfold since
  rw [List.getLast?_append]
  cases second.getLast? <;> rfl

/-- What flags tell of the latest result: whether it is zero, and whether it is outside the
bounds for the carry flag. Without a result both flags are clear. -/
def Reflect (flags : Flags) : Option Int → Prop
  | none => flags.zero = false ∧ flags.carry = false
  | some result =>
    (flags.zero = true ↔ result = 0) ∧
      (flags.carry = true ↔ ¬ (-32768 ≤ result ∧ result ≤ 65535))

theorem reflect_since (results : List Int) :
    (({} : Flags).since results).Reflect results.getLast? := by
  unfold since
  cases results.getLast? with
  | none => exact ⟨rfl, rfl⟩
  | some result =>
    have zero : (ofResult result).zero = true ↔ result = 0 := by simp [ofResult]
    have carry : (ofResult result).carry = true ↔ ¬ (-32768 ≤ result ∧ result ≤ 65535) := by
      rw [ofResult, decide_eq_true_eq, carryGreatest, carryLeast]
      omega
    exact ⟨zero, carry⟩

end Flags

namespace Machine

/-- The results that the steps from machines compute, in order. -/
def results (path : List Machine) : List Int := path.filterMap (·.state.result?)

theorem results_append (first second : List Machine) :
    results (first ++ second) = results first ++ results second := List.filterMap_append

/-- **Along a walk the latest result decides.** -/
theorem Walk.flags {m last : Machine} {path : List Machine} (walk : Walk m path last) :
    last.state.flags = m.state.flags.since (results path) := by
  induction walk with
  | nil m => rfl
  | @cons m last path runs rest ih =>
    have first : m.stepped.state.flags = m.state.flags.since m.state.result?.toList := by
      rw [state_stepped, State.flags_next]
      cases m.state.result? <;> rfl
    have split : results (m :: path) = m.state.result?.toList ++ results path := by
      rw [results, List.filterMap_cons]
      cases m.state.result? <;> rfl
    rw [ih, first, split, Flags.since_append]

/-! ## Histories -/

theorem flags_apply (m : Machine) (op : Operation) :
    (op.apply m).state.flags = m.state.flags.since (results (op.course m)) := by
  cases op with
  | load cells =>
    -- Neither a program that is loaded nor one that is refused takes a step or sets a flag.
    cases read : programOf cells with
    | ok program =>
      simp only [Operation.apply, read]
      rfl
    | error cause =>
      simp only [Operation.apply, read]
      rfl
  | step => exact (m.walk_operation .step).flags
  | run limit => exact (m.walk_operation (.run limit)).flags
  | record on => rfl

/-- **Over a history the latest result decides**, through all of its loads. -/
theorem flags_after (m : Machine) (history : List Operation) :
    (m.after history).state.flags = m.state.flags.since (results (m.courseOf history)) := by
  induction history generalizing m with
  | nil => rfl
  | cons op rest ih =>
    rw [after_cons, courseOf, ih, flags_apply, results_append, Flags.since_append]

/-- **The flags of a machine that was built always reflect its latest result**, whatever
was loaded in between and whatever its sink did. Steps without a result and loads leave
the flags as they are, and the result is what the step stored, or else the difference of a
comparison. -/
theorem flags_reflect_after {size limit : Int} {maxCycles : Option Int} {sink : Option Sink}
    {recording : Bool} {m : Machine}
    (built : create size maxCycles sink recording limit = .ok m) (history : List Operation) :
    (m.after history).state.flags.Reflect (results (m.courseOf history)).getLast? ∧
    (∀ s : State, s.result? = none → s.next.flags = s.flags) ∧
    (∀ (loaded : Machine) (program : List Int),
      (loaded.load program).state.flags = loaded.state.flags) ∧
    ∀ (s : State) (result : Int), s.result? = some result →
      s.memory.read s.pc = 10 ∨
        s.next.registers.get (.ofCode (s.memory.read (s.pc + 1))) = result := by
  obtain ⟨cells, entries, -, -, -, -, rfl⟩ := exists_powerOn_of_create built
  refine ⟨?_, ?_, ?_, ?_⟩
  · rw [flags_after]
    exact Flags.reflect_since _
  · intro s nothing
    exact State.flags_next_of_result?_eq_none nothing
  · intro loaded program
    rfl
  · intro s result computes
    exact State.receives_result computes

/-- A difference of -4, then a program that prints and divides by zero. -/
theorem flags_reflect_after_reload :
    let m := powerOn 5
    let history := [Operation.load (.list [.int 4, .int 0, .int 4]), .step, .load (.list [.bool true]),
      .load (.list [.int 11, .int 0, .int 6, .int 0, .int 1]), .step, .step]
    create 5 = .ok m ∧
      (results (m.courseOf history)).getLast? = some (-4) ∧
      (m.after history).haltReason = some .divisionByZero ∧
      (m.after history).state.flags.Reflect (results (m.courseOf history)).getLast? := by
  intro m history
  have built : create 5 = .ok m := rfl
  exact ⟨built, by decide, by decide, (flags_reflect_after built history).1⟩

end Machine

end RegisterMachine
