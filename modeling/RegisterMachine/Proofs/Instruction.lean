import RegisterMachine.Loose.Agreement
import RegisterMachine.Machine.Step

/-!
# Typed instructions

A decoded record ties its key, its opcode and its parameters together only by
their names. An instruction as it is meant has its operands in their places: two
registers, a register and a value, an address. This module reads such an
instruction off the cells at the program counter (`State.instruction?`) and says
that decoding, the assembly text and the standard registry agree with it.

* Decoding gives the record of the instruction (`ofState_of_instruction?`).
* The record can always be written (`text_record`).
* The standard registry knows its key, and the primitive finds every parameter
  that it looks up; the effect is that of the instruction (`effect_record`).
* Settling the effect executes the instruction (`settle_record`).

So nothing that is decoded fails, and later modules speak of instructions only.
-/

set_option autoImplicit false

namespace RegisterMachine

/-- The ways to combine two registers that give a result in any case. -/
inductive Combination where
  | add
  | sub
  | mul
  deriving DecidableEq, Repr

namespace Combination

/-- The opcode of a combination. -/
def opcode : Combination → Opcode
  | add => .add
  | sub => .sub
  | mul => .mul

/-- The result before it is wrapped. -/
def combine : Combination → Int → Int → Int
  | add => (· + ·)
  | sub => (· - ·)
  | mul => (· * ·)

end Combination

/-- The instructions with their operands. -/
inductive Instruction where
  | load (dest : Register) (value : Int)
  | store (src : Register) (address : Int)
  | combine (how : Combination) (dest src : Register)
  | divide (dest src : Register)
  | jump (address : Int)
  /-- A jump that is taken if two registers are equal, or else if they differ. -/
  | branch (ifEqual : Bool) (left right : Register) (address : Int)
  | compare (left right : Register)
  | print (src : Register)
  | halt
  deriving DecidableEq, Repr

namespace Instruction

/-- The opcode of an instruction. -/
def opcode : Instruction → Opcode
  | load .. => .load
  | store .. => .store
  | combine how .. => how.opcode
  | divide .. => .div
  | jump .. => .jmp
  | branch true .. => .jeq
  | branch false .. => .jne
  | compare .. => .cmp
  | print .. => .print
  | halt => .halt

/-- The instruction with that opcode, given the cells that follow. -/
def ofCells (op : Opcode) (first second third : Int) : Instruction :=
  match op with
  | .load => load (.ofCode first) second
  | .store => store (.ofCode first) second
  | .add => combine .add (.ofCode first) (.ofCode second)
  | .sub => combine .sub (.ofCode first) (.ofCode second)
  | .mul => combine .mul (.ofCode first) (.ofCode second)
  | .div => divide (.ofCode first) (.ofCode second)
  | .jmp => jump first
  | .jeq => branch true (.ofCode first) (.ofCode second) third
  | .jne => branch false (.ofCode first) (.ofCode second) third
  | .cmp => compare (.ofCode first) (.ofCode second)
  | .print => print (.ofCode first)
  | .halt => halt

/-- The operands by name. -/
def params : Instruction → Params
  | load dest value => [("dest", .text dest.name), ("value", .int value)]
  | store src address => [("src", .text src.name), ("addr", .int address)]
  | combine _ dest src | divide dest src => [("dest", .text dest.name), ("src", .text src.name)]
  | jump address => [("addr", .int address)]
  | branch _ left right address =>
    [("src1", .text left.name), ("src2", .text right.name), ("addr", .int address)]
  | compare left right => [("src1", .text left.name), ("src2", .text right.name)]
  | print src => [("src", .text src.name)]
  | halt => []

/-- The record of an instruction at an address. -/
def record (i : Instruction) (address : Int) : Decoded where
  key := i.opcode.key
  params := i.params
  opcode := i.opcode.code
  address := address

@[simp] theorem valid_record (i : Instruction) (address : Int) : (i.record address).valid = true :=
  rfl

@[simp] theorem params_record (i : Instruction) (address : Int) :
    (i.record address).params = i.params := rfl

@[simp] theorem instruction?_record (i : Instruction) (address : Int) :
    (i.record address).instruction? = some i.opcode := by
  simp [Decoded.instruction?, record, Opcode.ofCode?_eq_some_iff]

/-! ## Text -/

/-- The operands of an instruction as they are written. -/
def operandTexts : Instruction → List String
  | load dest value => [dest.name, toString value]
  | store src address => [src.name, "[" ++ toString address ++ "]"]
  | combine _ dest src | divide dest src => [dest.name, src.name]
  | jump address => [toString address]
  | branch _ left right address => [left.name, right.name, toString address]
  | compare left right => [left.name, right.name]
  | print src => [src.name]
  | halt => []

/-- The instruction in assembly text. -/
def text (i : Instruction) : String :=
  if i.operandTexts.isEmpty then i.opcode.mnemonic
  else i.opcode.mnemonic ++ " " ++ ", ".intercalate i.operandTexts

/-- **Every record of an instruction can be written.** -/
theorem text_record (i : Instruction) (address : Int) :
    (i.record address).text = .ok i.text := by
  have looked : Decoded.operandTexts i.opcode
      (fun name => (i.params.find name).map Value.render) i.opcode.operands
        = .ok i.operandTexts := by
    cases i with
    | combine how dest src => cases how <;> rfl
    | branch ifEqual left right address => cases ifEqual <;> rfl
    | _ => rfl
  simp only [Decoded.text, instruction?_record, params_record, Decoded.assemble, looked]
  rfl

/-- The characters of operands: digits, the minus, brackets and the capitals in the names of
registers. -/
def isOperandLetter (c : Char) : Bool :=
  c.isDigit || ['-', '[', ']', 'A', 'B', 'C', 'D', 'P', 'S', 'X'].contains c

/-- An operand is written as the name of a register or as an integer, in brackets perhaps. -/
theorem eq_of_mem_operandTexts {i : Instruction} {text : String} (listed : text ∈ i.operandTexts) :
    (∃ r : Register, text = r.name) ∨
      ∃ n : Int, text = toString n ∨ text = "[" ++ toString n ++ "]" := by
  cases i <;> grind [operandTexts]

/-- Operands are written with their characters only. -/
theorem isOperandLetter_of_mem {i : Instruction} {text : String} (listed : text ∈ i.operandTexts) :
    ∀ c ∈ text.toList, isOperandLetter c = true := by
  have number : ∀ n : Int, ∀ c ∈ (toString n).toList, isOperandLetter c = true := by
    intro n c present
    rcases Numeral.isDigit_of_mem_toString present with digit | rfl
    · rw [isOperandLetter, digit, Bool.true_or]
    · decide
  rcases eq_of_mem_operandTexts listed with ⟨r, rfl⟩ | ⟨n, rfl | rfl⟩
  · exact List.all_eq_true.1 (by cases r <;> decide)
  · exact number n
  · have opening : ∀ c ∈ "[".toList, isOperandLetter c = true := List.all_eq_true.1 (by decide)
    have closing : ∀ c ∈ "]".toList, isOperandLetter c = true := List.all_eq_true.1 (by decide)
    rw [String.toList_append, String.toList_append]
    exact List.forall_mem_append.2 ⟨List.forall_mem_append.2 ⟨opening, number n⟩, closing⟩

/-! ## Effect -/

/-- What an instruction does, given the registers and the size of the memory. -/
def effect (i : Instruction) (file : Registers) (size : Nat) : Effect :=
  match i with
  | load dest value => { assigned := some (dest, Word.wrap value) }
  | store src address =>
    if 0 ≤ address ∧ address < size then { stored := some (address.toNat, file.get src) }
    else { skipped := some (.int address) }
  | combine how dest src =>
    let result := Word.wrap (how.combine (file.get dest) (file.get src))
    { assigned := some (dest, result), result := some result }
  | divide dest src =>
    if file.get src = 0 then { halts := true }
    else
      let result := Word.wrap ((file.get dest).tdiv (file.get src))
      { assigned := some (dest, result), result := some result }
  | jump address => { target := some (.int address) }
  | branch ifEqual left right address =>
    if decide (file.get left = file.get right) = ifEqual then { target := some (.int address) }
    else {}
  | compare left right => { result := some (Word.wrap (file.get left - file.get right)) }
  | print _ => {}
  | halt => { halts := true }

end Instruction

/-! ## What the primitives see -/

@[simp] theorem ok_bind {ε α β : Type} (value : α) (next : α → Except ε β) :
    (Except.ok value >>= next) = next value := rfl

@[simp] theorem pure_eq_ok {ε α : Type} (value : α) :
    (pure value : Except ε α) = .ok value := rfl

/-- The content of the register that a name means. -/
@[simp] theorem View.content_name (v : View) (r : Register) :
    v.content (.text r.name) = .ok (v.registers.get r) := by
  simp [content, Value.name, Loose.mapError_ok, Except.map, Registers.named]

/-- A number can be assigned to any register. -/
@[simp] theorem Primitive.assignment_name (r : Register) (value : Int) :
    assignment (.text r.name) (.int value) = .ok (r, Word.wrap value) := by
  simp [assignment, Value.name, Value.word, Value.integer?, Loose.mapError_ok]

namespace Instruction

/-- What the primitives see of a state and the operands of an instruction. -/
def view (i : Instruction) (s : State) : View := .ofState s i.params

@[simp] theorem registers_view (i : Instruction) (s : State) :
    (i.view s).registers = s.registers := rfl

@[simp] theorem memorySize_view (i : Instruction) (s : State) :
    (i.view s).memorySize = s.memory.size := rfl

variable (i : Instruction) (s : State) (address : Int)

/-- The primitive of an instruction finds its operands and has its effect. -/
theorem primitive_view :
    Primitive.ofOpcode i.opcode (i.view s) = .ok (i.effect s.registers s.memory.size) := by
  cases i with
  | load dest value =>
    have first : ((load dest value).view s).parameter "dest" = .ok (.text dest.name) := rfl
    have second : ((load dest value).view s).parameter "value" = .ok (.int value) := rfl
    simp [Primitive.ofOpcode, opcode, Primitive.load, effect, first, second]
  | store src address =>
    have first : ((store src address).view s).parameter "src" = .ok (.text src.name) := rfl
    have second : ((store src address).view s).parameter "addr" = .ok (.int address) := rfl
    by_cases inside : 0 ≤ address ∧ address < s.memory.size <;>
      simp [Primitive.ofOpcode, opcode, Primitive.store, effect, first, second, Value.cell?_int,
        Loose.mapError_ok, inside]
  | combine how dest src =>
    have first : ((combine how dest src).view s).parameter "dest" = .ok (.text dest.name) := rfl
    have second : ((combine how dest src).view s).parameter "src" = .ok (.text src.name) := rfl
    have same : Primitive.ofOpcode how.opcode = Primitive.arithmetic how.combine := by
      cases how <;> rfl
    simp [opcode, same, Primitive.arithmetic, effect, first, second]
  | divide dest src =>
    have first : ((divide dest src).view s).parameter "dest" = .ok (.text dest.name) := rfl
    have second : ((divide dest src).view s).parameter "src" = .ok (.text src.name) := rfl
    by_cases zero : s.registers.get src = 0 <;>
      simp [Primitive.ofOpcode, opcode, Primitive.divide, effect, first, second, zero]
  | jump address =>
    have first : ((jump address).view s).parameter "addr" = .ok (.int address) := rfl
    simp [Primitive.ofOpcode, opcode, Primitive.jump, effect, first]
  | branch ifEqual left right address =>
    have first : ((branch ifEqual left right address).view s).parameter "src1"
        = .ok (.text left.name) := rfl
    have second : ((branch ifEqual left right address).view s).parameter "src2"
        = .ok (.text right.name) := rfl
    have third : ((branch ifEqual left right address).view s).parameter "addr"
        = .ok (.int address) := rfl
    cases ifEqual <;> by_cases equal : s.registers.get left = s.registers.get right <;>
      simp [Primitive.ofOpcode, opcode, Primitive.branch, effect, first, second, third, equal]
  | compare left right =>
    have first : ((compare left right).view s).parameter "src1" = .ok (.text left.name) := rfl
    have second : ((compare left right).view s).parameter "src2" = .ok (.text right.name) := rfl
    simp [Primitive.ofOpcode, opcode, Primitive.compare, effect, first, second]
  | print src => rfl
  | halt => rfl

/-- **The standard registry does what the instruction says**: it knows the key,
and the primitive finds its parameters. -/
theorem effect_record :
    Registry.standard.effect s (i.record address) = .ok (i.effect s.registers s.memory.size) := by
  have known : Registry.standard.find? (i.record address).key
      = some (Primitive.ofOpcode i.opcode) := Registry.find?_standard i.opcode
  rw [Registry.effect, known]
  exact i.primitive_view s

/-! ## Execution -/

/-- Where an instruction jumps to, if it does. -/
def target? (file : Registers) : Option Int :=
  match i with
  | jump address => some address
  | branch ifEqual left right address =>
    if decide (file.get left = file.get right) = ifEqual then some address else none
  | _ => none

/-- Where the program counter goes from an instruction. -/
def onward (file : Registers) (pc : Int) : Int :=
  (i.target? file).getD (if i.opcode.advances then pc + i.opcode.width else pc)

end Instruction

/-- The state after an instruction at the program counter. -/
def State.execute (s : State) (i : Instruction) : State :=
  { (i.effect s.registers s.memory.size).apply s with
    pc := i.onward s.registers s.pc
    cycles := s.cycles + 1 }

namespace Instruction

variable (i : Instruction) (s : State) (address : Int)

@[simp] theorem width_record : (i.record address).width = i.opcode.width := by
  simp [Decoded.width]

@[simp] theorem advances_record : (i.record address).advances = i.opcode.advances := by
  simp [Decoded.advances]

theorem destination_effect (file : Registers) (size : Nat) :
    (i.effect file size).destination = (i.target? file).map Value.int := by
  cases i with
  | store src address =>
    by_cases inside : 0 ≤ address ∧ address < size <;>
      simp [effect, target?, Effect.destination, inside]
  | divide dest src =>
    by_cases zero : file.get src = 0 <;> simp [effect, target?, Effect.destination, zero]
  | branch ifEqual left right address =>
    by_cases taken : decide (file.get left = file.get right) = ifEqual <;>
      simp [effect, target?, Effect.destination, taken]
  | _ => rfl

/-- **Settling the effect of an instruction executes it.** -/
theorem settle_record :
    (i.effect s.registers s.memory.size).settle s (i.record s.pc) =
      { state := s.execute i
        skipped := (i.effect s.registers s.memory.size).skipped } := by
  have destination := i.destination_effect s.registers s.memory.size
  cases jumps : i.target? s.registers with
  | none =>
    rw [jumps] at destination
    simp [Effect.settle, destination, State.execute, onward, jumps]
  | some target =>
    rw [jumps] at destination
    simp [Effect.settle, destination, State.execute, onward, jumps]

end Instruction

/-! ## What execution changes -/

namespace State

variable (s : State)

theorem execute_load (dest : Register) (value : Int) :
    s.execute (.load dest value) =
      { s with
        registers := s.registers.set dest (Word.wrap value)
        pc := s.pc + 3
        cycles := s.cycles + 1 } := by
  simp only [execute, Effect.apply, Instruction.effect, Bool.not_false, Bool.and_true]
  rfl

/-- A store outside the memory is skipped, and writing there changes nothing. -/
theorem execute_store (src : Register) (address : Int) :
    s.execute (.store src address) =
      { s with
        memory := s.memory.write address (s.registers.get src)
        pc := s.pc + 3
        cycles := s.cycles + 1 } := by
  by_cases inside : 0 ≤ address ∧ address < s.memory.size
  · have cell : (address.toNat : Int) = address := Int.toNat_of_nonneg inside.1
    simp only [execute, Effect.apply, Instruction.effect, inside, and_self, if_true,
      Bool.not_false, Bool.and_true, Effect.memory, cell]
    rfl
  · have unchanged := Memory.write_of_not_inRange inside (s.registers.get src)
    simp only [execute, Effect.apply, Instruction.effect, inside, if_false, Bool.not_false,
      Bool.and_true, unchanged]
    rfl

theorem execute_combine (how : Combination) (dest src : Register) :
    s.execute (.combine how dest src) =
      { s with
        registers := s.registers.set dest
          (Word.wrap (how.combine (s.registers.get dest) (s.registers.get src)))
        flags := .ofResult (Word.wrap (how.combine (s.registers.get dest) (s.registers.get src)))
        pc := s.pc + 3
        cycles := s.cycles + 1 } := by
  simp only [execute, Effect.apply, Instruction.effect, Bool.not_false, Bool.and_true]
  cases how <;> rfl

/-- A division by zero stops the machine and moves on. -/
theorem execute_divide_zero {dest src : Register} (zero : s.registers.get src = 0) :
    s.execute (.divide dest src) =
      { s with running := false, pc := s.pc + 3, cycles := s.cycles + 1 } := by
  simp only [execute, Effect.apply, Instruction.effect, zero, if_true, Bool.not_true,
    Bool.and_false]
  rfl

theorem execute_divide {dest src : Register} (nonzero : s.registers.get src ≠ 0) :
    s.execute (.divide dest src) =
      { s with
        registers := s.registers.set dest
          (Word.wrap ((s.registers.get dest).tdiv (s.registers.get src)))
        flags := .ofResult (Word.wrap ((s.registers.get dest).tdiv (s.registers.get src)))
        pc := s.pc + 3
        cycles := s.cycles + 1 } := by
  simp only [execute, Effect.apply, Instruction.effect, nonzero, if_false, Bool.not_false,
    Bool.and_true]
  rfl

theorem execute_jump (address : Int) :
    s.execute (.jump address) = { s with pc := address, cycles := s.cycles + 1 } := by
  simp only [execute, Effect.apply, Instruction.effect, Bool.not_false, Bool.and_true]
  rfl

theorem execute_branch (ifEqual : Bool) (left right : Register) (address : Int) :
    s.execute (.branch ifEqual left right address) =
      { s with
        pc := if decide (s.registers.get left = s.registers.get right) = ifEqual then address
          else s.pc + 4
        cycles := s.cycles + 1 } := by
  by_cases taken : decide (s.registers.get left = s.registers.get right) = ifEqual
  · simp only [execute, Effect.apply, Instruction.effect, Instruction.onward, Instruction.target?,
      taken, if_true, Bool.not_false, Bool.and_true]
    rfl
  · simp only [execute, Effect.apply, Instruction.effect, Instruction.onward, Instruction.target?,
      taken, if_false, Bool.not_false, Bool.and_true]
    cases ifEqual <;> rfl

theorem execute_compare (left right : Register) :
    s.execute (.compare left right) =
      { s with
        flags := .ofResult (Word.wrap (s.registers.get left - s.registers.get right))
        pc := s.pc + 3
        cycles := s.cycles + 1 } := by
  simp only [execute, Effect.apply, Instruction.effect, Bool.not_false, Bool.and_true]
  rfl

theorem execute_print (src : Register) :
    s.execute (.print src) = { s with pc := s.pc + 2, cycles := s.cycles + 1 } := by
  simp only [execute, Effect.apply, Instruction.effect, Bool.not_false, Bool.and_true]
  rfl

theorem execute_halt : s.execute .halt = { s with running := false, cycles := s.cycles + 1 } := by
  simp only [execute, Effect.apply, Instruction.effect, Bool.not_true, Bool.and_false]
  rfl

/-- Only a store changes the memory. -/
theorem memory_execute (i : Instruction) :
    (∃ src address, i = .store src address ∧
      (s.execute i).memory = s.memory.write address (s.registers.get src)) ∨
    (s.execute i).memory = s.memory := by
  cases i with
  | store src address => exact .inl ⟨src, address, rfl, by rw [execute_store]⟩
  | divide dest src =>
    by_cases zero : s.registers.get src = 0
    · exact .inr (by rw [s.execute_divide_zero zero])
    · exact .inr (by rw [s.execute_divide zero])
  | branch ifEqual left right address => exact .inr (by rw [execute_branch])
  | _ => exact .inr rfl

/-- An instruction changes one register at most, and that receives a word. -/
theorem registers_execute (i : Instruction) :
    (∃ dest value, (s.execute i).registers = s.registers.set dest (Word.wrap value)) ∨
    (s.execute i).registers = s.registers := by
  cases i with
  | load dest value => exact .inl ⟨dest, value, by rw [execute_load]⟩
  | combine how dest src => exact .inl ⟨dest, _, by rw [execute_combine]⟩
  | divide dest src =>
    by_cases zero : s.registers.get src = 0
    · exact .inr (by rw [s.execute_divide_zero zero])
    · exact .inl ⟨dest, _, by rw [s.execute_divide zero]⟩
  | store src address => exact .inr (by rw [execute_store])
  | branch ifEqual left right address => exact .inr (by rw [execute_branch])
  | _ => exact .inr rfl

/-- The program counter goes to a target or on by the width of the instruction,
except that a halt leaves it. -/
theorem pc_execute (i : Instruction) : (s.execute i).pc = i.onward s.registers s.pc := rfl

end State

/-! ## Decoding -/

namespace State

/-- The instruction at the program counter, if the cell there is an opcode. -/
def instruction? (s : State) : Option Instruction :=
  (Opcode.ofCode? (s.memory.read s.pc)).map fun op =>
    .ofCells op (s.memory.read (s.pc + 1)) (s.memory.read (s.pc + 2)) (s.memory.read (s.pc + 3))

/-- An instruction is found where its opcode is. -/
theorem read_of_instruction? {s : State} {i : Instruction} (found : s.instruction? = some i) :
    s.memory.read s.pc = i.opcode.code := by
  obtain ⟨op, known, rfl⟩ := Option.map_eq_some_iff.1 found
  rw [Opcode.ofCode?_eq_some_iff.1 known]
  cases op <;> rfl

/-- **Decoding gives the record of the instruction at the program counter.** -/
theorem ofState_of_instruction? {s : State} {i : Instruction} (found : s.instruction? = some i) :
    Decoded.ofState s = i.record s.pc := by
  obtain ⟨op, known, rfl⟩ := Option.map_eq_some_iff.1 found
  have code : s.memory.read s.pc = op.code := Opcode.ofCode?_eq_some_iff.1 known
  have second : s.pc + 1 + 1 = s.pc + 2 := by omega
  have third : s.pc + 2 + 1 = s.pc + 3 := by omega
  simp only [Decoded.ofState, known]
  cases op <;>
    simp [Instruction.record, Instruction.ofCells, Instruction.opcode, Combination.opcode,
      Instruction.params, Decoded.readOperands, Opcode.operands, Decoded.operandValue, second,
      third, code]

end State

end RegisterMachine
