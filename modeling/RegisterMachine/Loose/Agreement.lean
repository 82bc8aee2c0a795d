import RegisterMachine.Loose.State

/-!
# Loose states in good order

A state is a loose state in which nothing was set by hand. Reading, decoding and
executing then agree: `read_ofState`, `decode_ofState` and `execute_ofState` say
that a loose state in good order does what the state does.

Decoding agrees as far as the opcode cell can be written at all, because what a
loose state says of an unknown opcode is subject to the digit limit. The text of a
loose record is subject to it as a whole, and agrees where there is one
(`text_ofDecoded`).
-/

set_option autoImplicit false

namespace RegisterMachine

theorem Value.isWithin_int (address : Int) (size : Nat) :
    (Value.int address).isWithin size = .ok (decide (0 ≤ address ∧ address < size)) := by
  have below : (compare address (size : Int) == Ordering.lt) = decide (address < size) := by
    rw [Bool.eq_iff_iff]
    simp [Int.compare_eq_lt]
  by_cases nonneg : 0 ≤ address
  · have order : compare address 0 = .gt ∨ compare address 0 = .eq := by
      rcases Int.lt_or_eq_of_le nonneg with positive | zero
      · exact .inl (Int.compare_eq_gt.2 positive)
      · exact .inr (Int.compare_eq_eq.2 zero.symm)
    simp only [Value.isWithin, Value.compareInt, Value.isLess, Option.some.injEq, order, if_true,
      nonneg, true_and]
    exact congrArg Except.ok (by simpa using below)
  · have order : compare address 0 = .lt := Int.compare_eq_lt.2 (by omega)
    simp [Value.isWithin, Value.compareInt, order, nonneg]

theorem Value.cell?_int (address : Int) (size : Nat) :
    (Value.int address).cell? size =
      .ok (if 0 ≤ address ∧ address < size then some address.toNat else none) := by
  by_cases inside : 0 ≤ address ∧ address < size <;>
    simp [Value.cell?, Value.isWithin_int, Value.integer?, inside, bind, Except.bind, pure,
      Except.pure]

theorem Register.ofValue_int (code : Int) : Register.ofValue (.int code) = .ok (ofCode code) := by
  by_cases numbered : 0 ≤ code ∧ code < Register.all.length
  · simp [Register.ofValue, Value.isWithin_int, Value.integer?, numbered, bind, Except.bind, pure,
      Except.pure]
  · have unknown : ofCode code = .ax := by
      have count : Register.all.length = 5 := rfl
      unfold ofCode
      split
      · omega
      · omega
      · omega
      · omega
      · rfl
    simp [Register.ofValue, Value.isWithin_int, numbered, unknown, bind, Except.bind, pure,
      Except.pure]

/-- Settling an effect changes only the program counter and the cycles beyond what
the effect does. -/
theorem Effect.settle_eq (e : Effect) (s : State) (d : Decoded) :
    ∃ pc stray, e.settle s d =
      { state := { e.apply s with pc, cycles := s.cycles + 1 }, stray, skipped := e.skipped } := by
  unfold settle
  split <;> exact ⟨_, _, rfl⟩

namespace Loose

theorem mapError_ok {α ε ε' : Type} (change : ε → ε') (value : α) :
    (Except.ok value).mapError change = .ok value := rfl

theorem mapError_error {α ε ε' : Type} (change : ε → ε') (cause : ε) :
    (Except.error cause : Except ε α).mapError change = .error (change cause) := rfl

theorem exists_of_bind_eq_ok {ε α β : Type} {first : Except ε α} {next : α → Except ε β}
    {result : β} (done : (first >>= next) = .ok result) :
    ∃ value, first = .ok value ∧ next value = .ok result := by
  cases first with
  | error cause => cases done
  | ok value => exact ⟨value, rfl, done⟩

theorem opcode?_int (opcode : Int) : opcode? (.int opcode) = .ok (Opcode.ofCode? opcode) := rfl

namespace State

theorem read_ofState (s : RegisterMachine.State) (address : Int) :
    (ofState s).read (.int address) = .ok (.int (s.memory.read address)) := by
  simp only [read, ofState, Value.cell?_int, Array.size_map, Except.map]
  by_cases inside : s.memory.InRange address
  · have lower : 0 ≤ address := inside.1
    have upper : address < s.memory.cells.size := inside.2
    have cell : address.toNat < s.memory.cells.size := by omega
    simp [Memory.read, lower, upper, cell, Array.getD_eq_getD_getElem?]
  · have outside : ¬ (0 ≤ address ∧ address < s.memory.cells.size) := inside
    simp [outside, Memory.read_of_not_inRange inside]

theorem operandValue_int (kind : OperandKind) (cell : Int) :
    operandValue kind (.int cell) = .ok (Decoded.operandValue kind cell) := by
  cases kind with
  | register => simp [operandValue, Decoded.operandValue, Register.ofValue_int, Except.map]
  | immediate => rfl
  | address => rfl

theorem readOperands_ofState (s : RegisterMachine.State) (address : Int)
    (operands : List (String × OperandKind)) :
    (ofState s).readOperands address operands
      = .ok (Decoded.readOperands s.memory address operands) := by
  induction operands generalizing address with
  | nil => rfl
  | cons operand rest ih =>
    simp [readOperands, Decoded.readOperands, read_ofState, operandValue_int, ih, bind, Except.bind,
      pure, Except.pure]

theorem written_int {value : Int} (short : (Numeral.writeDecimal value).isOk) :
    written (.int value) = .ok (toString value) := by
  simp [written, Value.write, Value.isWritable, short, Value.render, Value.quoted, mapError_ok]

theorem decode_ofState (s : RegisterMachine.State)
    (known : (Opcode.ofCode? (s.memory.read s.pc)).isSome
      ∨ (Numeral.writeDecimal (s.memory.read s.pc)).isOk) :
    (ofState s).decode = .ok (.ofDecoded (Decoded.ofState s)) := by
  have counter : (ofState s).pc = .int s.pc := rfl
  cases found : Opcode.ofCode? (s.memory.read s.pc) with
  | some op =>
    simp [decode, Decoded.ofState, Record.ofDecoded, counter, read_ofState, readOperands_ofState,
      opcode?_int, found, Value.integer?, bind, Except.bind, pure, Except.pure, mapError_ok]
  | none =>
    have short : (Numeral.writeDecimal (s.memory.read s.pc)).isOk := by simpa [found] using known
    simp [decode, Decoded.ofState, Record.ofDecoded, Decoded.unknownMessage, counter, read_ofState,
      written_int short, opcode?_int, found, bind, Except.bind, pure, Except.pure, mapError_ok]

theorem view_ofState (s : RegisterMachine.State) (d : Decoded) :
    (ofState s).view (.ofDecoded d) = .ofState s d.params := by
  simp only [view, View.ofState, ofState, Array.size_map, Memory.size]
  rfl

theorem apply_ofState (s : RegisterMachine.State) (e : Effect) :
    (ofState s).apply e = ofState (e.apply s) := by
  have running : (if e.halts then Value.bool false else Value.bool s.running)
      = Value.bool (s.running && !e.halts) := by
    cases e.halts <;> simp
  cases stored : e.stored with
  | none => simp [apply, cellsAfter, ofState, Effect.apply, Effect.memory, stored, running]
  | some cell =>
    simp [apply, cellsAfter, ofState, Effect.apply, Effect.memory, stored, running, Memory.write]

theorem instruction?_ofDecoded (d : Decoded) :
    (Record.ofDecoded d).instruction? = .ok d.instruction? := by
  cases valid : d.valid <;>
    simp [Record.instruction?, Record.ofDecoded, Decoded.instruction?, Value.truth, opcode?_int,
      valid]

theorem stride?_ofDecoded (d : Decoded) :
    (Record.ofDecoded d).stride? = .ok (if d.advances then some d.width else none) := by
  unfold Record.stride? Decoded.advances Decoded.width
  rw [instruction?_ofDecoded]
  cases d.instruction? with
  | none => rfl
  | some op => cases advances : op.advances <;> simp [Except.map, Option.filter, advances]

theorem onward_ofState (s : RegisterMachine.State) (d : Decoded) (e : Effect) :
    (ofState s).onward (.ofDecoded d) e =
      .ok ((e.settle s d).stray.getD (.int (e.settle s d).state.pc)) := by
  cases destination : e.destination with
  | none =>
    cases advances : d.advances <;>
      simp [onward, Effect.settle, destination, stride?_ofDecoded, advances, ofState, Value.advance,
        bind, Except.bind, pure, Except.pure]
  | some target =>
    cases target <;> simp [onward, Effect.settle, destination, pure, Except.pure]

theorem primitive_ofDecoded (g : RegisterMachine.Registry) (d : Decoded) :
    primitive { named := g } (.ofDecoded d) =
      match g.find? d.key with
      | some primitive => .ok primitive
      | none => .error (.execution (.unknownKey d.key)) := by
  simp only [primitive, Record.ofDecoded, Value.key, Registry.find?, mapError_ok, bind,
    Except.bind]
  cases g.find? d.key <;> rfl

theorem execute_ofState (g : RegisterMachine.Registry) (s : RegisterMachine.State) (d : Decoded) :
    (ofState s).execute { named := g } false (.ofDecoded d) =
      match g.execute s d with
      | .error cause => { state := ofState s, result := .error (.execution cause) }
      | .ok x =>
        { state := { ofState x.state with pc := x.stray.getD (.int x.state.pc) }
          events := (x.skipped.map Event.storeSkipped).toList } := by
  simp only [execute, primitive_ofDecoded, view_ofState, RegisterMachine.Registry.execute,
    RegisterMachine.Registry.effect]
  cases g.find? d.key with
  | none => rfl
  | some primitive =>
    cases effect : primitive (.ofState s d.params) with
    | error cause => simp [effect, mapError_error, Except.map, bind, Except.bind]
    | ok e =>
      obtain ⟨pc, stray, settled⟩ := e.settle_eq s d
      simp only [effect, mapError_ok, Except.map, bind, Except.bind, pure, Except.pure,
        onward_ofState, apply_ofState, settled, Bool.false_eq_true, if_false]
      rfl

end State

/-! ## Text -/

theorem render_of_written {value : Value} {text : String} (done : written value = .ok text) :
    value.render = text := by
  unfold written Value.write at done
  split at done
  · exact Except.ok.inj done
  · cases done

section Texts

variable {ε ε' : Type} {op : Opcode} {some : String → Except ε String}
  {every : String → Except ε' String}

/-- Operands that are written with some of the parameters are written so with more of them. -/
theorem operandTexts_mono (covers : ∀ name text, some name = .ok text → every name = .ok text)
    {operands : List (String × OperandKind)} {texts : List String}
    (done : Decoded.operandTexts op some operands = .ok texts) :
    Decoded.operandTexts op every operands = .ok texts := by
  induction operands generalizing texts with
  | nil =>
    cases done
    rfl
  | cons operand rest ih =>
    obtain ⟨text, first, later⟩ := exists_of_bind_eq_ok done
    obtain ⟨others, behind, joined⟩ := exists_of_bind_eq_ok later
    cases joined
    rw [Decoded.operandTexts, covers _ _ first, ih behind]
    rfl

theorem assemble_mono (covers : ∀ name text, some name = .ok text → every name = .ok text)
    {text : String} (done : Decoded.assemble op some = .ok text) :
    Decoded.assemble op every = .ok text := by
  obtain ⟨texts, operands, joined⟩ := exists_of_bind_eq_ok done
  cases joined
  rw [Decoded.assemble, operandTexts_mono covers operands]
  rfl

end Texts

/-- **A text that is written within the digit limit is the text of the record.** -/
theorem text_ofDecoded {d : Decoded} {text : String}
    (done : (Record.ofDecoded d).text = .ok text) : d.text = .ok text := by
  rw [Record.text, State.instruction?_ofDecoded] at done
  rw [Decoded.text]
  cases found : d.instruction? with
  | none =>
    have later : (written (Record.ofDecoded d).opcode >>= fun digits =>
        .ok (Decoded.unknownText digits)) = .ok text := by
      rw [found] at done
      exact done
    obtain ⟨digits, shown, joined⟩ := exists_of_bind_eq_ok later
    cases joined
    rw [← render_of_written shown]
    rfl
  | some op =>
    rw [found] at done
    refine assemble_mono (fun name shown done => ?_) done
    obtain ⟨value, parameter, shown⟩ := exists_of_bind_eq_ok done
    have looked : ((d.params.find name).mapError ExecutionError.parameter).mapError Error.execution
        = .ok value := parameter
    cases read : d.params.find name with
    | error cause =>
      rw [read] at looked
      cases looked
    | ok present =>
      rw [read] at looked
      cases looked
      exact congrArg Except.ok (render_of_written shown)

end Loose

end RegisterMachine
