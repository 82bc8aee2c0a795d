import RegisterMachine.Proofs.History
import RegisterMachine.Proofs.Horizon

/-!
# Loading is all or nothing

Cells offered for loading are looked at before anything is changed. If one of them is no
integer, the first such cell is named (`FirstMisfit`, `integerCells_eq_error_iff`) and the
machine stays as it was. Otherwise the program is copied to the front of the memory, and all
that tells of an earlier program is swept away (`Loads`). Each cell that had to be wrapped is
reported, and so is the end of a program that does not fit (`loadWarnings`).

Of its past a loaded machine keeps the registers, the flags and the cells behind the program,
and nothing else (`load_congr`). `loads_or_refuses` puts this together.
-/

set_option autoImplicit false

namespace RegisterMachine

namespace Machine

/-! ## What is refused -/

/-- The first of the cells offered that is no integer, and what it is instead. -/
structure FirstMisfit (items : List Value) (cell : Nat) (kind : Kind) : Prop where
  here : items[cell]?.map Value.kind = some kind
  misfit : kind ≠ .int
  earlier : ∀ i < cell, items[i]?.map Value.kind = some .int

theorem exists_of_kind_eq_int {value : Value} (integer : value.kind = .int) :
    ∃ number, value = .int number := by
  cases value with
  | int number => exact ⟨number, rfl⟩
  | _ => cases integer

theorem firstMisfit_cons_int {value : Int} {items : List Value} {cell : Nat} {kind : Kind} :
    FirstMisfit (.int value :: items) (cell + 1) kind ↔ FirstMisfit items cell kind := by
  constructor
  · intro first
    exact ⟨first.here, first.misfit, fun i below =>
      first.earlier (i + 1) (Nat.succ_lt_succ below)⟩
  · intro first
    refine ⟨first.here, first.misfit, fun i below => ?_⟩
    cases i with
    | zero => rfl
    | succ i => exact first.earlier i (Nat.lt_of_succ_lt_succ below)

/-- A cell that is no integer is the first misfit of the cells from it on, and the only one. -/
theorem firstMisfit_cons_iff {value : Value} (misfit : value.kind ≠ .int) {items : List Value}
    {cell : Nat} {kind : Kind} :
    FirstMisfit (value :: items) cell kind ↔ cell = 0 ∧ kind = value.kind := by
  constructor
  · intro first
    have start : cell = 0 := by
      by_contra later
      exact misfit (Option.some.inj (first.earlier 0 (Nat.pos_of_ne_zero later)))
    subst start
    exact ⟨rfl, (Option.some.inj first.here).symm⟩
  · rintro ⟨rfl, rfl⟩
    exact ⟨rfl, misfit, fun i below => absurd below (Nat.not_lt_zero i)⟩

theorem integerCells_of_misfit {value : Value} (misfit : value.kind ≠ .int) (start : Nat)
    (items : List Value) :
    integerCells start (value :: items) = .error (.notAnInteger start value.kind) := by
  cases value with
  | int value => exact absurd rfl misfit
  | _ => rfl

/-- **The error of a refusal names the first misfit.** -/
theorem integerCells_eq_error_iff {start : Nat} {items : List Value} {cause : LoadError} :
    integerCells start items = .error cause ↔
      ∃ cell kind, cause = .notAnInteger (start + cell) kind ∧ FirstMisfit items cell kind := by
  induction items generalizing start with
  | nil =>
    refine iff_of_false (by simp [integerCells]) ?_
    rintro ⟨cell, kind, -, first⟩
    cases first.here
  | cons value rest ih =>
    by_cases fits : value.kind = .int
    · obtain ⟨number, rfl⟩ := exists_of_kind_eq_int fits
      have later : integerCells start (.int number :: rest) = .error cause ↔
          integerCells (start + 1) rest = .error cause := by
        rw [integerCells]
        cases integerCells (start + 1) rest <;> simp [Except.map]
      rw [later, ih]
      constructor
      · rintro ⟨cell, kind, rfl, first⟩
        refine ⟨cell + 1, kind, ?_, firstMisfit_cons_int.2 first⟩
        rw [Nat.add_right_comm, Nat.add_assoc]
      · rintro ⟨cell, kind, rfl, first⟩
        cases cell with
        | zero => exact absurd (Option.some.inj first.here).symm first.misfit
        | succ cell =>
          refine ⟨cell, kind, ?_, firstMisfit_cons_int.1 first⟩
          rw [Nat.add_right_comm, Nat.add_assoc]
    · rw [integerCells_of_misfit fits]
      constructor
      · intro refused
        obtain rfl := Except.error.inj refused
        exact ⟨0, value.kind, rfl, (firstMisfit_cons_iff fits).2 ⟨rfl, rfl⟩⟩
      · rintro ⟨cell, kind, rfl, first⟩
        obtain ⟨rfl, rfl⟩ := (firstMisfit_cons_iff fits).1 first
        rfl

/-- What has no first misfit consists of integers. -/
theorem exists_firstMisfit_iff {items : List Value} :
    (∃ cell kind, FirstMisfit items cell kind) ↔ ∃ value ∈ items, value.kind ≠ .int := by
  constructor
  · rintro ⟨cell, kind, first⟩
    obtain ⟨value, present, rfl⟩ := Option.map_eq_some_iff.1 first.here
    exact ⟨value, List.mem_of_getElem? present, first.misfit⟩
  · rintro ⟨value, present, misfit⟩
    induction items with
    | nil => cases present
    | cons first rest ih =>
      by_cases fits : first.kind = .int
      · obtain ⟨number, rfl⟩ := exists_of_kind_eq_int fits
        have later : value ∈ rest := by
          rcases List.mem_cons.1 present with rfl | later
          · exact absurd fits misfit
          · exact later
        obtain ⟨cell, kind, found⟩ := ih later
        exact ⟨cell + 1, kind, firstMisfit_cons_int.2 found⟩
      · exact ⟨0, first.kind, (firstMisfit_cons_iff fits).2 ⟨rfl, rfl⟩⟩

/-- Cells with a misfit are refused, and nothing is changed. -/
theorem load_of_misfit (m : Machine) {items : List Value} {cell : Nat} {kind : Kind}
    (first : FirstMisfit items cell kind) :
    (Operation.load (.list items)).failure? m = some (.load (.notAnInteger cell kind)) ∧
      (Operation.load (.list items)).apply m = m := by
  have refused : programOf (.list items) = .error (.notAnInteger cell kind) :=
    integerCells_eq_error_iff.2 ⟨cell, kind, by rw [Nat.zero_add], first⟩
  simp only [Operation.failure?, Operation.apply, refused, and_self]

/-- Integers are loaded. -/
theorem load_of_integers (m : Machine) (program : List Int) :
    (Operation.load (.list (program.map .int))).failure? m = none ∧
      (Operation.load (.list (program.map .int))).apply m = m.load program := by
  have accepted : programOf (.list (program.map .int)) = .ok program :=
    integerCells_map_int 0 program
  simp only [Operation.failure?, Operation.apply, accepted, and_self]

/-- **A load fails at the first misfit**, and in no other way. -/
theorem failure?_load_iff (m : Machine) (items : List Value) (failure : Failure) :
    (Operation.load (.list items)).failure? m = some failure ↔
      ∃ cell kind, failure = .load (.notAnInteger cell kind) ∧ FirstMisfit items cell kind := by
  constructor
  · intro failed
    cases outcome : integerCells 0 items with
    | ok program =>
      have accepted : programOf (.list items) = .ok program := outcome
      simp [Operation.failure?, accepted] at failed
    | error cause =>
      obtain ⟨cell, kind, -, first⟩ := integerCells_eq_error_iff.1 outcome
      rw [(load_of_misfit m first).1] at failed
      exact ⟨cell, kind, (Option.some.inj failed).symm, first⟩
  · rintro ⟨cell, kind, rfl, first⟩
    exact (load_of_misfit m first).1

/-! ## What a load does -/

/-- What loading a program makes of a machine. -/
structure Loads (m : Machine) (program : List Int) (loaded : Machine) : Prop where
  size : loaded.memorySize = m.memorySize
  covered : ∀ cell value, program[cell]? = some value → cell < m.memorySize →
    loaded.state.memory.read cell = Word.wrap value
  /-- Cells behind the program, and addresses at which there is no cell. -/
  uncovered : ∀ address : Int,
    ¬ (0 ≤ address ∧ address < (min program.length m.memorySize : Nat)) →
    loaded.state.memory.read address = m.state.memory.read address
  registers : loaded.state.registers = m.state.registers
  flags : loaded.state.flags = m.state.flags
  pc : loaded.state.pc = 0
  running : loaded.state.running = true
  cycles : loaded.state.cycles = 0
  entries : loaded.entries = []
  output : loaded.output = #[]
  haltReason : loaded.haltReason = none
  /-- What the machine was built with. -/
  observers : loaded.trace.limit = m.trace.limit ∧ loaded.sink = m.sink ∧
    loaded.maxCycles = m.maxCycles ∧ loaded.recording = m.recording

theorem read_load (m : Machine) (program : List Int) (address : Int) :
    (m.load program).state.memory.read address =
      if m.state.memory.InRange address ∧ address.toNat < program.length then
        Word.wrap (program.getD address.toNat 0)
      else m.state.memory.read address := by
  have copied := m.state.memory.read_overlay (program.map Word.wrap) address
  rw [List.length_map] at copied
  refine copied.trans (ite_congr rfl (fun covered => ?_) fun _ => rfl)
  simp [List.getElem?_eq_getElem covered.2]

/-- **A load does what loading means.** -/
theorem loads_load (m : Machine) (program : List Int) : m.Loads program (m.load program) where
  size := Memory.size_overlay _ _
  covered cell value found below := by
    obtain ⟨short, -⟩ := List.getElem?_eq_some_iff.1 found
    have covered : m.state.memory.InRange cell ∧ (cell : Int).toNat < program.length :=
      ⟨⟨Int.natCast_nonneg cell, Int.ofNat_lt.2 below⟩, short⟩
    rw [read_load, if_pos covered, Int.toNat_natCast, List.getD_eq_getElem?_getD, found,
      Option.getD_some]
  uncovered address outside := by
    rw [read_load, if_neg]
    rintro ⟨⟨lower, upper⟩, short⟩
    have within : address < m.memorySize := upper
    omega
  registers := rfl
  flags := rfl
  pc := rfl
  running := rfl
  cycles := rfl
  entries := m.entries_load program
  output := rfl
  haltReason := rfl
  observers := ⟨rfl, rfl, rfl, rfl⟩

/-- **A loaded machine keeps nothing of its past** but the registers, the flags, and the cells
behind the program. -/
theorem load_congr {a b : Machine} (program : List Int) (size : a.memorySize = b.memorySize)
    (behind : ∀ cell, min program.length a.memorySize ≤ cell →
      a.state.memory.read (cell : Nat) = b.state.memory.read cell)
    (registers : a.state.registers = b.state.registers) (flags : a.state.flags = b.state.flags)
    (limit : a.trace.limit = b.trace.limit) (sink : a.sink = b.sink)
    (maxCycles : a.maxCycles = b.maxCycles) (recording : a.recording = b.recording) :
    a.load program = b.load program := by
  have memory : (a.load program).state.memory = (b.load program).state.memory := by
    refine Memory.ext_read ?_ fun cell _ => ?_
    · exact (Memory.size_overlay _ _).trans (size.trans (Memory.size_overlay _ _).symm)
    · rw [read_load, read_load]
      have range : a.state.memory.InRange cell ↔ b.state.memory.InRange cell := by
        have same : a.state.memory.size = b.state.memory.size := size
        rw [Memory.InRange, Memory.InRange, same]
      by_cases covered : a.state.memory.InRange cell ∧ (cell : Int).toNat < program.length
      · rw [if_pos covered, if_pos (covered.imp_left range.1)]
      · rw [if_neg covered, if_neg fun other => covered (other.imp_left range.2)]
        by_cases inside : a.state.memory.InRange cell
        · refine behind cell (Nat.le_trans (Nat.min_le_left _ _) (Nat.le_of_not_lt fun short => ?_))
          exact covered ⟨inside, short⟩
        · rw [Memory.read_of_not_inRange inside, Memory.read_of_not_inRange (inside ∘ range.2)]
  have trace : (a.load program).trace = (b.load program).trace := by
    simp only [load, Recent.clear, limit]
  have state : (a.load program).state = (b.load program).state := by
    have same : (a.load program).state =
        { (b.load program).state with memory := (a.load program).state.memory } := by
      simp only [load, registers, flags]
    rw [same, memory]
  have rest : a.load program =
      { b.load program with
        state := (a.load program).state
        trace := (a.load program).trace } := by
    simp only [load, sink, maxCycles, recording]
  rw [rest, state, trace]

/-! ## What a load reports -/

/-- The warnings of a load: one for each cell that is copied and no word, in order, and one at
the end if cells are left over. -/
def loadWarnings (m : Machine) (program : List Int) : List Event :=
  ((program.take (min program.length m.memorySize)).zipIdx.filterMap fun (value, cell) =>
      if Word.Fits value then none else some (.wrapped cell value (Word.wrap value)))
    ++ if m.memorySize < program.length then
        [.truncated (min program.length m.memorySize) program.length]
      else []

/-- Copying reports the cells that are no words. -/
theorem wrapEvents_eq (start : Nat) (program : List Int) :
    wrapEvents start program =
      (program.zipIdx start).filterMap fun (value, cell) =>
        if Word.Fits value then none else some (.wrapped cell value (Word.wrap value)) := by
  induction program generalizing start with
  | nil => rfl
  | cons value rest ih =>
    rw [wrapEvents, List.zipIdx_cons, List.filterMap_cons, ← ih]
    by_cases fits : Word.Fits value
    · rw [if_pos (Word.wrap_eq_self_iff.2 fits)]
      simp only [fits, if_true]
    · rw [if_neg (fits ∘ Word.wrap_eq_self_iff.1)]
      simp only [fits, if_false]

theorem loadEvents_eq (m : Machine) (program : List Int) :
    m.loadEvents program =
      m.loadWarnings program ++ [.loaded (min program.length m.memorySize)] := by
  have cut : min program.length m.memorySize < program.length ↔
      m.memorySize < program.length := by omega
  simp only [loadEvents, loadWarnings, wrapEvents_eq, cut]

theorem mem_loadWarnings {m : Machine} {program : List Int} {e : Event}
    (listed : e ∈ m.loadWarnings program) :
    (∃ value ∈ program, ∃ cell word, e = .wrapped cell value word) ∨
      ∃ fitting total, e = .truncated fitting total := by
  rcases List.mem_append.1 listed with wrapped | cut
  · left
    obtain ⟨⟨value, cell⟩, copied, report⟩ := List.mem_filterMap.1 wrapped
    have present : value ∈ program :=
      List.mem_of_mem_take (List.mem_of_getElem? (List.mem_zipIdx_iff_getElem?.1 copied))
    dsimp only at report
    split_ifs at report
    exact ⟨value, present, cell, _, (Option.some.inj report).symm⟩
  · right
    split_ifs at cut
    · exact ⟨_, _, List.mem_singleton.1 cut⟩
    · cases cut

/-- The warnings are all that is reported as a warning. -/
theorem filter_loadEvents (m : Machine) (program : List Int) :
    (m.loadEvents program).filter (·.level = .warning) = m.loadWarnings program := by
  have warnings : ∀ e ∈ m.loadWarnings program, decide (e.level = .warning) = true := by
    intro e listed
    obtain ⟨value, -, cell, word, rfl⟩ | ⟨fitting, total, rfl⟩ := mem_loadWarnings listed
    · rfl
    · rfl
  rw [loadEvents_eq, List.filter_append, List.filter_eq_self.2 warnings]
  exact List.append_nil _

/-- Every warning has its line, unless it is about a number that is too long to be written. -/
theorem exists_lines_loadWarnings (m : Machine) {program : List Int}
    (short : ∀ value ∈ program, Numeral.writeDecimal value = .ok (toString value)) :
    ∃ lines, Event.lines (m.loadWarnings program) = .ok lines := by
  have each : ∀ e ∈ m.loadWarnings program, ∃ line, e.line = .ok line := by
    intro e listed
    obtain ⟨value, present, cell, word, rfl⟩ | ⟨fitting, total, rfl⟩ := mem_loadWarnings listed
    · simp only [Event.line, Event.message, Value.decimal, short value present]
      exact ⟨_, rfl⟩
    · exact ⟨_, rfl⟩
  generalize m.loadWarnings program = events at each ⊢
  induction events with
  | nil => exact ⟨[], rfl⟩
  | cons e rest ih =>
    obtain ⟨here, later⟩ := List.forall_mem_cons.1 each
    obtain ⟨line, written⟩ := here
    obtain ⟨lines, others⟩ := ih later
    exact ⟨line :: lines, by rw [Event.lines, written, others]; rfl⟩

/-- **A load is all or nothing.** It is refused if and only if one of the cells offered is no
integer, wherever that cell is; truth values are none. The error names the first such cell with
its kind, and the machine stays as it was. Otherwise the machine is loaded. It warns of the
cells that are copied and no words, and then of the end of the program if that does not fit; a
number of cells is reported at last. The loaded machine does not depend on the past but through
the registers, the flags and the cells behind the program. -/
theorem loads_or_refuses (m : Machine) (items : List Value) :
    let load := Operation.load (.list items)
    (∀ failure, load.failure? m = some failure ↔
      ∃ cell kind, failure = .load (.notAnInteger cell kind) ∧ FirstMisfit items cell kind) ∧
    ((load.failure? m).isSome = true ↔ ∃ value ∈ items, value.kind ≠ .int) ∧
    ((load.failure? m).isSome = true → load.apply m = m) ∧
    ∀ program : List Int, items = program.map .int →
      load.failure? m = none ∧ m.Loads program (load.apply m) ∧
      m.loadEvents program =
        m.loadWarnings program ++ [.loaded (min program.length m.memorySize)] ∧
      (m.loadEvents program).filter (·.level = .warning) = m.loadWarnings program ∧
      ((∀ value ∈ program, Numeral.writeDecimal value = .ok (toString value)) →
        ∃ lines, Event.lines (m.loadWarnings program) = .ok lines) ∧
      ∀ other : Machine, m.memorySize = other.memorySize →
        (∀ cell, min program.length m.memorySize ≤ cell →
          m.state.memory.read (cell : Nat) = other.state.memory.read cell) →
        m.state.registers = other.state.registers → m.state.flags = other.state.flags →
        m.trace.limit = other.trace.limit → m.sink = other.sink →
        m.maxCycles = other.maxCycles → m.recording = other.recording →
        load.apply m = load.apply other := by
  intro load
  have fails := failure?_load_iff m items
  refine ⟨fails, ?misfits, ?unchanged, ?loaded⟩
  case misfits =>
    rw [← exists_firstMisfit_iff, Option.isSome_iff_exists]
    constructor
    · rintro ⟨failure, failed⟩
      obtain ⟨cell, kind, -, first⟩ := (fails failure).1 failed
      exact ⟨cell, kind, first⟩
    · rintro ⟨cell, kind, first⟩
      exact ⟨_, (fails _).2 ⟨cell, kind, rfl, first⟩⟩
  case unchanged =>
    intro failed
    obtain ⟨failure, failed⟩ := Option.isSome_iff_exists.1 failed
    obtain ⟨cell, kind, -, first⟩ := (fails failure).1 failed
    exact (load_of_misfit m first).2
  case loaded =>
    rintro program rfl
    obtain ⟨succeeds, applied⟩ := load_of_integers m program
    have otherwise := fun other => (load_of_integers other program).2
    rw [applied]
    refine ⟨succeeds, m.loads_load program, m.loadEvents_eq program, m.filter_loadEvents program,
      m.exists_lines_loadWarnings, ?_⟩
    intro other size behind registers flags limit sink maxCycles recording
    rw [otherwise]
    exact load_congr program size behind registers flags limit sink maxCycles recording

/-- A truth value behind the end of the memory refuses a program that would have been wrapped
and cut off. -/
theorem loads_or_refuses_of_cut_program :
    let m := ((powerOn 2).load [3, 4]).steps 1
    let bad := Operation.load (.list [.int 4294967301, .int 3, .bool true, .text "AX"])
    let good := Operation.load (.list ([4294967301, 3, 7].map Value.int))
    FirstMisfit [.int 4294967301, .int 3, .bool true, .text "AX"] 2 .bool ∧
      bad.failure? m = some (.load (.notAnInteger 2 .bool)) ∧ bad.apply m = m ∧
      good.failure? m = none ∧ m.Loads [4294967301, 3, 7] (good.apply m) ∧
      (m.loadEvents [4294967301, 3, 7]).filter (·.level = .warning)
        = [.wrapped 0 4294967301 5, .truncated 2 3] := by
  intro m bad good
  have first : FirstMisfit [.int 4294967301, .int 3, .bool true, .text "AX"] 2 .bool :=
    ⟨rfl, by decide, by decide⟩
  obtain ⟨fails, -, unchanged, -⟩ :=
    m.loads_or_refuses [.int 4294967301, .int 3, .bool true, .text "AX"]
  have failed := (fails _).2 ⟨2, .bool, rfl, first⟩
  obtain ⟨succeeds, loads, -, warnings, -⟩ :=
    (m.loads_or_refuses ([4294967301, 3, 7].map Value.int)).2.2.2 [4294967301, 3, 7] rfl
  refine ⟨first, failed, unchanged (Option.isSome_iff_exists.2 ⟨_, failed⟩), succeeds, loads, ?_⟩
  exact warnings.trans rfl

end Machine

end RegisterMachine
