import RegisterMachine.Proofs.Bounds
import RegisterMachine.Proofs.Course

/-!
# What is printed

What the step of a state prints can be read off its cells (`State.printed?`). A step
appends it to the output and hands it to the sink, also where the sink then fails
(`printed_stepped`), and so does a whole walk (`Walk.printed`).

Loads divide a history. The output is what was printed by the steps since the last of
them (`Machine.sinceLoad`), and a load sweeps it away. The sink is never emptied: it has
received all the outputs of the history one after the other (`Machine.outputs`), which is
what all its steps printed. `printing_after` puts this together for every machine that
can be built.

The sink may fail at any of its calls. A failure ends the run that it occurs in, and the
course of the run ends with the step that failed. Where that is beyond the horizon, a run
without a limit ends like a run to any limit that is great enough, and such runs are part
of histories too.
-/

set_option autoImplicit false

namespace RegisterMachine

/-- The sink after it has been handed values one after the other. -/
def Sink.receiveAll (s : Sink) (es : List Emission) : Sink :=
  { s with received := s.received ++ es.toArray }

namespace Sink

theorem map_receiveAll_nil (sink : Option Sink) : sink.map (·.receiveAll []) = sink := by
  cases sink <;> simp [receiveAll]

theorem map_receiveAll_append (sink : Option Sink) (first second : List Emission) :
    sink.map (·.receiveAll (first ++ second))
      = (sink.map (·.receiveAll first)).map (·.receiveAll second) := by
  cases sink <;> simp [receiveAll]

end Sink

/-- What the step of a state prints: the register that is named behind a print opcode,
with its content. -/
def State.printed? (s : State) : Option Emission :=
  if s.running = true ∧ s.memory.InRange s.pc ∧ s.memory.read s.pc = 11 then
    let src := Register.ofCode (s.memory.read (s.pc + 1))
    some { register := src.name, value := s.registers.get src }
  else none

namespace State

variable {s : State}

theorem printed?_of_instruction {i : Instruction} (found : s.fetch = .instruction i) :
    s.printed? = i.emission? s.registers := by
  obtain ⟨runs, inside, decoded⟩ := fetch_eq_iff.1 found
  obtain ⟨op, known, rfl⟩ := Option.map_eq_some_iff.1 decoded
  cases op with
  | print => exact if_pos ⟨runs, inside, Opcode.ofCode?_eq_some_iff.1 known⟩
  | _ =>
    refine if_neg ?_
    rintro ⟨-, -, code⟩
    rw [code] at known
    cases known

/-- Where no instruction is found, nothing is printed. -/
theorem printed?_eq_none (nothing : ∀ i, s.fetch ≠ .instruction i) : s.printed? = none := by
  rw [printed?, if_neg]
  rintro ⟨runs, inside, opcode⟩
  have known : s.instruction?.isSome := by rw [instruction?, opcode]; rfl
  obtain ⟨i, found⟩ := Option.isSome_iff_exists.1 known
  exact nothing i (fetch_eq_iff.2 ⟨runs, inside, found⟩)

end State

namespace Machine

/-! ## Steps and walks -/

/-- What the steps from machines print, in order. -/
def prints (path : List Machine) : List Emission := path.filterMap (·.state.printed?)

theorem prints_append (first second : List Machine) :
    prints (first ++ second) = prints first ++ prints second := List.filterMap_append

/-- Between two machines those values were printed: the output has grown by them, and the
sink has been handed them. -/
structure Printed (m : Machine) (es : List Emission) (last : Machine) : Prop where
  output : last.output.toList = m.output.toList ++ es
  sink : last.sink = m.sink.map (·.receiveAll es)

namespace Printed

variable {m middle last : Machine} {first second : List Emission}

theorem of_same (output : last.output = m.output) (sink : last.sink = m.sink) :
    Printed m [] last where
  output := by rw [output, List.append_nil]
  sink := by rw [sink, Sink.map_receiveAll_nil]

theorem trans (before : Printed m first middle) (after : Printed middle second last) :
    Printed m (first ++ second) last where
  output := by rw [after.output, before.output, List.append_assoc]
  sink := by rw [after.sink, before.sink, Sink.map_receiveAll_append]

end Printed

theorem printed_executed (m : Machine) (i : Instruction) :
    Printed m (i.emission? m.state.registers).toList (m.executed i) := by
  unfold executed
  cases i.emission? m.state.registers with
  | none => exact .of_same rfl rfl
  | some e =>
    constructor
    · simp [emit]
    · simp [emit, Sink.receive, Sink.receiveAll]

/-- **A step prints what is read off the state**, whatever the sink does with it. -/
theorem printed_stepped (m : Machine) : Printed m m.state.printed?.toList m.stepped := by
  have proceeds : Printed m m.state.printed?.toList m.proceed := by
    unfold proceed
    cases found : m.state.fetch with
    | instruction i =>
      rw [State.printed?_of_instruction found]
      exact m.printed_executed i
    | _ =>
      rw [State.printed?_eq_none (by simp [found])]
      exact .of_same rfl rfl
  obtain ⟨_, same⟩ := m.stepped_eq
  rw [same]
  exact ⟨proceeds.output, proceeds.sink⟩

/-- **Along a walk each step prints once**, in order. -/
theorem Walk.printed {m last : Machine} {path : List Machine} (walk : Walk m path last) :
    Printed m (prints path) last := by
  induction walk with
  | nil m => exact .of_same rfl rfl
  | @cons m last path runs rest ih =>
    have split : prints (m :: path) = m.state.printed?.toList ++ prints path := by
      rw [prints, List.filterMap_cons]
      cases m.state.printed? <;> rfl
    rw [split]
    exact m.printed_stepped.trans ih

/-! ## Histories -/

/-- The machines from which steps were taken since the last load of a history, in order.
As long as nothing is loaded, those from earlier on belong to them. -/
def sinceLoad (m : Machine) (earlier : List Machine) : List Operation → List Machine
  | [] => earlier
  | op :: rest =>
    (op.apply m).sinceLoad (if op.loads then [] else earlier ++ op.course m) rest

/-- The outputs of a history, load after load: each one that a load swept away, and at last
the present one. -/
def outputs (m : Machine) : List Operation → List (List Emission)
  | [] => [m.output.toList]
  | op :: rest =>
    if op.loads then m.output.toList :: (op.apply m).outputs rest else (op.apply m).outputs rest

/-- An operation that does not load prints what its steps print. -/
theorem printed_apply (m : Machine) {op : Operation} (keeps : op.loads = false) :
    Printed m (prints (op.course m)) (op.apply m) := by
  cases op with
  | load cells =>
    cases read : programOf cells with
    | ok program =>
      rw [Operation.loads, read] at keeps
      cases keeps
    | error cause =>
      simp only [Operation.apply, read]
      exact .of_same rfl rfl
  | step => exact (m.walk_operation .step).printed
  | run limit => exact (m.walk_operation (.run limit)).printed
  | record on => exact .of_same rfl rfl

theorem output_of_loads (m : Machine) {op : Operation} (loads : op.loads = true) :
    (op.apply m).output = #[] := by
  obtain ⟨program, loaded⟩ := Operation.exists_load loads
  rw [(loaded m).1]
  rfl

/-- Every operation hands the sink what its steps print, and a load leaves the sink. -/
theorem sink_apply (m : Machine) (op : Operation) :
    (op.apply m).sink = m.sink.map (·.receiveAll (prints (op.course m))) := by
  cases loads : op.loads with
  | true =>
    obtain ⟨program, loaded⟩ := Operation.exists_load loads
    rw [(loaded m).1, (loaded m).2]
    exact (Sink.map_receiveAll_nil m.sink).symm
  | false => exact (m.printed_apply loads).sink

/-- The output is what was printed since the last load. -/
theorem output_after {m : Machine} {earlier : List Machine}
    (start : m.output.toList = prints earlier) (history : List Operation) :
    (m.after history).output.toList = prints (m.sinceLoad earlier history) := by
  induction history generalizing m earlier with
  | nil => exact start
  | cons op rest ih =>
    rw [after_cons, sinceLoad]
    apply ih
    -- A load empties the output together with the list of steps; else both are appended to.
    cases loads : op.loads with
    | true =>
      rw [m.output_of_loads loads]
      rfl
    | false =>
      rw [(m.printed_apply loads).output, start, if_neg Bool.false_ne_true, prints_append]

/-- The sink has been handed all that was printed. -/
theorem sink_after (m : Machine) (history : List Operation) :
    (m.after history).sink = m.sink.map (·.receiveAll (prints (m.courseOf history))) := by
  induction history generalizing m with
  | nil => exact (Sink.map_receiveAll_nil m.sink).symm
  | cons op rest ih =>
    rw [after_cons, courseOf, ih, m.sink_apply, prints_append, Sink.map_receiveAll_append]

/-- Load after load, the outputs are all that was printed. -/
theorem flatten_outputs (m : Machine) (history : List Operation) :
    (m.outputs history).flatten = m.output.toList ++ prints (m.courseOf history) := by
  induction history generalizing m with
  | nil => rfl
  | cons op rest ih =>
    rw [outputs, courseOf, prints_append]
    cases loads : op.loads with
    | true =>
      obtain ⟨program, loaded⟩ := Operation.exists_load loads
      rw [if_pos rfl, List.flatten_cons, ih, m.output_of_loads loads, (loaded m).2]
      rfl
    | false =>
      rw [if_neg Bool.false_ne_true, ih, (m.printed_apply loads).output, List.append_assoc]

/-- **Nothing printed is lost, doubled or moved**, in any history of a machine that was
built, whatever its sink does. The output is what the steps since the last load printed,
and the sink has received the outputs load after load, which is what all the steps
printed. -/
theorem printing_after {size limit : Int} {maxCycles : Option Int} {sink : Option Sink}
    {recording : Bool} {m : Machine}
    (built : create size maxCycles sink recording limit = .ok m) (history : List Operation) :
    (m.after history).output.toList = prints (m.sinceLoad [] history) ∧
    (m.after history).sink = sink.map (·.receiveAll (m.outputs history).flatten) ∧
    (m.outputs history).flatten = prints (m.courseOf history) := by
  obtain ⟨cells, entries, -, -, -, -, rfl⟩ := exists_powerOn_of_create built
  have all := flatten_outputs (powerOn cells maxCycles sink recording entries) history
  refine ⟨output_after rfl history, ?_, all⟩
  rw [all]
  exact sink_after _ history

/-- Two programs with a sink that fails on the second of three values. -/
theorem printing_after_failing_sink :
    let m := powerOn 5 none (some (.failingAt 2))
    let history := [Operation.load (.list [.int 11, .int 4, .int 11, .int 0, .int 12]), .step, .step,
      .load (.list [.int 11, .int 4, .int 12]), .step]
    create 5 none (some (.failingAt 2)) = .ok m ∧
      Operation.step.failure? (m.after (history.take 2))
        = some (.fault (.sink { register := "AX", value := 0 })) ∧
      m.outputs history = [[],
        [{ register := "SP", value := 4 }, { register := "AX", value := 0 }],
        [{ register := "SP", value := 4 }]] ∧
      (m.after history).output.toList = prints (m.sinceLoad [] history) ∧
      (m.after history).sink
        = (some (Sink.failingAt 2)).map (·.receiveAll (m.outputs history).flatten) ∧
      (m.outputs history).flatten = prints (m.courseOf history) := by
  intro m history
  have built : create 5 none (some (.failingAt 2)) = .ok m := rfl
  exact ⟨built, by decide, by decide, printing_after built history⟩

end Machine

end RegisterMachine
