import RegisterMachine.Loose.Agreement

/-!
# Executing in place

A primitive answers with an effect, and the effect is applied when nothing can fail any more. Here
the twelve primitives are put down once more, as what they do to a state in place: parameters are
looked up, registers read, cells and registers written and flags set, each where its turn comes. A
failure then leaves the state as it is at that moment (`Loose.Doing`).

Doing so comes to the same as planning the effect first (`InPlace.handler_eq`), because in every
primitive whatever can fail comes before the first change. So executing a record in place leaves the
state and the result of `State.execute` (`InPlace.execute_eq`).

What is left that could fail after a change is moving the counter. From an integer it always moves
(`InPlace.onward_of_integers`), and then executing is all or nothing
(`State.execute_all_or_nothing`).
-/

set_option autoImplicit false

namespace RegisterMachine

namespace Value

/-- A value is looked up as it is. -/
theorem eq_of_key {value looked : Value} (allowed : value.key = .ok looked) : value = looked := by
  cases value <;> cases allowed <;> rfl

/-- An integer moves on to an integer. -/
theorem advance_of_integer {position : Value} {n : Int} (integer : position.integer? = some n)
    (cells : Nat) : position.advance cells = .ok (.int (n + cells)) := by
  cases position <;> cases integer <;> rfl

/-- Placing an integer fails only where picking the cell does. -/
theorem placement?_int (address : Value) (value : Int) (size : Nat) :
    address.placement? (.int value) size
      = (address.cell? size).map fun cell => cell.map fun cell => (cell, Word.wrap value) := by
  unfold placement?
  cases within : address.isWithin size with
  | error cause => simp [cell?, within, bind, Except.bind, Except.map]
  | ok inside =>
    by_cases inside : inside = true
    · simp only [inside]
      cases address.cell? size <;> rfl
    · simp [cell?, within, inside, bind, Except.bind, Except.map, pure, Except.pure]

end Value

namespace Loose

/-- Something that is done to a state in place. A failure leaves the state as it has come to be,
with all that was changed before. -/
abbrev Doing (α : Type) : Type := EStateM Error State α

namespace InPlace

/-! ## Steps -/

/-- Looks something up and changes nothing. -/
def look {α : Type} (found : State → Except Error α) : Doing α := fun s =>
  match found s with
  | .ok value => .ok value s
  | .error cause => .error cause s

/-- The parameter of a record. -/
def parameter (r : Record) (name : String) : Doing Value :=
  look fun _ => (r.parameter name).mapError .execution

/-- Reads the register that an operand names. -/
def content (operand : Value) : Doing Int :=
  look fun s => (s.register operand).mapError fun cause => .execution (.misuse cause)

/-- Writes the word of a value to the register that an operand names. -/
def assign (operand value : Value) : Doing Unit := fun s =>
  match s.setRegister operand value with
  | .ok after => .ok () after
  | .error cause => .error (.execution cause) s

/-- Does something that may fail on the way. -/
def change {α : Type} (operation : State → State × Except Misuse α) : Doing α := fun s =>
  match operation s with
  | (after, .ok value) => .ok value after
  | (after, .error cause) => .error (.execution (.misuse cause)) after

/-- Sets the flags from a result. -/
def setFlags (result : Int) : Doing Unit := change fun s => s.withResult (.int result)

/-- Stops the machine. -/
def stop : Doing Unit := modify fun s => { s with running := .bool false }

/-- Reports an event. If events are heard, it has to be written. -/
def report (heard : Bool) (e : Event) : Doing Unit :=
  look fun _ => if heard then (e.line.map fun _ => ()).mapError .write else .ok ()

/-! ## The twelve primitives -/

section Primitives

variable (r : Record)

def load : Doing Value := do
  let dest ← parameter r "dest"
  let value ← parameter r "value"
  assign dest value
  return .nothing

def store (heard : Bool) : Doing Value := do
  let src ← parameter r "src"
  let value ← content src
  let address ← parameter r "addr"
  let inside ← change fun s => s.write address (.int value)
  if inside then return .nothing
  report heard (.storeSkipped address)
  return .nothing

def arithmetic (combine : Int → Int → Int) : Doing Value := do
  let dest ← parameter r "dest"
  let left ← content dest
  let src ← parameter r "src"
  let right ← content src
  let result := Word.wrap (combine left right)
  assign dest (.int result)
  setFlags result
  return .nothing

def divide : Doing Value := do
  let dest ← parameter r "dest"
  let src ← parameter r "src"
  let divisor ← content src
  if divisor = 0 then
    stop
    return .nothing
  let dividend ← content dest
  let result := Word.wrap (dividend.tdiv divisor)
  assign dest (.int result)
  setFlags result
  return .nothing

def compare : Doing Value := do
  let first ← parameter r "src1"
  let left ← content first
  let second ← parameter r "src2"
  let right ← content second
  setFlags (Word.wrap (left - right))
  return .nothing

def jump : Doing Value := parameter r "addr"

def branch (taken : Int → Int → Bool) : Doing Value := do
  let first ← parameter r "src1"
  let left ← content first
  let second ← parameter r "src2"
  let right ← content second
  if taken left right then parameter r "addr" else return .nothing

def halt : Doing Value := do
  stop
  return .nothing

/-- What the primitive of an instruction does, and the target that it returns. -/
def handler (heard : Bool) : Opcode → Doing Value
  | .load => load r
  | .store => store r heard
  | .add => arithmetic r (· + ·)
  | .sub => arithmetic r (· - ·)
  | .mul => arithmetic r (· * ·)
  | .div => divide r
  | .jmp => jump r
  | .jeq => branch r fun left right => left = right
  | .jne => branch r fun left right => left ≠ right
  | .cmp => compare r
  | .print => return .nothing
  | .halt => halt

end Primitives

/-- The instruction of a key. -/
def instructionOf? : Value → Option Opcode
  | .text name => RegisterMachine.Registry.standardOrder.find? fun op => name == op.key
  | _ => none

/-- Moves the program counter on by a number of cells. -/
def advance (cells : Nat) : Doing Unit := do
  let pc ← look fun s => (s.pc.advance cells).mapError .misuse
  modify fun s => { s with pc }

/-- Moves the program counter to a target, or else past the record if its instruction advances. -/
def moveOn (r : Record) : Value → Doing Unit
  | .nothing => do
    match ← look fun _ => r.stride?.mapError .misuse with
    | some cells => advance cells
    | none => return
  | target => modify fun s => { s with pc := target }

/-- Lets the primitive of an instruction do its work, moves the program counter and counts the
cycle. -/
def perform (heard : Bool) (r : Record) (op : Opcode) : Doing Unit := do
  let target ← handler r heard op
  moveOn r target
  modify fun s => { s with cycles := s.cycles + 1 }

/-- Executes a record in place, with the registry that every machine uses. -/
def execute (heard : Bool) (r : Record) : Doing Unit := do
  let key ← look fun _ => r.key.key.mapError .misuse
  match instructionOf? key with
  | none => look fun _ => do throw (.execution (.unknownKey (← written key)))
  | some op => perform heard r op

/-! ## Plans carried out

The steps of a primitive in place are matched with the steps of its plan one by one: each lemma says
that a step followed by what carries out the rest of the plan carries out the plan with the step. -/

/-- An effect, if a skipped store that is heard of can be written. -/
def audible (heard : Bool) (e : Effect) : Except Error Effect := do
  if heard then
    let _ ← (Event.lines (e.skipped.map Event.storeSkipped).toList).mapError .write
  return e

/-- What comes of a plan when it is carried out. -/
def carryOut (heard : Bool) (s : State) (plan : Except ExecutionError Effect) :
    EStateM.Result Error State Value :=
  match plan.mapError .execution >>= audible heard with
  | .ok e => .ok (e.target.getD .nothing) (s.apply e)
  | .error cause => .error cause s

variable {heard : Bool} {s : State} {r : Record}

/-- Without a skipped store there is nothing to be heard of. -/
theorem carried {e : Effect} {outcome : EStateM.Result Error State Value}
    (silent : e.skipped = none) (done : outcome = .ok (e.target.getD .nothing) (s.apply e)) :
    outcome = carryOut heard s (.ok e) := by
  have allowed : audible heard e = .ok e := by
    unfold audible
    rw [silent]
    cases heard <;> rfl
  have planned : (Except.ok e : Except ExecutionError Effect).mapError Error.execution
      >>= audible heard = audible heard e := rfl
  rw [done, carryOut, planned, allowed]

/-- One thing is done after the other, on the state that the first has left. -/
theorem bind_apply {α β : Type} (first : Doing α) (next : α → Doing β) (s : State) :
    (first >>= next) s = match first s with
      | .ok value after => next value after
      | .error cause left => .error cause left := by
  cases done : first s <;> simp [bind, EStateM.bind, done]

/-- Looking something up belongs to the plan. -/
theorem look_bind {α : Type} {found : State → Except Error α} {next : α → Doing Value}
    {sought : Except ExecutionError α} {plan : α → Except ExecutionError Effect}
    (same : found s = sought.mapError .execution)
    (later : ∀ value, next value s = carryOut heard s (plan value)) :
    (look found >>= next) s = carryOut heard s (sought >>= plan) := by
  rw [bind_apply, look, same]
  cases sought with
  | ok value => exact later value
  | error cause => rfl

theorem parameter_bind {name : String} {next : Value → Doing Value}
    {plan : Value → Except ExecutionError Effect}
    (later : ∀ value, next value s = carryOut heard s (plan value)) :
    (parameter r name >>= next) s = carryOut heard s ((s.view r).parameter name >>= plan) :=
  look_bind rfl later

theorem content_bind {operand : Value} {next : Int → Doing Value}
    {plan : Int → Except ExecutionError Effect}
    (later : ∀ value, next value s = carryOut heard s (plan value)) :
    (content operand >>= next) s = carryOut heard s ((s.view r).content operand >>= plan) :=
  look_bind (by cases operand <;> rfl) later

/-- A register is written, and what is done behind that cannot fail. -/
theorem assign_bind {operand value : Value} {next : Unit → Doing Value}
    {effect : Register × Int → Effect}
    (later : ∀ assigned, next () { s with registers := s.registers.set assigned.1 assigned.2 }
      = carryOut heard s (.ok (effect assigned))) :
    (assign operand value >>= next) s = carryOut heard s
      (Primitive.assignment operand value >>= fun assigned => pure (effect assigned)) := by
  rw [bind_apply, assign, State.setRegister]
  cases Primitive.assignment operand value with
  | ok assigned => exact later assigned
  | error cause => rfl

/-- Setting the flags from an integer cannot fail. -/
theorem setFlags_apply (result : Int) (s : State) :
    setFlags result s = .ok () { s with flags := .ofResult result } := by
  have zero : (Value.int result).isZero = decide (result = 0) := by
    rw [Bool.eq_iff_iff]
    simp [Value.isZero, Value.compareInt]
  have greater : (Value.int result).isGreater Flags.carryGreatest
      = .ok (decide (Flags.carryGreatest < result)) := by
    refine congrArg Except.ok ?_
    rw [Bool.eq_iff_iff]
    simp [Int.compare_eq_gt]
  have less : (Value.int result).isLess Flags.carryLeast
      = .ok (decide (result < Flags.carryLeast)) := by
    refine congrArg Except.ok ?_
    rw [Bool.eq_iff_iff]
    simp [Int.compare_eq_lt]
  unfold setFlags change State.withResult
  rw [zero, greater, less]
  by_cases above : Flags.carryGreatest < result <;>
    simp [above, Flags.ofResult, bind, Except.bind, pure, Except.pure]

/-! ## The primitives carry out their plans -/

theorem load_eq : load r s = carryOut heard s (Primitive.load (s.view r)) :=
  parameter_bind fun _ => parameter_bind fun _ => assign_bind fun _ => carried rfl rfl

/-- A skipped store is reported when nothing is left to be done. -/
theorem report_bind (address : Value) :
    (report heard (.storeSkipped address) >>= fun _ => pure .nothing) s
      = carryOut heard s (.ok { skipped := some address }) := by
  have lines : Event.lines [.storeSkipped address]
      = (Event.storeSkipped address).line.map fun line => [line] := by
    unfold Event.lines
    cases (Event.storeSkipped address).line <;> rfl
  have planned : carryOut heard s (.ok { skipped := some address })
      = match audible heard { skipped := some address } with
        | .ok e => .ok (e.target.getD .nothing) (s.apply e)
        | .error cause => .error cause s := rfl
  rw [planned, bind_apply, report, look, audible, Option.map_some, Option.toList_some, lines]
  cases heard with
  | false => rfl
  | true => cases (Event.storeSkipped address).line <;> rfl

theorem store_eq : store r heard s = carryOut heard s (Primitive.store (s.view r)) := by
  refine parameter_bind fun src => content_bind fun value => parameter_bind fun address => ?_
  rw [bind_apply, change, State.write, Value.placement?_int]
  have size : (s.view r).memorySize = s.cells.size := rfl
  rw [size]
  cases address.cell? s.cells.size with
  | error cause => rfl
  | ok cell =>
    cases cell with
    | some cell => exact carried rfl rfl
    | none => exact report_bind address

theorem arithmetic_eq (combine : Int → Int → Int) :
    arithmetic r combine s = carryOut heard s (Primitive.arithmetic combine (s.view r)) :=
  parameter_bind fun _ => content_bind fun _ => parameter_bind fun _ => content_bind fun _ =>
    assign_bind fun _ => by
      rw [bind_apply, setFlags_apply]
      exact carried rfl rfl

theorem divide_eq : divide r s = carryOut heard s (Primitive.divide (s.view r)) := by
  refine parameter_bind fun dest => parameter_bind fun src => content_bind fun divisor => ?_
  by_cases zero : divisor = 0
  -- The machine is stopped, and nothing behind that can fail: the dividend is not even read.
  · rw [if_pos zero, if_pos zero]
    exact carried rfl rfl
  · rw [if_neg zero, if_neg zero]
    refine content_bind fun dividend => assign_bind fun _ => ?_
    rw [bind_apply, setFlags_apply]
    exact carried rfl rfl

theorem compare_eq : compare r s = carryOut heard s (Primitive.compare (s.view r)) :=
  parameter_bind fun _ => content_bind fun _ => parameter_bind fun _ => content_bind fun _ => by
    rw [bind_apply, setFlags_apply]
    exact carried rfl rfl

/-- The target of a jump is a parameter. Nothing is no target. -/
theorem parameter_eq (name : String) : parameter r name s = carryOut heard s
    ((s.view r).parameter name >>= fun target => pure { target := some target }) := by
  have returned : parameter r name = parameter r name >>= pure := (bind_pure _).symm
  rw [returned]
  exact parameter_bind fun _ => carried rfl rfl

theorem branch_eq (taken : Int → Int → Bool) :
    branch r taken s = carryOut heard s (Primitive.branch taken (s.view r)) := by
  refine parameter_bind fun first => content_bind fun left => parameter_bind fun second =>
    content_bind fun right => ?_
  by_cases jumps : taken left right = true
  -- Only a jump that is taken looks its target up.
  · rw [if_pos jumps, if_pos jumps]
    exact parameter_eq "addr"
  · rw [if_neg jumps, if_neg jumps]
    exact carried rfl rfl

/-- What a primitive does in place is its plan, carried out. -/
theorem handler_eq (op : Opcode) :
    handler r heard op s = carryOut heard s (Primitive.ofOpcode op (s.view r)) := by
  cases op with
  | load => exact load_eq
  | store => exact store_eq
  | add => exact arithmetic_eq _
  | sub => exact arithmetic_eq _
  | mul => exact arithmetic_eq _
  | div => exact divide_eq
  | jmp => exact parameter_eq _
  | jeq => exact branch_eq _
  | jne => exact branch_eq _
  | cmp => exact compare_eq
  | print => exact carried rfl rfl
  | halt => exact carried rfl rfl

/-! ## Executing -/

/-- The registry that every machine uses holds the twelve instructions. -/
theorem find?_eq (key : Value) :
    Registry.find? {} key = (instructionOf? key).map Primitive.ofOpcode := by
  have lookup (name : String) (ops : List Opcode) :
      (ops.map fun op => (op.key, Primitive.ofOpcode op)).lookup name
        = (ops.find? fun op => name == op.key).map Primitive.ofOpcode := by
    induction ops with
    | nil => rfl
    | cons op rest ih =>
      rw [List.map_cons, List.lookup_cons, List.find?_cons, ih]
      cases name == op.key <;> rfl
  cases key with
  | text name => exact lookup name RegisterMachine.Registry.standardOrder
  | _ => rfl

/-- The plan of executing a record: the effect of its primitive. -/
def plan (heard : Bool) (s : State) (r : Record) : Except Error Effect := do
  let primitive ← State.primitive {} r
  let e ← (primitive (s.view r)).mapError .execution
  audible heard e

/-- How executing a record ended, and in which state. -/
def outcome (x : State.Executed) : EStateM.Result Error State Unit :=
  match x.result with
  | .ok () => .ok () x.state
  | .error cause => .error cause x.state

theorem of_outcome_error {x : State.Executed} {cause : Error} {left : State}
    (ended : outcome x = .error cause left) : x.result = .error cause ∧ x.state = left := by
  obtain ⟨state, result, events⟩ := x
  cases result with
  | ok => cases ended
  | error cause =>
    cases ended
    exact ⟨rfl, rfl⟩

theorem of_outcome_ok {x : State.Executed} {after : State} (ended : outcome x = .ok () after) :
    x.result = .ok () ∧ x.state = after := by
  obtain ⟨state, result, events⟩ := x
  cases result with
  | ok =>
    cases ended
    exact ⟨rfl, rfl⟩
  | error cause => cases ended

/-- Executing a record carries out its plan and moves the counter. -/
theorem execute_eq_plan (heard : Bool) (s : State) (r : Record) :
    s.execute {} heard r = match plan heard s r with
      | .error cause => { state := s, result := .error cause }
      | .ok e =>
        let events := (e.skipped.map Event.storeSkipped).toList
        match s.onward r e with
        | .error cause => { state := s.apply e, result := .error (.misuse cause), events }
        | .ok pc => { state := { s.apply e with pc, cycles := s.cycles + 1 }, events } := by
  unfold State.execute plan
  cases State.primitive {} r with
  | error cause => rfl
  | ok primitive =>
    dsimp only [bind, Except.bind]
    cases primitive (s.view r) with
    | error cause => rfl
    | ok e =>
      dsimp only [Except.mapError, audible, bind, Except.bind]
      cases heard with
      | false => rfl
      | true => cases Event.lines (e.skipped.map Event.storeSkipped).toList <;> rfl

theorem outcome_execute : outcome (s.execute {} heard r) = match plan heard s r with
    | .error cause => .error cause s
    | .ok e => match s.onward r e with
      | .error cause => .error (.misuse cause) (s.apply e)
      | .ok pc => .ok () { s.apply e with pc, cycles := s.cycles + 1 } := by
  rw [execute_eq_plan]
  cases plan heard s r with
  | error cause => rfl
  | ok e =>
    dsimp only
    cases s.onward r e <;> rfl

theorem advance_apply (cells : Nat) (s : State) : advance cells s = match s.pc.advance cells with
    | .ok pc => .ok () { s with pc }
    | .error cause => .error (.misuse cause) s := by
  rw [advance, bind_apply, look]
  cases s.pc.advance cells <;> rfl

/-- Nothing is no target, and the counter moves on. -/
theorem onward_eq (s : State) (r : Record) (e : Effect) :
    s.onward r e = match e.target.getD .nothing with
      | .nothing => s.onward r {}
      | target => .ok target := by
  obtain ⟨assigned, result, stored, halts, target, skipped⟩ := e
  cases target with
  | none => rfl
  | some target => cases target <;> rfl

/-- Moving the counter in place takes it where it goes onward. -/
theorem moveOn_eq (e : Effect) (s : State) : moveOn r (e.target.getD .nothing) (s.apply e)
    = match s.onward r e with
      | .ok pc => .ok () { s.apply e with pc }
      | .error cause => .error (.misuse cause) (s.apply e) := by
  rw [onward_eq]
  cases e.target.getD .nothing with
  | nothing =>
    unfold State.onward
    rw [moveOn, bind_apply, look]
    cases r.stride? with
    | error cause => rfl
    | ok stride =>
      cases stride with
      | none => rfl
      | some cells => exact advance_apply cells (s.apply e)
  | _ => rfl

theorem perform_eq (op : Opcode) : perform heard r op s
    = match (Primitive.ofOpcode op (s.view r)).mapError .execution >>= audible heard with
      | .error cause => .error cause s
      | .ok e => match s.onward r e with
        | .error cause => .error (.misuse cause) (s.apply e)
        | .ok pc => .ok () { s.apply e with pc, cycles := s.cycles + 1 } := by
  rw [perform, bind_apply, handler_eq, carryOut]
  cases (Primitive.ofOpcode op (s.view r)).mapError .execution >>= audible heard with
  | error cause => rfl
  | ok e =>
    dsimp only
    rw [bind_apply, moveOn_eq]
    cases s.onward r e <;> rfl

/-- Executing a record in place leaves the state and the result of executing it. -/
theorem execute_eq : execute heard r s = outcome (s.execute {} heard r) := by
  rw [outcome_execute, execute, bind_apply, look]
  unfold plan State.primitive
  cases r.key.key with
  | error cause => rfl
  | ok key =>
    dsimp only [Except.mapError, bind, Except.bind]
    rw [find?_eq]
    cases instructionOf? key with
    | none => cases written key <;> rfl
    | some op => exact perform_eq op

/-- Only the keys of instructions have a primitive. -/
theorem exists_of_primitive {primitive : Primitive} (known : State.primitive {} r = .ok primitive) :
    ∃ op : Opcode, r.key = .text op.key ∧ primitive = Primitive.ofOpcode op := by
  unfold State.primitive at known
  cases key : r.key.key with
  | error cause =>
    rw [key] at known
    cases known
  | ok looked =>
    rw [Value.eq_of_key key]
    rw [key] at known
    dsimp only [Except.mapError, bind, Except.bind] at known
    cases found : Registry.find? {} looked with
    | none =>
      rw [found] at known
      cases text : written looked <;> rw [text] at known <;> cases known
    | some held =>
      rw [found] at known
      cases known
      cases looked with
      | text name =>
        obtain ⟨op, named, same⟩ := RegisterMachine.Registry.exists_ofOpcode found
        exact ⟨op, congrArg Value.text named.symm, same⟩
      | _ => cases found

/-- What is planned is done by the primitive of an instruction. -/
theorem exists_of_plan {e : Effect} (planned : plan heard s r = .ok e) : ∃ op : Opcode,
    r.key = .text op.key ∧ handler r heard op s = .ok (e.target.getD .nothing) (s.apply e) := by
  unfold plan at planned
  cases known : State.primitive {} r with
  | error cause =>
    rw [known] at planned
    cases planned
  | ok primitive =>
    obtain ⟨op, key, rfl⟩ := exists_of_primitive known
    refine ⟨op, key, ?_⟩
    rw [known] at planned
    have allowed : (Primitive.ofOpcode op (s.view r)).mapError .execution >>= audible heard
        = .ok e := planned
    rw [handler_eq, carryOut, allowed]

theorem opcode?_of_integer {cell : Value} {code : Int} (integer : cell.integer? = some code) :
    opcode? cell = .ok (Opcode.ofCode? code) := by
  cases cell <;> cases integer <;> rfl

/-- With integers for the counter and the opcode, the counter can always be moved: to the target, or
else past the record if its instruction is known and advances. -/
theorem onward_of_integers {pc opcode : Int} (counter : s.pc.integer? = some pc)
    (cell : r.opcode.integer? = some opcode) (e : Effect) :
    s.onward r e = .ok (match e.target.getD .nothing with
      | .nothing => match (if r.valid.truth then Opcode.ofCode? opcode else none) with
        | some op => if op.advances then .int (pc + op.width) else s.pc
        | none => s.pc
      | target => target) := by
  have known : r.instruction? = .ok (if r.valid.truth then Opcode.ofCode? opcode else none) := by
    unfold Record.instruction?
    rw [opcode?_of_integer cell]
    split <;> rfl
  rw [onward_eq]
  cases e.target.getD .nothing with
  | nothing =>
    unfold State.onward Record.stride?
    rw [known]
    cases (if r.valid.truth then Opcode.ofCode? opcode else none) with
    | none => rfl
    | some op =>
      cases advances : op.advances with
      | true =>
        simp [Effect.destination, Option.filter, advances, Value.advance_of_integer counter, Except.map,
          bind, Except.bind]
      | false =>
        simp [Effect.destination, Option.filter, advances, Except.map, bind, Except.bind, pure,
          Except.pure]
  | _ => rfl

end InPlace

namespace State

/-- Executing a record is all or nothing if the opcode and the counter are integers, whatever the
key, the parameters and the cells are. A failure leaves the state as it was, also when everything is
done in place. Otherwise the state is the one that the primitive of an instruction has made of it in
place, but for one more cycle and the counter. The counter is at the target, or else past the record
if that is valid and its instruction is known and advances. -/
theorem execute_all_or_nothing (heard : Bool) (s : State) (r : Record) {pc opcode : Int}
    (counter : s.pc.integer? = some pc) (cell : r.opcode.integer? = some opcode) :
    let x := s.execute {} heard r
    InPlace.execute heard r s = InPlace.outcome x ∧
    (∀ cause, x.result = .error cause → x.state = s) ∧
    (x.result = .ok () → ∃ (op : Opcode) (target : Value) (between : State),
      r.key = .text op.key ∧ InPlace.handler r heard op s = .ok target between ∧
      x.state.cycles = s.cycles + 1 ∧
      x.state.pc = (match target with
        | .nothing => match (if r.valid.truth then Opcode.ofCode? opcode else none) with
          | some op => if op.advances then .int (pc + op.width) else s.pc
          | none => s.pc
        | target => target) ∧
      x.state = { between with pc := x.state.pc, cycles := x.state.cycles }) := by
  intro x
  refine ⟨InPlace.execute_eq, ?_⟩
  have ended : InPlace.outcome x = _ := InPlace.outcome_execute
  cases planned : InPlace.plan heard s r with
  | error cause =>
    rw [planned] at ended
    obtain ⟨refused, unchanged⟩ := InPlace.of_outcome_error ended
    refine ⟨fun _ _ => unchanged, fun returned => ?_⟩
    rw [refused] at returned
    cases returned
  | ok e =>
    obtain ⟨op, key, done⟩ := InPlace.exists_of_plan planned
    rw [planned] at ended
    dsimp only at ended
    rw [InPlace.onward_of_integers counter cell e] at ended
    obtain ⟨returned, left⟩ := InPlace.of_outcome_ok ended
    refine ⟨fun cause refused => ?_, fun _ => ⟨op, _, _, key, done, ?_⟩⟩
    · rw [returned] at refused
      cases refused
    · rw [left]
      exact ⟨rfl, rfl, rfl⟩

/-- A quotient for a register that does not exist changes nothing, although it was computed. A jump
that is not taken needs no target. -/
theorem execute_all_or_nothing_at_forty :
    let s : State := { pc := .int 40, registers := { bx := 2 } }
    let divide : Record := {
      key := .text "OP_DIV"
      params := .table [("dest", .text "EX"), ("src", .text "bx")]
      opcode := .int 6 }
    let branch : Record := {
      key := .text "OP_JNE"
      params := .table [("src1", .text "BX"), ("src2", .text "bx")]
      opcode := .int 9 }
    s.pc.integer? = some 40 ∧
    divide.opcode.integer? = some 6 ∧
    branch.opcode.integer? = some 9 ∧
    InPlace.execute true divide s = .error (.execution (.register (.unknown "EX"))) s ∧
    (s.execute {} true divide).state = s ∧
    (s.execute {} true branch).state.pc = .int 44 ∧
    (s.execute {} true branch).state.cycles = 1 := by
  intro s divide branch
  have refused := execute_all_or_nothing true s divide rfl rfl
  have executed := execute_all_or_nothing true s branch rfl rfl
  obtain ⟨op, target, between, -, -, counted, -, -⟩ := executed.2.2 rfl
  exact ⟨rfl, rfl, rfl, refused.1.trans rfl, refused.2.1 _ rfl, rfl, counted⟩

end State

end Loose
end RegisterMachine
