import RegisterMachine.Machine.Load
import RegisterMachine.Proofs.Run

/-!
# Histories

A caller loads programs, steps, runs, and switches the recording of steps on and
off, in any order and as often as it likes (`Operation`). A history is a list of
such operations, and `Machine.after` is the machine that it leaves.

A run is some number of steps, also where a step fails on the way. So what a
load, a step and a switch preserve holds throughout a history
(`after_induction`).
-/

set_option autoImplicit false

namespace RegisterMachine

/-- What a caller does with a machine. -/
inductive Operation where
  /-- Loads a program of cells of any kind. -/
  | load (cells : Value)
  | step
  | run (limit : Option Int)
  /-- Switches the recording of steps on or off. -/
  | record (on : Bool)

/-- The ways in which an operation can fail. -/
inductive Failure where
  | load (cause : LoadError)
  | fault (cause : Fault)
  deriving DecidableEq, Repr

namespace Operation

/-- The machine after an operation. A program that is refused changes nothing. -/
def apply (m : Machine) : Operation → Machine
  | load cells =>
    match Machine.programOf cells with
    | .ok program => m.load program
    | .error _ => m
  | step => m.step.machine
  | run limit => (m.run limit).machine
  | record on => { m with recording := on }

/-- How an operation fails, if it does. -/
def failure? (m : Machine) : Operation → Option Failure
  | load cells =>
    match Machine.programOf cells with
    | .ok _ => none
    | .error cause => some (.load cause)
  | step =>
    match m.step.result with
    | .ok _ => none
    | .error cause => some (.fault cause)
  | run limit => (m.run limit).fault.map .fault
  | record _ => none

end Operation

namespace Machine

/-- The machine after a history. Failures do not end it. -/
def after (m : Machine) (history : List Operation) : Machine := history.foldl Operation.apply m

@[simp] theorem after_cons (m : Machine) (op : Operation) (rest : List Operation) :
    m.after (op :: rest) = (op.apply m).after rest := rfl

/-- What a load, a step and a switch preserve, every operation preserves. -/
theorem apply_induction {motive : Machine → Prop}
    (load : ∀ m program, motive m → motive (m.load program))
    (step : ∀ m, motive m → motive m.stepped)
    (record : ∀ m on, motive m → motive { m with recording := on })
    {m : Machine} (start : motive m) (op : Operation) : motive (op.apply m) := by
  cases op with
  | load cells =>
    cases read : programOf cells with
    | ok program => simpa only [Operation.apply, read] using load m program start
    | error cause => simpa only [Operation.apply, read] using start
  | step =>
    rw [Operation.apply, machine_step]
    exact step m start
  | run limit =>
    obtain ⟨n, same⟩ := m.exists_steps_run limit
    rw [Operation.apply, same]
    exact steps_induction step start n
  | record on => exact record m on start

/-- **What a load, a step and a switch preserve holds throughout a history.** -/
theorem after_induction {motive : Machine → Prop}
    (load : ∀ m program, motive m → motive (m.load program))
    (step : ∀ m, motive m → motive m.stepped)
    (record : ∀ m on, motive m → motive { m with recording := on })
    {m : Machine} (start : motive m) (history : List Operation) : motive (m.after history) := by
  induction history generalizing m with
  | nil => exact start
  | cons op rest ih => exact ih (apply_induction load step record start op)

theorem entries_load (m : Machine) (program : List Int) : (m.load program).entries = [] :=
  Recent.toList_clear _

theorem Reliable.load {m : Machine} (reliable : m.Reliable) (program : List Int) :
    (m.load program).Reliable := reliable

theorem Reliable.after {m : Machine} (reliable : m.Reliable) (history : List Operation) :
    (m.after history).Reliable :=
  after_induction (motive := Reliable) (fun _ _ h => h.load _) (fun _ => Reliable.stepped)
    (fun _ _ => id) reliable history

end Machine

end RegisterMachine
