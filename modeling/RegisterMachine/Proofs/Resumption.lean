import RegisterMachine.Proofs.Observation

/-!
# Resuming a run that failed

A sink that fails ends the run between the execution of a print instruction and the
recording of the step. The machine is past the instruction by then, and the value has been
handed over. So a caller who runs again goes on with the next instruction, and if it does so
until a run returns (`Resumed`), then after finitely many calls the machine is where one run
of its twin ends, whose sink never fails (`Machine.unfailing`). All that is missing are the
entries of the steps that failed, one for each call but the last (`exists_resumed_run`).

The proof follows the run of the twin step by step. A step that the sink refuses ends a call
of the caller, and the other steps belong to the call that comes next
(`exists_resumed_advance`). A run without a limit is brought to this form by the halt that it
ends at (`GoesTo`).
-/

set_option autoImplicit false

namespace RegisterMachine

/-- The sink with what it has received, but no call of it fails. -/
def Sink.unfailing (s : Sink) : Sink := { s with failsAt := fun _ => false }

namespace Machine

/-- The machine with a sink that never fails. -/
def unfailing (m : Machine) : Machine := { m with sink := m.sink.map Sink.unfailing }

theorem sink_unfailing (m : Machine) : m.unfailing.sink = m.sink.map Sink.unfailing := rfl

theorem reliable_unfailing (m : Machine) : m.unfailing.Reliable := by
  intro sink present call
  obtain ⟨_, -, rfl⟩ := Option.map_eq_some_iff.1 present
  rfl

theorem unfailing_stepped (m : Machine) : m.stepped.unfailing.Alike m.unfailing.stepped where
  state := m.state_stepped.trans m.unfailing.state_stepped.symm
  output := by
    apply Array.toList_inj.1
    rw [m.unfailing.printed_stepped.output]
    exact m.printed_stepped.output
  sink := by
    rw [m.unfailing.printed_stepped.sink, sink_unfailing, sink_unfailing,
      m.printed_stepped.sink, Option.map_map, Option.map_map]
    rfl
  haltReason := by
    rw [haltReason_stepped, haltReason_proceed, unfailing, haltReason_stepped,
      haltReason_proceed]
    rfl
  maxCycles := m.maxCycles_stepped.trans m.unfailing.maxCycles_stepped.symm

/-! ## Steps that are refused -/

/-- The number of values that were handed to the sink. -/
def handed (m : Machine) : Nat := m.sink.elim 0 (·.received.size)

/-- Whether the step of the machine prints a value that the sink, if there is one, would
refuse at the call that is due. -/
def refusedBy (sink : Option Sink) (m : Machine) : Bool :=
  m.state.printed?.isSome && sink.any fun s => s.failsAt (m.handed + 1)

theorem isSome_fault? (m : Machine) : m.fault?.isSome = refusedBy m.sink m := by
  unfold fault? refusedBy
  cases found : m.state.fetch with
  | instruction i =>
    rw [State.printed?_of_instruction found]
    cases emission : i.emission? m.state.registers with
    | none => simp [refused?, emission]
    | some e =>
      cases present : m.sink with
      | none => simp [refused?, emission, sinkFailed, emit, present]
      | some s =>
        simp [refused?, emission, sinkFailed, emit, present, Sink.failed, Sink.receive, handed,
          Option.isSome_filter]
  | _ =>
    rw [State.printed?_eq_none (by simp [found])]
    rfl

theorem refusedBy_stepped (m : Machine) : refusedBy m.stepped.sink = refusedBy m.sink := by
  funext p
  rw [refusedBy, refusedBy, m.printed_stepped.sink]
  cases m.sink <;> rfl

theorem handed_unfailing (m : Machine) : m.unfailing.handed = m.handed := by
  unfold handed unfailing
  cases m.sink <;> rfl

/-- A machine fails at the steps of its twin that its sink refuses. -/
theorem isSome_fault?_of_twin {a b : Machine} (twin : a.unfailing.Alike b) :
    a.fault?.isSome = refusedBy a.sink b := by
  have handed : a.handed = b.handed := by
    rw [← a.handed_unfailing, Machine.handed, twin.sink, Machine.handed]
  have state : a.state = b.state := twin.state
  rw [isSome_fault?, refusedBy, refusedBy, state, handed]

/-- A machine gives the entries of its twin, except at the steps that its sink refuses. -/
theorem told?_of_twin {a b : Machine} (twin : a.unfailing.Alike b) (reliable : b.Reliable)
    (recording : a.recording = b.recording) :
    a.told? = if refusedBy a.sink b then none else b.told? := by
  rw [← isSome_fault?_of_twin twin]
  cases refused : a.fault? with
  | some fault =>
    rw [told?_of_fault refused]
    rfl
  | none =>
    have state : a.state = b.state := twin.state
    rw [told?_of_accepted refused, report?_congr state recording, reliable.told?_eq]
    rfl

/-! ## Calling again -/

/-- A call is made again as long as it fails. The number is that of the calls, and the
second machine is the one that the last of them leaves. -/
inductive Resumed (call : Machine → Ran) : Machine → Nat → Machine → Prop
  | returned {m : Machine} (returns : (call m).fault = none) : Resumed call m 1 (call m).machine
  | again {m last : Machine} {calls : Nat} {fault : Fault}
      (fails : (call m).fault = some fault) (rest : Resumed call (call m).machine calls last) :
      Resumed call m (calls + 1) last

namespace Resumed

variable {call other : Machine → Ran} {m last : Machine} {calls : Nat}

/-- Only the outcome of the first call matters. -/
theorem of_same {start : Machine} (machine : (call m).machine = (call start).machine)
    (fault : (call m).fault = (call start).fault) (resumed : Resumed call start calls last) :
    Resumed call m calls last := by
  cases resumed with
  | returned returns =>
    rw [← machine]
    exact .returned (fault.trans returns)
  | again fails rest =>
    rw [← machine] at rest
    exact .again (fault.trans fails) rest

/-- A run that goes on after a step takes one more call if the step fails. -/
theorem of_stepped {limit : Int} (ready : m.Ready limit)
    (resumed : Resumed (·.advance limit #[]) m.stepped calls last) :
    Resumed (·.advance limit #[]) m (calls + if m.fault?.isSome then 1 else 0) last := by
  cases refused : m.fault? with
  | some fault =>
    have stops := advance_of_fault ready refused #[]
    refine .again (by rw [stops]) ?_
    rw [stops]
    exact resumed
  | none =>
    refine resumed.of_same ?_ ?_
    · rw [advance_of_ready ready refused]
      exact (m.stepped.advance_events limit _ _).1
    · rw [advance_of_ready ready refused]
      exact (m.stepped.advance_events limit _ _).2

/-- Another call will do if it has the same outcomes on the machines that come up. -/
theorem congr {Within : Machine → Prop} (keeps : ∀ m, Within m → Within (call m).machine)
    (same : ∀ m, Within m →
      (other m).machine = (call m).machine ∧ (other m).fault = (call m).fault)
    (start : Within m) (resumed : Resumed call m calls last) : Resumed other m calls last := by
  induction resumed with
  | @returned m returns =>
    obtain ⟨machine, fault⟩ := same m start
    rw [← machine]
    exact .returned (fault.trans returns)
  | @again m last calls fault fails rest ih =>
    obtain ⟨machine, sameFault⟩ := same m start
    refine .again (sameFault.trans fails) ?_
    rw [machine]
    exact ih (keeps m start)

end Resumed

/-! ## Runs to a fixed limit -/

variable {a b : Machine}

/-- **Resuming a run to a limit leaves the machine where its twin gets in one run.** It takes
one call more than there are steps that the sink refuses, and only their entries are
missing. -/
theorem exists_resumed_advance (limit : Int) (twin : a.unfailing.Alike b) (reliable : b.Reliable)
    (recording : a.recording = b.recording) (events : Array Event) :
    ∃ last,
      Resumed (·.advance limit #[]) a (1 + (b.course limit).countP (refusedBy a.sink)) last ∧
      last.unfailing.Alike (b.advance limit events).machine ∧
      (a.recording = true → last.entries = Recent.lastOf a.trace.limit
        (a.entries ++ ((b.course limit).filter (!refusedBy a.sink ·)).filterMap told?)) := by
  induction b using advance_induction limit generalizing a events with
  | idle b idle =>
    have other : ¬ a.Ready limit := fun ready => idle ((twin.ready_iff limit).1 ready)
    rw [course_of_not_ready idle, advance_of_not_ready idle]
    refine ⟨a, ?_, twin, fun _ => ?_⟩
    · have returned : Resumed (·.advance limit #[]) a 1 (a.advance limit #[]).machine :=
        .returned (by rw [advance_of_not_ready other])
      rw [advance_of_not_ready other] at returned
      exact returned
    · rw [List.filter_nil, List.filterMap_nil, List.append_nil, lastOf_entries]
  | refused b fault ready refused => simp [reliable.fault?_eq_none] at refused
  | ready b ready accepted ih =>
    have start : a.Ready limit := (twin.ready_iff limit).2 ready
    have later : a.stepped.unfailing.Alike b.stepped := a.unfailing_stepped.trans twin.stepped
    have still : a.stepped.recording = b.stepped.recording := by
      rw [recording_stepped, recording_stepped, recording]
    obtain ⟨last, resumed, alike, entries⟩ :=
      ih later reliable.stepped still (events ++ b.step.events)
    rw [refusedBy_stepped] at resumed entries
    rw [course_of_ready ready accepted, advance_of_ready ready accepted]
    refine ⟨last, ?_, alike, fun on => ?_⟩
    · have calls := resumed.of_stepped start
      rw [isSome_fault?_of_twin twin, Nat.add_assoc, ← List.countP_cons] at calls
      exact calls
    -- The entries are those of the step, if it gave one, and those of what comes after it.
    · rw [entries (a.recording_stepped.trans on), limit_stepped, entries_stepped on,
        Recent.lastOf_append, List.append_assoc, told?_of_twin twin reliable recording,
        List.filter_cons]
      cases refusedBy a.sink b with
      | true => rfl
      | false =>
        simp only [Bool.not_false, if_true, List.filterMap_cons, Bool.false_eq_true, if_false]
        cases b.told? <;> rfl

/-! ## Runs -/

/-- The machine halts within that many cycles in all. -/
def HaltsWithin (m : Machine) (limit : Int) : Prop :=
  ∃ n : Nat, (m.steps n).state.running = false ∧ (m.state.cycles + n : Int) ≤ limit

namespace HaltsWithin

variable {m : Machine} {limit other : Int}

theorem of_stopped {n : Nat} (stops : (m.steps n).state.running = false) :
    m.HaltsWithin (m.state.cycles + m.horizon) :=
  ⟨m.horizon, stopped_at_horizon stops, Int.le_refl _⟩

theorem stepped (halts : m.HaltsWithin limit) : m.stepped.HaltsWithin limit := by
  obtain ⟨n, stops, le⟩ := halts
  cases n with
  | zero =>
    have idle : m.stepped = m := stepped_of_stopped stops
    rw [idle]
    exact ⟨0, stops, le⟩
  | succ n =>
    have counted := m.state.cycles_next_le
    refine ⟨n, m.steps_succ n ▸ stops, ?_⟩
    rw [state_stepped]
    omega

/-- Until the machine has halted, the limit lets it run. -/
theorem ready_iff (halts : m.HaltsWithin limit) : m.Ready limit ↔ m.state.running = true := by
  refine ⟨And.left, fun runs => ⟨runs, ?_⟩⟩
  obtain ⟨n, stops, le⟩ := halts
  cases n with
  | zero =>
    rw [steps_zero, runs] at stops
    cases stops
  | succ n => omega

/-- **Limits that let the machine come to its halt make no difference.** -/
theorem advance_congr (halts : m.HaltsWithin limit) (also : m.HaltsWithin other)
    (first second : Array Event) :
    (m.advance limit first).machine = (m.advance other second).machine ∧
      (m.advance limit first).fault = (m.advance other second).fault := by
  obtain ⟨n, same⟩ := advance_related
    (R := fun a b => a = b ∧ a.HaltsWithin limit ∧ a.HaltsWithin other)
    (by
      rintro a _ ⟨rfl, halts, also⟩
      exact halts.ready_iff.trans also.ready_iff.symm)
    (by
      rintro a _ ⟨rfl, -, -⟩
      rfl)
    (by
      rintro a _ ⟨rfl, halts, also⟩
      exact ⟨rfl, halts.stepped, also.stepped⟩)
    (a := m) (b := m) ⟨rfl, halts, also⟩
  obtain ⟨one, second, faults⟩ := same first second
  exact ⟨one.trans second.symm, faults⟩

end HaltsWithin

/-- A run that is given this limit ends: it is limited, or else it comes to a halt. -/
def Ends (m : Machine) (limit : Option Int) : Prop :=
  (limit <|> m.maxCycles).isSome = true ∨ ∃ n, (m.steps n).state.running = false

/-- A run that is given this limit may as well be made to that one. -/
inductive GoesTo (m : Machine) (limit : Option Int) (bound : Int) : Prop
  | limited (given : (limit <|> m.maxCycles) = some bound)
  | halting (free : (limit <|> m.maxCycles) = none) (halts : m.HaltsWithin bound)

theorem Ends.goesTo {m : Machine} {limit : Option Int} (ends : m.Ends limit) :
    m.GoesTo limit (m.runLimit limit) := by
  unfold runLimit
  cases given : limit <|> m.maxCycles with
  | some bound => exact .limited given
  | none =>
    rcases ends with limited | ⟨n, stops⟩
    · rw [given] at limited
      cases limited
    · exact .halting given (.of_stopped stops)

namespace GoesTo

variable {m : Machine} {limit : Option Int} {bound : Int}

theorem stepped (goes : m.GoesTo limit bound) : m.stepped.GoesTo limit bound := by
  cases goes with
  | limited given => exact .limited (m.maxCycles_stepped ▸ given)
  | halting free halts => exact .halting (m.maxCycles_stepped ▸ free) halts.stepped

theorem run (goes : m.GoesTo limit bound) :
    (m.run limit).machine = (m.advance bound #[]).machine ∧
      (m.run limit).fault = (m.advance bound #[]).fault := by
  rw [machine_run, fault_run, runLimit]
  cases goes with
  | limited given =>
    rw [given]
    exact ⟨rfl, rfl⟩
  | halting free halts =>
    have horizon : m.HaltsWithin (m.state.cycles + m.horizon) := by
      obtain ⟨n, stops, -⟩ := halts
      exact .of_stopped stops
    rw [free]
    exact horizon.advance_congr halts #[] #[]

end GoesTo

/-- **A failing sink does not derail a run.** A caller who runs a machine again until a run
returns needs finitely many calls, one more than there are values that the sink refuses. Then
the machine is where its twin gets in one run: the state, the output, what the sink has
received and the reason of the halt are the same. If the machine is recording, all entries
are there but those of the refused values, as far as the trace reaches back. -/
theorem exists_resumed_run (m : Machine) {limit : Option Int} (ends : m.Ends limit) :
    let twin := m.unfailing
    let path := twin.course (twin.runLimit limit)
    (twin.run limit).fault = none ∧
    Walk twin path (twin.run limit).machine ∧
    ∃ last, Resumed (·.run limit) m (1 + path.countP (refusedBy m.sink)) last ∧
      last.unfailing.Alike (twin.run limit).machine ∧
      (m.recording = true → last.entries = Recent.lastOf m.trace.limit
        (m.entries ++ (path.filter (!refusedBy m.sink ·)).filterMap told?)) := by
  intro twin path
  have reliable : twin.Reliable := m.reliable_unfailing
  obtain ⟨last, resumed, alike, entries⟩ :=
    exists_resumed_advance (twin.runLimit limit) (Alike.refl twin) reliable rfl #[]
  refine ⟨reliable.fault_run limit, ?_, last, ?_, ?_, entries⟩
  · rw [machine_run]
    exact twin.walk_course _ _
  · have keeps : ∀ p : Machine, p.GoesTo limit (twin.runLimit limit) →
        (p.advance (twin.runLimit limit) #[]).machine.GoesTo limit (twin.runLimit limit) := by
      intro p goes
      obtain ⟨n, same⟩ := p.exists_steps_advance (twin.runLimit limit)
      rw [same]
      exact steps_induction (motive := (·.GoesTo limit (twin.runLimit limit)))
        (fun _ goes => goes.stepped) goes n
    exact resumed.congr keeps (fun p goes => goes.run) ends.goesTo
  · rw [machine_run]
    exact alike

/-- The first of two values is refused. A second call makes up for it, and the entry of the
first step is missing. -/
theorem resumed_run_of_refused_value :
    let m := (powerOn 5 none (some (.failingAt 1))).load [11, 4, 11, 0, 12]
    let twin := m.unfailing
    m.fault? = some (.sink { register := "SP", value := 4 }) ∧
      twin.course 3 = [twin, twin.stepped, twin.stepped.stepped] ∧
      ∃ last, Resumed (·.run (some 3)) m 2 last ∧
        last.unfailing.Alike (twin.run (some 3)).machine ∧
        last.entries = Recent.lastOf m.trace.limit
          ([twin.stepped, twin.stepped.stepped].filterMap told?) := by
  intro m twin
  have path : twin.course 3 = [twin, twin.stepped, twin.stepped.stepped] := by
    rw [course_of_ready (by decide) (by decide), course_of_ready (by decide) (by decide),
      course_of_ready (by decide) (by decide), course_of_not_ready (by decide)]
  have ends : m.Ends (some 3) := .inl rfl
  obtain ⟨-, -, last, resumed, alike, entries⟩ := m.exists_resumed_run ends
  have limit : twin.runLimit (some 3) = 3 := rfl
  rw [limit, path] at resumed entries
  have first : refusedBy m.sink twin = true := by decide
  have second : refusedBy m.sink twin.stepped = false := by decide
  have third : refusedBy m.sink twin.stepped.stepped = false := by decide
  have refused : [twin, twin.stepped, twin.stepped.stepped].countP (refusedBy m.sink) = 1 := by
    simp [first, second, third]
  have accepted : [twin, twin.stepped, twin.stepped.stepped].filter (!refusedBy m.sink ·)
      = [twin.stepped, twin.stepped.stepped] := by simp [first, second, third]
  have blank : m.entries = [] := entries_load _ _
  rw [refused] at resumed
  rw [accepted, blank, List.nil_append] at entries
  exact ⟨by decide, path, last, resumed, alike, entries rfl⟩

end Machine

end RegisterMachine
