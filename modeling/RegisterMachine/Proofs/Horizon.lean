import Mathlib.Data.Fintype.BigOperators
import RegisterMachine.Proofs.Contents
import RegisterMachine.Proofs.Core
import RegisterMachine.Proofs.Run

/-!
# Halting before the horizon

A state that halts at all does so within `Machine.horizon` steps. Before the first
halt no core repeats (`core_ne_of_lt`), since a repeated core begins a loop that
nothing leaves. The program counter lies in the memory for as long as the state
goes on, and every register and cell holds its first content or a word
(`Follows`), so the states before the halt can be numbered (`code`), and the
numbers lie in a box (`box`) that is smaller than the horizon (`card_box_lt`).
-/

set_option autoImplicit false

namespace RegisterMachine

/-! ## Contents -/

instance : Fintype Register := ⟨⟨Register.all, by decide⟩, Register.mem_all⟩

theorem Register.card : Fintype.card Register = 5 := rfl

/-- Two memories of the same size with the same contents are the same. -/
theorem Memory.ext_read {m other : Memory} (size : m.size = other.size)
    (same : ∀ cell < m.size, m.read (cell : Nat) = other.read cell) : m = other := by
  obtain ⟨cells⟩ := m
  obtain ⟨cells'⟩ := other
  congr 1
  refine Array.ext size fun cell below below' => ?_
  have read := same cell below
  simpa [read, Memory.read, Array.getD_eq_getD_getElem?, below, below'] using read

namespace State

/-- The content of a register, or of one of the first cells. -/
def content (s : State) (size : Nat) : Register ⊕ Fin size → Int
  | .inl r => s.registers.get r
  | .inr cell => s.memory.read cell

/-- The counter and the contents of a state determine its core, given the rest. -/
theorem core_eq_of_content {s t : State} {size : Nat} (first : s.memory.size = size)
    (second : t.memory.size = size) (running : s.running = t.running) (pc : s.pc = t.pc)
    (same : s.content size = t.content size) : s.core = t.core := by
  refine core_eq_iff.2 ⟨?_, ?_, pc, running⟩
  · refine Memory.ext_read (first.trans second.symm) fun cell below => ?_
    exact congrFun same (.inr ⟨cell, first ▸ below⟩)
  · refine Registers.ext_get fun r => ?_
    exact congrFun same (.inl r)

theorem follows_iterate (start : State) (n : Nat) : (next^[n] start).Follows start := by
  induction n with
  | zero => exact .refl start
  | succ n ih =>
    rw [Function.iterate_succ_apply']
    exact ih.next

/-! ## The box -/

/-- The number of a content among those that may follow a first one: the first
content has the number 0, and the words come after it. -/
def index (first value : Int) : Nat :=
  if value = first then 0 else (value - Word.least).toNat + 1

theorem index_lt {first value : Int} (follows : value = first ∨ Word.Fits value) :
    index first value < 2 ^ 33 := by
  unfold index
  split
  · decide
  · rename_i other
    obtain ⟨lower, upper⟩ := follows.resolve_left other
    simp only [Word.least, Word.greatest] at lower upper ⊢
    omega

/-- Contents with the same number are the same. -/
theorem eq_of_index_eq {first value other : Int} (follows : value = first ∨ Word.Fits value)
    (otherFollows : other = first ∨ Word.Fits other)
    (same : index first value = index first other) : value = other := by
  unfold index at same
  split at same
  · split at same
    · simp_all
    · cases same
  · split at same
    · cases same
    · rename_i notFirst otherNotFirst
      have lower := (follows.resolve_left notFirst).1
      have otherLower := (otherFollows.resolve_left otherNotFirst).1
      omega

/-- The number of a state among those that may follow a first one. -/
def code (start s : State) : Nat × (Register ⊕ Fin start.memory.size → Nat) :=
  (s.pc.toNat, fun slot =>
    index (start.content start.memory.size slot) (s.content start.memory.size slot))

/-- The numbers of states that go on. -/
def box (size : Nat) : Finset (Nat × (Register ⊕ Fin size → Nat)) :=
  Finset.range size ×ˢ Fintype.piFinset fun _ => Finset.range (2 ^ 33)

/-- Every content of a state that follows is a first content or a word. -/
theorem Follows.content {s start : State} (follows : s.Follows start) {size : Nat}
    (slot : Register ⊕ Fin size) :
    s.content size slot = start.content size slot ∨ Word.Fits (s.content size slot) := by
  cases slot with
  | inl r => exact follows.registers r
  | inr cell => exact follows.cells cell

/-- A state that follows, with its counter in the memory, has its number in the box. -/
theorem Follows.code_mem_box {s start : State} (follows : s.Follows start)
    (inside : s.memory.InRange s.pc) : code start s ∈ box start.memory.size := by
  have lower : 0 ≤ s.pc := inside.1
  have upper : s.pc < s.memory.size := inside.2
  rw [follows.size_eq] at upper
  rw [box, Finset.mem_product, Finset.mem_range, Fintype.mem_piFinset]
  refine ⟨by simp only [code]; omega, fun slot => ?_⟩
  exact Finset.mem_range.2 (index_lt (follows.content slot))

/-- States that go on and have the same number have the same core. -/
theorem Follows.core_eq_of_code_eq {s t start : State} (follows : s.Follows start)
    (otherFollows : t.Follows start) (running : s.running = t.running)
    (inside : s.memory.InRange s.pc) (otherInside : t.memory.InRange t.pc)
    (same : code start s = code start t) : s.core = t.core := by
  obtain ⟨counter, contents⟩ := Prod.mk.inj same
  have pc : s.pc = t.pc := by
    have lower : 0 ≤ s.pc := inside.1
    have otherLower : 0 ≤ t.pc := otherInside.1
    omega
  refine core_eq_of_content follows.size_eq otherFollows.size_eq running pc ?_
  funext slot
  exact eq_of_index_eq (follows.content slot) (otherFollows.content slot) (congrFun contents slot)

/-- **The box is smaller than the horizon.** -/
theorem card_box_lt (size : Nat) : (box size).card < 2 ^ (34 * (size + 5)) := by
  have slots : Fintype.card (Register ⊕ Fin size) = size + 5 := by
    rw [Fintype.card_sum, Register.card, Fintype.card_fin, Nat.add_comm]
  have contents : (Fintype.piFinset fun _ : Register ⊕ Fin size => Finset.range (2 ^ 33)).card
      = 2 ^ (33 * (size + 5)) := by
    rw [Fintype.card_piFinset, Finset.prod_const, Finset.card_univ, slots, Finset.card_range,
      pow_mul]
  have counters : size < 2 ^ (size + 5) := by
    have few : size + 5 < 2 ^ (size + 5) := Nat.lt_two_pow_self
    omega
  calc (box size).card
      = size * 2 ^ (33 * (size + 5)) := by
        rw [box, Finset.card_product, Finset.card_range, contents]
    _ < 2 ^ (size + 5) * 2 ^ (33 * (size + 5)) :=
        Nat.mul_lt_mul_of_pos_right counters (Nat.two_pow_pos _)
    _ = 2 ^ (34 * (size + 5)) := by
        rw [← pow_add]
        exact congrArg (2 ^ ·) (by omega)

/-! ## The first halt -/

theorem core_iterate_congr {s t : State} (same : s.core = t.core) (n : Nat) :
    (next^[n] s).core = (next^[n] t).core := by
  induction n with
  | zero => exact same
  | succ n ih =>
    rw [Function.iterate_succ_apply', Function.iterate_succ_apply']
    exact core_next_congr ih

theorem iterate_of_stopped {s : State} (halted : s.running = false) (n : Nat) :
    next^[n] s = s :=
  Function.iterate_fixed (next_of_stopped halted) n

theorem running_of_le {start : State} {first second : Nat} (le : first ≤ second)
    (runs : (next^[second] start).running = true) : (next^[first] start).running = true := by
  by_contra halted
  have stays := iterate_of_stopped (Bool.eq_false_iff.2 halted) (second - first)
  rw [← Function.iterate_add_apply, Nat.sub_add_cancel le] at stays
  rw [stays] at runs
  exact halted runs

/-- A state that goes on after a step has its program counter in the memory. -/
theorem inRange_of_running_next {s : State} (runs : s.next.running = true) :
    s.memory.InRange s.pc := by
  unfold next at runs
  cases found : s.fetch with
  | stopped =>
    have halted : s.running = false := fetch_eq_iff.1 found
    rw [found, halted] at runs
    cases runs
  | outside => simp [found] at runs
  | unknown cell => exact (fetch_eq_iff.1 found).2.1
  | instruction i => exact (fetch_eq_iff.1 found).2.1

/-- **No core repeats before the first halt.** -/
theorem core_ne_of_lt {start : State} {halt first second : Nat} (lt : first < second)
    (le : second ≤ halt) (halts : (next^[halt] start).running = false)
    (least : ∀ n < halt, (next^[n] start).running = true) :
    (next^[first] start).core ≠ (next^[second] start).core := by
  intro same
  -- From the earlier of the two on, the halt comes sooner by the length of the loop.
  have later := core_iterate_congr same (halt - second)
  rw [← Function.iterate_add_apply, ← Function.iterate_add_apply,
    Nat.sub_add_cancel le] at later
  have running := (core_eq_iff.1 later).2.2.2
  rw [halts, least _ (by omega)] at running
  cases running

/-- **The first halt comes within the horizon.** -/
theorem halt_le_horizon {start : State} {halt : Nat}
    (halts : (next^[halt] start).running = false)
    (least : ∀ n < halt, (next^[n] start).running = true) :
    halt ≤ 2 ^ (34 * (start.memory.size + 5)) := by
  have follows := follows_iterate start
  have inside : ∀ n < halt - 1, (next^[n] start).memory.InRange (next^[n] start).pc := by
    intro n below
    have goesOn : (next^[n] start).next.running = true := by
      rw [← Function.iterate_succ_apply' next]
      exact least _ (by omega)
    exact inRange_of_running_next goesOn
  have card : (Finset.range (halt - 1)).card ≤ (box start.memory.size).card := by
    refine Finset.card_le_card_of_injOn (fun n => code start (next^[n] start)) ?maps ?inj
    case maps =>
      intro n below
      exact (follows n).code_mem_box (inside n (Finset.mem_range.1 below))
    case inj =>
      intro first firstBelow second secondBelow same
      rw [Finset.mem_coe, Finset.mem_range] at firstBelow secondBelow
      have running : (next^[first] start).running = (next^[second] start).running := by
        rw [least _ (by omega), least _ (by omega)]
      have core := (follows first).core_eq_of_code_eq (follows second) running
        (inside first firstBelow) (inside second secondBelow) same
      rcases Nat.lt_trichotomy first second with lt | same | lt
      · exact absurd core (core_ne_of_lt lt (by omega) halts least)
      · exact same
      · exact absurd core.symm (core_ne_of_lt lt (by omega) halts least)
  rw [Finset.card_range] at card
  have small := card_box_lt start.memory.size
  omega

end State

end RegisterMachine
