import RegisterMachine.Machine.Load
import RegisterMachine.Proofs.Transition

/-!
# What registers and cells can hold

Whatever enters a register or a cell is wrapped to a word. So in a state that
loads and steps lead to from another one, every register and every cell holds
what it held there or a word, and there are as many cells (`State.Follows`). The
relation is kept by an instruction, by a step (`Follows.next`) and by a load
(`Follows.load`).
-/

set_option autoImplicit false

namespace RegisterMachine

namespace State

/-- A state that may come after another one, as far as registers and cells tell. -/
structure Follows (s start : State) : Prop where
  size_eq : s.memory.size = start.memory.size
  registers : ∀ r, s.registers.get r = start.registers.get r ∨ Word.Fits (s.registers.get r)
  cells : ∀ address,
    s.memory.read address = start.memory.read address ∨ Word.Fits (s.memory.read address)

namespace Follows

variable {s start : State}

theorem refl (s : State) : s.Follows s where
  size_eq := rfl
  registers _ := .inl rfl
  cells _ := .inl rfl

/-- Executing an instruction stores words only. -/
theorem execute (follows : s.Follows start) (i : Instruction) : (s.execute i).Follows start where
  size_eq := by
    rcases s.memory_execute i with ⟨src, address, -, stored⟩ | unchanged
    · rw [stored, Memory.size_write, follows.size_eq]
    · rw [unchanged, follows.size_eq]
  registers r := by
    rcases s.registers_execute i with ⟨dest, value, assigned⟩ | unchanged
    · rw [assigned, Registers.get_set]
      split
      · exact .inr (Word.fits_wrap value)
      · exact follows.registers r
    · rw [unchanged]
      exact follows.registers r
  cells address := by
    rcases s.memory_execute i with ⟨src, target, -, stored⟩ | unchanged
    · rw [stored, Memory.read_write]
      split
      · exact .inr (Word.fits_wrap _)
      · exact follows.cells address
    · rw [unchanged]
      exact follows.cells address

/-- **A step stores words only.** -/
theorem next (follows : s.Follows start) : s.next.Follows start := by
  unfold State.next
  cases s.fetch with
  | instruction i => exact follows.execute i
  | _ => exact ⟨follows.size_eq, follows.registers, follows.cells⟩

/-- **Loading a program stores words only**, since its cells are wrapped. -/
theorem load {m : Machine} (follows : m.state.Follows start) (program : List Int) :
    (m.load program).state.Follows start where
  size_eq := (Memory.size_overlay _ _).trans follows.size_eq
  registers := follows.registers
  cells address := by
    have read := Memory.read_overlay m.state.memory (program.map Word.wrap) address
    rw [Machine.load, read]
    split
    · rename_i covered
      have below : address.toNat < (program.map Word.wrap).length := covered.2
      rw [List.getD_eq_getElem?_getD, List.getElem?_eq_getElem below, List.getElem_map]
      exact .inr (Word.fits_wrap _)
    · exact follows.cells address

end Follows

end State

end RegisterMachine
