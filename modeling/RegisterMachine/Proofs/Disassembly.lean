import Mathlib
import RegisterMachine.Proofs.Code
import RegisterMachine.Proofs.Reporting

/-!
# The text of an instruction

An instruction in assembly text is read back without loss. Up to its first blank stands the
mnemonic, and mnemonics differ (`Opcode.mnemonic_injective`). Behind it stand the operands, as many
as the opcode has, and no operand contains the comma that separates it from the next one
(`Text.eq_of_intercalate_eq`). A register is known by its name, an integer by its decimal, and
brackets stand around the address of a store only. So instructions with the same text are the same
(`Instruction.text_injective`).

A cell that is no opcode shows as question marks with its content, and a program counter outside
the memory as a text of its own. All these texts differ in what stands before the first blank, and
so records that are written alike agree in everything except where they were decoded
(`Disassembles.agrees`, `disassembly_loses_nothing`).
-/

set_option autoImplicit false

namespace RegisterMachine

open Machine

/-! ## Names and numbers -/

theorem Register.name_injective : Function.Injective Register.name := by
  intro r q same
  have found := congrArg ofName? same
  rw [ofName?_name, ofName?_name] at found
  exact Option.some.inj found

/-- **Every instruction has a mnemonic of its own.** -/
theorem Opcode.mnemonic_injective : Function.Injective Opcode.mnemonic := by
  have listed : ∀ op ∈ all, ∀ other ∈ all, mnemonic op = mnemonic other → op = other := by decide
  intro op other
  exact listed op (by cases op <;> decide) other (by cases other <;> decide)

theorem Numeral.toString_injective : Function.Injective (toString : Int → String) := by
  intro n m same
  rw [Int.toString_eq_repr, Int.toString_eq_repr] at same
  exact Int.repr_injective same

/-! ## Cutting a text -/

namespace Text

/-- What stands in a text before the first mark. -/
def upTo (mark : Char) (text : String) : List Char := text.toList.takeWhile (· != mark)

variable {mark : Char}

theorem forall_ne_of_not_mem {text : String} (absent : mark ∉ text.toList) :
    ∀ c ∈ text.toList, (c != mark) = true := by
  intro c present
  rw [bne_iff_ne]
  rintro rfl
  exact absent present

theorem upTo_of_not_mem {text : String} (absent : mark ∉ text.toList) :
    upTo mark text = text.toList :=
  List.takeWhile_eq_self_iff.2 (forall_ne_of_not_mem absent)

theorem upTo_append {before behind : String} (absent : mark ∉ before.toList)
    (starts : behind.toList.head? = some mark) : upTo mark (before ++ behind) = before.toList := by
  obtain ⟨rest, split⟩ := List.head?_eq_some_iff.1 starts
  rw [upTo, String.toList_append, split, List.takeWhile_append_of_pos (forall_ne_of_not_mem absent),
    List.takeWhile_cons_of_neg (by simp), List.append_nil]

/-- **Texts without commas can be told apart after they were joined**, if it is known how many
there are. -/
theorem eq_of_intercalate_eq {first second : List String} (lengths : first.length = second.length)
    (solid : ∀ text ∈ first, ',' ∉ text.toList) (alsoSolid : ∀ text ∈ second, ',' ∉ text.toList)
    (same : ", ".intercalate first = ", ".intercalate second) : first = second := by
  induction first generalizing second with
  | nil => exact (List.eq_nil_of_length_eq_zero lengths.symm).symm
  | cons text rest ih =>
    cases second with
    | nil => cases lengths
    | cons other more =>
      obtain ⟨here, later⟩ := List.forall_mem_cons.1 solid
      obtain ⟨alsoHere, alsoLater⟩ := List.forall_mem_cons.1 alsoSolid
      have behind : rest.length = more.length := Nat.succ.inj lengths
      cases rest with
      | nil =>
        obtain rfl := List.eq_nil_of_length_eq_zero behind.symm
        rw [String.intercalate_singleton, String.intercalate_singleton] at same
        rw [same]
      | cons next rest =>
        cases more with
        | nil => cases behind
        | cons otherNext more =>
          rw [String.intercalate_cons_cons, String.intercalate_cons_cons, String.append_assoc,
            String.append_assoc] at same
          have comma : ∀ rest : String, (", " ++ rest).toList.head? = some ',' := by
            intro rest
            rw [String.toList_append]
            rfl
          have cut := congrArg (upTo ',') same
          rw [upTo_append here (comma _), upTo_append alsoHere (comma _)] at cut
          obtain rfl := String.toList_injective cut
          have joined := (String.append_right_inj _).1 ((String.append_right_inj _).1 same)
          rw [ih behind later alsoLater joined]

end Text

/-! ## Instructions -/

namespace Instruction

theorem length_operandTexts (i : Instruction) :
    i.operandTexts.length = i.opcode.operands.length := by
  rw [← i.ofCells_operandCells]
  cases i.opcode <;> rfl

/-- Operand cells that are written alike are read alike. -/
theorem ofCells_eq_of_operandTexts_eq (op : Opcode)
    {first second third alsoFirst alsoSecond alsoThird : Int}
    (texts : (ofCells op first second third).operandTexts
      = (ofCells op alsoFirst alsoSecond alsoThird).operandTexts) :
    ofCells op first second third = ofCells op alsoFirst alsoSecond alsoThird := by
  cases op with
  | halt => rfl
  | _ => simpa [ofCells, operandTexts, Register.name_injective.eq_iff, Int.repr_inj] using texts

/-- Instructions of one opcode are told apart by their operands as they are written. -/
theorem eq_of_operandTexts_eq {i j : Instruction} (opcode : i.opcode = j.opcode)
    (texts : i.operandTexts = j.operandTexts) : i = j := by
  have here := i.ofCells_operandCells
  have there := j.ofCells_operandCells
  rw [← opcode] at there
  rw [← here, ← there] at texts ⊢
  exact ofCells_eq_of_operandTexts_eq _ texts

/-- Before its first blank the text of an instruction has the mnemonic. -/
theorem upTo_text (i : Instruction) : Text.upTo ' ' i.text = i.opcode.mnemonic.toList := by
  have solid : ' ' ∉ i.opcode.mnemonic.toList := by
    cases i.opcode <;> decide
  unfold text
  split
  · exact Text.upTo_of_not_mem solid
  · rw [String.append_assoc]
    refine Text.upTo_append solid ?_
    rw [String.toList_append]
    rfl

/-- **The text of an instruction determines it.** -/
theorem text_injective : Function.Injective text := by
  intro i j same
  have mnemonics := congrArg (Text.upTo ' ') same
  rw [upTo_text, upTo_text] at mnemonics
  have opcode : i.opcode = j.opcode :=
    Opcode.mnemonic_injective (String.toList_injective mnemonics)
  refine eq_of_operandTexts_eq opcode ?_
  have lengths : i.operandTexts.length = j.operandTexts.length := by
    rw [length_operandTexts, length_operandTexts, opcode]
  have both : i.operandTexts = [] ↔ j.operandTexts = [] := by
    rw [← List.length_eq_zero_iff, ← List.length_eq_zero_iff, lengths]
  have solid : ∀ k : Instruction, ∀ text ∈ k.operandTexts, ',' ∉ text.toList := by
    intro k text listed comma
    cases isOperandLetter_of_mem listed _ comma
  by_cases none : i.operandTexts = []
  · rw [none, both.1 none]
  · refine Text.eq_of_intercalate_eq lengths (solid i) (solid j) ?_
    simp only [text, List.isEmpty_iff, none, mt both.2 none, if_false, opcode] at same
    exact (String.append_right_inj _).1 same

end Instruction

/-! ## What is found at a program counter -/

/-- Two records agree in everything except where they were decoded. -/
structure Decoded.Agrees (d other : Decoded) : Prop where
  valid : d.valid = other.valid
  opcode : d.opcode = other.opcode
  key : d.key = other.key
  params : d.params = other.params

/-- The texts about what is found at a program counter, each with the record that it shows. -/
inductive Disassembles : String → Option Decoded → Prop
  | instruction (i : Instruction) (address : Int) : Disassembles i.text (some (i.record address))
  | unknown (cell address : Int) :
    Disassembles (Decoded.unknownText (toString cell)) (some (unknownRecord cell address))
  | outside : Disassembles outOfRangeText none

/-- A record that was decoded can be written. -/
theorem disassembles_ofState (s : State) :
    ∃ text, (Decoded.ofState s).text = .ok text ∧ Disassembles text (some (Decoded.ofState s)) := by
  cases found : s.instruction? with
  | none =>
    rw [ofState_of_unknown found]
    exact ⟨_, rfl, .unknown _ _⟩
  | some i =>
    rw [State.ofState_of_instruction? found]
    exact ⟨_, i.text_record _, .instruction _ _⟩

theorem disassembles_report? {m : Machine} {e : Entry} (given : m.report? = some e) :
    Disassembles e.instruction e.decoded := by
  unfold report? at given
  cases found : m.state.fetch <;> rw [found] at given <;> cases given
  case outside => exact .outside
  case unknown cell => exact .unknown _ _
  case instruction i => exact .instruction _ _

namespace Disassembles

/-- What stands before the first blank tells an instruction from anything else. -/
theorem mnemonic_ne (op : Opcode) :
    op.mnemonic.toList ≠ ['?', '?', '?'] ∧ op.mnemonic.toList ≠ ['<', 'P', 'C'] := by
  cases op <;> decide

theorem upTo_unknownText (cell : String) :
    Text.upTo ' ' (Decoded.unknownText cell) = ['?', '?', '?'] := by
  rw [Text.upTo, Decoded.unknownText, String.toList_append]
  rfl

theorem upTo_outOfRangeText : Text.upTo ' ' outOfRangeText = ['<', 'P', 'C'] := by
  decide

variable {text alsoText : String} {d other : Option Decoded}

/-- **What is written alike agrees.** -/
theorem agrees (shows : Disassembles text d) (alsoShows : Disassembles alsoText other)
    (same : text = alsoText) : Option.Rel Decoded.Agrees d other := by
  have words := congrArg (Text.upTo ' ') same
  cases shows with
  | instruction i address =>
    rw [Instruction.upTo_text] at words
    cases alsoShows with
    | instruction j alsoAddress =>
      obtain rfl := Instruction.text_injective same
      exact .some ⟨rfl, rfl, rfl, rfl⟩
    | unknown cell alsoAddress =>
      rw [upTo_unknownText] at words
      exact absurd words (mnemonic_ne _).1
    | outside =>
      rw [upTo_outOfRangeText] at words
      exact absurd words (mnemonic_ne _).2
  | unknown cell address =>
    rw [upTo_unknownText] at words
    cases alsoShows with
    | instruction j alsoAddress =>
      rw [Instruction.upTo_text] at words
      exact absurd words.symm (mnemonic_ne _).1
    | unknown alsoCell alsoAddress =>
      obtain rfl := Numeral.toString_injective ((String.append_right_inj _).1 same)
      exact .some ⟨rfl, rfl, rfl, rfl⟩
    | outside =>
      rw [upTo_outOfRangeText] at words
      cases words
  | outside =>
    rw [upTo_outOfRangeText] at words
    cases alsoShows with
    | instruction j alsoAddress =>
      rw [Instruction.upTo_text] at words
      exact absurd words.symm (mnemonic_ne _).2
    | unknown alsoCell alsoAddress =>
      rw [upTo_unknownText] at words
      cases words
    | outside => exact .none

end Disassembles

/-! ## Nothing is lost -/

/-- **Disassembly loses nothing.** Two states whose records are written alike have records with
the same validity, opcode, key and parameters, whatever their memories, sizes and program counters
are; and where the number of digits is limited, nothing is written differently. So the text of an
entry in a trace tells what was executed: entries with the same text, in the traces of any two
machines after any histories, both have no record or have records that agree. -/
theorem disassembly_loses_nothing :
    (∀ (s other : State) (text : String), (Decoded.ofState s).text = .ok text →
      (Decoded.ofState other).text = .ok text →
        (Decoded.ofState s).Agrees (Decoded.ofState other)) ∧
    (∀ (s : State) (text : String), (Loose.Record.ofDecoded (Decoded.ofState s)).text = .ok text →
      (Decoded.ofState s).text = .ok text) ∧
    ∀ (m other : Machine) (history otherHistory : List Operation), m.entries = [] →
      other.entries = [] →
        ∀ e ∈ (m.after history).entries, ∀ e' ∈ (other.after otherHistory).entries,
          e.instruction = e'.instruction → Option.Rel Decoded.Agrees e.decoded e'.decoded := by
  refine ⟨?states, fun s text => Loose.text_ofDecoded, ?traces⟩
  case states =>
    intro s other text written alsoWritten
    obtain ⟨first, here, shows⟩ := disassembles_ofState s
    obtain ⟨second, there, alsoShows⟩ := disassembles_ofState other
    have same : first = second :=
      Except.ok.inj ((here.symm.trans written).trans (alsoWritten.symm.trans there))
    cases shows.agrees alsoShows same with
    | some agrees => exact agrees
  case traces =>
    have shown : ∀ (m : Machine) (history : List Operation), m.entries = [] →
        ∀ e ∈ (m.after history).entries, Disassembles e.instruction e.decoded := by
      intro m history blank
      refine entries_induction (fun _ given => disassembles_report? given) ?_ history
      rw [blank]
      exact List.forall_mem_nil _
    intro m other history otherHistory blank alsoBlank e listed e' alsoListed same
    exact (shown m history blank e listed).agrees
      (shown other otherHistory alsoBlank e' alsoListed) same

/-- A store is cut short by the end of the memory, and its address reads as 0. Elsewhere it stands
behind a jump, with the address 0 and a code of no register. -/
theorem disassembly_of_cut_store :
    let s : State := { memory := ⟨#[2, 0]⟩ }
    let other : State := { memory := ⟨#[7, 2, 2, -6, 0]⟩, pc := 2 }
    let entries := ((powerOn 2).after [.load (.list [.int 2, .int 0]), .step]).entries
    let otherEntries := ((powerOn 5).after
      [.load (.list [.int 7, .int 2, .int 2, .int (-6), .int 0]), .step, .step]).entries
    (Decoded.ofState s).text = .ok "STORE AX, [0]" ∧
      (Decoded.ofState other).text = .ok "STORE AX, [0]" ∧
      (Decoded.ofState s).Agrees (Decoded.ofState other) ∧
      ∃ e ∈ entries, ∃ e' ∈ otherEntries, e.instruction = e'.instruction ∧
        Option.Rel Decoded.Agrees e.decoded e'.decoded := by
  intro s other entries otherEntries
  obtain ⟨states, -, traces⟩ := disassembly_loses_nothing
  let e := entries.get ⟨0, by decide⟩
  let e' := otherEntries.get ⟨1, by decide⟩
  have listed : e ∈ entries := List.get_mem _ _
  have alsoListed : e' ∈ otherEntries := List.get_mem _ _
  have same : e.instruction = e'.instruction := by decide +kernel
  exact ⟨rfl, rfl, states s other _ rfl rfl, e, listed, e', alsoListed, same,
    traces _ _ _ _ rfl rfl e listed e' alsoListed same⟩

end RegisterMachine
