import RegisterMachine.Primitive

/-!
# The registry of primitives

A registry maps keys to primitives. Executing a record looks its primitive up,
applies its effect to the state, moves the program counter and counts the cycle.
An error leaves the state as it was.

The standard registry holds one primitive for each instruction and is frozen.
-/

set_option autoImplicit false

namespace RegisterMachine

/-- The ways in which adding a primitive can fail. -/
inductive RegistrationError where
  | frozen
  | duplicate (key : String)
  deriving DecidableEq, Repr

def RegistrationError.message : RegistrationError → String
  | .frozen => "Cannot register primitives: registry is frozen"
  | .duplicate key => "Primitive already registered: " ++ key

/-- Primitives by key, and whether more may be added. -/
structure Registry where
  primitives : List (String × Primitive) := []
  frozen : Bool := false
  deriving Inhabited

/-- The outcome of executing a record. -/
structure Execution where
  state : State
  /-- A jump target other than an integer. The counter shows it, and stays where
  it was unless the target stands for 0 or 1. -/
  stray : Option Value := none
  /-- The address of a store that was skipped. -/
  skipped : Option Value := none

/-- Ends the execution of a record with an effect: the program counter goes to
the target of a jump or moves past the record, and the cycle is counted. -/
def Effect.settle (e : Effect) (s : State) (d : Decoded) : Execution :=
  let changed := e.apply s
  let pc := changed.pc
  let counted (pc : Int) : State := { changed with pc := pc, cycles := changed.cycles + 1 }
  match e.destination with
  | none => { state := counted (if d.advances then pc + d.width else pc), skipped := e.skipped }
  | some (.int target) => { state := counted target, skipped := e.skipped }
  | some target =>
    { state := counted (target.integer?.getD pc), stray := some target, skipped := e.skipped }

namespace Registry

/-- The primitive of a key. -/
def find? (g : Registry) (key : String) : Option Primitive := g.primitives.lookup key

/-- The keys of a registry, in the order in which they were added. -/
def keys (g : Registry) : List String := g.primitives.map (·.1)

/-- Adds a primitive under a new key. -/
def register (g : Registry) (key : String) (primitive : Primitive) :
    Except RegistrationError Registry :=
  if g.frozen then .error .frozen
  else if (g.find? key).isSome then .error (.duplicate key)
  else .ok { g with primitives := g.primitives ++ [(key, primitive)] }

/-- Locks a registry. -/
def freeze (g : Registry) : Registry := { g with frozen := true }

/-- Unlocks a registry. -/
def unfreeze (g : Registry) : Registry := { g with frozen := false }

/-- The instructions in the order in which the standard registry adds them. -/
def standardOrder : List Opcode :=
  [.load, .store, .add, .sub, .mul, .div, .cmp, .jmp, .jeq, .jne, .print, .halt]

/-- The registry that every machine uses: one primitive for each instruction,
and frozen. -/
def standard : Registry :=
  freeze { primitives := standardOrder.map fun op => (op.key, Primitive.ofOpcode op) }

/-- The effect of a record on a state. -/
def effect (g : Registry) (s : State) (d : Decoded) : Except ExecutionError Effect :=
  match g.find? d.key with
  | none => .error (.unknownKey d.key)
  | some primitive => primitive (.ofState s d.params)

/-- Executes a record. -/
def execute (g : Registry) (s : State) (d : Decoded) : Except ExecutionError Execution :=
  (g.effect s d).map fun effect => effect.settle s d

/-- The standard registry knows every instruction under its key. -/
theorem find?_standard (op : Opcode) : standard.find? op.key = some (Primitive.ofOpcode op) := by
  cases op <;> rfl

/-- What the standard registry finds is the primitive of an instruction. -/
theorem exists_ofOpcode {key : String} {primitive : Primitive}
    (found : standard.find? key = some primitive) :
    ∃ op : Opcode, op.key = key ∧ primitive = Primitive.ofOpcode op := by
  obtain ⟨before, after, split, -⟩ := List.lookup_eq_some_iff.1 found
  have member : (key, primitive) ∈ standard.primitives := by
    rw [split]
    simp
  obtain ⟨op, -, same⟩ := List.mem_map.1 member
  exact ⟨op, congrArg Prod.fst same, (congrArg Prod.snd same).symm⟩

end Registry

/-! ## Cycles -/

/-- Settling an effect counts one cycle. -/
@[simp] theorem Effect.cycles_settle (e : Effect) (s : State) (d : Decoded) :
    (e.settle s d).state.cycles = s.cycles + 1 := by
  unfold Effect.settle
  dsimp only
  split <;> rfl

end RegisterMachine
