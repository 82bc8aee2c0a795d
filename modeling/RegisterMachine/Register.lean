import RegisterMachine.Word

/-!
# Registers

The machine has five registers. An encoded instruction refers to a register by
its code, a caller by its name. Codes are total: a code that belongs to no
register refers to AX. Names are partial: letter case does not matter, and a
name that belongs to no register refers to nothing.

The contents of all five registers form a `Registers` value.
-/

set_option autoImplicit false

namespace RegisterMachine

/-- The five registers, in the order of their codes. -/
inductive Register where
  | ax
  | bx
  | cx
  | dx
  | sp
  deriving DecidableEq, Repr

namespace Register

/-- All registers, in the order of their codes. -/
def all : List Register := [ax, bx, cx, dx, sp]

/-- The name of a register. -/
def name : Register → String
  | ax => "AX"
  | bx => "BX"
  | cx => "CX"
  | dx => "DX"
  | sp => "SP"

/-- The register that an encoded instruction means; unknown codes mean AX. -/
def ofCode : Int → Register
  | 1 => bx
  | 2 => cx
  | 3 => dx
  | 4 => sp
  | _ => ax

/-- The capital of a letter, for the letters that occur in register names. Two
characters have the capital S: the small s and the long s. -/
def capital : Char → Char
  | 'a' => 'A'
  | 'b' => 'B'
  | 'c' => 'C'
  | 'd' => 'D'
  | 'p' => 'P'
  | 's' => 'S'
  | '\u017f' => 'S'
  | 'x' => 'X'
  | c => c

/-- The register with the given letters, all of them capitals. -/
def ofCapitals? : List Char → Option Register
  | ['A', 'X'] => some ax
  | ['B', 'X'] => some bx
  | ['C', 'X'] => some cx
  | ['D', 'X'] => some dx
  | ['S', 'P'] => some sp
  | _ => none

/-- The register of that name, whatever the case of its letters. -/
def ofName? (name : String) : Option Register :=
  ofCapitals? (name.toList.map capital)

/-- A register is found under its own name. -/
@[simp] theorem ofName?_name (r : Register) : ofName? r.name = some r := by
  cases r <;> decide

/-- Every register is listed. -/
theorem mem_all (r : Register) : r ∈ all := by
  cases r <;> decide

end Register

/-! ## The register file -/

/-- The contents of the five registers. -/
structure Registers where
  ax : Int := 0
  bx : Int := 0
  cx : Int := 0
  dx : Int := 0
  sp : Int := 0
  deriving DecidableEq, Repr, Inhabited

namespace Registers

/-- The content of a register. -/
def get (file : Registers) : Register → Int
  | .ax => file.ax
  | .bx => file.bx
  | .cx => file.cx
  | .dx => file.dx
  | .sp => file.sp

/-- The file after a register received a new content. -/
def set (file : Registers) (r : Register) (value : Int) : Registers :=
  match r with
  | .ax => { file with ax := value }
  | .bx => { file with bx := value }
  | .cx => { file with cx := value }
  | .dx => { file with dx := value }
  | .sp => { file with sp := value }

/-- The content of the register of that name; 0 for an unknown name. -/
def named (file : Registers) (name : String) : Int := ((Register.ofName? name).map file.get).getD 0

/-- The registers with their contents, in order. -/
def toList (file : Registers) : List (Register × Int) :=
  Register.all.map fun r => (r, file.get r)

/-- Reading after writing. -/
theorem get_set (file : Registers) (r q : Register) (value : Int) :
    (file.set r value).get q = if q = r then value else file.get q := by
  cases r <;> cases q <;> simp [set, get]

/-- Two files with the same contents are the same. -/
@[ext] theorem ext_get {file other : Registers} (same : ∀ r, file.get r = other.get r) :
    file = other := by
  cases file
  cases other
  have := same .ax
  have := same .bx
  have := same .cx
  have := same .dx
  have := same .sp
  simp_all [get]

end Registers

end RegisterMachine
