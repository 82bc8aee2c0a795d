import RegisterMachine.Machine.Load
import RegisterMachine.Machine.Report
import RegisterMachine.Registry

/-!
# Loose records

A record, a state or a machine is loose when its fields were set by hand and may
hold values of any kind. Nothing is checked when a field is set; what a value is
good for shows when it is used, and the errors of that are gathered here.

A loose record is a decoded instruction of which every field is untyped. What
belongs to its opcode is looked up when asked for. The look-up goes by equality,
so a truth value or a fraction equal to an opcode finds the instruction too.
-/

set_option autoImplicit false

namespace RegisterMachine

namespace Loose

/-- The ways in which the use of something loose can fail. -/
inductive Error where
  | misuse (cause : Misuse)
  | execution (cause : ExecutionError)
  /-- A text or a report cannot be written. -/
  | write (cause : Value.WriteError)
  /-- The fields of a record are no table. -/
  | notFields (kind : Kind)
  /-- A record was given no key. -/
  | missingKey
  /-- A record was given a field that it does not have. -/
  | unexpectedField (name : String)
  | creation (cause : CreationError)
  /-- A memory size is a negative fraction. -/
  | negativeSize (size : Binary)
  /-- A trace limit less than 1 is no integer. -/
  | traceLimit (limit : Value)
  | load (cause : LoadError)
  | fault (cause : Fault)
  | registration (cause : RegistrationError)
  | trace (cause : TraceError)
  deriving Repr

def Error.message : Error → String
  | .misuse cause => cause.message
  | .execution cause => cause.message
  | .write cause => cause.message
  | .notFields kind =>
    "vcpu.decode.DecodeResult() argument after ** must be a mapping, not " ++ kind.label
  | .missingKey => "DecodeResult.__init__() missing 1 required positional argument: 'key'"
  | .unexpectedField name =>
    "DecodeResult.__init__() got an unexpected keyword argument '" ++ name ++ "'"
  | .creation cause => cause.message
  | .negativeSize size => "memory_size must not be negative, got " ++ size.render
  | .traceLimit limit => "trace_limit must be at least 1, got " ++ limit.render
  | .load cause => cause.message
  | .fault cause => cause.message
  | .registration cause => cause.message
  | .trace cause => cause.message

/-- A text that is written, or the failure to write it. -/
def written (value : Value) : Except Error String :=
  value.write.mapError fun cause => .write (.numeral cause)

/-- A decoded instruction of which every field is untyped. -/
structure Record where
  key : Value
  params : Value := .table []
  valid : Value := .bool true
  error : Value := .nothing
  opcode : Value := .int 0
  address : Value := .int 0
  deriving Repr, Inhabited

/-- The instruction that an opcode cell names. -/
def opcode? (cell : Value) : Except Misuse (Option Opcode) :=
  cell.key.map fun key => key.integral?.bind Opcode.ofCode?

namespace Record

/-- A decoded instruction as a loose record, at an address of any kind. -/
def ofDecoded (d : Decoded) (address : Value := .int d.address) : Record where
  key := .text d.key
  params := .table d.params
  valid := .bool d.valid
  error := (d.error.map Value.text).getD .nothing
  opcode := .int d.opcode
  address := address

/-- The names of the fields. -/
def fields : List String := ["key", "params", "valid", "error", "opcode", "address"]

/-- The record with the given fields. Only the key must be given. -/
def ofFields (given : List (String × Value)) : Except Error Record :=
  match given.find? fun (name, _) => !fields.contains name with
  | some (name, _) => .error (.unexpectedField name)
  | none =>
    match given.lookup "key" with
    | none => .error .missingKey
    | some key =>
      let field (name : String) (default : Value) : Value := (given.lookup name).getD default
      .ok {
        key
        params := field "params" (.table [])
        valid := field "valid" (.bool true)
        error := field "error" .nothing
        opcode := field "opcode" (.int 0)
        address := field "address" (.int 0) }

/-- The record with the fields in a table. -/
def ofValue : Value → Except Error Record
  | .table fields => ofFields fields
  | value => .error (.notFields value.kind)

/-- The instruction of a valid record. -/
def instruction? (r : Record) : Except Misuse (Option Opcode) :=
  if r.valid.truth then opcode? r.opcode else .ok none

/-- The parameter of that name. -/
def parameter (r : Record) (name : String) : Except ExecutionError Value :=
  match r.params with
  | .table entries => (Params.find entries name).mapError .parameter
  | params => .error (.misuse (.entryPicked params.kind))

/-- How far the program counter moves on after the record was executed; none if
it stays. -/
def stride? (r : Record) : Except Misuse (Option Nat) :=
  r.instruction?.map fun op => (op.filter Opcode.advances).map Opcode.width

/-- The number of cells the record stands for. -/
def width (r : Record) : Except Misuse Nat :=
  r.instruction?.map fun op => (op.map Opcode.width).getD 1

/-- The record in assembly text. -/
def text (r : Record) : Except Error String := do
  match ← r.instruction?.mapError .misuse with
  | none => return Decoded.unknownText (← written r.opcode)
  | some op =>
    Decoded.assemble op fun name => do
      written (← (r.parameter name).mapError .execution)

end Record

end Loose

end RegisterMachine
