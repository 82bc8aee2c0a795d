/-!
# The edition

What the program says of itself when asked: its version, and the names under
which its parts are offered to others.
-/

set_option autoImplicit false

namespace RegisterMachine

namespace Edition

/-- The version. -/
def version : String := "0.1.0"

/-- The names of the parts on offer, in order. -/
def offered : List String := [
  "MachineState",
  "DEFAULT_MEMORY_SIZE",
  "REGISTER_NAMES",
  "Decoder",
  "DecodeResult",
  "Opcode",
  "CPURegistry",
  "Machine",
  "ExecutionTraceEntry",
  "EXAMPLE_PROGRAMS",
  "parse_program"]

end Edition

end RegisterMachine
