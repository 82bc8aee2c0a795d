import RegisterMachine.CommandLine.Session

/-!
# The program

Plays a session with a person at a terminal: shows the texts of every turn as
they come, and reads a line whenever the session waits for an answer.
-/

set_option autoImplicit false

namespace RegisterMachine

namespace CommandLine

/-- Writes the texts of a turn. -/
def display (shown : Shown) : IO Unit := do
  let out ← IO.getStdout
  let log ← IO.getStderr
  out.putStr shown.out
  out.flush
  log.putStr shown.log
  log.flush

/-- Reads one line; none when the input has ended. -/
def readAnswer : IO (Option String) := do
  let line ← (← IO.getStdin).getLine
  return if line.isEmpty then none else some (line.dropSuffix "\n").toString

/-- Plays a session until it no longer waits for answers. -/
partial def converse (session : Session) : IO Phase := do
  if session.phase.waits then
    let (next, shown) := session.answer (← readAnswer)
    display shown
    converse next
  else
    return session.phase

end CommandLine

end RegisterMachine

/-- The exit code is that of the session; a failed session exits with 1. -/
def main (arguments : List String) : IO UInt32 := do
  let (session, shown) := RegisterMachine.CommandLine.Session.start arguments
  RegisterMachine.CommandLine.display shown
  match ← RegisterMachine.CommandLine.converse session with
  | .exited code => return code.toUInt32
  | .failed cause => do
    IO.eprintln cause.message
    return 1
  | _ => return 1
