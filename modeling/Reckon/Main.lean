import Reckon.Shell.Transcript

/-!
# The program

Reads the settings from `config.ini`, prints the banner, and answers the lines of the standard input
until it ends or a line stops the shell. Records go to the standard error.
-/

namespace Reckon.Program

/-- The text of a file, if it can be read. -/
def readFile? (name : String) : IO (Option String) := do
  try
    return some (← IO.FS.readFile name)
  catch _ =>
    return none

/-- The line without its line end. -/
def chomp (line : String) : List Char := line.toList.filter (· != '\n')

partial def loop (sh : Shell) (input : IO.FS.Stream) : IO UInt32 := do
  let line ← input.getLine
  if line.isEmpty then return 0
  match TypedLine.ofChars? (chomp line) with
  | none => return 0
  | some line =>
    if Shell.isIdle line then loop sh input
    else
      let (sh, reply) := sh.step (String.ofList line)
      for r in reply.records do
        IO.eprintln (r.origin ++ " - " ++ r.level.name ++ " - " ++ r.message)
      IO.print (reply.console ++ reply.output)
      (← IO.getStdout).flush
      match reply.stop with
      | .ok true => return 0
      | .ok false => loop sh input
      | .error e =>
        IO.eprintln e.message
        return 1

end Reckon.Program

def main : IO UInt32 := do
  match Reckon.Settings.load (← Reckon.Program.readFile? "config.ini") with
  | .error e =>
    IO.eprintln e.message
    return 1
  | .ok settings =>
    IO.print (Reckon.Shell.banner Reckon.Shell.consoleWidth)
    Reckon.Program.loop (Reckon.Shell.start settings) (← IO.getStdin)
