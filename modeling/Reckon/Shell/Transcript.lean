import Reckon.Shell.Step
import Reckon.Shell.TypedLine
import Reckon.Settings.Load

/-!
# Transcripts

All that the shell prints from its start, when lines are typed: a banner, and then the replies.
Blank lines are passed over, and after a line that stops the shell nothing follows.
-/

namespace Reckon.Shell

/-- A line of the banner between its borders. -/
def bannerLine (width : Nat) (s : String) : String :=
  "│" ++ Table.align .left (width - 2) s ++ "│\n"

/-- A box of the given width with the name of the program. -/
def banner (width : Nat) : String :=
  let border (left right : String) : String :=
    left ++ String.ofList (List.replicate (width - 2) '─') ++ right ++ "\n"
  border "╭" "╮"
    ++ String.join ((["", " arith 数式インタプリタ Arithmetic grammar v1.0", "",
      "     Type 'help' for commands, 'exit' to quit.", ""]).map (bannerLine width))
    ++ border "╰" "╯"

/-- The width of the console. -/
def consoleWidth : Nat := 100

/-- A shell on a console of that width. -/
def start (settings : Settings) : Shell := { ofSettings settings with width := consoleWidth }

/-- Is there nothing to do for the line? -/
def isIdle (line : List Char) : Bool := (trimBlanks line).isEmpty

/-- The replies to typed lines, until one stops the shell or is not handled, or the input ends. -/
def converse (sh : Shell) : List (List Char) → Except ShellError String
  | [] => .ok ""
  | typed :: rest =>
    match TypedLine.ofChars? typed with
    | none => .ok ""
    | some line =>
      if isIdle line then converse sh rest
      else
        let (sh, reply) := sh.step (String.ofList line)
        let text := reply.console ++ reply.output
        match reply.stop with
        | .error e => .error e
        | .ok true => .ok text
        | .ok false => (converse sh rest).map (text ++ ·)

/-- The transcript of a shell with the settings of a file. -/
def transcript (ini : Option String) (lines : List String) :
    Except LoadError (Except ShellError String) := do
  let settings ← Settings.load ini
  return (converse (start settings) (TypedLine.split lines)).map (banner consoleWidth ++ ·)

end Reckon.Shell
