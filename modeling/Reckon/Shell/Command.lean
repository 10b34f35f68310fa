import Reckon.Text.Blank
import Reckon.Text.Parts

/-!
# Command lines

A line is trimmed. If it starts with a command word it is that command, and what follows the word
is its argument. The word is the longest run of ASCII letters, digits and underscores at the start,
so `vars=3` is a command. A leading `?` asks for help. Every other line is a program.
-/

namespace Reckon

inductive Command where
  | vars
  | reset
  | parse
  | set
  | exit
  | quit
  | endOfInput
  | help
  deriving Repr, DecidableEq

namespace Command

def ofWord? : String → Option Command
  | "vars" => some vars
  | "reset" => some reset
  | "parse" => some parse
  | "set" => some set
  | "exit" => some exit
  | "quit" => some quit
  | "EOF" => some endOfInput
  | "help" => some help
  | _ => none

end Command

/-- What is typed on a line. -/
inductive Input where
  | empty
  | command (c : Command) (argument : String)
  | program (text : String)
  deriving Repr, DecidableEq

namespace Input

def isCommandChar (c : Char) : Bool := c.isAlphanum || c == '_'

/-- Takes a trimmed line apart. -/
def ofTrimmed (cs : List Char) : Input :=
  let word := cs.takeWhile isCommandChar
  match Command.ofWord? (String.ofList word) with
  | some c => .command c (String.ofList (trimBlanks (cs.dropWhile isCommandChar)))
  | none => .program (String.ofList cs)

def ofLine (line : String) : Input :=
  match trimBlanks line.toList with
  | [] => .empty
  | '?' :: rest => .command .help (String.ofList (trimBlanks rest))
  | cs => ofTrimmed cs

end Input

/-- The words of a text, which blanks divide. -/
def blankWords (cs : List Char) : List String :=
  ((parts isBlank cs).filter (!·.isEmpty)).map String.ofList

end Reckon
