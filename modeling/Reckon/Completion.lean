import Reckon.Environment.Basic
import Reckon.Text.Blank

/-!
# Completion

The words that can complete what is typed: the names of the environment in order, then the commands
of the shell. The word before the cursor is the longest run there of ASCII letters, digits and
underscores, or of other characters that are not blank.
-/

namespace Reckon.Completion

def commands : List String := ["vars", "parse", "set", "reset", "help", "exit", "quit"]

def words (env : Environment) : List String :=
  env.names.mergeSort (fun a b => decide (a ≤ b)) ++ commands

def isAsciiWord (c : Char) : Bool := c.isAlphanum || c == '_'

/-- The word that ends at the end of the text. -/
def lastWord (text : String) : String :=
  match text.toList.reverse with
  | [] => ""
  | c :: rest =>
    let run :=
      if isAsciiWord c then (c :: rest).takeWhile isAsciiWord
      else (c :: rest).takeWhile fun c => !isAsciiWord c && !isBlank c
    String.ofList run.reverse

/-- The words that complete the text. -/
def completions (env : Environment) (text : String) : List String :=
  (words env).filter (·.startsWith (lastWord text))

end Reckon.Completion
