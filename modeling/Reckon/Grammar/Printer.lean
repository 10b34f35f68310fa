import Reckon.Grammar.Basic

/-!
# Grammars as text

A grammar is written in EBNF for parser generators: a rule a line, lists as rules of their own with
the names that the grammar gives them, lexical rules as one regular expression between slashes.
-/

namespace Reckon

namespace Grammar

/-- The characters that need a backslash in a regular expression. -/
def isRegexSpecial (c : Char) : Bool := "()[]\x7b\x7d?*+-|^$\\.&~# \t\n\r\x0b\x0c".toList.contains c

/-- A text that stands for itself in a regular expression. -/
def escapeRegex (cs : List Char) : List Char :=
  cs.flatMap fun c => if isRegexSpecial c then ['\\', c] else [c]

/-- A slash would end the regular expression, so it gets a backslash. -/
def escapeSlashes (cs : List Char) : List Char :=
  cs.flatMap fun c => if c == '/' then ['\\', c] else [c]

/-- A literal between double quotes. -/
def literal (cs : List Char) : List Char :=
  '"' :: cs.flatMap (fun c => if c == '\\' || c == '"' then ['\\', c] else [c]) ++ ['"']

def itemRegex : Item → List Char
  | .pattern regex => "(?:".toList ++ regex.toList ++ [')']
  | .lit text => escapeRegex text.toList
  | _ => []

/-- The regular expression of a lexical rule: its alternatives, grouped if there are several. -/
def ruleRegex (r : Rule) : List Char :=
  let choices := r.alternatives.map fun a => a.body.flatMap itemRegex
  let regex :=
    match choices with
    | [c] => c
    | cs => "(?:".toList ++ ['|'].intercalate cs ++ [')']
  escapeSlashes regex

def listName? (g : Grammar) (key : ListKey) : Option String :=
  (g.lists.find? (·.1 == key)).map (·.2)

/-- An item of a syntactic rule; a pattern has no place there. -/
def itemText? (g : Grammar) : Item → Option String
  | .ref name => some name
  | .lit text => some (String.ofList (literal text.toList))
  | .listOf item separator => g.listName? (item, separator)
  | .pattern _ => none

def ruleText? (g : Grammar) (r : Rule) : Option String :=
  if r.isLexical then some (r.name ++ ": /" ++ String.ofList (ruleRegex r) ++ "/")
  else do
    let choices ← r.alternatives.mapM fun a => return " ".intercalate (← a.body.mapM g.itemText?)
    return r.name ++ ": " ++ "\n    | ".intercalate choices

def listText : ListKey × String → String
  | ((item, separator), name) =>
    let separator := String.ofList (literal separator.toList)
    name ++ ": (" ++ item ++ " (" ++ separator ++ " " ++ item ++ ")*)?"

/-- The grammar in EBNF. -/
def render? (g : Grammar) : Option String := do
  let rules ← g.rules.mapM g.ruleText?
  let lines := ["// " ++ g.name ++ " grammar v" ++ g.version] ++ rules ++ g.lists.map listText
    ++ ["%import common.WS", "%ignore WS"]
  return "\n".intercalate lines ++ "\n"

end Grammar

end Reckon
