import Reckon.Text.Uppercase
import Reckon.Text.Quoted

/-!
# Grammars as data

A rule has alternatives, an alternative is a row of items. A rule whose name starts with an upper
case letter is lexical: it matches one token. All other rules are syntactic. An alternative with a
label stands for a rule of its own, named after the rule and the label.
-/

namespace Reckon

/-- What an alternative is made of. -/
inductive Item where
  | ref (name : String)
  | lit (text : String)
  | pattern (regex : String)
  /-- Any number of `item`, with `separator` between them. -/
  | listOf (item separator : String)
  deriving Repr, DecidableEq

structure Alternative where
  body : List Item
  label : Option String := none
  deriving Repr, DecidableEq

structure Rule where
  name : String
  alternatives : List Alternative
  description : Option String := none
  deriving Repr, DecidableEq

inductive RuleKind where
  | syntactic
  | lexical
  deriving Repr, DecidableEq

namespace RuleKind

def text : RuleKind → String
  | syntactic => "syntactic"
  | lexical => "lexical"

/-- The kind of a rule is read off the first letter of its name. -/
def ofName (name : String) : RuleKind :=
  match name.toList with
  | c :: _ => if isUppercase c then lexical else syntactic
  | [] => syntactic

end RuleKind

namespace Item

/-- The rule that an item refers to. -/
def target? : Item → Option String
  | ref name => some name
  | listOf item _ => some item
  | _ => none

def isPattern : Item → Bool
  | pattern _ => true
  | _ => false

/-- May the item stand in a lexical rule? -/
def isLexical : Item → Bool
  | pattern _ => true
  | lit _ => true
  | _ => false

/-- The item as a term. -/
def toText : Item → String
  | ref name => "Ref(name=" ++ quoted name ++ ")"
  | lit text => "Lit(text=" ++ quoted text ++ ")"
  | pattern regex => "Pattern(regex=" ++ quoted regex ++ ")"
  | listOf item separator =>
    "ListOf(item=" ++ quoted item ++ ", separator=" ++ quoted separator ++ ")"

end Item

namespace Alternative

/-- The number of child nodes that the alternative makes. -/
def arity (a : Alternative) : Nat := a.body.length

/-- The alternative as a term, followed by its label. -/
def toText (a : Alternative) : String :=
  let suffix :=
    match a.label with
    | some l => if l.isEmpty then "" else " -- " ++ l
    | none => ""
  "Alt(" ++ ", ".intercalate (a.body.map Item.toText) ++ ")" ++ suffix

end Alternative

namespace Rule

def kind (r : Rule) : RuleKind := .ofName r.name

def isLexical (r : Rule) : Bool := r.kind == .lexical

/-- The name of the rule that a labelled alternative stands for. -/
def labelled (name label : String) : String := name ++ "_" ++ label

/-- The rules that the labelled alternatives of a rule stand for. -/
def inlined (r : Rule) : List Rule :=
  r.alternatives.filterMap fun a => a.label.map fun l => ⟨labelled r.name l, [⟨a.body, none⟩], none⟩

/-- The rule with each labelled alternative replaced by a reference to its own rule. -/
def delegating (r : Rule) : Rule :=
  { r with
    alternatives := r.alternatives.map fun a =>
      match a.label with
      | some l => ⟨[.ref (labelled r.name l)], none⟩
      | none => a }

/-- The rule and the rules split off from it. -/
def expand (r : Rule) : List Rule := r.delegating :: r.inlined

/-- The number of children of a node of the rule; a lexical rule has none. -/
def arity (r : Rule) : Nat :=
  if r.isLexical then 0
  else
    match r.alternatives with
    | a :: _ => a.arity
    | [] => 0

def toText (r : Rule) : String :=
  "Rule(" ++ quoted r.name ++ ", " ++ toString r.alternatives.length ++ " alternatives)"

end Rule

/-- A list item and its separator. -/
abbrev ListKey := String × String

/-- A grammar: its rules with labels split off, in order, and the names of its list rules. -/
structure Grammar where
  name : String
  version : String
  start : String
  rules : List Rule
  lists : List (ListKey × String)
  deriving Repr, DecidableEq

namespace Grammar

def ruleNames (g : Grammar) : List String := g.rules.map (·.name)

def rule? (g : Grammar) (name : String) : Option Rule := g.rules.find? (·.name == name)

def contains (g : Grammar) (name : String) : Bool := g.rules.any (·.name == name)

/-- Is `name` a syntactic rule of the grammar? -/
def isSyntactic (g : Grammar) (name : String) : Bool :=
  match g.rule? name with
  | some r => !r.isLexical
  | none => false

def lexicalNames (g : Grammar) : List String := (g.rules.filter (·.isLexical)).map (·.name)

def listNames (g : Grammar) : List String := g.lists.map (·.2)

def arity (g : Grammar) (name : String) : Nat :=
  match g.rule? name with
  | some r => r.arity
  | none => 0

/-- The description of a rule if it has one, and else its name. -/
def description (g : Grammar) (name : String) : String :=
  match g.rule? name with
  | some { description := some d, .. } => if d.isEmpty then name else d
  | _ => name

def toText (g : Grammar) : String :=
  "<GrammarSpec " ++ g.name ++ " v" ++ g.version ++ " (" ++ toString g.rules.length ++ " rules)>"

end Grammar

end Reckon
