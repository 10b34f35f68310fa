import Reckon.Grammar.Basic

/-!
# Building grammars

A grammar is built from declared rules and a start rule. The declarations are read in order: names
must fit their kind and be new, every rule needs alternatives, and only syntactic rules have
labels. Then the bodies of all rules are checked, and at last the start rule. The first fault
found is reported.
-/

namespace Reckon

/-- Why a list of rules is no grammar. -/
inductive GrammarError where
  | invalidName (kind : RuleKind) (name : String)
  | duplicateRule (name : String)
  | noAlternatives (name : String)
  | labelledLexical (name : String)
  | emptyLexicalAlternative (name : String)
  | lexicalItem (name : String) (item : Item)
  | emptyAlternative (name : String)
  | patternInSyntactic (name : String)
  | undeclared (name target : String)
  | noSeparator (name : String)
  | inconsistentArity (name : String) (arities : List Nat)
  | undefinedStart (name : String)
  | lexicalStart (name : String)
  | notSyntactic (start grammar : String)
  /-- Two rules that start at the same place have the same body. -/
  | indistinct
  deriving Repr, DecidableEq

namespace GrammarError

def natList (ns : List Nat) : String := "[" ++ ", ".intercalate (ns.map toString) ++ "]"

def message : GrammarError → String
  | invalidName kind name => "Invalid " ++ kind.text ++ " rule name '" ++ name ++ "'"
  | duplicateRule name => "Duplicate declaration for rule '" ++ name ++ "'"
  | noAlternatives name => "Rule '" ++ name ++ "' has no alternatives"
  | labelledLexical name => "Lexical rule '" ++ name ++ "' cannot have labelled alternatives"
  | emptyLexicalAlternative name => "Lexical rule '" ++ name ++ "' has an empty alternative"
  | lexicalItem name item =>
    "Lexical rule '" ++ name ++ "' may only contain patterns and literals, got " ++ item.toText
  | emptyAlternative name =>
    "Rule '" ++ name ++ "' has an empty alternative; use ListOf for optional repetition"
  | patternInSyntactic name =>
    "Syntactic rule '" ++ name ++ "' cannot contain a pattern; declare a lexical rule"
  | undeclared name target => "Rule '" ++ name ++ "' references undeclared rule '" ++ target ++ "'"
  | noSeparator name => "Rule '" ++ name ++ "' has a ListOf without separator"
  | inconsistentArity name arities =>
    "Alternatives of rule '" ++ name ++ "' have inconsistent arity: " ++ natList arities
      ++ " (label the alternatives to split them into their own rules)"
  | undefinedStart name => "Start rule '" ++ name ++ "' is not defined"
  | lexicalStart name => "Start rule '" ++ name ++ "' must be a syntactic rule"
  | notSyntactic start grammar => "'" ++ start ++ "' is not a syntactic rule of " ++ grammar
  | indistinct => "two rules cannot be told apart"

end GrammarError

namespace RuleKind

def isLetter : RuleKind → Char → Bool
  | syntactic, c => c.isLower
  | lexical, c => c.isUpper

/-- A letter of the kind's case, then such letters, digits and underscores; one line feed may end
the name. -/
def admits (k : RuleKind) (name : String) : Bool :=
  let cs := name.toList
  let cs := if cs.getLast? = some '\n' then cs.dropLast else cs
  match cs with
  | [] => false
  | c :: rest => k.isLetter c && rest.all fun c => k.isLetter c || c.isDigit || c == '_'

end RuleKind

namespace Rule

/-- Checks a declaration, `seen` being the names declared before it. -/
def checkHead (seen : List String) (r : Rule) : Except GrammarError Unit :=
  if !r.kind.admits r.name then .error (.invalidName r.kind r.name)
  else if seen.contains r.name then .error (.duplicateRule r.name)
  else if r.alternatives.isEmpty then .error (.noAlternatives r.name)
  else if r.isLexical && r.alternatives.any (·.label.isSome) then .error (.labelledLexical r.name)
  else .ok ()

/-- Checks the declarations in order and gives the names declared. -/
def checkHeads (seen : List String) : List Rule → Except GrammarError (List String)
  | [] => .ok seen
  | r :: rest => do
    r.checkHead seen
    checkHeads (seen ++ [r.name]) rest

/-- Checks declared rules in order, each followed by the rules split off from it. -/
def checkDeclared (seen : List String) : List Rule → Except GrammarError (List String)
  | [] => .ok seen
  | r :: rest => do checkDeclared (← checkHeads seen (r :: r.inlined)) rest

/-- Checks an item of a syntactic rule. -/
def checkItem (names : List String) (r : Rule) (i : Item) : Except GrammarError Unit :=
  if i.isPattern then .error (.patternInSyntactic r.name)
  else
    match i.target? with
    | some t =>
      if !names.contains t then .error (.undeclared r.name t)
      else
        match i with
        | .listOf _ separator => if separator.isEmpty then .error (.noSeparator r.name) else .ok ()
        | _ => .ok ()
    | none => .ok ()

def checkSyntacticAlternative (names : List String) (r : Rule) (a : Alternative) :
    Except GrammarError Unit :=
  if a.body.isEmpty then .error (.emptyAlternative r.name) else a.body.forM (r.checkItem names)

def checkLexicalAlternative (r : Rule) (a : Alternative) : Except GrammarError Unit :=
  if a.body.isEmpty then .error (.emptyLexicalAlternative r.name)
  else
    match a.body.find? (!·.isLexical) with
    | some i => .error (.lexicalItem r.name i)
    | none => .ok ()

/-- Are all alternatives of one length? -/
def hasOneArity (r : Rule) : Bool := r.alternatives.all fun a => a.arity == r.arity

/-- Checks the body of a rule whose labels were split off. -/
def checkBody (names : List String) (r : Rule) : Except GrammarError Unit :=
  if r.isLexical then r.alternatives.forM r.checkLexicalAlternative
  else do
    r.alternatives.forM (r.checkSyntacticAlternative names)
    if !r.hasOneArity then .error (.inconsistentArity r.name (r.alternatives.map (·.arity)))

end Rule

namespace Grammar

/-! ## List rules -/

/-- The names that a list rule may get, in order of preference. -/
def listCandidate (item : String) : Nat → String
  | 0 => item ++ "_list"
  | n + 1 => item ++ "_list" ++ toString (n + 2)

/-- The first candidate that is not taken. There is one more candidate than there are names taken,
so one is free. -/
def freshListName (taken : List String) (item : String) : String :=
  let candidates := (List.range (taken.length + 1)).map (listCandidate item)
  (candidates.find? (!taken.contains ·)).getD (listCandidate item 0)

/-- The lists that occur in the rules, in order. -/
def listItems (rules : List Rule) : List ListKey :=
  rules.flatMap fun r => r.alternatives.flatMap fun a => a.body.filterMap fun
    | .listOf item separator => some (item, separator)
    | _ => none

/-- Gives a name to a list that has none yet. -/
def nameList (ruleNames : List String) (lists : List (ListKey × String)) (key : ListKey) :
    List (ListKey × String) :=
  if lists.any (·.1 == key) then lists
  else lists ++ [(key, freshListName (ruleNames ++ lists.map (·.2)) key.1)]

def nameLists (rules : List Rule) : List (ListKey × String) :=
  (listItems rules).foldl (nameList (rules.map (·.name))) []

/-! ## Grammars -/

/-- The grammar of declared rules, unchecked. -/
def assemble (name version : String) (declared : List Rule) (start : String) : Grammar :=
  let rules := declared.flatMap (·.expand)
  ⟨name, version, start, rules, nameLists rules⟩

def checkStart (g : Grammar) : Except GrammarError Unit :=
  match g.rule? g.start with
  | none => .error (.undefinedStart g.start)
  | some r => if r.isLexical then .error (.lexicalStart g.start) else .ok ()

/-- Checks declared rules and builds their grammar. -/
def build (name version : String) (declared : List Rule) (start : String) :
    Except GrammarError Grammar := do
  let names ← Rule.checkDeclared [] declared
  let g := assemble name version declared start
  g.rules.forM (·.checkBody names)
  g.checkStart
  return g

end Grammar

end Reckon
