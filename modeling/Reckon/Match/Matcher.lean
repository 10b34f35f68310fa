import Reckon.Grammar.Check
import Reckon.Lexis.Pattern
import Reckon.Lexis.Token
import Reckon.Cfg.Chart
import Reckon.Cfg.Corner
import Reckon.Match.Failure
import Reckon.Node

/-!
# Matching a text

A grammar is turned into terminals for the scanner and productions for the chart. A list becomes
two nonterminals: the list, which may be empty, and the row of its items. The derivation tree of a
text becomes a syntax tree whose nodes know the part of the text that they span.
-/

namespace Reckon

/-- The nonterminals of a grammar: its rules, its lists, and the items of a nonempty list. -/
inductive Category where
  | rule (name : String)
  | list (item separator : String)
  | items (item separator : String)
  deriving Repr, DecidableEq

/-- Why a text has no syntax tree. -/
inductive MatchError where
  | refused (e : GrammarError)
  | failed (f : MatchFailure)
  deriving Repr, DecidableEq

namespace Grammar

open Cfg

/-! ## Terminals -/

def itemForm : Item → Regex
  | .lit text => .ofText text.toList
  | .pattern regex => (Pattern.toRegex? regex).getD .nothing
  | _ => .nothing

/-- The words of a lexical rule; a pattern that cannot be read has none. -/
def ruleForm (r : Rule) : Regex :=
  r.alternatives.foldr (fun a s => .alt (a.body.foldr (fun i s => .seq (itemForm i) s) .empty) s)
    .nothing

/-- The literals of the syntactic rules. -/
def literals (g : Grammar) : List String :=
  let ofItem : Item → List String
    | .lit text => [text]
    | .listOf _ separator => [separator]
    | _ => []
  ((g.rules.filter (!·.isLexical)).flatMap fun r =>
    r.alternatives.flatMap fun a => a.body.flatMap ofItem).eraseDups

/-- The terminals, literals before lexical rules. -/
def forms (g : Grammar) : List Terminal.Form :=
  g.literals.map (fun l => ⟨.literal l, .ofText l.toList⟩)
    ++ (g.rules.filter (·.isLexical)).map fun r => ⟨.lexical r.name, ruleForm r⟩

/-! ## Productions -/

/-- A reference to a lexical rule is a terminal, one to a syntactic rule a nonterminal. -/
def reference (name : String) : Cfg.Symbol Terminal Category :=
  match RuleKind.ofName name with
  | .lexical => .terminal (.lexical name)
  | .syntactic => .nonterminal (.rule name)

def symbol : Item → Cfg.Symbol Terminal Category
  | .ref name => reference name
  | .lit text => .terminal (.literal text)
  | .pattern regex => .terminal (.lexical regex)
  | .listOf item separator => .nonterminal (.list item separator)

/-- A list is empty or a row of items, and a row of items grows at its end. -/
def listProductions : ListKey → List (Production Terminal Category)
  | (item, separator) =>
    [⟨.list item separator, []⟩,
      ⟨.list item separator, [.nonterminal (.items item separator)]⟩,
      ⟨.items item separator, [reference item]⟩,
      ⟨.items item separator, [.nonterminal (.items item separator),
        .terminal (.literal separator), reference item]⟩]

def ruleProductions (r : Rule) : List (Production Terminal Category) :=
  r.alternatives.map fun a => ⟨.rule r.name, a.body.map symbol⟩

def productions (g : Grammar) : List (Production Terminal Category) :=
  (g.rules.filter (!·.isLexical)).flatMap ruleProductions
    ++ g.lists.flatMap fun l => listProductions l.1

/-- What is said of a terminal that was expected. -/
def describe (g : Grammar) : Terminal → String
  | .literal text => "\"" ++ text ++ "\""
  | .lexical name => g.description name

end Grammar

/-! ## Syntax trees -/

namespace Node

/-- The characters from `start` up to `stop`. -/
def slice (text : List Char) (start stop : Nat) : String :=
  String.ofList ((text.drop start).take (stop - start))

def ofToken (a : Token) : Node :=
  let name :=
    match a.terminal with
    | .literal _ => terminalName
    | .lexical rule => rule
  ⟨name, [], a.text, a.start, a.stop⟩

/-- A node over the given parts, which spans from the first to the last of them; without parts it
stands where the last token ended. -/
def spanning (text : List Char) (rule : String) (parts children : List Node) (last : Nat) : Node :=
  let start := (parts.head?.map (·.start)).getD last
  let stop := (parts.getLast?.map (·.stop)).getD last
  ⟨rule, children, slice text start stop, start, stop⟩

mutual

/-- The nodes of a derivation tree, and the end of its last token, `last` being the end of the token
before it. The items of a list are nodes in a row. -/
def ofTree (text : List Char) (last : Nat) : Cfg.Tree Token Category → List Node × Nat
  | .leaf a => ([ofToken a], a.stop)
  | .node n ts =>
    let (parts, last) := ofTrees text last ts
    match n with
    | .items _ _ => (parts, last)
    | .list _ _ => ([spanning text iterationName parts (parts.filter (!·.isTerminal)) last], last)
    | .rule name => ([spanning text name parts parts last], last)

def ofTrees (text : List Char) (last : Nat) : List (Cfg.Tree Token Category) → List Node × Nat
  | [] => ([], last)
  | t :: ts =>
    let (ns, last) := ofTree text last t
    let (ms, last) := ofTrees text last ts
    (ns ++ ms, last)

end

end Node

/-! ## Matchers -/

/-- A grammar made ready for matching. -/
structure Matcher where
  grammar : Grammar
  forms : List Terminal.Form
  productions : List (Cfg.Production Terminal Category)
  /-- The nonterminals where two rules cannot be told apart. -/
  clashing : List Category

namespace Matcher

open Cfg

def ofGrammar (g : Grammar) : Matcher :=
  let ps := g.productions
  ⟨g, g.forms, ps, Cfg.clashing ps⟩

/-- The start rule has to be a syntactic rule from which no two rules are reached that cannot be
told apart. -/
def checkStart (m : Matcher) (start : String) : Except GrammarError Unit :=
  if !m.grammar.isSyntactic start then .error (.notSyntactic start m.grammar.name)
  else if m.clashing.any (· ∈ reachable m.productions (.rule start)) then .error .indistinct
  else .ok ()

def chart (m : Matcher) (start : String) : Chart Token Terminal Category :=
  ⟨m.productions.zipIdx.map Prod.swap, .rule start, Token.terminal⟩

/-- The descriptions of all that may come next, sorted and without repetition. -/
def expected (m : Matcher) (c : Column Token Terminal Category) : List String :=
  let ending := if c.sentence.isSome then ["end of input"] else []
  let all := ending ++ c.expected.map m.grammar.describe
  (all.mergeSort (fun a b => decide (a ≤ b))).eraseDups

/-- Reads a text from a start rule of the grammar: its syntax tree, or the first place where it
cannot go on. -/
def parseFrom (m : Matcher) (start : String) (text : List Char) : Except MatchFailure Node :=
  let scan := Scan.ofText m.forms text
  let (column, rest) := (m.chart start).read scan.tokens
  let fail (p : Nat) := Except.error (MatchFailure.atPosition text p (m.expected column))
  match rest, scan.stuck, column.sentence with
  | a :: _, _, _ => fail a.start
  | [], some p, _ => fail p
  | [], none, none => fail text.length
  | [], none, some t =>
    match (Node.ofTree text 0 t).1 with
    | n :: _ => .ok n
    | [] => fail text.length

/-- The start rule of a request; an empty name stands for the grammar's own. -/
def startOf (m : Matcher) (start : String) : String :=
  if start.isEmpty then m.grammar.start else start

/-- Matches a text against a start rule. -/
def parse (m : Matcher) (start : String) (text : String) : Except MatchError Node :=
  let start := m.startOf start
  match m.checkStart start with
  | .error e => .error (.refused e)
  | .ok () => (m.parseFrom start text.toList).mapError .failed

end Matcher

end Reckon
