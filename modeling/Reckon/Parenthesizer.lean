import Reckon.Interpreter.Session

/-!
# Fully parenthesized text

Writes a program with parentheses around every operation, so that precedence and grouping show.
The parentheses of the program itself are dropped.
-/

namespace Reckon.Parenthesizer

/-- The texts of a node: one, or one for each item of a list. -/
abbrev Texts := Visit Unit (List String)

abbrev TextBody := Body Unit (List String)

/-- The text of a visited node. -/
def joined (ts : List String) : String := String.join ts

def delegate : TextBody
  | _, [e] => e.visit
  | n, _ => Visit.fail (.malformed n.rule)

def assign : TextBody
  | _, [name, _, value] => do return [name.node.source ++ " = " ++ joined (← value.visit)]
  | n, _ => Visit.fail (.malformed n.rule)

def operate : TextBody
  | _, [x, op, y] => do
    let a ← x.visit
    let b ← y.visit
    return ["(" ++ joined a ++ " " ++ op.node.source ++ " " ++ joined b ++ ")"]
  | n, _ => Visit.fail (.malformed n.rule)

def paren : TextBody
  | _, [_, e, _] => e.visit
  | n, _ => Visit.fail (.malformed n.rule)

def signed (sign : String) : TextBody
  | _, [_, e] => do return ["(" ++ sign ++ joined (← e.visit) ++ ")"]
  | n, _ => Visit.fail (.malformed n.rule)

def call : TextBody
  | _, [callee, _, args, _] => do
    return [callee.node.source ++ "(" ++ ", ".intercalate (← args.visit) ++ ")"]
  | n, _ => Visit.fail (.malformed n.rule)

/-- The text of a name or numeral. -/
def token : TextBody
  | n, [] => pure [n.source]
  | n, _ => Visit.fail (.malformed n.rule)

def program : TextBody
  | _, [statements] => do return ["; ".intercalate (← statements.visit)]
  | n, _ => Visit.fail (.malformed n.rule)

/-- The actions of all rules, with the number of children that each takes. -/
def table : List (String × Nat × TextBody) := [
  ("exp", 1, delegate),
  ("assign_exp", 1, delegate),
  ("assign_exp_assign", 3, assign),
  ("add_exp", 1, delegate),
  ("add_exp_plus", 3, operate),
  ("add_exp_minus", 3, operate),
  ("mul_exp", 1, delegate),
  ("mul_exp_times", 3, operate),
  ("mul_exp_divide", 3, operate),
  ("exp_exp", 1, delegate),
  ("exp_exp_power", 3, operate),
  ("pri_exp", 1, delegate),
  ("pri_exp_paren", 3, paren),
  ("pri_exp_pos", 2, signed "+"),
  ("pri_exp_neg", 2, signed "-"),
  ("pri_exp_call", 4, call),
  ("program", 1, program),
  ("IDENT", 0, token),
  ("NUMBER", 0, token)]

def registry : Registry TextBody :=
  ⟨Arithmetic.grammar, table.map fun (rule, n, body) => (rule, .ofArity rule n body)⟩

def operation (maxDepth : Int) : Operation Unit (List String) := ⟨registry, List.flatten, maxDepth⟩

/-- The text of a syntax tree. -/
def render (n : Node) : Except Fault String :=
  (((operation defaultMaxDepth).visit n).run.run ⟨0, ()⟩).1.map joined

end Reckon.Parenthesizer

namespace Reckon

/-- The program with parentheses around every operation. -/
def parenthesize (source : String) : Except RunError String :=
  match Arithmetic.parse "program" source with
  | .error e => .error (.unmatched e)
  | .ok n => (Parenthesizer.render n).mapError .fault

end Reckon
