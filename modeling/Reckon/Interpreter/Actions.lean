import Reckon.Interpreter.Session
import Reckon.Decimal.Read

/-!
# The value of an expression

The actions that evaluate a syntax tree of arithmetic. Operands and arguments are evaluated from
left to right; the function of a call is looked up, and the number of its arguments checked, before
any argument is evaluated. Division by zero and overflow are no errors, unless a plain number is
divided by a plain zero. What a function gives is no plain number. The value of a program is that of
its last expression, and an empty program has none.
-/

namespace Reckon.Interpreter

/-- A value, or none for an empty program. -/
abbrev Eval := Visit Session (Option Number)

abbrev EvalBody := Body Session (Option Number)

/-- Lets an action of the environment stand for a step of the evaluation. -/
def lift {α : Type} : Except EvalError α → Visit Session α
  | .ok a => pure a
  | .error e => Visit.fail (.eval e)

/-- The number, or a fault if there is none. -/
def orFail (e : Fault) : Option Number → Eval
  | some a => pure (some a)
  | none => Visit.fail e

/-- Evaluates the only child. -/
def delegate : EvalBody
  | _, [e] => e.visit
  | n, _ => Visit.fail (.malformed n.rule)

/-- Evaluates both operands and combines their values. Only a division may have no result. -/
def operate (f : Number → Number → Option Number) : EvalBody
  | n, [x, _, y] => do
    let a ← x.visit
    let b ← y.visit
    match a, b with
    | some a, some b => orFail .zeroDivision (f a b)
    | _, _ => Visit.fail (.malformed n.rule)
  | n, _ => Visit.fail (.malformed n.rule)

/-- Evaluates what stands between two parentheses. -/
def paren : EvalBody
  | _, [_, e, _] => e.visit
  | n, _ => Visit.fail (.malformed n.rule)

/-- Evaluates what follows a sign. -/
def signed (f : Number → Number) : EvalBody
  | n, [_, e] => do
    match ← e.visit with
    | some a => return some (f a)
    | none => Visit.fail (.malformed n.rule)
  | n, _ => Visit.fail (.malformed n.rule)

/-- Evaluates the right side and binds the name to its value. -/
def assign : EvalBody
  | n, [name, _, value] => do
    match ← value.visit with
    | none => Visit.fail (.malformed n.rule)
    | some a =>
      let s ← Visit.get
      Visit.set (← lift (s.assign name.node.source a))
      return some a
  | n, _ => Visit.fail (.malformed n.rule)

/-- Evaluates arguments from left to right. -/
def arguments (rule : String) : List (Branch Session (Option Number)) → Visit Session (List Number)
  | [] => pure []
  | b :: bs => do
    match ← b.visit with
    | none => Visit.fail (.malformed rule)
    | some a => return a :: (← arguments rule bs)

/-- Finds the function, evaluates the arguments and applies it. -/
def call : EvalBody
  | n, [callee, _, args, _] => do
    let name := callee.node.source
    let f ← lift ((← Visit.get).env.function name args.node.children.length)
    let values ← arguments n.rule args.children
    Visit.set ((← Visit.get).note (.called f.name values))
    orFail (.unanswered name) ((f.apply values).map (·.toIeee))
  | n, _ => Visit.fail (.malformed n.rule)

/-- The value of a name. -/
def identifier : EvalBody
  | n, [] => do return some (← lift ((← Visit.get).env.value n.source))
  | n, _ => Visit.fail (.malformed n.rule)

/-- The value of a numeral. -/
def numeral : EvalBody
  | n, [] =>
    match Decimal.unsigned? n.source.toList with
    | some x => pure (some (.ieee x))
    | none => Visit.fail (.malformed n.rule)
  | n, _ => Visit.fail (.malformed n.rule)

/-- Evaluates the branches in order, `last` being the value before them. -/
def inOrder (last : Option Number) : List (Branch Session (Option Number)) → Eval
  | [] => pure last
  | b :: bs => do inOrder (← b.visit) bs

def program : EvalBody
  | _, [statements] => inOrder none statements.children
  | n, _ => Visit.fail (.malformed n.rule)

/-- The actions of all rules, with the number of children that each takes. -/
def table : List (String × Nat × EvalBody) := [
  ("exp", 1, delegate),
  ("assign_exp", 1, delegate),
  ("assign_exp_assign", 3, assign),
  ("add_exp", 1, delegate),
  ("add_exp_plus", 3, operate fun a b => some (a.add b)),
  ("add_exp_minus", 3, operate fun a b => some (a.subtract b)),
  ("mul_exp", 1, delegate),
  ("mul_exp_times", 3, operate fun a b => some (a.multiply b)),
  ("mul_exp_divide", 3, operate Number.divide?),
  ("exp_exp", 1, delegate),
  ("exp_exp_power", 3, operate fun a b => some (a.power b)),
  ("pri_exp", 1, delegate),
  ("pri_exp_paren", 3, paren),
  ("pri_exp_pos", 2, signed id),
  ("pri_exp_neg", 2, signed Number.neg),
  ("pri_exp_call", 4, call),
  ("program", 1, program),
  ("IDENT", 0, identifier),
  ("NUMBER", 0, numeral)]

def registry : Registry EvalBody :=
  ⟨Arithmetic.grammar, table.map fun (rule, n, body) => (rule, .ofArity rule n body)⟩

/-- Evaluation with a limit of nesting. -/
def operation (maxDepth : Int) : Operation Session (Option Number) :=
  ⟨registry, fun values => values.getLast?.join, maxDepth⟩

end Reckon.Interpreter
