import Reckon.Interpreter.Run

/-!
# The abstract syntax of arithmetic

An expression without parentheses and without the levels of precedence (`Expr`). `Node.erase` takes
a syntax tree of arithmetic to its expression: the rules that only pass on their one child, and the
parentheses, leave no trace. `Expr.eval` is the value of an expression in a session, and `evalAll`
that of a program, said without trees, registries and depths.
-/

namespace Reckon

namespace Arithmetic

inductive Operator where
  | plus
  | minus
  | times
  | divide
  | power
  deriving Repr, DecidableEq

namespace Operator

def symbol : Operator → String
  | plus => "+"
  | minus => "-"
  | times => "*"
  | divide => "/"
  | power => "^"

/-- The result of the operation. Only a division may have none. -/
def apply : Operator → Number → Number → Option Number
  | plus => fun a b => some (a.add b)
  | minus => fun a b => some (a.subtract b)
  | times => fun a b => some (a.multiply b)
  | divide => Number.divide?
  | power => fun a b => some (a.power b)

end Operator

inductive Expr where
  | number (text : String)
  | name (text : String)
  | assign (target : String) (value : Expr)
  | sign (negative : Bool) (operand : Expr)
  | binary (op : Operator) (left right : Expr)
  | call (callee : String) (arguments : List Expr)

/-- The number that a numeral stands for. -/
def numeralValue (text : String) : Number := .ieee ((Decimal.unsigned? text.toList).getD 0)

def signSymbol (negative : Bool) : String := if negative then "-" else "+"

def signValue (negative : Bool) (a : Number) : Number := if negative then a.neg else a

/-! ## Values -/

/-- What an evaluation comes to: a result, and the session that it leaves, also when it fails. -/
abbrev Outcome (α : Type) := Except Fault α × Session

/-- The number, or a fault if there is none. -/
def orFault (e : Fault) (a : Option Number) : Except Fault Number := a.elim (.error e) .ok

/-- Goes on with the result of an evaluation, unless it failed. -/
def Outcome.andThen {α β : Type} : Outcome α → (α → Session → Outcome β) → Outcome β
  | (.ok a, s), f => f a s
  | (.error e, s), _ => (.error e, s)

namespace Expr

mutual

/-- The value of an expression. Operands and arguments are evaluated from left to right, a function
is looked up before its arguments, and a name is bound after its value is known. -/
def eval : Expr → Session → Outcome Number
  | number text, s => (.ok (numeralValue text), s)
  | name x, s => ((s.env.value x).mapError .eval, s)
  | assign x e, s => (e.eval s).andThen fun a s =>
      match s.assign x a with
      | .ok t => (.ok a, t)
      | .error err => (.error (.eval err), s)
  | sign negative e, s => (e.eval s).andThen fun a s => (.ok (signValue negative a), s)
  | binary op l r, s => (l.eval s).andThen fun a s => (r.eval s).andThen fun b s =>
      (orFault .zeroDivision (op.apply a b), s)
  | call f es, s =>
      match s.env.lookup f with
      | none => (.error (.eval (.undefinedName f)), s)
      | some (.function g) =>
        if g.arity = es.length then
          (evalEach es s).andThen fun as s =>
            (orFault (.unanswered f) ((g.apply as).map (·.toIeee)), s.note (.called g.name as))
        else (.error (.eval (.arityMismatch f g.arity es.length)), s)
      | some b => (.error (.eval (.notCallable f b.kind)), s)

def evalEach : List Expr → Session → Outcome (List Number)
  | [], s => (.ok [], s)
  | e :: es, s => (e.eval s).andThen fun a s => (evalEach es s).andThen fun as s => (.ok (a :: as), s)

end

/-- The value of a program is that of its last expression, `last` if there is none. -/
def evalAll (last : Option Number) : List Expr → Session → Outcome (Option Number)
  | [], s => (.ok last, s)
  | e :: es, s => (e.eval s).andThen fun a s => evalAll (some a) es s

end Expr

/-! ## Erasure -/

/-- What the nodes of a rule are in the abstract syntax. -/
inductive Construct where
  | delegate
  | paren
  | assign
  | call
  | name
  | number
  | sign (negative : Bool)
  | binary (op : Operator)
  deriving Repr, DecidableEq

def construct? : String → Option Construct
  | "exp" | "assign_exp" | "add_exp" | "mul_exp" | "exp_exp" | "pri_exp" => some .delegate
  | "assign_exp_assign" => some .assign
  | "add_exp_plus" => some (.binary .plus)
  | "add_exp_minus" => some (.binary .minus)
  | "mul_exp_times" => some (.binary .times)
  | "mul_exp_divide" => some (.binary .divide)
  | "exp_exp_power" => some (.binary .power)
  | "pri_exp_paren" => some .paren
  | "pri_exp_pos" => some (.sign false)
  | "pri_exp_neg" => some (.sign true)
  | "pri_exp_call" => some .call
  | "IDENT" => some .name
  | "NUMBER" => some .number
  | _ => none

end Arithmetic

namespace Node

open Arithmetic

mutual

/-- The expression of a syntax tree. -/
def erase : Node → Option Expr
  | ⟨rule, children, source, _, _⟩ =>
    match construct? rule, children with
    | some .delegate, [e] => e.erase
    | some .paren, [_, e, _] => e.erase
    | some .assign, [x, _, e] => e.erase.map (.assign x.source)
    | some (.sign negative), [_, e] => e.erase.map (.sign negative)
    | some (.binary op), [l, o, r] =>
      if o.source = op.symbol then l.erase.bind fun a => r.erase.map (.binary op a) else none
    | some .call, [f, _, ⟨list, es, _, _, _⟩, _] =>
      if list = iterationName then (eraseEach es).map (.call f.source) else none
    | some .name, [] => some (.name source)
    | some .number, [] =>
      if (Decimal.unsigned? source.toList).isSome then some (.number source) else none
    | _, _ => none

def eraseEach : List Node → Option (List Expr)
  | [] => some []
  | n :: ns => n.erase.bind fun e => (eraseEach ns).map (e :: ·)

end

/-- The expressions of a program. -/
def statements : Node → Option (List Expr)
  | ⟨"program", [⟨list, es, _, _, _⟩], _, _, _⟩ =>
    if list = iterationName then eraseEach es else none
  | _ => none

theorem statements_eq_some {n : Node} {es : List Expr} (h : n.statements = some es) :
    ∃ list, n.rule = "program" ∧ n.children = [list] ∧ list.rule = iterationName ∧
      eraseEach list.children = some es := by
  unfold statements at h
  split at h
  · split at h
    · rename_i hlist
      exact ⟨_, rfl, rfl, hlist, h⟩
    · cases h
  · cases h

/-! ## Nesting -/

/-- Is the first child a name that is not visited: the target of an assignment, or a callee? -/
def startsWithName (rule : String) : Bool :=
  rule == "assign_exp_assign" || rule == "pri_exp_call"

mutual

/-- How deep the visits of an evaluation are nested: a node counts unless it has exactly one child.
Literals and lists are not visited, nor the names of targets and callees. -/
def nesting : Node → Nat
  | ⟨rule, children, _, _, _⟩ =>
    let inner := deepest (startsWithName rule) children
    if rule = terminalName then 0
    else if rule = iterationName ∨ children.length = 1 then inner
    else inner + 1

/-- The deepest nesting in a row of nodes, without the first of them if `skip`. -/
def deepest (skip : Bool) : List Node → Nat
  | [] => 0
  | n :: ns => max (if skip then 0 else n.nesting) (deepest false ns)

end

end Node

end Reckon
