import Reckon.Operation.Registry
import Reckon.Node

/-!
# Visiting syntax trees

An operation visits a node by the action of the node's rule, which may visit the children in turn.
A list node is visited by visiting its items. Nodes count as nested unless they have exactly one
child; a visit nested deeper than the limit is refused. The count is part of the state, and every
visit leaves it as it found it, also when it fails.

Visiting is a fold over the tree: the value of a node is a computation, and an action is given the
nodes and the computations of the children. The count is the only limit: that of the host's own stack,
which cuts off a visit in the same way, is left out.
-/

namespace Reckon

/-- Why an evaluation fails. -/
inductive EvalError where
  | undefinedName (name : String)
  | notCallable (name kind : String)
  | notAValue (name : String)
  | arityMismatch (name : String) (expected actual : Int)
  | readOnly (name : String)
  | tooDeep (limit : Int)
  deriving Repr, DecidableEq

namespace EvalError

def message : EvalError → String
  | undefinedName name => "Undefined name '" ++ name ++ "'"
  | notCallable name kind => "'" ++ name ++ "' is a " ++ kind ++ ", not a function"
  | notAValue name => "'" ++ name ++ "' is a function; call it with " ++ name ++ "(...)"
  | arityMismatch name expected actual =>
    name ++ "() takes " ++ toString expected ++ " argument(s) but " ++ toString actual ++ " given"
  | readOnly name => "Cannot assign to built-in '" ++ name ++ "'"
  | tooDeep limit =>
    "Expression nesting exceeds the evaluation depth limit (" ++ toString limit ++ ")"

end EvalError

/-- Why a visit fails. -/
inductive Fault where
  | eval (e : EvalError)
  | registry (e : RegistryError)
  /-- An action got a node that its rule does not produce. -/
  | malformed (rule : String)
  /-- What is called is no method. -/
  | uncallable (name : String)
  /-- A plain number is divided by zero. -/
  | zeroDivision
  /-- A function gives no number. -/
  | unanswered (name : String)
  deriving Repr, DecidableEq

/-- Does the fault come from an action or a function, and not from the rules of evaluation? -/
def Fault.isForeign : Fault → Bool
  | .eval _ | .registry _ => false
  | _ => true

/-- The state of a visit: how deep it is nested, and the state of the operation. -/
structure Tracked (σ : Type) where
  depth : Int := 0
  state : σ

/-- A computation that may fail and keeps its state if it does. -/
abbrev Visit (σ α : Type) := ExceptT Fault (StateM (Tracked σ)) α

namespace Visit

variable {σ α : Type}

def get : Visit σ σ := fun s => (.ok s.state, s)

def set (x : σ) : Visit σ Unit := fun s => (.ok (), { s with state := x })

def fail (e : Fault) : Visit σ α := fun s => (.error e, s)

/-- Counts one level while `body` runs, if `nested`. -/
def counted (nested : Bool) (body : Visit σ α) : Visit σ α :=
  if nested then fun s =>
    let (r, s) := body.run.run { s with depth := s.depth + 1 }
    (r, { s with depth := s.depth - 1 })
  else body

/-- Runs `body` unless the visit is nested too deep. -/
def limited (limit : Int) (body : Visit σ α) : Visit σ α := fun s =>
  if limit < s.depth then (.error (.eval (.tooDeep limit)), s) else body.run.run s

end Visit

/-- A node with what visiting it does, and its children alike. -/
structure Branch (σ α : Type) where
  node : Node
  visit : Visit σ α
  children : List (Branch σ α)

/-- What an action does with a node of its rule. -/
abbrev Body (σ α : Type) := Node → List (Branch σ α) → Visit σ α

/-- An operation over syntax trees: the actions of the rules, the value of a list from those of its
items, and the limit of nesting. -/
structure Operation (σ α : Type) where
  registry : Registry (Body σ α)
  ofList : List α → α
  maxDepth : Int

/-- The limit of nesting where none is given. -/
def defaultMaxDepth : Int := 1000

namespace Operation

variable {σ α : Type}

/-- A node counts as nested unless it has exactly one child. -/
def isNested (n : Node) : Bool := n.children.length != 1

/-- Visits the node given its children: the values of the items for a list, the action of the rule
for any other node. -/
def visitBody (op : Operation σ α) (n : Node) (children : List (Branch σ α)) : Visit σ α :=
  if n.isIteration then do return op.ofList (← children.mapM (·.visit))
  else
    match op.registry.dispatch n.rule with
    | .error e => Visit.fail (.registry e)
    | .ok a => a.body n children

def visitNode (op : Operation σ α) (n : Node) (children : List (Branch σ α)) : Visit σ α :=
  Visit.counted (isNested n) (Visit.limited op.maxDepth (op.visitBody n children))

mutual

def branch (op : Operation σ α) : Node → Branch σ α
  | ⟨rule, children, source, start, stop⟩ =>
    let n : Node := ⟨rule, children, source, start, stop⟩
    let bs := op.branches children
    ⟨n, op.visitNode n bs, bs⟩

def branches (op : Operation σ α) : List Node → List (Branch σ α)
  | [] => []
  | n :: ns => op.branch n :: op.branches ns

end

/-- Visits a tree. -/
def visit (op : Operation σ α) (n : Node) : Visit σ α := (op.branch n).visit

end Operation

end Reckon
