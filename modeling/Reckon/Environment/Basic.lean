import Reckon.Number
import Reckon.Operation.Visit

/-!
# Environments

An environment binds names to constants, variables and functions, in the order in which the names
were first bound. A binding has a name itself, under which it is stored. The environment remembers
which names were defined as constants or functions; under protection these cannot be assigned to
while they are bound so.
-/

namespace Reckon

/-- A function of a fixed number of arguments. It may give no number, in particular where it is
applied to more or fewer. -/
structure Function where
  name : String
  arity : Int
  apply : List Number → Option Number
  doc : String := ""

inductive Binding where
  | constant (name : String) (value : Number)
  | var (name : String) (value : Number)
  | function (f : Function)

namespace Binding

/-- The name that the binding has itself. -/
def name : Binding → String
  | constant name _ => name
  | var name _ => name
  | function f => f.name

/-- The word for the kind of binding. -/
def kind : Binding → String
  | constant _ _ => "constant"
  | var _ _ => "variable"
  | function _ => "function"

def isVariable : Binding → Bool
  | var _ _ => true
  | _ => false

end Binding

/-- A table of bindings in order, the names defined as constants or functions, and whether these are
protected. -/
structure Environment where
  bindings : List (String × Binding) := []
  builtins : List String := []
  isProtected : Bool := false

namespace Environment

/-- The table with `name` bound: in its place if it was bound before, else at the end. -/
def put (table : List (String × Binding)) (name : String) (b : Binding) :
    List (String × Binding) :=
  match table with
  | [] => [(name, b)]
  | (n, c) :: rest => if n == name then (n, b) :: rest else (n, c) :: put rest name b

/-- The environment of a row of bindings. -/
def ofBindings (bindings : List Binding) (isProtected : Bool := false) : Environment :=
  let table := bindings.foldl (fun t b => put t b.name b) []
  ⟨table, (table.filter (!·.2.isVariable)).map (·.1), isProtected⟩

def lookup (env : Environment) (name : String) : Option Binding := env.bindings.lookup name

def contains (env : Environment) (name : String) : Bool := (env.lookup name).isSome

def addBuiltin (env : Environment) (b : Binding) : Environment :=
  { env with
    bindings := put env.bindings b.name b
    builtins := if env.builtins.contains b.name then env.builtins else b.name :: env.builtins }

/-- Binds a constant, which is no plain number. -/
def defineConstant (env : Environment) (name : String) (value : Float) : Environment :=
  env.addBuiltin (.constant name (.ieee value))

/-- Binds a function; a negative number of arguments is refused. -/
def defineFunction? (env : Environment) (f : Function) : Option Environment :=
  if f.arity < 0 then none else some (env.addBuiltin (.function f))

/-- What is said of a function with a negative number of arguments. -/
def negativeArity (name : String) : String := "arity of " ++ name ++ " must be non-negative"

/-- The value of a constant or variable. -/
def value (env : Environment) (name : String) : Except EvalError Number :=
  match env.lookup name with
  | none => .error (.undefinedName name)
  | some (.function _) => .error (.notAValue name)
  | some (.constant _ a) => .ok a
  | some (.var _ a) => .ok a

/-- The function of a name, if it takes `count` arguments. -/
def function (env : Environment) (name : String) (count : Int) : Except EvalError Function :=
  match env.lookup name with
  | none => .error (.undefinedName name)
  | some (.function f) =>
    if f.arity = count then .ok f else .error (.arityMismatch name f.arity count)
  | some b => .error (.notCallable name b.kind)

/-- What the function of a name gives for arguments, if it takes as many. -/
def call (env : Environment) (name : String) (arguments : List Number) :
    Except EvalError (Option Number) :=
  (env.function name arguments.length).map (·.apply arguments)

/-- The kind of the constant or function that an assignment to `name` would hide. -/
def hiddenKind? (env : Environment) (name : String) : Option String :=
  match env.lookup name with
  | some b => if b.isVariable then none else some b.kind
  | none => none

/-- Binds a variable to the value as it is given. -/
def assign (env : Environment) (name : String) (value : Number) : Except EvalError Environment :=
  if (env.hiddenKind? name).isSome && env.isProtected && env.builtins.contains name then
    .error (.readOnly name)
  else .ok { env with bindings := put env.bindings name (.var name value) }

/-- Removes a name. -/
def unset (env : Environment) (name : String) : Except EvalError Environment :=
  if env.contains name then
    .ok { env with bindings := env.bindings.filter (·.1 != name) }
  else .error (.undefinedName name)

/-- A new environment with the same bindings, known names and protection. -/
def copy (env : Environment) : Environment :=
  { ofBindings [] env.isProtected with bindings := env.bindings, builtins := env.builtins }

def names (env : Environment) : List String := env.bindings.map (·.1)

/-- What is bound, in order. -/
def bound (env : Environment) : List Binding := env.bindings.map (·.2)

/-- The variables and their values. -/
def variableValues (env : Environment) : List (String × Number) :=
  env.bindings.filterMap fun
    | (name, .var _ a) => some (name, a)
    | _ => none

def toText (env : Environment) : String :=
  "<Environment " ++ toString env.bindings.length ++ " bindings, "
    ++ toString env.variableValues.length ++ " variables>"

/-- The functions, one a line, with their parameters and what they do. -/
def functionHelp (env : Environment) : String :=
  let line : Binding → Option String
    | .function f =>
      let parameters := (List.range f.arity.toNat).map fun i => "x" ++ toString (i + 1)
      some ("  " ++ f.name ++ "(" ++ ", ".intercalate parameters ++ ")\t" ++ f.doc)
    | _ => none
  "\n".intercalate ("組み込み関数:" :: env.bound.filterMap line)

end Environment

end Reckon
