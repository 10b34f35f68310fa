import Reckon.Grammar.Basic

/-!
# Semantic actions

Each rule of a grammar has at most one action. An action takes the node, an environment and the
children of the node, so it must have as many positional parameters as its rule has children, and
two more. This is checked when the action is registered; an entry never changes afterwards.
-/

namespace Reckon

inductive ParameterKind where
  | positionalOnly
  | positional
  | rest
  | keywordOnly
  | keywordRest
  deriving Repr, DecidableEq

structure Parameter where
  name : String
  kind : ParameterKind
  hasDefault : Bool := false
  deriving Repr, DecidableEq

abbrev Signature := List Parameter

/-- Why a table of actions does not fit its grammar. -/
inductive RegistryError where
  | unknownRule (rule grammar : String)
  | duplicateAction (rule : String)
  | variableArguments (action : String)
  | requiredKeyword (action parameter : String)
  | arity (rule : String) (actual : Int) (expected : Nat)
  | missing (rules : List String)
  | unregistered (rule : String)
  | unknownMethod (owner method grammar : String)
  | unbound (owner : String)
  deriving Repr, DecidableEq

namespace RegistryError

def message : RegistryError → String
  | unknownRule rule grammar => "'" ++ rule ++ "' is not a rule of " ++ grammar
  | duplicateAction rule => "Duplicate semantic action for rule '" ++ rule ++ "'"
  | variableArguments action => "Semantic action " ++ action ++ " must not take variable arguments"
  | requiredKeyword action parameter =>
    "Semantic action " ++ action ++ " has a required keyword-only parameter '" ++ parameter ++ "'"
  | arity rule actual expected =>
    "Semantic action for '" ++ rule ++ "' has arity " ++ toString actual
      ++ ", but the rule has arity " ++ toString expected
  | missing rules => "Missing semantic actions for rules: " ++ ", ".intercalate rules
  | unregistered rule => "No semantic action registered for rule '" ++ rule ++ "'"
  | unknownMethod owner method grammar =>
    owner ++ "." ++ method ++ " does not name a rule of " ++ grammar
  | unbound owner => owner ++ " is not bound to a grammar"

end RegistryError

namespace Parameter

def isPositional (p : Parameter) : Bool := p.kind == .positionalOnly || p.kind == .positional

/-- Why an action, shown as `action`, may not have the parameter. -/
def fault? (action : String) (p : Parameter) : Option RegistryError :=
  match p.kind with
  | .rest | .keywordRest => some (.variableArguments action)
  | .keywordOnly => if p.hasDefault then none else some (.requiredKeyword action p.name)
  | _ => none

/-- A positional parameter without a default. -/
def plain (name : String) : Parameter := ⟨name, .positional, false⟩

end Parameter

/-- An action: its parameters, the way it is shown in messages, and what it does. -/
structure Action (β : Type) where
  signature : Signature
  shown : String
  body : β

namespace Action

variable {β : Type}

/-- The parameters before those for the children: the node and the environment. -/
def leading : Nat := 2

/-- The number of children that the action takes. -/
def arity (a : Action β) : Except RegistryError Int :=
  match a.signature.findSome? (·.fault? a.shown) with
  | some e => .error e
  | none => .ok ((a.signature.filter (·.isPositional)).length - leading)

/-- An action for `n` children. -/
def ofArity (shown : String) (n : Nat) (body : β) : Action β :=
  ⟨(List.range (n + leading)).map fun i => .plain ("p" ++ toString i), shown, body⟩

end Action

/-- The actions for the rules of a grammar, in the order of registration. -/
structure Registry (β : Type) where
  grammar : Grammar
  actions : List (String × Action β) := []

namespace Registry

variable {β : Type}

def find? (r : Registry β) (rule : String) : Option (Action β) := r.actions.lookup rule

def contains (r : Registry β) (rule : String) : Bool := (r.find? rule).isSome

/-- Adds the action of a rule, if the rule has none and the action fits it. -/
def register (r : Registry β) (rule : String) (a : Action β) : Except RegistryError (Registry β) :=
  if !r.grammar.contains rule then .error (.unknownRule rule r.grammar.name)
  else if r.contains rule then .error (.duplicateAction rule)
  else
    match a.arity with
    | .error e => .error e
    | .ok actual =>
      let expected := r.grammar.arity rule
      if actual = expected then .ok { r with actions := r.actions ++ [(rule, a)] }
      else .error (.arity rule actual expected)

/-- Adds actions one after another. -/
def registerAll (r : Registry β) : List (String × Action β) → Except RegistryError (Registry β)
  | [] => .ok r
  | (rule, a) :: rest => do (← r.register rule a).registerAll rest

def missing (r : Registry β) : List String := r.grammar.ruleNames.filter (!r.contains ·)

def checkComplete (r : Registry β) : Except RegistryError Unit :=
  if r.missing.isEmpty then .ok () else .error (.missing r.missing)

/-- The action for a node of the rule. -/
def dispatch (r : Registry β) (rule : String) : Except RegistryError (Action β) :=
  match r.find? rule with
  | some a => .ok a
  | none => .error (.unregistered rule)

end Registry

end Reckon
