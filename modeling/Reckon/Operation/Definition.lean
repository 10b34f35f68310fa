import Reckon.Operation.Visit

/-!
# Defining operations

An operation has a method for every rule of its grammar. Methods whose names start with an
underscore are its own affair, and so are the names that every operation has. Of two methods of one
name the later counts, and an attribute of that name hides both. When an operation is defined, its
public methods are checked against the grammar in the order of their names; an operation without a
grammar can be defined but not used. An operation in use keeps its limit of nesting and its registry
under names that hide methods. A method `visit` is the operation's own way of visiting.

A method is a function that is handed the operation itself before anything else, when it is checked as
well as when it is called, and a signature is what comes after that. Members that can be called and are
not handed the operation are left out.
-/

namespace Reckon

/-- The parts of every operation that a definition may replace and thereby break: what is done when
it is defined, and what is done when it is put to use. -/
inductive Part where
  | definition
  | construction
  deriving Repr, DecidableEq

/-- An operation as written: the grammar it is bound to, methods by name, attributes that are no
methods, and the parts that it breaks. -/
structure Definition (β : Type) where
  name : String
  grammar : Option Grammar
  methods : List (String × Action β)
  attributes : List String := []
  broken : List Part := []

/-- Why an operation cannot be defined or put to use. -/
inductive DefinitionError where
  | registry (e : RegistryError)
  | broken (part : Part)
  /-- Names are looked for in a member that stands in place of the grammar. -/
  | notGrammar
  /-- A member that stands in place of the grammar is asked for its rules. -/
  | noRules (isMethod : Bool)
  /-- The action of a rule is hidden by what the operation itself keeps under its name. -/
  | hidden (rule : String)
  deriving Repr, DecidableEq

namespace DefinitionError

def message : DefinitionError → String
  | registry e => e.message
  | broken .definition => "the operation cannot be defined"
  | broken .construction => "the operation cannot be put to use"
  | notGrammar => "names cannot be looked for in what stands for the grammar"
  | noRules _ => "what stands for the grammar has no rules"
  | hidden rule => "the action of '" ++ rule ++ "' is hidden"

end DefinitionError

namespace Definition

variable {β : Type}

/-- The names that every operation has. -/
def reserved : List String := ["grammar", "visit"]

def isPublic (name : String) : Bool := name.toList.head? != some '_' && !reserved.contains name

/-- The last entry of every name. -/
def lastOfEach : List (String × Action β) → List (String × Action β)
  | [] => []
  | (name, a) :: rest =>
    if rest.any (·.1 == name) then lastOfEach rest else (name, a) :: lastOfEach rest

/-- The method of a name that no attribute hides. -/
def method? (d : Definition β) (name : String) : Option (Action β) :=
  if d.attributes.contains name then none else (lastOfEach d.methods).lookup name

/-- The methods that can be called from outside. -/
def publicMethods (d : Definition β) : List (String × Action β) :=
  (lastOfEach d.methods).filter fun m => isPublic m.1 && !d.attributes.contains m.1

/-- The methods that are actions, sorted by name. -/
def actions (d : Definition β) : List (String × Action β) :=
  d.publicMethods.mergeSort fun a b => decide (a.1 ≤ b.1)

def actionNames (d : Definition β) : List String := d.actions.map (·.1)

/-- Adds the methods to a registry, each of which has to name a rule. -/
def registerMethods (owner : String) (r : Registry β) :
    List (String × Action β) → Except RegistryError (Registry β)
  | [] => .ok r
  | (name, a) :: rest =>
    if !r.grammar.contains name then .error (.unknownMethod owner name r.grammar.name)
    else do registerMethods owner (← r.register name a) rest

/-- Checks the actions against a grammar. -/
def checkAgainst (d : Definition β) (g : Grammar) : Except RegistryError Unit := do
  (← registerMethods d.name ⟨g, []⟩ d.actions).checkComplete

/-- Checks a definition without a grammar. A member called `grammar` is taken for one. -/
def checkUnbound (d : Definition β) : Except DefinitionError Unit :=
  let isMethod := (d.method? "grammar").isSome
  if isMethod || d.attributes.contains "grammar" then
    if d.actions.isEmpty then .error (.noRules isMethod) else .error .notGrammar
  else .ok ()

/-- Checks the definition. -/
def check (d : Definition β) : Except DefinitionError Unit :=
  if d.broken.contains .definition then .error (.broken .definition)
  else
    match d.grammar with
    | none => d.checkUnbound
    | some g => (d.checkAgainst g).mapError .registry

/-- The actions of the rules, in the order of the grammar. -/
def rowOfRules (d : Definition β) (g : Grammar) : List (String × Action β) :=
  g.ruleNames.filterMap fun rule => (d.publicMethods.lookup rule).map fun a => (rule, a)

/-- The registry for a grammar. -/
def registryFor (d : Definition β) (g : Grammar) : Except RegistryError (Registry β) := do
  let r ← (⟨g, []⟩ : Registry β).registerAll (d.rowOfRules g)
  r.checkComplete
  return r

/-- The names under which an operation in use keeps its limit of nesting and its registry. -/
def occupied : List String := ["max_depth", "semantics"]

/-- The registry of an operation that is put to use. -/
def instantiate (d : Definition β) : Except DefinitionError (Registry β) :=
  if d.broken.contains .construction then .error (.broken .construction)
  else
    match d.grammar with
    | none => .error (.registry (.unbound d.name))
    | some g =>
      match g.ruleNames.find? occupied.contains with
      | some rule => .error (.hidden rule)
      | none => (d.registryFor g).mapError .registry

/-! ## Visiting -/

section

variable {σ α : Type}

/-- The operation, put to use with a limit of nesting. -/
def operation (d : Definition (Body σ α)) (ofList : List α → α) (maxDepth : Int) :
    Except DefinitionError (Operation σ α) :=
  d.instantiate.map fun registry => ⟨registry, ofList, maxDepth⟩

/-- The definition's own way of visiting. It is handed no children, and an attribute cannot be
called. -/
def ownVisit? (d : Definition (Body σ α)) : Option (Node → Visit σ α) :=
  if d.attributes.contains "visit" then some fun _ => Visit.fail (.uncallable "visit")
  else (d.method? "visit").map fun a n => a.body n []

/-- Visits a tree with the operation of the definition. -/
def visit (d : Definition (Body σ α)) (op : Operation σ α) (n : Node) : Visit σ α :=
  match d.ownVisit? with
  | some f => f n
  | none => op.visit n

end

end Definition

end Reckon
