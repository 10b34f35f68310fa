import Reckon.Node
import Reckon.Number
import Reckon.Match.Failure
import Reckon.Decimal.Layout

/-!
# The journal

What happens during matching and evaluation is noted as events. A record of an event has a level,
the part of the program that it comes from, and a text.
-/

namespace Reckon

/-- How important a record is, from the least to the most. -/
inductive Level where
  | debug
  | info
  | warning
  | error
  | critical
  deriving Repr, DecidableEq

namespace Level

def rank : Level → Nat
  | debug => 10
  | info => 20
  | warning => 30
  | error => 40
  | critical => 50

def name : Level → String
  | debug => "DEBUG"
  | info => "INFO"
  | warning => "WARNING"
  | error => "ERROR"
  | critical => "CRITICAL"

/-- Is a record of level `l` kept at the threshold? -/
def reaches (l threshold : Level) : Bool := threshold.rank ≤ l.rank

end Level

inductive Event where
  | matched (start text : String) (tree : Node)
  | matchFailed (failure : MatchFailure)
  | called (name : String) (arguments : List Number)
  | shadowed (name kind : String)
  | assigned (name : String) (value : Number)
  | evaluated (text : String) (value : Option Float)
  | ran (text : String) (value : Option Float)
  | lineEntered (line : String)
  | emptyLine
  | answered (value : Option Float)

namespace Event

def level : Event → Level
  | shadowed _ _ => .warning
  | answered _ => .info
  | _ => .debug

/-- The part of the program that the event comes from. -/
def origin : Event → String
  | matched _ _ _ | matchFailed _ => "arith.match"
  | called _ _ | evaluated _ _ | ran _ _ => "arith.interpreter"
  | shadowed _ _ | assigned _ _ => "arith.environment"
  | lineEntered _ | emptyLine | answered _ => "arith.repl"

/-- Arguments between parentheses; a single one is followed by a comma. -/
def argumentsText : List Number → String
  | [a] => "(" ++ Decimal.write a.toFloat ++ ",)"
  | as => "(" ++ ", ".intercalate (as.map fun a => Decimal.write a.toFloat) ++ ")"

def valueText : Option Float → String
  | some x => Decimal.write x
  | none => "None"

def message : Event → String
  | matched start text tree => "match " ++ start ++ ": " ++ quoted text ++ "\n" ++ tree.pretty
  | matchFailed failure => "match failed: " ++ failure.message
  | called name arguments => "call " ++ name ++ argumentsText arguments
  | shadowed name kind => "assignment to '" ++ name ++ "' shadows a built-in " ++ kind
  | assigned name value => "assign " ++ name ++ " = " ++ Decimal.write value.toFloat
  | evaluated text value => "evaluate " ++ quoted text ++ " -> " ++ valueText value
  | ran text value => "run " ++ quoted text ++ " -> " ++ valueText value
  | lineEntered line => "default: line=" ++ line
  | emptyLine => "emptyline"
  | answered value => valueText value

end Event

/-- A record of an event. -/
structure Record where
  level : Level
  origin : String
  message : String

/-- The records of the events that reach the threshold. -/
def recordsAt (threshold : Level) (events : List Event) : List Record :=
  (events.filter (·.level.reaches threshold)).map fun e => ⟨e.level, e.origin, e.message⟩

end Reckon
