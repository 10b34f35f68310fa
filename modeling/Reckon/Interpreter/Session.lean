import Reckon.Environment.Basic
import Reckon.Journal
import Reckon.Arithmetic

/-!
# Evaluation sessions

A session is an environment together with the events noted so far. Whatever a session does to its
environment is noted here, also when a later step fails.
-/

namespace Reckon

/-- Why a text has no value. -/
inductive RunError where
  | unmatched (e : MatchError)
  | fault (e : Fault)
  deriving Repr, DecidableEq

/-- An environment and the events so far, latest first. -/
structure Session where
  env : Environment
  log : List Event := []

namespace Session

def note (s : Session) (e : Event) : Session := { s with log := e :: s.log }

/-- The events in the order in which they happened. -/
def events (s : Session) : List Event := s.log.reverse

/-- Notes that an assignment to `name` hides a constant or function, if it does. -/
def noteHidden (s : Session) (name : String) : Session :=
  match s.env.hiddenKind? name with
  | some kind => s.note (.shadowed name kind)
  | none => s

/-- Assigns a variable. -/
def assign (s : Session) (name : String) (value : Number) : Except EvalError Session :=
  match s.env.assign name value with
  | .error e => .error e
  | .ok env => .ok ({ s.noteHidden name with env }.note (.assigned name value))

/-- Matches a text of arithmetic and notes the outcome. -/
def parse (s : Session) (start text : String) : Except MatchError Node × Session :=
  match Arithmetic.parse start text with
  | .ok n => (.ok n, s.note (.matched start text n))
  | .error (.failed f) => (.error (.failed f), s.note (.matchFailed f))
  | .error e => (.error e, s)

end Session

end Reckon
