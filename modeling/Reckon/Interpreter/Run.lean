import Reckon.Interpreter.Actions

/-!
# Evaluating texts

An interpreter has a limit of nesting and a count of the current nesting, which is zero between
uses. Interpreters are kept in a pool, one for each limit, and used again. Evaluating a text takes
it as one expression, running it as a row of expressions; both give a double back, and leave the
session with all that was done before a failure.

Only the counted nesting bounds a visit here. The stack of the host, which bounds it as well and is
reported in the same way, is left out.
-/

namespace Reckon

structure Interpreter where
  maxDepth : Int
  depth : Int := 0
  deriving Repr, DecidableEq

/-- Interpreters by their limits, in the order of their creation. -/
structure Pool where
  entries : List (Int × Interpreter) := []

namespace Pool

/-- The interpreter for a limit, a new one if there is none. -/
def interpreter (p : Pool) (maxDepth : Int) : Interpreter :=
  (p.entries.lookup maxDepth).getD ⟨maxDepth, 0⟩

/-- Puts the interpreter for a limit back. -/
def store (p : Pool) (maxDepth : Int) (i : Interpreter) : Pool :=
  if p.entries.any (·.1 == maxDepth) then
    ⟨p.entries.map fun e => if e.1 == maxDepth then (maxDepth, i) else e⟩
  else ⟨p.entries ++ [(maxDepth, i)]⟩

/-- The place of the interpreter for a limit, which is created if there is none. -/
def slot (p : Pool) (maxDepth : Int) : Nat × Pool :=
  let p := p.store maxDepth (p.interpreter maxDepth)
  (p.entries.findIdx (·.1 == maxDepth), p)

end Pool

namespace Interpreter

/-- Visits a tree in a session. The stack of the host is taken to be deep enough for it. -/
def interpret (i : Interpreter) (n : Node) (s : Session) :
    Except Fault (Option Number) × Interpreter × Session :=
  let (r, t) := ((operation i.maxDepth).visit n).run.run ⟨i.depth, s⟩
  (r, { i with depth := t.depth }, t.state)

/-- The double of a value. -/
def double (v : Option Number) : Option Float := v.map (·.toFloat)

/-- Matches a text from a start rule, visits its tree and notes the outcome. -/
def process (i : Interpreter) (start text : String) (report : Option Float → Event) (s : Session) :
    Except RunError (Option Float) × Interpreter × Session :=
  match s.parse start text with
  | (.error e, s) => (.error (.unmatched e), i, s)
  | (.ok n, s) =>
    match i.interpret n s with
    | (.error e, i, s) => (.error (.fault e), i, s)
    | (.ok v, i, s) => (.ok (double v), i, s.note (report (double v)))

end Interpreter

namespace Pool

/-- Processes a text with the interpreter for a limit. -/
def process (p : Pool) (start text : String) (report : Option Float → Event) (maxDepth : Int)
    (s : Session) : Except RunError (Option Float) × Pool × Session :=
  let (r, i, s) := (p.interpreter maxDepth).process start text report s
  (r, p.store maxDepth i, s)

/-- Evaluates one expression. -/
def evaluate (p : Pool) (text : String) (maxDepth : Int) (s : Session) :
    Except RunError (Option Float) × Pool × Session :=
  p.process "exp" text (.evaluated text) maxDepth s

/-- Runs a row of expressions; the value is that of the last. -/
def run (p : Pool) (text : String) (maxDepth : Int) (s : Session) :
    Except RunError (Option Float) × Pool × Session :=
  p.process "program" text (.ran text) maxDepth s

end Pool

/-- Evaluates one expression with a new interpreter. -/
def evaluate (text : String) (maxDepth : Int) (s : Session) :
    Except RunError (Option Float) × Session :=
  let (r, _, s) := ({} : Pool).evaluate text maxDepth s
  (r, s)

/-- Runs a row of expressions with a new interpreter. -/
def run (text : String) (maxDepth : Int) (s : Session) :
    Except RunError (Option Float) × Session :=
  let (r, _, s) := ({} : Pool).run text maxDepth s
  (r, s)

end Reckon
