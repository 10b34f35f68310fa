import Reckon.Cfg.Basic

/-!
# Productions that cannot be told apart

Where a nonterminal is expected, so are the nonterminals that can begin it, its corners. If two of
these have productions with the same right side, a parser that reads the right side cannot know
which of the two it has read.
-/

namespace Reckon.Cfg

variable {T N : Type} [DecidableEq T] [DecidableEq N]

/-- All that `next` leads to from `todo`, together with `seen`. -/
def closure (next : N → List N) : Nat → List N → List N → List N
  | 0, _, seen => seen
  | _ + 1, [], seen => seen
  | fuel + 1, n :: todo, seen =>
    if n ∈ seen then closure next fuel todo seen
    else closure next fuel (next n ++ todo) (n :: seen)

def Symbol.nonterminal? : Symbol T N → Option N
  | .nonterminal n => some n
  | .terminal _ => none

/-- The nonterminals on the right sides of `n`. -/
def mentions (ps : List (Production T N)) (n : N) : List N :=
  (ps.filter (·.lhs = n)).flatMap fun p => p.rhs.filterMap Symbol.nonterminal?

/-- The nonterminals that come first on a right side of `n`. -/
def leads (ps : List (Production T N)) (n : N) : List N :=
  (ps.filter (·.lhs = n)).filterMap fun p => p.rhs.head?.bind Symbol.nonterminal?

/-- Each symbol is followed at most once. -/
def closureFuel (ps : List (Production T N)) : Nat := (ps.map fun p => p.rhs.length).foldr (· + ·) 2

def reachable (ps : List (Production T N)) (n : N) : List N :=
  closure (mentions ps) (closureFuel ps) [n] []

def corners (ps : List (Production T N)) (n : N) : List N :=
  closure (leads ps) (closureFuel ps) [n] []

/-- Pairs of different nonterminals that share a right side. -/
def twins (ps : List (Production T N)) : List (N × N) :=
  ps.flatMap fun p => (ps.filter fun q => p.lhs ≠ q.lhs ∧ p.rhs = q.rhs).map fun q => (p.lhs, q.lhs)

/-- The nonterminals where both of a pair of twins may begin. -/
def clashing (ps : List (Production T N)) : List N :=
  let pairs := twins ps
  (ps.map (·.lhs)).eraseDups.filter fun n =>
    let cs := corners ps n
    pairs.any fun (a, b) => a ∈ cs ∧ b ∈ cs

end Reckon.Cfg
