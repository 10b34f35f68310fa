import Reckon.Cfg.Basic

/-!
# Parsing with a chart

The chart has a column for every place between two tokens. A column holds the partial uses of
productions that fit the tokens read so far; each knows the column in which it began and the trees
of the symbols behind its dot. A column is closed under prediction and completion before the next
token is read, so reading stops at the first token that continues no sentence, and the column
before it tells every terminal that would.

Within a column a partial use is identified by its production, the place of its dot and its origin;
of several derivations of one such use the first is kept. A nonterminal that derives the empty row is
completed in the column in which it was predicted, so it is remembered there for the uses that come
to wait for it later.
-/

namespace Reckon.Cfg

variable {τ T N : Type}

/-- A production in use: `number` tells which one, `done` holds the trees behind the dot, latest
first, and `rest` the symbols after it. -/
structure Partial (τ T N : Type) where
  number : Nat
  lhs : N
  done : List (Tree τ N)
  rest : List (Symbol T N)
  origin : Nat

namespace Partial

/-- The production and the number of symbols after the dot: with the origin, what identifies the use
in its column. -/
def dot (x : Partial τ T N) : Nat × Nat := (x.number, x.rest.length)

/-- Moves the dot over the next symbol, which derived `t`. -/
def advance (x : Partial τ T N) (t : Tree τ N) : Partial τ T N :=
  { x with done := t :: x.done, rest := x.rest.tail }

/-- Does the dot stand before the nonterminal? -/
def awaits [DecidableEq N] (x : Partial τ T N) (n : N) : Bool :=
  match x.rest with
  | .nonterminal m :: _ => m = n
  | _ => false

/-- Does the dot stand before the terminal? -/
def reads [DecidableEq T] (x : Partial τ T N) (t : T) : Bool :=
  match x.rest with
  | .terminal u :: _ => u = t
  | _ => false

/-- The tree of a completed use. -/
def tree (x : Partial τ T N) : Tree τ N := .node x.lhs x.done.reverse

end Partial

/-- The partial uses at one place that wait for a nonterminal or for a terminal, and the tree of the
start symbol if the tokens so far are a sentence. -/
structure Column (τ T N : Type) where
  waiting : List (Partial τ T N) := []
  reading : List (Partial τ T N) := []
  sentence : Option (Tree τ N) := none

namespace Column

/-- The terminals that may come next. -/
def expected (c : Column τ T N) : List T :=
  c.reading.filterMap fun x =>
    match x.rest with
    | .terminal t :: _ => some t
    | _ => none

end Column

/-- A column on the way to its closure: the uses still to be looked at, the dots seen so far at each
origin, and the nonterminals found empty here. -/
structure Draft (τ T N : Type) where
  column : Column τ T N := {}
  agenda : List (Partial τ T N) := []
  seen : Array (List (Nat × Nat)) := #[]
  emptied : List (Tree τ N × N) := []

namespace Draft

/-- Adds a use unless it is there. -/
def push : Draft τ T N → Partial τ T N → Draft τ T N
  | ⟨column, agenda, seen, emptied⟩, x =>
    let (number, left) := x.dot
    let dots := seen.getD x.origin []
    if dots.any (fun d => d.1 == number && d.2 == left) then ⟨column, agenda, seen, emptied⟩
    else ⟨column, x :: agenda, seen.setIfInBounds x.origin ((number, left) :: dots), emptied⟩

def pushAll (d : Draft τ T N) (xs : List (Partial τ T N)) : Draft τ T N := xs.foldl push d

end Draft

/-- Productions with their numbers, a start symbol, and the terminal of each token. -/
structure Chart (τ T N : Type) where
  productions : List (Nat × Production T N)
  start : N
  kind : τ → T

namespace Chart

variable [DecidableEq T] [DecidableEq N]

/-- The uses of the productions of `n` that begin in column `i`. -/
def predict (g : Chart τ T N) (n : N) (i : Nat) : List (Partial τ T N) :=
  g.productions.filterMap fun (number, p) =>
    if p.lhs = n then some ⟨number, n, [], p.rhs, i⟩ else none

/-- The uses of column `i` that wait for `n`, moved over its tree `t`. -/
def resume (waiting : List (Partial τ T N)) (n : N) (t : Tree τ N) : List (Partial τ T N) :=
  waiting.filterMap fun x => if x.awaits n then some (x.advance t) else none

/-- Looks at one use in column `i`, `columns` being those before it. -/
def process (g : Chart τ T N) (columns : Array (Column τ T N)) (i : Nat) (d : Draft τ T N)
    (x : Partial τ T N) : Draft τ T N :=
  match x.rest with
  | [] =>
    let t := x.tree
    let d :=
      if x.origin = 0 ∧ x.lhs = g.start ∧ d.column.sentence.isNone then
        { d with column.sentence := some t }
      else d
    if x.origin = i then
      let resumed := resume d.column.waiting x.lhs t
      { d with emptied := (t, x.lhs) :: d.emptied }.pushAll resumed
    else
      match columns[x.origin]? with
      | some c => d.pushAll (resume c.waiting x.lhs t)
      | none => d
  | .terminal _ :: _ => { d with column.reading := x :: d.column.reading }
  | .nonterminal n :: _ =>
    let known := d.emptied.filterMap fun (t, m) => if m = n then some (x.advance t) else none
    ({ d with column.waiting := x :: d.column.waiting }.pushAll (g.predict n i)).pushAll known

/-- Looks at the uses on the agenda until none is left. -/
def close (g : Chart τ T N) (columns : Array (Column τ T N)) (i : Nat) :
    Nat → Draft τ T N → Column τ T N
  | 0, d => d.column
  | fuel + 1, d =>
    match d.agenda with
    | [] => d.column
    | x :: agenda => g.close columns i fuel (g.process columns i { d with agenda } x)

/-- The number of places for a dot in all productions. -/
def dots (g : Chart τ T N) : Nat := (g.productions.map fun (_, p) => p.rhs.length + 1).foldr (· + ·) 0

/-- The closed column `i` that the given uses begin. It holds no more uses than there are dots for
each origin up to `i`, so the fuel is enough. -/
def columnOf (g : Chart τ T N) (columns : Array (Column τ T N)) (i : Nat)
    (seeds : List (Partial τ T N)) : Column τ T N :=
  let draft : Draft τ T N := { seen := Array.replicate (i + 1) [] }
  g.close columns i (g.dots * (i + 1) + 1) (draft.pushAll seeds)

def firstColumn (g : Chart τ T N) : Column τ T N := g.columnOf #[] 0 (g.predict g.start 0)

/-- The uses that go on after the token `a`. -/
def shift (g : Chart τ T N) (c : Column τ T N) (a : τ) : List (Partial τ T N) :=
  c.reading.filterMap fun x =>
    if x.reads (g.kind a) then some (x.advance (.leaf a)) else none

/-- Reads tokens as long as they continue a sentence: the last column and the tokens not read. -/
def readFrom (g : Chart τ T N) (columns : Array (Column τ T N)) (c : Column τ T N) :
    List τ → Column τ T N × List τ
  | [] => (c, [])
  | a :: rest =>
    match g.shift c a with
    | [] => (c, a :: rest)
    | seeds =>
      let columns := columns.push c
      g.readFrom columns (g.columnOf columns columns.size seeds) rest

def read (g : Chart τ T N) (tokens : List τ) : Column τ T N × List τ :=
  g.readFrom #[] g.firstColumn tokens

end Chart

end Reckon.Cfg
