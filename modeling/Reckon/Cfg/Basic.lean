/-!
# Context-free grammars

Productions over terminals `T` and nonterminals `N`, and their derivation trees. The leaves of a
tree are tokens of a type `τ`, each of which belongs to a terminal.
-/

namespace Reckon.Cfg

inductive Symbol (T N : Type) where
  | terminal (t : T)
  | nonterminal (n : N)
  deriving Repr, DecidableEq

structure Production (T N : Type) where
  lhs : N
  rhs : List (Symbol T N)
  deriving Repr, DecidableEq

inductive Tree (τ N : Type) where
  | leaf (token : τ)
  | node (n : N) (children : List (Tree τ N))

namespace Tree

variable {τ T N : Type}

mutual

/-- The tokens at the leaves, from left to right. -/
def yield : Tree τ N → List τ
  | leaf a => [a]
  | node _ ts => yieldAll ts

def yieldAll : List (Tree τ N) → List τ
  | [] => []
  | t :: ts => t.yield ++ yieldAll ts

end

mutual

/-- `Derives ps kind s t`: by the productions `ps` the symbol `s` derives the tree `t`, whose leaves
belong to the terminals that `kind` gives. -/
inductive Derives (ps : List (Production T N)) (kind : τ → T) : Symbol T N → Tree τ N → Prop
  | leaf (a : τ) : Derives ps kind (.terminal (kind a)) (.leaf a)
  | node {p : Production T N} {ts : List (Tree τ N)} (hp : p ∈ ps)
      (hts : DerivesAll ps kind p.rhs ts) :
      Derives ps kind (.nonterminal p.lhs) (.node p.lhs ts)

/-- A row of symbols derives a row of trees, one by one. -/
inductive DerivesAll (ps : List (Production T N)) (kind : τ → T) :
    List (Symbol T N) → List (Tree τ N) → Prop
  | nil : DerivesAll ps kind [] []
  | cons {s : Symbol T N} {ss : List (Symbol T N)} {t : Tree τ N} {ts : List (Tree τ N)}
      (h : Derives ps kind s t) (hs : DerivesAll ps kind ss ts) :
      DerivesAll ps kind (s :: ss) (t :: ts)

end

end Tree

end Reckon.Cfg
