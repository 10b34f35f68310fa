import Reckon.Text.Quoted

/-!
# Syntax trees

A node has the name of its rule, its children and the part of the text that it spans. Literals are
nodes named `_terminal`, lists are nodes named `_iter` whose children are the items of the list.
-/

namespace Reckon

structure Node where
  rule : String
  children : List Node
  source : String
  start : Nat
  stop : Nat
  deriving Repr, Inhabited

namespace Node

/-- The rule name of literals. -/
def terminalName : String := "_terminal"

/-- The rule name of lists. -/
def iterationName : String := "_iter"

def isTerminal (n : Node) : Bool := n.rule == terminalName

def isIteration (n : Node) : Bool := n.rule == iterationName

def indentation (indent : String) (level : Nat) : String :=
  String.join (List.replicate level indent)

/-- The line of a node: its rule, and the text of a node without children. -/
def line (indent : String) (level : Nat) (n : Node) : String :=
  let head := indentation indent level ++ n.rule
  if n.children.isEmpty then head ++ "\t" ++ quoted n.source else head

/-- The stack with the nodes of a level on top of it, the first of them topmost. -/
def stacked (level : Nat) (ns : List Node) (stack : List (Nat × Node)) : List (Nat × Node) :=
  ns.reverse.foldl (fun stack n => (level, n) :: stack) stack

theorem stacked_eq (level : Nat) (ns : List Node) (stack : List (Nat × Node)) :
    stacked level ns stack = ns.map (level, ·) ++ stack := by
  rw [stacked, List.foldl_reverse]
  induction ns with
  | nil => rfl
  | cons n ns ih => rw [List.foldr_cons, ih, List.map_cons, List.cons_append]

theorem sizeOf_append_lt (n : Node) (ns : List Node) :
    sizeOf (n.children ++ ns) < sizeOf (n :: ns) := by
  have happend : ∀ cs : List Node, sizeOf (cs ++ ns) ≤ sizeOf cs + sizeOf ns := by
    intro cs
    induction cs with
    | nil => simp
    | cons c cs ih =>
      simp only [List.cons_append, List.cons.sizeOf_spec]
      omega
  have hchildren := happend n.children
  cases n
  simp only [List.cons.sizeOf_spec, mk.sizeOf_spec] at hchildren ⊢
  omega

/-- The lines of the trees on the stack, each at its level, after `lines`. A node leaves its
children on the stack in its place. -/
def outline (indent : String) : (stack : List (Nat × Node)) → (lines : Array String) → Array String
  | [], lines => lines
  | (level, n) :: stack, lines =>
    outline indent (stacked (level + 1) n.children stack) (lines.push (line indent level n))
termination_by stack => sizeOf (stack.map Prod.snd)
decreasing_by
  have hstack : (stacked (level + 1) n.children stack).map Prod.snd =
      n.children ++ stack.map Prod.snd := by
    simp [stacked_eq, Function.comp_def]
  rw [hstack]
  exact sizeOf_append_lt n _

/-- The tree as indented lines. -/
def pretty (n : Node) (indent : String := "  ") : String :=
  "\n".intercalate (outline indent [(0, n)] #[]).toList

end Node

end Reckon
