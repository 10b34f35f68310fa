import Reckon.Proofs.Arithmetic.Rematch

/-!
# Precedence

Operands joined by operators are grouped by a rule that knows nothing of grammars
(`OperatorTree.group`): runs joined by `^` to the right, then runs joined by `*` and `/` to the
left, then runs joined by `+` and `-` to the left. Primaries joined by operators are matched so
(`parse_spaced`), each primary with the node that it has alone. On the way, the tokens of a row of
operands are cut into runs as the row is (`Strung.runs`), and each run has a tree of its level
(`Made`).
-/

namespace Reckon

namespace Arithmetic

/-! ## The rule -/

/-- Operands joined by operators: the first, and each operator with the operand after it. -/
abbrev Joined (α : Type) := α × List (Operator × α)

inductive OperatorTree (α : Type) where
  | operand (a : α)
  | operation (op : Operator) (left right : OperatorTree α)
  deriving Repr, DecidableEq

namespace OperatorTree

variable {α β : Type}

/-- The runs between the operators of rank `k`. -/
def runs (k : Nat) : α → List (Operator × α) → Joined (Joined α)
  | a, [] => ((a, []), [])
  | a, (op, b) :: l =>
    let (r, rs) := runs k b l
    if op.rank = k then ((a, []), (op, r) :: rs) else ((a, (op, r.1) :: r.2), rs)

def leftward (inner : β → OperatorTree α) (s : Joined β) : OperatorTree α :=
  s.2.foldl (fun t p => .operation p.1 t (inner p.2)) (inner s.1)

def rightward : α → List (Operator × α) → OperatorTree α
  | a, [] => .operand a
  | a, (op, b) :: l => .operation op (.operand a) (rightward b l)

def powers (s : Joined α) : OperatorTree α := rightward s.1 s.2

def products (s : Joined α) : OperatorTree α := leftward powers (runs 2 s.1 s.2)

/-- Runs joined by `^` to the right, these joined by `*` and `/` to the left, and these joined by
`+` and `-` to the left. -/
def group (s : Joined α) : OperatorTree α := leftward products (runs 1 s.1 s.2)

end OperatorTree

end Arithmetic

namespace Node

open Arithmetic

/-- The operations of a sum. Rules that pass on their one child leave no trace, but a primary is
taken whole. -/
def operations : Node → OperatorTree Node
  | ⟨rule, children, source, start, stop⟩ =>
    match construct? rule, children with
    | some (.binary op), [l, _, r] => .operation op l.operations r.operations
    | some .delegate, [e] =>
      if rule = "pri_exp" then .operand ⟨rule, [e], source, start, stop⟩ else e.operations
    | _, children => .operand ⟨rule, children, source, start, stop⟩

theorem operations_primary {n : Node} (h : n.rule = "pri_exp") : n.operations = .operand n := by
  obtain ⟨rule, children, source, start, stop⟩ := n
  obtain rfl : rule = "pri_exp" := h
  have hdelegate : construct? "pri_exp" = some .delegate := rfl
  rcases children with _ | ⟨m, _ | ⟨m', ms⟩⟩ <;> simp [operations, hdelegate]

end Node

namespace Arithmetic

open Cfg Cfg.Tree Grammar

/-! ## Rows of operands and their tokens -/

/-- The tokens are those of the operands, told by `R`, with operators in `P` between them. -/
inductive Strung {α : Type} (P : Operator → Prop) (R : α → List Token → Prop) :
    Joined α → List Token → Prop
  | one {a : α} {u : List Token} (ha : R a u) : Strung P R (a, []) u
  | more {a b : α} {op : Operator} {t : Token} {l : List (Operator × α)} {u v : List Token}
      (ha : R a u) (hop : P op) (ht : t.terminal = .literal op.symbol)
      (h : Strung P R (b, l) v) : Strung P R (a, (op, b) :: l) (u ++ t :: v)

/-- The tokens of a row are those of its runs, with the operators of rank `k` between them. -/
theorem Strung.runs {α : Type} {P : Operator → Prop} {R : α → List Token → Prop} (k : Nat)
    {s : Joined α} {w : List Token} (h : Strung P R s w) :
    Strung (fun op => P op ∧ op.rank = k) (Strung (fun op => P op ∧ op.rank ≠ k) R)
      (OperatorTree.runs k s.1 s.2) w := by
  induction h with
  | one ha => exact .one (.one ha)
  | @more a b op t l u v ha hop ht _ ih =>
    simp only [OperatorTree.runs] at ih ⊢
    by_cases hk : op.rank = k
    · simp only [if_pos hk]
      exact .more (.one ha) ⟨hop, hk⟩ ht ih
    · simp only [if_neg hk]
      rcases hr : OperatorTree.runs k b l with ⟨r, rs⟩
      rw [hr] at ih
      -- the operand joins the first run of the rest
      cases ih with
      | one hrun => exact .one (.more ha ⟨hop, hk⟩ ht hrun)
      | more hrun hop' ht' hrest =>
        rw [← List.cons_append, ← List.append_assoc]
        exact .more (.more ha ⟨hop, hk⟩ ht hrun) hop' ht' hrest

/-! ## Trees of rows -/

/-- The tokens have a tree of level `k`, with these operations wherever it stands. -/
def Made (text : List Char) (k : Nat) (o : OperatorTree Node) (w : List Token) : Prop :=
  ∃ x, TreeOf Token.terminal (levelName k) x ∧ x.yield = w ∧
    ∀ last, ∃ n, (Node.ofTree text last x).1 = [n] ∧ n.operations = o

section Made

variable {text : List Char} {α : Type} {P : Operator → Prop} {R : α → List Token → Prop}

theorem operation_mem_bodies (op : Operator) :
    (levelName op.rank, [.ref op.ruleName]) ∈ bodies := by
  cases op <;> decide

theorem next_mem_bodies {k : Nat} (hk : 1 ≤ k) (hk' : k ≤ 3) :
    (levelName k, [.ref (levelName (k + 1))]) ∈ bodies := by
  obtain rfl | rfl | rfl : k = 1 ∨ k = 2 ∨ k = 3 := by omega
  all_goals simp

theorem exists_body_level {k : Nat} (hk : 1 ≤ k) : ∃ b, (levelName k, b) ∈ bodies := by
  by_cases hk' : k ≤ 3
  · exact ⟨_, next_mem_bodies hk hk'⟩
  · obtain ⟨j, rfl⟩ : ∃ j, k = j + 4 := ⟨k - 4, by omega⟩
    exact ⟨[.ref "IDENT"], by simp⟩

theorem Made.operation (op : Operator) {l r : OperatorTree Node} {u v : List Token} {a : Token}
    (hl : Made text op.leftRank l u) (ha : a.terminal = .literal op.symbol)
    (hr : Made text op.rightRank r v) : Made text op.rank (.operation op l r) (u ++ a :: v) := by
  obtain ⟨x, hx, rfl, hnx⟩ := hl
  obtain ⟨y, hy, rfl, hny⟩ := hr
  have hop := (treeOf_operation_iff op).2 ⟨x, a, y, ⟨hx, ha, hy⟩, rfl⟩
  obtain ⟨body, hbody, -⟩ := treeOf_iff.1 hop
  refine ⟨branchOf (levelName op.rank) [branchOf op.ruleName [x, .leaf a, y]],
    treeOf_delegate _ (operation_mem_bodies op) ⟨body, hbody⟩ hop, by simp, fun last => ?_⟩
  obtain ⟨n, hn, rfl⟩ := hnx last
  obtain ⟨m, hm, rfl⟩ := hny a.stop
  simp only [branchOf, Node.ofTree, Node.ofTrees, hn, hm, List.cons_append, List.nil_append,
    List.cons.injEq, and_true, exists_eq_left']
  cases op <;> rfl

theorem Made.looser {k : Nat} (hk : 1 ≤ k) (hk' : k ≤ 3) {o : OperatorTree Node} {w : List Token}
    (h : Made text (k + 1) o w) : Made text k o w := by
  obtain ⟨x, hx, rfl, hnx⟩ := h
  refine ⟨branchOf (levelName k) [x], treeOf_delegate _ (next_mem_bodies hk hk')
    (exists_body_level (by omega)) hx, by simp, fun last => ?_⟩
  obtain ⟨n, hn, rfl⟩ := hnx last
  simp only [branchOf, Node.ofTree, Node.ofTrees, hn, List.append_nil, List.cons.injEq, and_true,
    exists_eq_left']
  obtain rfl | rfl | rfl : k = 1 ∨ k = 2 ∨ k = 3 := by omega
  all_goals rfl

theorem made_foldl {k : Nat} (hk : k ≤ 2) {inner : α → OperatorTree Node}
    (hP : ∀ op, P op → op.rank = k) (hR : ∀ a w, R a w → Made text (k + 1) (inner a) w)
    {s : Joined α} {w : List Token} (h : Strung P R s w) {o : OperatorTree Node} {op : Operator}
    {t : Token} {u : List Token} (ho : Made text k o u) (hop : P op)
    (ht : t.terminal = .literal op.symbol) :
    Made text k (((op, s.1) :: s.2).foldl (fun x p => .operation p.1 x (inner p.2)) o)
      (u ++ t :: w) := by
  have hstep {o : OperatorTree Node} {op : Operator} {t : Token} {u v : List Token} {a : α}
      (ho : Made text k o u) (hop : P op) (ht : t.terminal = .literal op.symbol) (ha : R a v) :
      Made text k (.operation op o (inner a)) (u ++ t :: v) := by
    obtain rfl := hP op hop
    obtain ⟨hleft, hright⟩ := Operator.ranks_of_le hk
    exact Made.operation _ (hleft ▸ ho) ht (hright ▸ hR a v ha)
  -- on the row, with the tree made so far and the tokens before the row
  induction h generalizing o op t u with
  | one ha => exact hstep ho hop ht ha
  | more ha hop' ht' _ ih =>
    rw [← List.cons_append, ← List.append_assoc]
    exact ih (hstep ho hop ht ha) hop' ht'

theorem made_leftward {k : Nat} (hk : 1 ≤ k) (hk' : k ≤ 2) {inner : α → OperatorTree Node}
    (hP : ∀ op, P op → op.rank = k) (hR : ∀ a w, R a w → Made text (k + 1) (inner a) w)
    {s : Joined α} {w : List Token} (h : Strung P R s w) :
    Made text k (OperatorTree.leftward inner s) w := by
  cases h with
  | one ha => exact (hR _ _ ha).looser hk (by omega)
  | more ha hop ht h => exact made_foldl hk' hP hR h ((hR _ _ ha).looser hk (by omega)) hop ht

theorem made_powers {R : Node → List Token → Prop} (hP : ∀ op, P op → op = .power)
    (hR : ∀ n w, R n w → Made text 4 (.operand n) w) {s : Joined Node} {w : List Token}
    (h : Strung P R s w) : Made text 3 (OperatorTree.powers s) w := by
  induction h with
  | one ha => exact (hR _ _ ha).looser (by omega) (by omega)
  | more ha hop ht _ ih =>
    obtain rfl := hP _ hop
    exact Made.operation .power (hR _ _ ha) ht ih

/-- A row of primaries is a sum, grouped by the rule. -/
theorem made_group {R : Node → List Token → Prop}
    (hR : ∀ n w, R n w → Made text 4 (.operand n) w) {s : Joined Node} {w : List Token}
    (h : Strung P R s w) : Made text 1 (OperatorTree.group s) w := by
  refine made_leftward (by omega) (by omega) (fun _ hop => hop.2) (fun _ _ hproduct => ?_)
    (h.runs 1)
  refine made_leftward (by omega) (by omega) (fun _ hop => hop.2) (fun _ _ hpower => ?_)
    (hproduct.runs 2)
  refine made_powers (fun op hop => ?_) hR hpower
  -- the operators of the two other ranks end runs, so none is left inside
  cases op with
  | power => rfl
  | plus | minus => exact absurd rfl hop.1.2
  | times | divide => exact absurd rfl hop.2

end Made

/-! ## Texts -/

/-- A text with the node that it has as a primary. -/
structure Primary where
  text : String
  node : Node
  matched : parse "pri_exp" text = .ok node

/-- The primaries and the operators between them, joined with spaces. -/
def spaced (s : Joined Primary) : String :=
  " ".intercalate (s.1.text :: s.2.flatMap fun p => [p.1.symbol, p.2.text])

/-- The nodes of the primaries where they stand in a text that goes on from place `k` with them. -/
def placed : Nat → Primary → List (Operator × Primary) → Joined Node
  | k, p, [] => (p.node.moved k, [])
  | k, p, (op, q) :: l =>
    let (n, ns) := placed (k + (p.text ++ " " ++ op.symbol ++ " ").length) q l
    (p.node.moved k, (op, n) :: ns)

theorem spaced_one (p : Primary) : spaced (p, []) = p.text := by
  simp [spaced]

theorem spaced_more (p q : Primary) (op : Operator) (l : List (Operator × Primary)) :
    spaced (p, (op, q) :: l) = p.text ++ " " ++ op.symbol ++ " " ++ spaced (q, l) := by
  simp [spaced, String.intercalate_cons_cons, String.append_assoc]

/-- A primary has its own tree wherever its text stands before a break. -/
theorem Primary.made (p : Primary) {k : Nat} {text rest : List Char} (hb : Breaks rest)
    (hp : Node.StandsAt k p.text.toList text) :
    ∃ w, Reads Lexeme k (p.text.toList ++ rest) w (k + p.text.length) rest ∧
      Made text 4 (.operand (p.node.moved k)) w := by
  have hs : grammar.isSyntactic "pri_exp" = true := by rfl
  obtain ⟨t, ht, hr, hnode⟩ := exists_tree_of_parse hs p.matched
  have hrule : p.node.rule = "pri_exp" := by
    obtain ⟨_, -, hsp⟩ := accepts_of_parse_ok hs p.matched
    exact hsp.rule_eq_of_ref
  have ht' : TreeOf Token.terminal "pri_exp" (t.map (Token.moved k)) :=
    Derives.map (f := Token.moved k) (fun _ => rfl) ht
  refine ⟨_, reads_append ?_ hb, t.map (Token.moved k), ht', rfl, fun last => ⟨_, ?_,
    Node.operations_primary (by rw [Node.moved_eq]; exact hrule)⟩⟩
  · have hmoved := hr.moved k
    rwa [← yield_map, Nat.zero_add, Nat.add_comm] at hmoved
  · rw [Node.ofTree_after edged_grammar text ht' (by rfl) last (0 + k),
      Node.ofTree_moved hp t (fun a ha => (hr.bounds.2 a ha).2.2) (Nat.zero_le _), hnode]
    rfl

/-- The joined primaries read as the tokens of their trees. -/
theorem strung_spaced {text : List Char} :
    ∀ {k : Nat} {p : Primary} {l : List (Operator × Primary)},
      Node.StandsAt k (spaced (p, l)).toList text → ∃ w q,
        Reads Lexeme k (spaced (p, l)).toList w q [] ∧
          Strung (fun _ => True) (fun n => Made text 4 (.operand n)) (placed k p l) w
  | k, p, [], h => by
    rw [spaced_one] at h ⊢
    have hbreaks : Breaks [] := nofun
    obtain ⟨w, hr, hw⟩ := p.made hbreaks h
    rw [List.append_nil] at hr
    exact ⟨w, _, hr, .one hw⟩
  | k, p, (op, q) :: l, h => by
    obtain ⟨c, hc, hop⟩ := exists_symbol op
    have htext : (spaced (p, (op, q) :: l)).toList =
        p.text.toList ++ (' ' :: c :: [' '] ++ (spaced (q, l)).toList) := by
      simp [spaced_more, hop]
    have hplace :
        k + (p.text ++ " " ++ op.symbol ++ " ").length = k + p.text.length + 1 + 1 + 1 := by
      rw [hop]
      simp only [String.length_append, String.length_singleton, Nat.add_assoc]
      rfl
    rw [htext] at h ⊢
    obtain ⟨u, hu, hp⟩ := p.made (breaks_gap _) h.left
    obtain ⟨w, r, hr, hw⟩ := strung_spaced (p := q) (l := l) (h.right.right)
    rw [String.length_toList] at hr hw
    have hsymbol := Reads.token (isToken_symbol hc (' ' :: (spaced (q, l)).toList))
      (.gap (by decide) hr)
    refine ⟨_, r, hu.append (.gap (by decide) hsymbol), ?_⟩
    rw [placed, hplace]
    exact .more hp trivial (by rw [hop]) hw

/-- Primaries joined by operators are matched, and their operations are grouped by the rule. -/
theorem parse_spaced (s : Joined Primary) :
    ∃ n, parse "add_exp" (spaced s) = .ok n ∧ n.operations = .group (placed 0 s.1 s.2) := by
  have hstands : Node.StandsAt 0 (spaced (s.1, s.2)).toList (spaced s).toList := List.prefix_refl _
  obtain ⟨w, q, hr, hw⟩ := strung_spaced hstands
  obtain ⟨x, hx, rfl, hnx⟩ := made_group (fun _ _ h => h) hw
  obtain ⟨n, hn, hgroup⟩ := hnx 0
  have hend := hr.position_of_nil
  rw [Nat.zero_add] at hend
  subst hend
  obtain ⟨m, hm, hnode⟩ := parse_of_tree (by rfl) hx hr
  rw [hn] at hnode
  obtain rfl := (List.cons.inj hnode).1
  exact ⟨_, hm, hgroup⟩

theorem exists_primary (text : String)
    (h : (matcher.parseFrom "pri_exp" text.toList).toOption.map (fun _ => ()) = some ()) :
    ∃ p : Primary, p.text = text := by
  obtain ⟨n, hn, -⟩ := exists_parse_of_map (by rfl) h
  exact ⟨⟨text, n, hn⟩, rfl⟩

theorem parse_spaced_signs : ∃ p q r : Primary, (p.text, q.text, r.text) = ("-2", "f( )", "(3)") ∧
    ∃ n, parse "add_exp" "-2 ^ f( ) ^ (3) - -2" = .ok n ∧
      n.operations = .operation .minus
        (.operation .power (.operand (p.node.moved 0))
          (.operation .power (.operand (q.node.moved 5)) (.operand (r.node.moved 12))))
        (.operand (p.node.moved 18)) := by
  obtain ⟨p, hp⟩ := exists_primary "-2" (by decide +kernel)
  obtain ⟨q, hq⟩ := exists_primary "f( )" (by decide +kernel)
  obtain ⟨r, hr⟩ := exists_primary "(3)" (by decide +kernel)
  obtain ⟨n, hn, hgroup⟩ := parse_spaced (p, [(.power, q), (.power, r), (.minus, p)])
  have htext : spaced (p, [(.power, q), (.power, r), (.minus, p)]) = "-2 ^ f( ) ^ (3) - -2" := by
    simp only [spaced_more, spaced_one, hp, hq, hr]
    decide
  rw [htext] at hn
  refine ⟨p, q, r, by rw [hp, hq, hr], n, hn, ?_⟩
  rw [hgroup]
  simp only [placed, hp, hq, hr]
  rfl

end Arithmetic

end Reckon
