import Reckon.Proofs.Arithmetic.Erasure
import Reckon.Proofs.Arithmetic.Reading
import Reckon.Proofs.Operation.Visit

/-!
# Evaluating syntax trees

Visiting a syntax tree does what its expression says: within the limit of nesting, the interpreter
comes to the same result and the same session as `Expr.eval`, also where the evaluation fails.
-/

namespace Reckon.Interpreter

open Arithmetic

variable {α β γ δ : Type}

/-! ## Visits that follow an evaluation -/

/-- An outcome as that of a visit at depth `k`. -/
def tracked (k : Int) (f : α → β) (o : Outcome α) : Except Fault β × Tracked Session :=
  (o.1.map f, ⟨k, o.2⟩)

/-- At depth `k` the visit does what the evaluation does. -/
def Follows (v : Visit Session β) (k : Int) (f : α → β) (o : Session → Outcome α) : Prop :=
  ∀ s, v.run.run ⟨k, s⟩ = tracked k f (o s)

theorem Follows.bind {v : Visit Session β} {k : Int} {f : α → β} {o : Session → Outcome α}
    (h : Follows v k f o) {g : β → Visit Session δ} {f' : γ → δ}
    {o' : α → Session → Outcome γ} (hg : ∀ a, Follows (g (f a)) k f' (o' a)) :
    Follows (v >>= g) k f' fun s => (o s).andThen o' := by
  intro s
  change _ = tracked k f' ((o s).andThen o')
  rw [Visit.run_bind, h s]
  rcases o s with ⟨e | a, t⟩
  · rfl
  · exact hg a t

/-! ## The actions of the rules -/

/-- The action for each kind of node. -/
def action : Construct → EvalBody
  | .delegate => delegate
  | .paren => paren
  | .assign => assign
  | .call => call
  | .name => identifier
  | .number => numeral
  | .sign negative => signed (signValue negative)
  | .binary op => operate op.apply

theorem dispatch_of_construct {rule : String} {c : Construct} (h : construct? rule = some c) :
    ∃ a, registry.dispatch rule = .ok a ∧ a.body = action c := by
  unfold construct? at h
  split at h <;> cases h <;> exact ⟨_, rfl, rfl⟩

theorem follows_orFail (k : Int) (e : Fault) (a : Option Number) :
    Follows (orFail e a) k some fun s => (orFault e a, s) := by
  intro s
  cases a <;> rfl

section Actions

variable {k : Int} {n : Node} {b p q : Branch Session (Option Number)} {o : Session → Outcome Number}

/-- A name is bound after its value is known. -/
theorem follows_assign {x : Node} (hx : p.node = x) (h : Follows b.visit k some o) :
    Follows (assign n [p, q, b]) k some fun s => (o s).andThen fun a s =>
      match s.assign x.source a with
      | .ok t => (.ok a, t)
      | .error e => (.error (.eval e), s) := by
  subst hx
  refine h.bind fun a s => ?_
  simp only [Visit.run_bind, Visit.run_get]
  rcases s.assign p.node.source a with e | t <;> rfl

theorem follows_signed (negative : Bool) (h : Follows b.visit k some o) :
    Follows (signed (signValue negative) n [p, b]) k some fun s => (o s).andThen fun a s =>
      (.ok (signValue negative a), s) :=
  h.bind fun _ _ => rfl

/-- The left operand comes first. -/
theorem follows_operate (op : Operator) {o' : Session → Outcome Number}
    (h : Follows b.visit k some o) (h' : Follows q.visit k some o') :
    Follows (operate op.apply n [b, p, q]) k some fun s => (o s).andThen fun a s =>
      (o' s).andThen fun a' s => (orFault .zeroDivision (op.apply a a'), s) :=
  h.bind fun a => h'.bind fun a' => follows_orFail k _ (op.apply a a')

/-- A function is found before its arguments are evaluated. -/
theorem follows_call {f : Node} {args : Branch Session (Option Number)} {es : List Expr}
    (hf : b.node = f) (hlen : args.node.children.length = es.length)
    (h : Follows (arguments n.rule args.children) k id (Expr.evalEach es)) :
    Follows (call n [b, p, args, q]) k some (Expr.call f.source es).eval := by
  intro s
  subst hf
  unfold call
  simp only [Visit.run_bind, Visit.run_get, hlen, Expr.eval, Environment.function]
  rcases s.env.lookup b.node.source with _ | v | v | g
  · rfl
  · rfl
  · rfl
  · by_cases hg : g.arity = es.length
    · simp only [hg, if_true, lift, Visit.run_pure, h s]
      rcases Expr.evalEach es s with ⟨e | as, t⟩
      · rfl
      · exact follows_orFail k _ _ _
    · simp only [hg, if_false]
      rfl

theorem follows_identifier (k : Int) (n : Node) :
    Follows (identifier n []) k some fun s => ((s.env.value n.source).mapError .eval, s) := by
  intro s
  unfold identifier
  simp only [Visit.run_bind, Visit.run_get]
  rcases s.env.value n.source with e | a <;> rfl

theorem follows_numeral (k : Int) (n : Node)
    (h : (Decimal.unsigned? n.source.toList).isSome = true) :
    Follows (numeral n []) k some fun s => (.ok (numeralValue n.source), s) := by
  intro s
  obtain ⟨a, ha⟩ := Option.isSome_iff_exists.1 h
  simp only [numeral, numeralValue, ha]
  rfl

end Actions

/-! ## Nesting -/

section Nesting

variable {n : Node} {c : Construct}

theorem rule_ne_of_construct {rule : String} (h : construct? rule = some c) :
    rule ≠ Node.terminalName ∧ rule ≠ Node.iterationName := by
  constructor <;> rintro rfl <;> cases h

theorem nesting_eq (h : construct? n.rule = some c) :
    n.nesting = Node.deepest (Node.startsWithName n.rule) n.children + Operation.levels n := by
  obtain ⟨rule, children, source, start, stop⟩ := n
  obtain ⟨ht, hi⟩ := rule_ne_of_construct h
  simp only [Node.nesting, Operation.levels, Operation.isNested, bne_iff_ne, ne_eq] at ht hi ⊢
  by_cases hl : children.length = 1 <;> simp [ht, hi, hl]

theorem nesting_iteration (h : n.rule = Node.iterationName) :
    n.nesting = Node.deepest false n.children := by
  obtain ⟨rule, children, source, start, stop⟩ := n
  obtain rfl : rule = Node.iterationName := h
  simp [Node.nesting, Node.iterationName, Node.terminalName, Node.startsWithName]

theorem deepest_le_cons {m : Node} {ns : List Node} {skip : Bool} :
    Node.deepest false ns ≤ Node.deepest skip (m :: ns) := by
  rw [Node.deepest]
  exact Nat.le_max_right _ _

theorem nesting_le_deepest {m : Node} :
    ∀ {ns : List Node}, m ∈ ns → m.nesting ≤ Node.deepest false ns
  | [], h => absurd h List.not_mem_nil
  | n :: ns, h => by
    rcases List.mem_cons.1 h with rfl | h
    · rw [Node.deepest]
      exact Nat.le_max_left _ _
    · exact Nat.le_trans (nesting_le_deepest h) deepest_le_cons

/-- The children that are visited: all but targets and callees. -/
def visited : Construct → List Node → List Node
  | .assign, ns => ns.tail
  | .call, ns => ns.tail
  | _, ns => ns

theorem startsWithName_eq {rule : String} (h : construct? rule = some c) :
    Node.startsWithName rule = (c == .assign || c == .call) := by
  unfold construct? at h
  split at h <;> cases h <;> rfl

theorem nesting_le_of_visited (h : construct? n.rule = some c) {m : Node}
    (hm : m ∈ visited c n.children) :
    m.nesting ≤ Node.deepest (Node.startsWithName n.rule) n.children := by
  rw [startsWithName_eq h]
  have htail (hm : m ∈ n.children.tail) : m.nesting ≤ Node.deepest true n.children := by
    rcases hns : n.children with _ | ⟨x, ns⟩ <;> rw [hns] at hm
    · exact absurd hm List.not_mem_nil
    · exact Nat.le_trans (nesting_le_deepest hm) deepest_le_cons
  cases c with
  | assign | call => exact htail hm
  | delegate | paren | name | number | sign | binary => exact nesting_le_deepest hm

end Nesting

/-! ## The simulation -/

variable {maxDepth : Int}

/-- A node follows an evaluation if its action does, one level deeper. -/
theorem follows_node {n : Node} {a : Action EvalBody} (ha : registry.dispatch n.rule = .ok a)
    (hiter : n.isIteration = false) {k : Int} (hk : k + Operation.levels n ≤ maxDepth)
    {f : α → Option Number} {o : Session → Outcome α}
    (h : Follows (a.body n ((operation maxDepth).branches n.children)) (k + Operation.levels n)
      f o) :
    Follows ((operation maxDepth).branch n).visit k f o := by
  intro s
  rw [Operation.branch_visit]
  refine Operation.run_visitNode hk ?_
  rw [Operation.visitBody_of_dispatch hiter ha]
  exact h s

theorem follows_branch {n : Node} {c : Construct} (hc : construct? n.rule = some c)
    {ns : List Node} (hn : n.children = ns) {k : Int} (hk : k + n.nesting ≤ maxDepth)
    {f : α → Option Number} {o : Session → Outcome α}
    (h : ∀ k', (∀ m ∈ visited c ns, k' + m.nesting ≤ maxDepth) →
      Follows (action c n ((operation maxDepth).branches ns)) k' f o) :
    Follows ((operation maxDepth).branch n).visit k f o := by
  subst hn
  rw [nesting_eq hc] at hk
  obtain ⟨a, ha, hbody⟩ := dispatch_of_construct hc
  refine follows_node ha (beq_false_of_ne (rule_ne_of_construct hc).2) (by omega) ?_
  rw [hbody]
  refine h _ fun m hm => ?_
  have := nesting_le_of_visited hc hm
  omega

/-- Within the limit the visit of the node follows the evaluation of the expression. -/
def FollowsWithin (maxDepth : Int) (n : Node) (e : Expr) : Prop :=
  ∀ k : Int, k + n.nesting ≤ maxDepth →
    Follows ((operation maxDepth).branch n).visit k some e.eval

section Rows

variable {ns : List Node} {es : List Expr} (h : List.Forall₂ (FollowsWithin maxDepth) ns es)
  {k : Int} (hk : k + Node.deepest false ns ≤ maxDepth)

include h hk

theorem follows_arguments (rule : String) :
    Follows (arguments rule ((operation maxDepth).branches ns)) k id (Expr.evalEach es) := by
  induction h with
  | nil => exact fun s => rfl
  | @cons n e ns es he _ ih =>
    have hn : n.nesting ≤ Node.deepest false (n :: ns) := nesting_le_deepest List.mem_cons_self
    have hns : Node.deepest false ns ≤ Node.deepest false (n :: ns) := deepest_le_cons
    refine (he k (Int.le_trans (by omega) hk)).bind fun v => ?_
    exact (ih (Int.le_trans (by omega) hk)).bind fun vs s => rfl

theorem follows_inOrder (last : Option Number) :
    Follows (inOrder last ((operation maxDepth).branches ns)) k id (Expr.evalAll last es) := by
  induction h generalizing last with
  | nil => exact fun s => rfl
  | @cons n e ns es he _ ih =>
    have hn : n.nesting ≤ Node.deepest false (n :: ns) := nesting_le_deepest List.mem_cons_self
    have hns : Node.deepest false ns ≤ Node.deepest false (n :: ns) := deepest_le_cons
    exact (he k (Int.le_trans (by omega) hk)).bind fun v => ih (Int.le_trans (by omega) hk) (some v)

end Rows

theorem follows_erases {n : Node} {e : Expr} (h : Erases n e) : FollowsWithin maxDepth n e := by
  induction h with
  | @delegate n m e hc hn _ ih =>
    intro k hk
    exact follows_branch hc hn hk fun k' hk' => ih k' (hk' m (by simp [visited]))
  | @paren n p m q e hc hn _ ih =>
    intro k hk
    exact follows_branch hc hn hk fun k' hk' => ih k' (hk' m (by simp [visited]))
  | @assign n x q m e hc hn _ ih =>
    intro k hk
    refine follows_branch hc hn hk fun k' hk' => ?_
    exact follows_assign (q := (operation maxDepth).branch q) (Operation.branch_node x)
      (ih k' (hk' m (by simp [visited])))
  | @sign n q m negative e hc hn _ ih =>
    intro k hk
    refine follows_branch hc hn hk fun k' hk' => ?_
    exact follows_signed (p := (operation maxDepth).branch q) negative
      (ih k' (hk' m (by simp [visited])))
  | @binary n l q r op a b hc hn _ _ _ ihl ihr =>
    intro k hk
    refine follows_branch hc hn hk fun k' hk' => ?_
    exact follows_operate (p := (operation maxDepth).branch q) op
      (ihl k' (hk' l (by simp [visited]))) (ihr k' (hk' r (by simp [visited])))
  | @call n f p list q es hc hn hl hlen _ ih =>
    intro k hk
    refine follows_branch hc hn hk fun k' hk' => ?_
    have hargs := hk' list (by simp [visited])
    rw [nesting_iteration hl] at hargs
    refine follows_call (p := (operation maxDepth).branch p) (q := (operation maxDepth).branch q)
      (Operation.branch_node f) ?_ ?_
    · rwa [Operation.branch_node]
    · rw [Operation.branch_children]
      exact follows_arguments (List.forall₂_iff_zip.2 ⟨hlen, ih _ _⟩) hargs n.rule
  | @name n hc hn =>
    exact fun k hk => follows_branch hc hn hk fun k' _ => follows_identifier k' n
  | @number n hc hn hv =>
    exact fun k hk => follows_branch hc hn hk fun k' _ => follows_numeral k' n hv

theorem nesting_program {n list : Node} (hn : n.rule = "program") (hc : n.children = [list])
    (hl : list.rule = Node.iterationName) : n.nesting = Node.deepest false list.children := by
  obtain ⟨rule, children, source, start, stop⟩ := n
  obtain ⟨rule', ns, source', start', stop'⟩ := list
  obtain rfl : rule = "program" := hn
  obtain rfl : children = [⟨rule', ns, source', start', stop'⟩] := hc
  obtain rfl : rule' = Node.iterationName := hl
  simp [Node.nesting, Node.deepest, Node.terminalName, Node.iterationName, Node.startsWithName]

theorem program_node {n list : Node} (hrule : n.rule = "program") (hch : n.children = [list]) :
    registry.dispatch n.rule = .ok (.ofArity "program" 1 program) ∧ n.isIteration = false ∧
      Operation.levels n = 0 := by
  rw [Node.isIteration, hrule]
  exact ⟨rfl, rfl, by simp [Operation.levels, Operation.isNested, hch]⟩

/-- Within the limit the interpreter does what the expressions of the program say. -/
theorem interpret_eq_evalAll {n : Node} {es : List Expr} (h : n.statements = some es)
    (i : Interpreter) (hd : i.depth + n.nesting ≤ i.maxDepth) (s : Session) :
    i.interpret n s =
      ((Expr.evalAll none es s).1, i, (Expr.evalAll none es s).2) := by
  obtain ⟨list, hrule, hch, hlist, hes⟩ := Node.statements_eq_some h
  rw [nesting_program hrule hch hlist] at hd
  obtain ⟨hdisp, hiter, hlev⟩ := program_node hrule hch
  have hfollows : Follows ((operation i.maxDepth).branch n).visit i.depth id
      (Expr.evalAll none es) := by
    refine follows_node hdisp hiter (by rw [hlev]; omega) ?_
    rw [hch, hlev, Int.natCast_zero, Int.add_zero]
    change Follows (inOrder none ((operation i.maxDepth).branch list).children) i.depth id _
    rw [Operation.branch_children]
    exact follows_inOrder ((erases_of_eraseEach hes).imp fun _ _ => follows_erases) hd none
  unfold interpret Operation.visit
  rw [hfollows s]
  rcases Expr.evalAll none es s with ⟨e | v, t⟩ <;> rfl

/-- Every program has expressions, and within the limit the interpreter does what they say. -/
theorem interpret_program_eq_evalAll {text : String} {n : Node} (h : parse "program" text = .ok n) :
    ∃ es, n.statements = some es ∧
      ∀ i : Interpreter, i.depth + n.nesting ≤ i.maxDepth → ∀ s : Session,
        i.interpret n s =
          ((Expr.evalAll none es s).1, i, (Expr.evalAll none es s).2) := by
  obtain ⟨ts, ps, -, -, -, hes⟩ := exists_phrases_of_parse h
  exact ⟨_, hes, fun i hd s => interpret_eq_evalAll hes i hd s⟩

theorem interpret_program_eq_evalAll_assignment :
    ∃ n es, parse "program" "(x=2)" = .ok n ∧ n.statements = some es ∧
      ∀ s : Session, (Interpreter.mk 4 0).interpret n s =
        ((Expr.evalAll none es s).1, ⟨4, 0⟩, (Expr.evalAll none es s).2) := by
  have hok : (matcher.parseFrom "program" "(x=2)".toList).toOption.map Node.nesting = some 3 := by
    decide +kernel
  obtain ⟨n, hn, hnest⟩ := exists_parse_of_map isSyntactic_program hok
  have hd : (0 : Int) + n.nesting ≤ 4 := by omega
  obtain ⟨es, hes, hi⟩ := interpret_program_eq_evalAll hn
  exact ⟨n, es, hn, hes, hi ⟨4, 0⟩ hd⟩

end Reckon.Interpreter
