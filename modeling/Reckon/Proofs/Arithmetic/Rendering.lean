import Reckon.Parenthesizer
import Reckon.Proofs.Arithmetic.Erasure
import Reckon.Proofs.Operation.Visit

/-!
# The text of an expression

Rendering a program writes the texts of its expressions (`Expr.text`), unless the tree is nested too
deep; nothing else can go wrong (`render_cases`).
-/

namespace Reckon

namespace Arithmetic.Expr

mutual

/-- An expression with parentheses around every operation, but none around an assignment. -/
def text : Expr → String
  | number t => t
  | name x => x
  | assign x e => x ++ " = " ++ e.text
  | sign negative e => "(" ++ signSymbol negative ++ e.text ++ ")"
  | binary op l r => "(" ++ l.text ++ " " ++ op.symbol ++ " " ++ r.text ++ ")"
  | call f es => f ++ "(" ++ ", ".intercalate (texts es) ++ ")"

def texts : List Expr → List String
  | [] => []
  | e :: es => e.text :: texts es

end

end Arithmetic.Expr

namespace Parenthesizer

open Arithmetic

variable {α β : Type} {limit : Int}

/-- At any depth the visit comes to `a`, unless it is nested too deep. -/
def Prints (limit : Int) (v : Visit Unit α) (a : α) : Prop :=
  ∀ k, v.run.run ⟨k, ()⟩ = (.ok a, ⟨k, ()⟩) ∨
    v.run.run ⟨k, ()⟩ = (.error (.eval (.tooDeep limit)), ⟨k, ()⟩)

theorem prints_pure (a : α) : Prints limit (pure a) a := fun _ => .inl rfl

theorem Prints.bind {v : Visit Unit α} {a : α} (h : Prints limit v a) {g : α → Visit Unit β} {b : β}
    (hg : Prints limit (g a) b) : Prints limit (v >>= g) b := by
  intro k
  rw [Visit.run_bind]
  rcases h k with hk | hk <;> rw [hk]
  · exact hg k
  · exact .inr rfl

theorem Prints.limited {v : Visit Unit α} {a : α} (h : Prints limit v a) :
    Prints limit (Visit.limited limit v) a := by
  intro k
  by_cases hk : k ≤ limit
  · rw [Visit.run_limited hk]
    exact h k
  · exact .inr (if_pos (Int.not_le.1 hk))

theorem Prints.counted {v : Visit Unit α} {a : α} (h : Prints limit v a) (nested : Bool) :
    Prints limit (Visit.counted nested v) a := by
  cases nested with
  | false => exact h
  | true =>
    intro k
    have hback : k + 1 - 1 = k := by omega
    rw [Visit.run_counted]
    rcases h (k + 1) with hk | hk <;> simp only [hk, hback]
    · exact .inl trivial
    · exact .inr trivial

/-! ## The actions of the rules -/

/-- The action for each kind of node. -/
def action : Construct → TextBody
  | .delegate => delegate
  | .paren => paren
  | .assign => assign
  | .call => call
  | .name | .number => token
  | .sign negative => signed (signSymbol negative)
  | .binary _ => operate

theorem dispatch_of_construct {rule : String} {c : Construct} (h : construct? rule = some c) :
    ∃ a, registry.dispatch rule = .ok a ∧ a.body = action c := by
  unfold construct? at h
  split at h <;> cases h <;> exact ⟨_, rfl, rfl⟩

@[simp] theorem joined_singleton (t : String) : joined [t] = t := by
  simp [joined]

section Actions

variable (n : Node) {b p q : Branch Unit (List String)} {t u : String}

theorem prints_assign {x : Node} (hx : p.node = x) (h : Prints limit b.visit [t]) :
    Prints limit (assign n [p, q, b]) [x.source ++ " = " ++ t] := by
  subst hx
  refine h.bind ?_
  rw [joined_singleton]
  exact prints_pure _

theorem prints_signed (s : String) (h : Prints limit b.visit [t]) :
    Prints limit (signed s n [p, b]) ["(" ++ s ++ t ++ ")"] := by
  refine h.bind ?_
  rw [joined_singleton]
  exact prints_pure _

theorem prints_operate {op : Operator} {o : Node} (hp : p.node = o) (ho : o.source = op.symbol)
    (h : Prints limit b.visit [t]) (h' : Prints limit q.visit [u]) :
    Prints limit (operate n [b, p, q]) ["(" ++ t ++ " " ++ op.symbol ++ " " ++ u ++ ")"] := by
  refine h.bind (h'.bind ?_)
  rw [joined_singleton, joined_singleton, hp, ho]
  exact prints_pure _

theorem prints_call {f : Node} {args : Branch Unit (List String)} {ts : List String}
    (hf : b.node = f) (h : Prints limit args.visit ts) :
    Prints limit (call n [b, p, args, q]) [f.source ++ "(" ++ ", ".intercalate ts ++ ")"] := by
  subst hf
  exact h.bind (prints_pure _)

end Actions

/-! ## Nodes -/

theorem prints_node {n : Node} {a : α} {op : Operation Unit α} (hop : op.maxDepth = limit)
    (h : Prints limit (op.visitBody n (op.branches n.children)) a) :
    Prints limit (op.branch n).visit a := by
  rw [Operation.branch_visit, Operation.visitNode, hop]
  exact h.limited.counted _

theorem prints_construct {n : Node} {c : Construct} (hc : construct? n.rule = some c)
    {ns : List Node} (hn : n.children = ns) {ts : List String}
    (h : Prints limit (action c n ((operation limit).branches ns)) ts) :
    Prints limit ((operation limit).branch n).visit ts := by
  subst hn
  obtain ⟨a, ha, hbody⟩ := dispatch_of_construct hc
  refine prints_node rfl ?_
  have hiter : n.isIteration = false := by
    refine beq_false_of_ne ?_
    rintro he
    rw [he] at hc
    cases hc
  rw [Operation.visitBody_of_dispatch hiter ha, hbody]
  exact h

/-- A list gives the texts of its items. -/
theorem prints_iteration {n : Node} (hn : n.rule = Node.iterationName) {ts : List String}
    (h : Prints limit (((operation limit).branches n.children).mapM (·.visit)) (ts.map ([·]))) :
    Prints limit ((operation limit).branch n).visit ts := by
  refine prints_node rfl ?_
  have hiter : n.isIteration = true := by
    rw [Node.isIteration, hn]
    rfl
  have hflat : (ts.map ([·])).flatten = ts := by rw [← List.flatMap_def, List.flatMap_singleton']
  rw [Operation.visitBody, if_pos hiter]
  refine h.bind ?_
  change Prints limit (pure (ts.map ([·])).flatten) ts
  rw [hflat]
  exact prints_pure ts

theorem prints_each {ns : List Node} {es : List Expr}
    (h : List.Forall₂ (fun n e => Prints limit ((operation limit).branch n).visit [e.text]) ns es) :
    Prints limit (((operation limit).branches ns).mapM (·.visit)) ((Expr.texts es).map ([·])) := by
  induction h with
  | nil => exact prints_pure []
  | cons he _ ih =>
    rw [Operation.branches, List.mapM_cons]
    exact he.bind (ih.bind (prints_pure _))

theorem prints_erases {n : Node} {e : Expr} (h : Erases n e) :
    Prints limit ((operation limit).branch n).visit [e.text] := by
  induction h with
  | delegate hc hn _ ih => exact prints_construct hc hn ih
  | paren hc hn _ ih => exact prints_construct hc hn ih
  | @assign n x q m e hc hn _ ih =>
    exact prints_construct hc hn
      (prints_assign n (q := (operation limit).branch q) (Operation.branch_node x) ih)
  | @sign n q m negative e hc hn _ ih =>
    exact prints_construct hc hn (prints_signed n (p := (operation limit).branch q) _ ih)
  | @binary n l q r op a b hc hn hq _ _ ihl ihr =>
    exact prints_construct hc hn (prints_operate n (Operation.branch_node q) hq ihl ihr)
  | @call n f p list q es hc hn hl hlen _ ih =>
    have hes := prints_each (List.forall₂_iff_zip.2 ⟨hlen, ih _ _⟩)
    exact prints_construct hc hn (prints_call n (p := (operation limit).branch p)
      (q := (operation limit).branch q) (Operation.branch_node f) (prints_iteration hl hes))
  | @name n hc hn => exact prints_construct hc hn (prints_pure [n.source])
  | @number n hc hn _ => exact prints_construct hc hn (prints_pure [n.source])

/-- A program is written with its expressions one after another, unless it is nested too deep. -/
theorem render_cases {n : Node} {es : List Expr} (h : n.statements = some es) :
    render n = .ok ("; ".intercalate (Expr.texts es)) ∨
      render n = .error (.eval (.tooDeep defaultMaxDepth)) := by
  obtain ⟨list, hrule, hch, hlist, hes⟩ := Node.statements_eq_some h
  have hiter : n.isIteration = false := by
    rw [Node.isIteration, hrule]
    rfl
  have hdisp : registry.dispatch n.rule = .ok (.ofArity "program" 1 program) := by
    rw [hrule]
    rfl
  have hprints : Prints defaultMaxDepth ((operation defaultMaxDepth).branch n).visit
      ["; ".intercalate (Expr.texts es)] := by
    refine prints_node rfl ?_
    rw [Operation.visitBody_of_dispatch hiter hdisp, hch]
    refine (prints_iteration hlist (prints_each ?_)).bind (prints_pure _)
    exact (erases_of_eraseEach hes).imp fun _ _ => prints_erases
  unfold render Operation.visit
  rcases hprints 0 with hp | hp <;> rw [hp]
  · refine .inl ?_
    change Except.ok (joined _) = _
    rw [joined_singleton]
  · exact .inr rfl

end Parenthesizer

end Reckon
