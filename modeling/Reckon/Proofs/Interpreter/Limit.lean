import Reckon.Proofs.Interpreter.Related

/-!
# The limit of nesting

Visiting without a limit leaves out both the count and the check. A limit that the nesting of a tree
keeps to changes nothing; a tighter one stops an evaluation that would succeed, and one that fails
it stops or lets fail in the same way (`interpret_limit_exact`).

The relation that carries this (`Limits`) says of a visit at depth `k` that it does what the
unlimited one does, and then `k + h` keeps to the limit or the visit fails, or that it is stopped,
and then `k + h` is beyond the limit. Since a visit that succeeds went through all of its parts, the
deepest of them decides.
-/

namespace Reckon

namespace Operation

variable {σ α : Type} {op : Operation σ α}

mutual

/-- A node with what visiting it does if the nesting has no limit. -/
def unlimitedBranch (op : Operation σ α) : Node → Branch σ α
  | ⟨rule, children, source, start, stop⟩ =>
    let n : Node := ⟨rule, children, source, start, stop⟩
    let bs := op.unlimitedBranches children
    ⟨n, op.visitBody n bs, bs⟩

def unlimitedBranches (op : Operation σ α) : List Node → List (Branch σ α)
  | [] => []
  | n :: ns => op.unlimitedBranch n :: op.unlimitedBranches ns

end

theorem unlimitedBranches_eq_map (ns : List Node) :
    op.unlimitedBranches ns = ns.map op.unlimitedBranch := by
  induction ns with
  | nil => rw [unlimitedBranches, List.map_nil]
  | cons n ns ih => rw [unlimitedBranches, ih, List.map_cons]

theorem unlimitedBranch_eq (n : Node) : op.unlimitedBranch n =
    ⟨n, op.visitBody n (n.children.map op.unlimitedBranch), n.children.map op.unlimitedBranch⟩ := by
  obtain ⟨rule, children, source, start, stop⟩ := n
  simp only [unlimitedBranch, unlimitedBranches_eq_map]

end Operation

namespace Interpreter

open Arithmetic

/-- Visits a tree in a session, however deep it is nested. -/
def interpretUnlimited (n : Node) (s : Session) : Except Fault (Option Number) × Session :=
  let (r, t) := ((operation 0).unlimitedBranch n).visit.run.run ⟨0, s⟩
  (r, t.state)

/-- Under the limit `d` the visit `v`, nested `h` deep, does what `v'` does, or is stopped. -/
def Limits (d : Int) {α : Type} (h : Nat) (v v' : Visit Session α) : Prop :=
  ∀ (k : Int) (s : Session), k ≤ d →
    ∃ (r : Except Fault α) (t : Session), (∀ j, v'.run.run ⟨j, s⟩ = (r, ⟨j, t⟩)) ∧
      (v.run.run ⟨k, s⟩ = (r, ⟨k, t⟩) ∧ (k + h ≤ d ∨ ∃ e, r = .error e) ∨
        d < k + h ∧ ∃ u, v.run.run ⟨k, s⟩ = (.error (.eval (.tooDeep d)), ⟨k, u⟩))

theorem Limits.bind {d : Int} {α β : Type} {h h' : Nat} {v v' : Visit Session α}
    {g g' : α → Visit Session β} (hv : Limits d h v v') (hg : ∀ a, Limits d h' (g a) (g' a)) :
    Limits d (max h h') (v >>= g) (v' >>= g') := by
  intro k s hk
  obtain ⟨r, t, hfree, hcase⟩ := hv k s hk
  rcases r with e | a
  · refine ⟨.error e, t, fun j => by rw [Visit.run_bind, hfree], ?_⟩
    rcases hcase with ⟨hrun, -⟩ | ⟨hd, u, hrun⟩
    · exact .inl ⟨by rw [Visit.run_bind, hrun], .inr ⟨e, rfl⟩⟩
    · exact .inr ⟨by omega, u, by rw [Visit.run_bind, hrun]⟩
  · obtain ⟨r, t', hfree', hcase'⟩ := hg a k t hk
    refine ⟨r, t', fun j => by rw [Visit.run_bind, hfree]; exact hfree' j, ?_⟩
    rcases hcase with ⟨hrun, hle⟩ | ⟨hd, u, hrun⟩
    · have hle : k + h ≤ d := hle.resolve_right nofun
      rcases hcase' with ⟨hrun', hle'⟩ | ⟨hd, u, hrun'⟩
      · refine .inl ⟨by rw [Visit.run_bind, hrun]; exact hrun', hle'.imp_left fun hle' => ?_⟩
        omega
      · exact .inr ⟨by omega, u, by rw [Visit.run_bind, hrun]; exact hrun'⟩
    · exact .inr ⟨by omega, u, by rw [Visit.run_bind, hrun]⟩

/-- A visit that is not nested has no limit to keep to. -/
theorem limits_of_run {d : Int} {α : Type} {v : Visit Session α} {h : Nat}
    (hv : ∀ s, ∃ r t, (∀ k, v.run.run ⟨k, s⟩ = (r, ⟨k, t⟩)) ∧ (h = 0 ∨ ∃ e, r = .error e)) :
    Limits d h v v := by
  intro k s hk
  obtain ⟨r, t, hrun, hr⟩ := hv s
  refine ⟨r, t, hrun, .inl ⟨hrun k, hr.imp_left fun h0 => ?_⟩⟩
  omega

theorem limits_node {d : Int} {n : Node} {h : Nat} {a : Action EvalBody}
    (ha : registry.dispatch n.rule = .ok a) (hi : n.isIteration = false)
    (hb : Limits d h (a.body n (n.children.map (operation d).branch))
      (a.body n (n.children.map (operation 0).unlimitedBranch))) :
    Limits d (h + Operation.levels n) ((operation d).branch n).visit
      ((operation 0).unlimitedBranch n).visit := by
  intro k s hk
  rw [Operation.branch_visit, Operation.branches_eq_map, Operation.unlimitedBranch_eq]
  have hfree : (operation 0).visitBody n (n.children.map (operation 0).unlimitedBranch) = _ :=
    Operation.visitBody_of_dispatch hi ha
  have hbody : (operation d).visitBody n (n.children.map (operation d).branch) = _ :=
    Operation.visitBody_of_dispatch hi ha
  simp only [hfree]
  by_cases hdeep : k + Operation.levels n ≤ d
  · obtain ⟨r, t, hrun, hcase⟩ := hb (k + Operation.levels n) s hdeep
    refine ⟨r, t, hrun, ?_⟩
    rw [← hbody] at hcase
    rcases hcase with ⟨hv, hle⟩ | ⟨hd, u, hv⟩
    · exact .inl ⟨Operation.run_visitNode hdeep hv, hle.imp_left fun hle => by omega⟩
    · exact .inr ⟨by omega, u, Operation.run_visitNode hdeep hv⟩
  · obtain ⟨r, t, hrun, -⟩ := hb k s hk
    exact ⟨r, t, hrun, .inr ⟨by omega, s, Operation.run_visitNode_tooDeep s (by
      rw [show (operation d).maxDepth = d from rfl]; omega)⟩⟩

theorem compatible_limits (d : Int) :
    Compatible (Limits d) (operation d).branch (operation 0).unlimitedBranch where
  rule n := by rw [Operation.branch_node, Operation.unlimitedBranch_eq]; exact ⟨rfl, rfl⟩
  source _ := by rw [Operation.branch_node, Operation.unlimitedBranch_eq]
  count n := by rw [Operation.branch_node, Operation.unlimitedBranch_eq]
  children n := by
    rw [Operation.branch_children, Operation.branches_eq_map, Operation.unlimitedBranch_eq]
    exact ⟨rfl, rfl⟩
  pure a := limits_of_run fun s => ⟨.ok a, s, fun _ => rfl, .inl rfl⟩
  fail _ e := limits_of_run fun s => ⟨.error e, s, fun _ => rfl, .inr ⟨e, rfl⟩⟩
  step p := limits_of_run fun s => ⟨_, _, fun k => p.run_visit k s, .inl rfl⟩
  bind := Limits.bind
  node {n h a} ha hi hb := by
    rw [Operation.branch_node, Operation.unlimitedBranch_eq] at hb
    exact limits_node ha hi hb

section Text

variable {start text : String} {n : Node} (h : parse start text = .ok n) (d : Int) {s t : Session}
  {r : Except Fault (Option Number)} (hr : interpretUnlimited n s = (r, t))

include h hr

/-- A tree is visited as without a limit if its nesting keeps to the limit; if not it is stopped, or it
fails before. -/
theorem interpret_limited :
    ((Interpreter.mk d 0).interpret n s = (r, ⟨d, 0⟩, t) ∧ (n.nesting ≤ d ∨ ∃ e, r = .error e)) ∨
      d < n.nesting ∧
        ∃ u, (Interpreter.mk d 0).interpret n s = (.error (.eval (.tooDeep d)), ⟨d, 0⟩, u) := by
  by_cases hd : 0 ≤ d
  · obtain ⟨r', t', hfree, hcase⟩ := (compatible_limits d).related h 0 s hd
    obtain ⟨rfl, rfl⟩ : r' = r ∧ t' = t := by
      unfold interpretUnlimited at hr
      rw [hfree 0] at hr
      exact Prod.mk.inj hr
    rw [Int.zero_add] at hcase
    exact hcase.imp (And.imp_left interpret_eq)
      (And.imp_right fun ⟨u, hrun⟩ => ⟨u, interpret_eq hrun⟩)
  · -- below zero nothing at all is visited
    refine .inr ⟨by omega, s, interpret_eq ?_⟩
    rw [Operation.branch_visit]
    refine Operation.run_visitNode_tooDeep s ?_
    change d < _
    omega

theorem interpret_of_nesting_le (hd : n.nesting ≤ d) :
    (Interpreter.mk d 0).interpret n s = (r, ⟨d, 0⟩, t) := by
  rcases interpret_limited h d hr with ⟨hrun, -⟩ | ⟨hlt, -⟩
  · exact hrun
  · omega

theorem interpret_cases : (Interpreter.mk d 0).interpret n s = (r, ⟨d, 0⟩, t) ∨
    ∃ u, (Interpreter.mk d 0).interpret n s = (.error (.eval (.tooDeep d)), ⟨d, 0⟩, u) :=
  (interpret_limited h d hr).imp And.left And.right

end Text

/-- The limit is exact, and otherwise not seen: where the nesting keeps to it, the outcome is the
one without a limit; where not, what would succeed is stopped, and what would fail fails so or is
stopped. -/
theorem interpret_limit_exact {start text : String} {n : Node} (h : parse start text = .ok n)
    (d : Int) {s t : Session} {r : Except Fault (Option Number)}
    (hr : interpretUnlimited n s = (r, t)) :
    (n.nesting ≤ d → (Interpreter.mk d 0).interpret n s = (r, ⟨d, 0⟩, t)) ∧
      (d < n.nesting →
        (∀ v, r = .ok v →
          ∃ u, (Interpreter.mk d 0).interpret n s = (.error (.eval (.tooDeep d)), ⟨d, 0⟩, u)) ∧
        ∀ e, r = .error e → (Interpreter.mk d 0).interpret n s = (.error e, ⟨d, 0⟩, t) ∨
          ∃ u, (Interpreter.mk d 0).interpret n s = (.error (.eval (.tooDeep d)), ⟨d, 0⟩, u)) := by
  refine ⟨interpret_of_nesting_le h d hr, fun hlt => ⟨?_, ?_⟩⟩
  · rintro v rfl
    rcases interpret_limited h d hr with ⟨-, hle | ⟨e, he⟩⟩ | ⟨-, hstop⟩
    · omega
    · cases he
    · exact hstop
  · rintro e rfl
    exact interpret_cases h d hr

theorem interpret_limit_exact_parenthesis :
    ∃ n v t, parse "exp" "(x=2)" = .ok n ∧ interpretUnlimited n ⟨{}, []⟩ = (.ok v, t) ∧
      (Interpreter.mk 3 0).interpret n ⟨{}, []⟩ = (.ok v, ⟨3, 0⟩, t) ∧
      ∃ u, (Interpreter.mk 2 0).interpret n ⟨{}, []⟩ =
        (.error (.eval (.tooDeep 2)), ⟨2, 0⟩, u) := by
  have hok : ((matcher.parseFrom "exp" "(x=2)".toList).toOption.map fun n =>
      (n.nesting, (interpretUnlimited n ⟨{}, []⟩).1.isOk)) = some (3, true) := by decide +kernel
  obtain ⟨n, hn, hboth⟩ := exists_parse_of_map isSyntactic_exp hok
  obtain ⟨hnest, hval⟩ := Prod.mk.inj hboth
  rcases hr : interpretUnlimited n ⟨{}, []⟩ with ⟨e | v, t⟩
  · rw [hr] at hval
    cases hval
  · refine ⟨n, v, t, hn, hr, ?_, ?_⟩
    · exact (interpret_limit_exact hn 3 hr).1 (by omega)
    · exact ((interpret_limit_exact hn 2 hr).2 (by omega)).1 v rfl

end Interpreter

end Reckon
