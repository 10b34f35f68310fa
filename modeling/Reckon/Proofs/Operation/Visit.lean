import Reckon.Operation.Visit

/-!
# Running visits

What a visit does from a given state, step by step. Within the limit of nesting the visit of a node
is that of its body one level deeper, and leaves the depth as it was (`Operation.run_visitNode`).
-/

namespace Reckon

variable {σ α β : Type}

namespace Visit

theorem run_bind (v : Visit σ α) (g : α → Visit σ β) (t : Tracked σ) :
    (v >>= g).run.run t =
      match v.run.run t with
      | (.ok a, t) => (g a).run.run t
      | (.error e, t) => (.error e, t) := by
  simp only [ExceptT.run, bind, ExceptT.bind, ExceptT.mk, StateT.run, StateT.bind,
    ExceptT.bindCont]
  rcases v t with ⟨e | a, t⟩ <;> rfl

@[simp] theorem run_pure (a : α) (t : Tracked σ) : (pure a : Visit σ α).run.run t = (.ok a, t) := rfl

@[simp] theorem run_get (t : Tracked σ) : (get : Visit σ σ).run.run t = (.ok t.state, t) := rfl

@[simp] theorem run_set (x : σ) (t : Tracked σ) :
    (set x).run.run t = (.ok (), { t with state := x }) := rfl

@[simp] theorem run_fail (e : Fault) (t : Tracked σ) :
    (fail e : Visit σ α).run.run t = (.error e, t) := rfl

theorem run_limited {limit : Int} {body : Visit σ α} {t : Tracked σ} (h : t.depth ≤ limit) :
    (limited limit body).run.run t = body.run.run t := by
  have hlt : ¬ limit < t.depth := Int.not_lt.2 h
  exact if_neg hlt

theorem run_limited_tooDeep {limit : Int} {body : Visit σ α} {t : Tracked σ}
    (h : limit < t.depth) :
    (limited limit body).run.run t = (.error (.eval (.tooDeep limit)), t) := if_pos h

theorem run_counted (body : Visit σ α) (k : Int) (s : σ) :
    (counted true body).run.run ⟨k, s⟩ =
      ((body.run.run ⟨k + 1, s⟩).1,
        { (body.run.run ⟨k + 1, s⟩).2 with depth := (body.run.run ⟨k + 1, s⟩).2.depth - 1 }) := rfl

end Visit

namespace Operation

variable {op : Operation σ α}

/-- The levels of nesting that a node adds. -/
def levels (n : Node) : Nat := if isNested n then 1 else 0

theorem run_visitNode {n : Node} {bs : List (Branch σ α)} {k : Int} {s : σ}
    (hk : k + levels n ≤ op.maxDepth) {r : Except Fault α} {s' : σ}
    (h : (op.visitBody n bs).run.run ⟨k + levels n, s⟩ = (r, ⟨k + levels n, s'⟩)) :
    (op.visitNode n bs).run.run ⟨k, s⟩ = (r, ⟨k, s'⟩) := by
  unfold visitNode
  by_cases hn : isNested n = true
  · have hl : (levels n : Int) = 1 := by simp [levels, hn]
    rw [hl] at hk h
    have hback : k + 1 - 1 = k := by omega
    rw [hn, Visit.run_counted, Visit.run_limited hk, h]
    simp only [hback]
  · have hl : (levels n : Int) = 0 := by simp [levels, hn]
    rw [hl, Int.add_zero] at hk h
    rw [Visit.counted, if_neg hn, Visit.run_limited hk, h]

/-- A visit nested too deep is stopped. -/
theorem run_visitNode_tooDeep {n : Node} {bs : List (Branch σ α)} {k : Int} (s : σ)
    (hk : op.maxDepth < k + levels n) :
    (op.visitNode n bs).run.run ⟨k, s⟩ = (.error (.eval (.tooDeep op.maxDepth)), ⟨k, s⟩) := by
  unfold visitNode levels at *
  cases hn : isNested n with
  | true =>
    have hlt : op.maxDepth < k + 1 := by simpa [hn] using hk
    have hback : k + 1 - 1 = k := by omega
    rw [Visit.run_counted, Visit.run_limited_tooDeep hlt]
    simp only [hback]
  | false =>
    have hlt : op.maxDepth < k := by simpa [hn] using hk
    rw [Visit.counted, if_neg Bool.false_ne_true, Visit.run_limited_tooDeep hlt]

theorem visitBody_of_dispatch {n : Node} {bs : List (Branch σ α)} (hi : n.isIteration = false)
    {a : Action (Body σ α)} (h : op.registry.dispatch n.rule = .ok a) :
    op.visitBody n bs = a.body n bs := by
  simp [visitBody, hi, h]

@[simp] theorem branch_node (n : Node) : (op.branch n).node = n := by
  cases n
  rw [branch]

@[simp] theorem branch_children (n : Node) : (op.branch n).children = op.branches n.children := by
  cases n
  rw [branch]

theorem branch_visit (n : Node) :
    (op.branch n).visit = op.visitNode n (op.branches n.children) := by
  cases n
  rw [branch]

theorem branches_eq_map (ns : List Node) : op.branches ns = ns.map op.branch := by
  induction ns with
  | nil => rw [branches, List.map_nil]
  | cons n ns ih => rw [branches, ih, List.map_cons]

end Operation

end Reckon
