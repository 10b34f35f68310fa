import Reckon.Proofs.Operation.Registry
import Reckon.Proofs.Operation.Visit

/-!
# Visits keep the count of the nesting

A visit counts the levels that it goes down and gives them back, also when it fails. So an operation
whose actions touch the count only by visiting (`Operation.Tidy`) finds the count as it left it,
whatever trees it visits: these need not be well formed (`Operation.Tidy.branch`). Then visits that
follow one another have no effect on each other (`Operation.Tidy.visitEach_eq`).
-/

namespace Reckon

variable {σ α β : Type}

namespace Visit

/-- The visit leaves the count as it found it, whatever comes of it. -/
def Balanced (v : Visit σ α) : Prop := ∀ t, (v.run.run t).2.depth = t.depth

theorem balanced_pure (a : α) : Balanced (pure a : Visit σ α) := fun _ => rfl

theorem balanced_get : Balanced (get : Visit σ σ) := fun _ => rfl

theorem balanced_set (x : σ) : Balanced (set x) := fun _ => rfl

theorem balanced_fail (e : Fault) : Balanced (fail e : Visit σ α) := fun _ => rfl

theorem Balanced.bind {v : Visit σ α} {g : α → Visit σ β} (hv : Balanced v)
    (hg : ∀ a, Balanced (g a)) : Balanced (v >>= g) := by
  intro t
  have hv := hv t
  rw [run_bind]
  rcases hrun : v.run.run t with ⟨e | a, u⟩ <;> rw [hrun] at hv
  · exact hv
  · exact (hg a u).trans hv

theorem Balanced.limited {v : Visit σ α} (h : Balanced v) (limit : Int) :
    Balanced (limited limit v) := by
  intro t
  by_cases ht : t.depth ≤ limit
  · rw [run_limited ht]
    exact h t
  · rw [run_limited_tooDeep (Int.not_le.1 ht)]

theorem Balanced.counted {v : Visit σ α} (h : Balanced v) (nested : Bool) :
    Balanced (counted nested v) := by
  cases nested with
  | false => exact h
  | true =>
    rintro ⟨k, s⟩
    have hback := h ⟨k + 1, s⟩
    rw [run_counted]
    simp only at hback ⊢
    omega

theorem balanced_mapM {γ : Type} {f : γ → Visit σ α} {l : List γ} (h : ∀ c ∈ l, Balanced (f c)) :
    Balanced (l.mapM f) := by
  induction l with
  | nil => exact balanced_pure []
  | cons c l ih =>
    obtain ⟨hc, hl⟩ := List.forall_mem_cons.1 h
    rw [List.mapM_cons]
    exact hc.bind fun _ => (ih hl).bind fun _ => balanced_pure _

end Visit

/-- The branch and all that is below it are visited in balance. -/
inductive Branch.Balanced : Branch σ α → Prop
  | intro {b : Branch σ α} (visit : b.visit.Balanced) (children : ∀ c ∈ b.children, Balanced c) :
      Balanced b

theorem Branch.Balanced.visited {b : Branch σ α} (h : b.Balanced) : b.visit.Balanced := by
  cases h with | intro hvisit _ =>
  exact hvisit

theorem Branch.Balanced.child {b c : Branch σ α} (h : b.Balanced) : c ∈ b.children → c.Balanced := by
  cases h with | intro _ hchildren =>
  exact hchildren c

/-- The action touches the count only by visiting. -/
def Body.Tidy (body : Body σ α) : Prop :=
  ∀ n bs, (∀ b ∈ bs, Branch.Balanced b) → (body n bs).Balanced

namespace Operation

variable {op : Operation σ α}

/-- All actions touch the count only by visiting. -/
def Tidy (op : Operation σ α) : Prop := ∀ p ∈ op.registry.actions, Body.Tidy p.2.body

theorem Tidy.visitNode (h : op.Tidy) (n : Node) {bs : List (Branch σ α)}
    (hbs : ∀ b ∈ bs, Branch.Balanced b) : (op.visitNode n bs).Balanced := by
  have hbody : (op.visitBody n bs).Balanced := by
    unfold visitBody
    split
    · exact (Visit.balanced_mapM fun b hb => (hbs b hb).visited).bind fun _ => Visit.balanced_pure _
    · split
      · exact Visit.balanced_fail _
      · rename_i a ha
        exact h _ (Registry.mem_of_dispatch ha) n bs hbs
  exact (hbody.limited _).counted _

mutual

theorem Tidy.branch (h : op.Tidy) : ∀ n : Node, (op.branch n).Balanced
  | ⟨rule, children, source, start, stop⟩ => by
    have hbs := Tidy.branches h children
    rw [Operation.branch]
    exact .intro (h.visitNode _ hbs) hbs

theorem Tidy.branches (h : op.Tidy) : ∀ ns : List Node, ∀ b ∈ op.branches ns, Branch.Balanced b
  | [] => by
    rw [Operation.branches]
    exact nofun
  | n :: ns => by
    rw [Operation.branches]
    exact List.forall_mem_cons.2 ⟨Tidy.branch h n, Tidy.branches h ns⟩

end

/-- Visits a tree when the count is at `depth`: the result with the state, and the count after it. -/
def visitFrom (op : Operation σ α) (depth : Int) (n : Node) (s : σ) : (Except Fault α × σ) × Int :=
  let o := (op.visit n).run.run ⟨depth, s⟩
  ((o.1, o.2.state), o.2.depth)

/-- Visits trees one after another, each from a state of its own. Only the count is handed on. -/
def visitEach (op : Operation σ α) (depth : Int) :
    List (Node × σ) → List (Except Fault α × σ) × Int
  | [] => ([], depth)
  | v :: vs =>
    let first := op.visitFrom depth v.1 v.2
    let rest := op.visitEach first.2 vs
    (first.1 :: rest.1, rest.2)

/-- Each visit comes to what it would come to as the first one. -/
theorem Tidy.visitEach_eq (h : op.Tidy) (visits : List (Node × σ)) :
    op.visitEach 0 visits = (visits.map fun v => (op.visitFrom 0 v.1 v.2).1, 0) := by
  induction visits with
  | nil => rfl
  | cons v vs ih =>
    have hdepth : (op.visitFrom 0 v.1 v.2).2 = 0 := (h.branch v.1).visited ⟨0, v.2⟩
    simp only [visitEach, hdepth, ih, List.map_cons]

end Operation

end Reckon
