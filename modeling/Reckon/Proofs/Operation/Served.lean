import Reckon.Proofs.Match.SyntaxTree
import Reckon.Proofs.Operation.Registry
import Reckon.Proofs.Operation.Visit

/-!
# Visits that find their actions

A visit is `Served` if it never ends in an error of the registry. If there is an action for every
rule, and actions visit no literals (`SkipsLiterals`), then all visits of a tree that is made as the
rules say (`Regular`) are served (`served_branch`).
-/

namespace Reckon

variable {σ α γ : Type}

namespace Visit

/-- The visit never ends in an error of the registry. -/
def Served (v : Visit σ α) : Prop := ∀ t e, (v.run.run t).1 ≠ .error (.registry e)

theorem served_pure (a : α) : Served (pure a : Visit σ α) := fun _ _ => nofun

theorem Served.bind {v : Visit σ α} {f : α → Visit σ γ} (hv : Served v) (hf : ∀ a, Served (f a)) :
    Served (v >>= f) := by
  intro t e
  have hv := hv t e
  rw [run_bind]
  rcases hrun : v.run.run t with ⟨e' | a, u⟩ <;> rw [hrun] at hv
  · exact fun h => hv (congrArg Except.error (Except.error.inj h))
  · exact hf a u e

theorem Served.limited {v : Visit σ α} (h : Served v) (limit : Int) : Served (limited limit v) := by
  intro t e
  by_cases ht : t.depth ≤ limit
  · rw [run_limited ht]
    exact h t e
  · rw [run_limited_tooDeep (Int.not_le.1 ht)]
    nofun

theorem Served.counted {v : Visit σ α} (h : Served v) (nested : Bool) :
    Served (counted nested v) := by
  cases nested with
  | false => exact h
  | true =>
    rintro ⟨k, s⟩ e
    rw [run_counted]
    exact h ⟨k + 1, s⟩ e

theorem served_mapM {f : γ → Visit σ α} {l : List γ} (h : ∀ c ∈ l, Served (f c)) :
    Served (l.mapM f) := by
  induction l with
  | nil => exact served_pure []
  | cons c l ih =>
    obtain ⟨hc, hl⟩ := List.forall_mem_cons.1 h
    rw [List.mapM_cons]
    exact hc.bind fun _ => (ih hl).bind fun _ => served_pure _

end Visit

/-- The branch and all that is below it are served when visited, but for literals. -/
inductive Branch.Served : Branch σ α → Prop
  | intro {b : Branch σ α} (visit : b.node.isTerminal = false → b.visit.Served)
      (children : ∀ c ∈ b.children, Served c) : Served b

theorem Branch.Served.visited {b : Branch σ α} (h : b.Served) (hb : b.node.isTerminal = false) :
    b.visit.Served := by
  cases h with | intro hvisit _ =>
  exact hvisit hb

/-- A list holds no literals, its separators being dropped; only a tree that is built by hand has a list
that does. A node that is neither a list nor a literal is one of a rule, and has as many children as the
rule. -/
structure Grammar.Regular (g : Grammar) (n : Node) : Prop where
  items : n.isIteration = true → ∀ c ∈ n.children, c.isTerminal = false
  rule : n.isIteration = false → n.isTerminal = false →
    n.rule ∈ g.ruleNames ∧ n.children.length = g.arity n.rule

namespace Operation

variable {op : Operation σ α} {g : Grammar}

/-- Wherever a node of a rule stands in the tree, its action ends in an error of the registry only
if the visit of a child does that is no literal. -/
def SkipsLiterals (op : Operation σ α) (tree : Node) : Prop :=
  ∀ n, n.Within tree → ∀ a, op.registry.dispatch n.rule = .ok a → ∀ bs : List (Branch σ α),
    bs.map (·.node) = n.children → (∀ b ∈ bs, b.Served) → (a.body n bs).Served

theorem SkipsLiterals.child {n c : Node} (h : op.SkipsLiterals n) (hc : c ∈ n.children) :
    op.SkipsLiterals c :=
  fun m hm => h m (.child hc hm)

theorem map_node_branches (op : Operation σ α) (ns : List Node) :
    (op.branches ns).map (·.node) = ns := by
  simp [branches_eq_map, Function.comp_def]

theorem served_visitNode (hr : ∀ rule ∈ g.ruleNames, rule ∈ op.registry.names) {n : Node}
    (hn : g.Regular n) (hs : op.SkipsLiterals n) (hl : n.isTerminal = false)
    {bs : List (Branch σ α)} (hnodes : bs.map (·.node) = n.children) (hbs : ∀ b ∈ bs, b.Served) :
    (op.visitNode n bs).Served := by
  have hbody : (op.visitBody n bs).Served := by
    -- a list visits its items, and any other node goes by its action
    by_cases hi : n.isIteration = true
    · have hitems (b) (hb : b ∈ bs) : b.node.isTerminal = false :=
        hn.items hi _ (hnodes ▸ List.mem_map_of_mem hb)
      rw [visitBody, if_pos hi]
      exact (Visit.served_mapM fun b hb => (hbs b hb).visited (hitems b hb)).bind
        fun _ => Visit.served_pure _
    · have hi := Bool.eq_false_iff.2 hi
      obtain ⟨a, ha⟩ := Registry.exists_dispatch (hr _ (hn.rule hi hl).1)
      rw [visitBody_of_dispatch hi ha]
      exact hs n (.self n) a ha bs hnodes hbs
  exact (hbody.limited _).counted _

mutual

theorem served_branch (hr : ∀ rule ∈ g.ruleNames, rule ∈ op.registry.names) :
    ∀ n : Node, (∀ m, m.Within n → g.Regular m) → op.SkipsLiterals n → (op.branch n).Served
  | ⟨rule, children, source, start, stop⟩, hn, hs => by
    have hbs := served_branches hr children (fun c hc m hm => hn m (.child hc hm))
      fun c hc => hs.child hc
    rw [branch]
    exact .intro (fun hl => served_visitNode hr (hn _ (.self _)) hs hl (map_node_branches op _) hbs)
      hbs

theorem served_branches (hr : ∀ rule ∈ g.ruleNames, rule ∈ op.registry.names) :
    ∀ ns : List Node, (∀ n ∈ ns, ∀ m, m.Within n → g.Regular m) →
      (∀ n ∈ ns, op.SkipsLiterals n) → ∀ b ∈ op.branches ns, b.Served
  | [], _, _ => by
    rw [branches]
    exact nofun
  | n :: ns, hn, hs => by
    obtain ⟨hn, hns⟩ := List.forall_mem_cons.1 hn
    obtain ⟨hs, hss⟩ := List.forall_mem_cons.1 hs
    rw [branches]
    exact List.forall_mem_cons.2 ⟨served_branch hr n hn hs, served_branches hr ns hns hss⟩

end

end Operation

end Reckon
