import Mathlib.Data.List.Forall2
import Reckon.Proofs.Arithmetic.Syntax

/-!
# Nodes and their expressions

How the expression of a node comes from those of its children, one case for each construct
(`Erases`). A fact about the nodes that have an expression is proved by induction on this
(`erases_of_erase`).
-/

namespace Reckon.Arithmetic

/-- The node has the expression. -/
inductive Erases : Node → Expr → Prop
  | delegate {n m : Node} {e : Expr} (hc : construct? n.rule = some .delegate)
      (hn : n.children = [m]) (hm : Erases m e) : Erases n e
  | paren {n p m q : Node} {e : Expr} (hc : construct? n.rule = some .paren)
      (hn : n.children = [p, m, q]) (hm : Erases m e) : Erases n e
  | assign {n x p m : Node} {e : Expr} (hc : construct? n.rule = some .assign)
      (hn : n.children = [x, p, m]) (hm : Erases m e) : Erases n (.assign x.source e)
  | sign {n p m : Node} {negative : Bool} {e : Expr} (hc : construct? n.rule = some (.sign negative))
      (hn : n.children = [p, m]) (hm : Erases m e) : Erases n (.sign negative e)
  | binary {n l p r : Node} {op : Operator} {a b : Expr} (hc : construct? n.rule = some (.binary op))
      (hn : n.children = [l, p, r]) (hp : p.source = op.symbol) (hl : Erases l a)
      (hr : Erases r b) : Erases n (.binary op a b)
  | call {n f p list q : Node} {es : List Expr} (hc : construct? n.rule = some .call)
      (hn : n.children = [f, p, list, q]) (hl : list.rule = Node.iterationName)
      (hlen : list.children.length = es.length)
      (hes : ∀ m e, (m, e) ∈ list.children.zip es → Erases m e) : Erases n (.call f.source es)
  | name {n : Node} (hc : construct? n.rule = some .name) (hn : n.children = []) :
      Erases n (.name n.source)
  | number {n : Node} (hc : construct? n.rule = some .number) (hn : n.children = [])
      (hv : (Decimal.unsigned? n.source.toList).isSome = true) : Erases n (.number n.source)

theorem exists_mem_zip {α β : Type} {l : List α} {l' : List β} (h : l.length = l'.length) {a : α}
    (ha : a ∈ l) : ∃ b, (a, b) ∈ l.zip l' := by
  rw [← List.map_fst_zip (Nat.le_of_eq h)] at ha
  obtain ⟨⟨a, b⟩, hzip, rfl⟩ := List.mem_map.1 ha
  exact ⟨b, hzip⟩

mutual

theorem erases_of_erase : ∀ {n : Node} {e : Expr}, n.erase = some e → Erases n e
  | ⟨rule, children, source, start, stop⟩, e, h => by
    unfold Node.erase at h
    split at h
    · rename_i hc
      exact .delegate hc rfl (erases_of_erase h)
    · rename_i hc
      exact .paren hc rfl (erases_of_erase h)
    · rename_i hc
      obtain ⟨a, ha, rfl⟩ := Option.map_eq_some_iff.1 h
      exact .assign hc rfl (erases_of_erase ha)
    · rename_i hc
      obtain ⟨a, ha, rfl⟩ := Option.map_eq_some_iff.1 h
      exact .sign hc rfl (erases_of_erase ha)
    · rename_i hc
      split at h
      · rename_i hp
        obtain ⟨a, ha, hbind⟩ := Option.bind_eq_some_iff.1 h
        obtain ⟨b, hb, rfl⟩ := Option.map_eq_some_iff.1 hbind
        exact .binary hc rfl hp (erases_of_erase ha) (erases_of_erase hb)
      · cases h
    · rename_i hc
      split at h
      · rename_i hl
        obtain ⟨as, has, rfl⟩ := Option.map_eq_some_iff.1 h
        obtain ⟨hlen, hes⟩ := List.forall₂_iff_zip.1 (erases_of_eraseEach has)
        exact .call hc rfl hl hlen fun _ _ hm => hes hm
      · cases h
    · rename_i hc
      cases h
      exact .name hc rfl
    · rename_i hc
      split at h
      · rename_i hv
        cases h
        exact .number hc rfl hv
      · cases h
    · cases h
termination_by n => sizeOf n

theorem erases_of_eraseEach : ∀ {ns : List Node} {es : List Expr}, Node.eraseEach ns = some es →
    List.Forall₂ Erases ns es
  | [], es, h => by
    rw [Node.eraseEach] at h
    cases h
    exact .nil
  | n :: ns, es, h => by
    rw [Node.eraseEach] at h
    obtain ⟨e, he, hbind⟩ := Option.bind_eq_some_iff.1 h
    obtain ⟨es, hes, rfl⟩ := Option.map_eq_some_iff.1 hbind
    exact .cons (erases_of_erase he) (erases_of_eraseEach hes)
termination_by ns => sizeOf ns

end

end Reckon.Arithmetic
