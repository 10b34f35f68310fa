import Mathlib.Data.List.Basic
import Reckon.Proofs.Arithmetic.Syntax

/-!
# How a series of operands is grouped

A series is an operand with operators and operands after it. Runs joined by `^` group to the right,
then runs joined by `*` and `/` to the left, then those joined by `+` and `-` to the left (`sums`).
A series that ends in an operator of its lowest rank and operands of higher rank is grouped at that
operator (`sums_binary`).
-/

namespace Reckon.Arithmetic

/-- Operators of a higher rank bind tighter. -/
def Operator.rank : Operator → Nat
  | plus | minus => 1
  | times | divide => 2
  | power => 3

theorem Operator.rank_pos : ∀ op : Operator, 1 ≤ op.rank
  | plus | minus | times | divide | power => by decide

theorem Operator.rank_le : ∀ op : Operator, op.rank ≤ 3
  | plus | minus | times | divide | power => by decide

/-- An operand, and operators each with the operand after it. -/
abbrev Series := Expr × List (Operator × Expr)

/-- Groups to the left. -/
def leftward (a : Expr) (l : List (Operator × Expr)) : Expr :=
  l.foldl (fun x p => .binary p.1 x p.2) a

/-- Groups to the right. -/
def rightward : Expr → List (Operator × Expr) → Expr
  | a, [] => a
  | a, (op, b) :: rest => .binary op a (rightward b rest)

/-- The runs between the operators of rank `k`. -/
def runs (k : Nat) : Expr → List (Operator × Expr) → Series × List (Operator × Series)
  | a, [] => ((a, []), [])
  | a, (op, b) :: rest =>
    let (r, rs) := runs k b rest
    if op.rank = k then ((a, []), (op, r) :: rs) else ((a, (op, r.1) :: r.2), rs)

/-- Groups each run between the operators of rank `k` by `inner`, and these to the left. -/
def level (k : Nat) (inner : Series → Expr) (r : Series) : Expr :=
  leftward (inner (runs k r.1 r.2).1) ((runs k r.1 r.2).2.map fun p => (p.1, inner p.2))

def powers (r : Series) : Expr := rightward r.1 r.2

def products : Series → Expr := level 2 powers

def sums : Series → Expr := level 1 products

/-! ## Runs -/

section Runs

variable {k : Nat} {inner : Series → Expr} {a b : Expr} {t u : List (Operator × Expr)} {op : Operator}

theorem runs_of_forall_ne (h : ∀ p ∈ t, p.1.rank ≠ k) : runs k a t = ((a, t), []) := by
  induction t generalizing a with
  | nil => rfl
  | cons p t ih =>
    obtain ⟨hp, ht⟩ := List.forall_mem_cons.1 h
    obtain ⟨o, c⟩ := p
    simp only [runs, ih ht]
    exact if_neg hp

/-- The last operator of rank `k` begins the last run. -/
theorem runs_append (hop : op.rank = k) (hu : ∀ p ∈ u, p.1.rank ≠ k) :
    runs k a (t ++ (op, b) :: u) = ((runs k a t).1, (runs k a t).2 ++ [(op, (b, u))]) := by
  induction t generalizing a with
  | nil =>
    simp only [List.nil_append, runs, runs_of_forall_ne hu]
    exact if_pos hop
  | cons p t ih =>
    obtain ⟨o, c⟩ := p
    simp only [List.cons_append, runs, ih]
    split <;> rfl

theorem level_of_forall_ne (h : ∀ p ∈ t, p.1.rank ≠ k) : level k inner (a, t) = inner (a, t) := by
  simp only [level, runs_of_forall_ne h]
  rfl

theorem level_append (hop : op.rank = k) (hu : ∀ p ∈ u, p.1.rank ≠ k) :
    level k inner (a, t ++ (op, b) :: u) = .binary op (level k inner (a, t)) (inner (b, u)) := by
  simp only [level, runs_append hop hu, leftward, List.map_append, List.foldl_append]
  rfl

end Runs

/-! ## Series of one rank or more -/

/-- All operators are of rank `k` or higher. -/
def Tight (k : Nat) (t : List (Operator × Expr)) : Prop := ∀ p ∈ t, k ≤ p.1.rank

section Tight

variable {a b : Expr} {t u : List (Operator × Expr)} {op : Operator}

theorem Tight.ne {j k : Nat} (h : Tight j t) (hk : k < j) : ∀ p ∈ t, p.1.rank ≠ k :=
  fun p hp he => absurd (h p hp) (by omega)

theorem Tight.mono {j k : Nat} (h : Tight j t) (hk : k ≤ j) : Tight k t :=
  fun p hp => Nat.le_trans hk (h p hp)

theorem Tight.eq_nil (h : Tight 4 t) : t = [] := by
  refine List.eq_nil_iff_forall_not_mem.2 fun p hp => ?_
  have h4 := h p hp
  have h3 := p.1.rank_le
  omega

theorem Tight.append_cons {k : Nat} (ht : Tight k t) (hop : k ≤ op.rank) (hu : Tight k u) :
    Tight k (t ++ (op, b) :: u) :=
  List.forall_mem_append.2 ⟨ht, List.forall_mem_cons.2 ⟨hop, hu⟩⟩

theorem sums_eq_products (h : Tight 2 t) : sums (a, t) = products (a, t) :=
  level_of_forall_ne (h.ne (by omega))

theorem sums_eq_powers (h : Tight 3 t) : sums (a, t) = powers (a, t) :=
  (sums_eq_products (h.mono (by omega))).trans (level_of_forall_ne (h.ne (by omega)))

theorem sums_nil (a : Expr) : sums (a, []) = a := rfl

/-- The ranks that the operands of an operator have at least. -/
def Operator.leftRank : Operator → Nat
  | power => 4
  | op => op.rank

def Operator.rightRank : Operator → Nat
  | power => 3
  | op => op.rank + 1

theorem Operator.rank_le_leftRank : ∀ op : Operator, op.rank ≤ op.leftRank
  | plus | minus | times | divide | power => by decide

theorem Operator.rank_le_rightRank : ∀ op : Operator, op.rank ≤ op.rightRank
  | plus | minus | times | divide | power => by decide

/-- Sums and products have their own level on the left and the next one on the right. -/
theorem Operator.ranks_of_le : ∀ {op : Operator}, op.rank ≤ 2 →
    op.leftRank = op.rank ∧ op.rightRank = op.rank + 1
  | plus, _ | minus, _ | times, _ | divide, _ => ⟨rfl, rfl⟩

theorem sums_binary (ht : Tight op.leftRank t) (hu : Tight op.rightRank u) :
    sums (a, t ++ (op, b) :: u) = .binary op (sums (a, t)) (sums (b, u)) := by
  have hsum (hop : op.rank = 1) (hu : Tight 2 u) :
      sums (a, t ++ (op, b) :: u) = .binary op (sums (a, t)) (sums (b, u)) := by
    rw [sums_eq_products hu]
    exact level_append hop (hu.ne (by omega))
  have hproduct (hop : op.rank = 2) (ht : Tight 2 t) (hu : Tight 3 u) :
      sums (a, t ++ (op, b) :: u) = .binary op (sums (a, t)) (sums (b, u)) := by
    rw [sums_eq_products (ht.append_cons (by omega) (hu.mono (by omega))), sums_eq_products ht,
      sums_eq_powers hu]
    exact level_append hop (hu.ne (by omega))
  cases op with
  | plus | minus => exact hsum rfl hu
  | times | divide => exact hproduct rfl ht hu
  | power =>
    obtain rfl := ht.eq_nil
    have hall : Tight 3 ((Operator.power, b) :: u) :=
      List.forall_mem_cons.2 ⟨Nat.le_refl 3, hu⟩
    rw [List.nil_append, sums_eq_powers hall, sums_eq_powers hu]
    rfl

end Tight

/-! ## What grouping keeps -/

/-- A property of all operands. -/
def Series.All (P : Expr → Prop) (r : Series) : Prop := P r.1 ∧ ∀ p ∈ r.2, P p.2

section All

variable {P : Expr → Prop} (hP : ∀ {op : Operator} {a b : Expr}, P a → P b → P (.binary op a b))
include hP

theorem leftward_of_forall {a : Expr} {l : List (Operator × Expr)} (ha : P a)
    (hl : ∀ p ∈ l, P p.2) : P (leftward a l) := by
  induction l generalizing a with
  | nil => exact ha
  | cons p l ih =>
    obtain ⟨hp, hl⟩ := List.forall_mem_cons.1 hl
    exact ih (hP ha hp) hl

theorem rightward_of_forall {a : Expr} {l : List (Operator × Expr)} (ha : P a)
    (hl : ∀ p ∈ l, P p.2) : P (rightward a l) := by
  induction l generalizing a with
  | nil => exact ha
  | cons p l ih =>
    obtain ⟨hp, hl⟩ := List.forall_mem_cons.1 hl
    exact hP ha (ih hp hl)

omit hP in
theorem runs_of_forall (k : Nat) {a : Expr} {t : List (Operator × Expr)} (ha : P a)
    (ht : ∀ p ∈ t, P p.2) :
    Series.All P (runs k a t).1 ∧ ∀ q ∈ (runs k a t).2, Series.All P q.2 := by
  induction t generalizing a with
  | nil => exact ⟨⟨ha, nofun⟩, nofun⟩
  | cons p t ih =>
    obtain ⟨op, b⟩ := p
    obtain ⟨hb, ht⟩ := List.forall_mem_cons.1 ht
    obtain ⟨hr, hrs⟩ := ih hb ht
    by_cases hop : op.rank = k
    · simp only [runs, if_pos hop]
      exact ⟨⟨ha, nofun⟩, List.forall_mem_cons.2 ⟨hr, hrs⟩⟩
    · simp only [runs, if_neg hop]
      exact ⟨⟨ha, List.forall_mem_cons.2 hr⟩, hrs⟩

theorem level_of_forall (k : Nat) {inner : Series → Expr} (hinner : ∀ r, Series.All P r → P (inner r))
    {r : Series} (hr : Series.All P r) : P (level k inner r) := by
  obtain ⟨hfirst, hmore⟩ := runs_of_forall k hr.1 hr.2
  refine leftward_of_forall hP (hinner _ hfirst) fun p hp => ?_
  obtain ⟨q, hq, rfl⟩ := List.mem_map.1 hp
  exact hinner _ (hmore q hq)

/-- What all operands have, and an operation if its operands have it, the whole has. -/
theorem sums_of_forall {r : Series} (hr : Series.All P r) : P (sums r) :=
  level_of_forall hP 1 (fun _ h => level_of_forall hP 2
    (fun _ h => rightward_of_forall hP h.1 h.2) h) hr

end All

end Reckon.Arithmetic
