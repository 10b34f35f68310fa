import Reckon.Proofs.Interpreter.Failure
import Reckon.Proofs.Interpreter.Sequence

/-!
# Texts that divide by zero

A plain number in an evaluation is one that the environment binds, or comes from such by signs and
operations (`Environment.Makes`). So a text may divide by zero only if zero comes so, and then one
does, since each number that comes so is the value of an expression (`exists_expr_of_makes`). Nothing
else comes of a text but what is ordinary (`outcome_ordinary`).
-/

namespace Reckon

open Arithmetic Interpreter

namespace Environment

/-- The plain number is bound, or comes from plain numbers that are, by signs and operations. -/
inductive Makes (env : Environment) : Float → Prop
  | bound {name : String} {x : Float} (hname : IsIdentifier name.toList)
      (h : env.value name = .ok (.plain x)) : env.Makes x
  | neg {x : Float} (hx : env.Makes x) : env.Makes (-x)
  | operate {op : Operator} {x y z : Float} (hx : env.Makes x) (hy : env.Makes y)
      (h : op.apply (.plain x) (.plain y) = some (.plain z)) : env.Makes z

/-- A plain zero comes from what is bound. -/
def MakesZero (env : Environment) : Prop := ∃ x, env.Makes x ∧ (x == 0.0) = true

/-- If the number is plain, it comes from what is bound. -/
def Made (env : Environment) (a : Number) : Prop := ∀ x, a = .plain x → env.Makes x

variable {env : Environment}

theorem supplies_made : env.Supplies env.Made := by
  rintro name _ hname hvalue x rfl
  exact .bound hname hvalue

theorem Answers.supplied (h : env.Answers) : env.Supplied env.Made := ⟨h, supplies_made⟩

theorem closed_made : Number.Closed env.Made where
  ieee _ := nofun
  sign negative a ha x hx := by
    cases negative with
    | false => exact ha x hx
    | true =>
      cases a <;> cases hx
      exact .neg (ha _ rfl)
  operate {op a b _} ha hb h z hz := by
    subst hz
    obtain ⟨x, y, rfl, rfl⟩ := op.plain_of_apply h
    exact .operate (ha x rfl) (hb y rfl) h

/-- Each number that comes from what is bound is the value of an expression without assignments. -/
theorem exists_expr_of_makes {x : Float} (h : env.Makes x) : ∃ e : Expr, e.Spelled ∧
    (e.plain && !e.isAssign) = true ∧ ∀ s : Session, s.env = env → e.eval s = (.ok (.plain x), s) := by
  induction h with
  | @bound name x hname hvalue =>
    refine ⟨.name name, hname, rfl, ?_⟩
    rintro s rfl
    rw [Expr.eval, hvalue]
    rfl
  | neg _ ih =>
    obtain ⟨e, hspelled, hplain, he⟩ := ih
    refine ⟨.sign true e, hspelled, by rw [Expr.plain, hplain]; rfl, fun s hs => ?_⟩
    rw [Expr.eval, he s hs]
    rfl
  | @operate op x y z _ _ happly ihx ihy =>
    obtain ⟨l, hl, hplain, hleft⟩ := ihx
    obtain ⟨r, hr, hplain', hright⟩ := ihy
    refine ⟨.binary op l r, ⟨hl, hr⟩, by rw [Expr.plain, hplain, hplain']; rfl,
      fun s hs => ?_⟩
    rw [Expr.eval, hleft s hs, Outcome.andThen, hright s hs, Outcome.andThen, happly]
    rfl

/-- If a plain zero comes from what is bound, a program divides by it. -/
theorem MakesZero.exists_run (h : env.MakesZero) : ∃ e n text, parse "program" text = .ok n ∧
    n.statements = some [e] ∧ ∀ d : Int, n.nesting ≤ d → ∀ s : Session, s.env = env →
      (run text d s).1 = .error (.fault .zeroDivision) := by
  obtain ⟨y, hy, hzero⟩ := h
  obtain ⟨e, hspelled, hplain, he⟩ := exists_expr_of_makes hy
  have hes : Expr.AllSpelled [.binary .divide e e] := ⟨⟨hspelled, hspelled⟩, trivial⟩
  have hall : Expr.allPlain [.binary .divide e e] = true := by
    rw [Expr.allPlain, Expr.plain, hplain]
    rfl
  obtain ⟨n, hn, hstatements⟩ := exists_parse_texts hes (Expr.allWritable_of_allPlain hall)
  rw [Expr.hoistEach_of_allPlain hall] at hstatements
  refine ⟨_, n, _, hn, hstatements, fun d hd s hs => ?_⟩
  have hnone : Operator.divide.apply (.plain y) (.plain y) = none := by
    simp [Operator.apply, Number.divide?, Number.isPlain, Number.toFloat, hzero]
  have hdivide : Expr.runAll [.binary .divide e e] s = (.error .zeroDivision, s) := by
    rw [Expr.runAll, Expr.evalAll, Expr.eval, he s hs, Outcome.andThen, he s hs, Outcome.andThen,
      hnone]
    rfl
  rw [(run_eq_runAll hn hstatements hd s).1, hdivide]
  rfl

/-- Its one statement divides by it too. -/
theorem MakesZero.exists_evaluate (h : env.MakesZero) : ∃ text d, ∀ s : Session, s.env = env →
    (evaluate text d s).1 = .error (.fault .zeroDivision) := by
  obtain ⟨e, n, text, hn, hes, hrun⟩ := h.exists_run
  obtain ⟨list, hch, -, hsources⟩ := run_eq_sources hn
  obtain ⟨list', -, hch', -, heach⟩ := Node.statements_eq_some hes
  obtain rfl : list = list' := (List.cons.inj (hch.symm.trans hch')).1
  obtain ⟨hlen, -⟩ := List.forall₂_iff_zip.1 (erases_of_eraseEach heach)
  obtain ⟨statement, hstatement⟩ := List.length_eq_one_iff.1 hlen
  refine ⟨statement.source, n.nesting, fun s hs => ?_⟩
  have hfirst := (hsources n.nesting (Int.natCast_nonneg _) s).1
  rw [hrun n.nesting (Int.le_refl _) s hs, hstatement, List.map_singleton, evaluateEach] at hfirst
  rcases hevaluate : evaluate statement.source n.nesting s with ⟨r | v, t⟩ <;>
    rw [hevaluate] at hfirst
  · exact hfirst.symm
  · cases hfirst

end Environment

theorem Interpreter.Concluded.makesZero {env : Environment} {P : Option Float → Prop}
    {r : Except RunError (Option Float)} (h : Concluded env.Made P r)
    (hr : r = .error (.fault .zeroDivision)) : env.MakesZero := by
  rcases h with h | ⟨-, a, b, -, hb, hnone⟩
  · subst hr
    cases h
  · obtain ⟨y, rfl, hzero⟩ := Number.plain_of_divide_eq_none hnone
    exact ⟨y, hb y rfl, hzero⟩

/-- A text that is evaluated gives a number, one that is run gives a number unless it is an empty
program; or it does not match, or fails with an error of evaluation. Nothing else comes of it but a
division by zero, and that comes of some text exactly if the operations make a zero of the plain
numbers that are bound. If none is bound they do not. -/
theorem outcome_ordinary {env : Environment} (h : env.Answers) :
    (∀ (text : String) (d : Int) (s : Session), s.env = env →
      (Ordinary Valued (evaluate text d s).1 ∨
        (evaluate text d s).1 = .error (.fault .zeroDivision)) ∧
      (Ordinary (fun v => Valued v ∨ v = none ∧ IsEmptyProgram text) (run text d s).1 ∨
        (run text d s).1 = .error (.fault .zeroDivision))) ∧
    ((∃ text d s, s.env = env ∧ (evaluate text d s).1 = .error (.fault .zeroDivision)) ↔
      env.MakesZero) ∧
    ((∃ text d s, s.env = env ∧ (run text d s).1 = .error (.fault .zeroDivision)) ↔
      env.MakesZero) ∧
    ((∀ name a, IsIdentifier name.toList → env.value name = .ok a → a.isPlain = false) →
      ¬ env.MakesZero) := by
  have hevaluate (text : String) (d : Int) {s : Session} (hs : s.env = env) :
      Concluded env.Made Valued (evaluate text d s).1 :=
    evaluate_concluded Environment.closed_made text d (hs ▸ h.supplied)
  have hrun (text : String) (d : Int) {s : Session} (hs : s.env = env) :
      Concluded env.Made (fun v => Valued v ∨ v = none ∧ IsEmptyProgram text) (run text d s).1 :=
    run_concluded Environment.closed_made text d (hs ▸ h.supplied)
  refine ⟨fun text d s hs => ?_, ⟨?_, ?_⟩, ⟨?_, ?_⟩, ?_⟩
  · exact ⟨(hevaluate text d hs).imp_right And.left, (hrun text d hs).imp_right And.left⟩
  · rintro ⟨text, d, s, hs, hzero⟩
    exact (hevaluate text d hs).makesZero hzero
  · intro hzero
    obtain ⟨text, d, hall⟩ := hzero.exists_evaluate
    exact ⟨text, d, ⟨env, []⟩, rfl, hall _ rfl⟩
  · rintro ⟨text, d, s, hs, hzero⟩
    exact (hrun text d hs).makesZero hzero
  · intro hzero
    obtain ⟨-, n, text, -, -, hall⟩ := hzero.exists_run
    exact ⟨text, n.nesting, ⟨env, []⟩, rfl, hall _ (Int.le_refl _) _ rfl⟩
  · rintro hnone ⟨x, hx, -⟩
    induction hx with
    | bound hname hvalue => cases hnone _ _ hname hvalue
    | neg _ ih => exact ih
    | operate _ _ _ ih => exact ih

theorem outcome_ordinary_quotient : ∃ env : Environment, env.Answers ∧
    (evaluate "x / z" 4 ⟨env, []⟩).1 = .error (.fault .zeroDivision) ∧ env.MakesZero := by
  refine ⟨.ofBindings [.var "x" (.plain 1), .var "z" (.plain 0)], ?_⟩
  generalize henv : Environment.ofBindings [.var "x" (.plain 1), .var "z" (.plain 0)] = env
  have hanswers : env.Answers := by
    intro x f hf
    have hbindings : env.bindings = [("x", .var "x" (.plain 1)), ("z", .var "z" (.plain 0))] := by
      rw [← henv]
      rfl
    rw [Environment.lookup, hbindings] at hf
    rcases List.mem_pair.1 (mem_of_lookup hf) with h | h <;> cases h
  have hdivide : (evaluate "x / z" 4 ⟨env, []⟩).1 = .error (.fault .zeroDivision) := by
    have hfault : (evaluate "x / z" 4 ⟨env, []⟩).1.map (fun _ => ()) =
        .error (.fault .zeroDivision) := by
      rw [← henv]
      decide +kernel
    rcases hr : (evaluate "x / z" 4 ⟨env, []⟩).1 with e | v
    · rw [hr] at hfault
      exact congrArg Except.error (Except.error.inj hfault)
    · rw [hr] at hfault
      cases hfault
  exact ⟨hanswers, hdivide, (outcome_ordinary hanswers).2.1.1 ⟨_, _, _, rfl, hdivide⟩⟩

end Reckon
