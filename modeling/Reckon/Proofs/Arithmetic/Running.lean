import Reckon.Proofs.Arithmetic.Evaluation

/-!
# Running texts

What was noted before has no effect on values and bindings (`Expr.eval_alike`). So with enough depth
the result of running a program and the environment after it are those of its expressions, with the
value told as a double (`Expr.runAll`), and two programs run alike exactly if their expressions do
(`sameRuns_iff`).
-/

namespace Reckon

open Arithmetic

variable {α β : Type}

namespace Arithmetic

namespace Outcome

/-- The same result and the same environment; what was noted may differ. -/
def Alike (o o' : Outcome α) : Prop := o.1 = o'.1 ∧ o.2.env = o'.2.env

theorem Alike.andThen {o o' : Outcome α} (h : o.Alike o') {f f' : α → Session → Outcome β}
    (hf : ∀ a {s s' : Session}, s.env = s'.env → (f a s).Alike (f' a s')) :
    (o.andThen f).Alike (o'.andThen f') := by
  obtain ⟨r, s⟩ := o
  obtain ⟨r', s'⟩ := o'
  obtain ⟨rfl, henv⟩ : r = r' ∧ s.env = s'.env := h
  cases r with
  | error e => exact ⟨rfl, henv⟩
  | ok a => exact hf a henv

end Outcome

theorem assign_alike (x : String) (a : Number) {s s' : Session} (h : s.env = s'.env) :
    Outcome.Alike (match s.assign x a with
      | .ok t => (.ok a, t)
      | .error err => (.error (.eval err), s))
      (match s'.assign x a with
      | .ok t => (.ok a, t)
      | .error err => (.error (.eval err), s')) := by
  unfold Session.assign
  rw [h]
  rcases s'.env.assign x a with e | env
  · exact ⟨rfl, h⟩
  · exact ⟨rfl, rfl⟩

namespace Expr

mutual

theorem eval_alike : ∀ (e : Expr) {s s' : Session}, s.env = s'.env → (e.eval s).Alike (e.eval s')
  | number _, _, _, h => ⟨rfl, h⟩
  | name x, _, _, h => ⟨congrArg (fun env => (env.value x).mapError Fault.eval) h, h⟩
  | assign x e, _, _, h => (eval_alike e h).andThen fun a _ _ h => assign_alike x a h
  | sign negative e, _, _, h => (eval_alike e h).andThen fun _ _ _ h => ⟨rfl, h⟩
  | binary op l r, _, _, h =>
    (eval_alike l h).andThen fun _ _ _ h => (eval_alike r h).andThen fun _ _ _ h => ⟨rfl, h⟩
  | call f es, s, s', h => by
    rw [eval, eval, h]
    rcases s'.env.lookup f with _ | v | v | g
    · exact ⟨rfl, h⟩
    · exact ⟨rfl, h⟩
    · exact ⟨rfl, h⟩
    · by_cases hg : g.arity = es.length
      · simp only [hg, if_true]
        exact (evalEach_alike es h).andThen fun _ _ _ h => ⟨rfl, h⟩
      · simp only [hg, if_false]
        exact ⟨rfl, h⟩

theorem evalEach_alike :
    ∀ (es : List Expr) {s s' : Session}, s.env = s'.env → (evalEach es s).Alike (evalEach es s')
  | [], _, _, h => ⟨rfl, h⟩
  | e :: es, _, _, h =>
    (eval_alike e h).andThen fun _ _ _ h => (evalEach_alike es h).andThen fun _ _ _ h => ⟨rfl, h⟩

end

theorem evalAll_alike (es : List Expr) (last : Option Number) {s s' : Session} (h : s.env = s'.env) :
    (evalAll last es s).Alike (evalAll last es s') := by
  induction es generalizing last s s' with
  | nil => exact ⟨rfl, h⟩
  | cons e es ih => exact (e.eval_alike h).andThen fun a _ _ h => ih (some a) h

/-- What running the expressions gives back: the value as a double. -/
def runAll (es : List Expr) (s : Session) : Outcome (Option Float) :=
  ((evalAll none es s).1.map Interpreter.double, (evalAll none es s).2)

end Expr

theorem mapError_fault_inj {r r' : Except Fault α}
    (h : r.mapError RunError.fault = r'.mapError RunError.fault) : r = r' := by
  rcases r with e | a <;> rcases r' with e' | a' <;> cases h <;> rfl

end Arithmetic

section Run

variable {start text : String} {n : Node} {es : List Expr}

theorem parse_of_ok (h : parse start text = .ok n) (s : Session) :
    s.parse start text = (.ok n, s.note (.matched start text n)) := by
  unfold Session.parse
  rw [h]

theorem parse_of_error {e : MatchError} (h : parse start text = .error e) (s : Session) :
    ∃ t, s.parse start text = (.error e, t) := by
  unfold Session.parse
  rw [h]
  cases e <;> exact ⟨_, rfl⟩

/-- A matched text comes to what its tree comes to. -/
theorem Interpreter.process_of_interpret (h : parse start text = .ok n)
    (report : Option Float → Event) {i j : Interpreter} {r : Except Fault (Option Number)}
    {s t : Session} (hi : i.interpret n (s.note (.matched start text n)) = (r, j, t)) :
    ∃ u, i.process start text report s = ((r.map double).mapError .fault, j, u) ∧
      u.env = t.env := by
  unfold process
  rw [parse_of_ok h]
  simp only [hi]
  cases r with
  | error e => exact ⟨t, rfl, rfl⟩
  | ok v => exact ⟨t.note (report (double v)), rfl, rfl⟩

section Process

variable {d : Int} {s t : Session} {r : Except RunError (Option Float)} {i : Interpreter}

theorem Pool.interpreter_new (d : Int) : ({} : Pool).interpreter d = ⟨d, 0⟩ := rfl

theorem Pool.process_eq {p : Pool} {report : Option Float → Event} {j : Interpreter}
    (hp : p.interpreter d = j) (h : j.process start text report s = (r, i, t)) :
    p.process start text report d s = (r, p.store d i, t) := by
  unfold Pool.process
  rw [hp, h]

theorem run_of_process (h : (Interpreter.mk d 0).process "program" text (.ran text) s = (r, i, t)) :
    run text d s = (r, t) := by
  unfold run Pool.run
  rw [Pool.process_eq (Pool.interpreter_new d) h]

theorem evaluate_of_process
    (h : (Interpreter.mk d 0).process "exp" text (.evaluated text) s = (r, i, t)) :
    evaluate text d s = (r, t) := by
  unfold evaluate Pool.evaluate
  rw [Pool.process_eq (Pool.interpreter_new d) h]

end Process

/-- With enough depth a program runs as its expressions say. -/
theorem run_eq_runAll (h : parse "program" text = .ok n) (hes : n.statements = some es) {d : Int}
    (hd : n.nesting ≤ d) (s : Session) :
    (run text d s).1 = (Expr.runAll es s).1.mapError .fault ∧
      (run text d s).2.env = (Expr.runAll es s).2.env := by
  have hdepth : (0 : Int) + n.nesting ≤ d := by omega
  have halike : (Expr.evalAll none es (s.note (.matched "program" text n))).Alike
      (Expr.evalAll none es s) := Expr.evalAll_alike es none rfl
  obtain ⟨u, hprocess, henv⟩ := Interpreter.process_of_interpret h (.ran text)
    (Interpreter.interpret_eq_evalAll hes ⟨d, 0⟩ hdepth _)
  rw [run_of_process hprocess, Expr.runAll, ← halike.1, ← halike.2]
  exact ⟨rfl, henv⟩

end Run

/-- With enough depth the two texts run to the same result and the same environment, whatever the
session. -/
def SameRuns (a b : String) : Prop :=
  ∃ d : Int, ∀ maxDepth ≥ d, ∀ s : Session, (run a maxDepth s).1 = (run b maxDepth s).1 ∧
    (run a maxDepth s).2.env = (run b maxDepth s).2.env

theorem sameRuns_iff {a b : String} {n m : Node} {es fs : List Expr}
    (ha : parse "program" a = .ok n) (hes : n.statements = some es)
    (hb : parse "program" b = .ok m) (hfs : m.statements = some fs) :
    SameRuns a b ↔ ∀ s, (Expr.runAll es s).Alike (Expr.runAll fs s) := by
  constructor
  · rintro ⟨d, h⟩ s
    have hn : (n.nesting : Int) ≤ max d (max n.nesting m.nesting) := by omega
    have hm : (m.nesting : Int) ≤ max d (max n.nesting m.nesting) := by omega
    obtain ⟨hr, henv⟩ := h (max d (max n.nesting m.nesting)) (by omega) s
    obtain ⟨hra, hea⟩ := run_eq_runAll ha hes hn s
    obtain ⟨hrb, heb⟩ := run_eq_runAll hb hfs hm s
    rw [hra, hrb] at hr
    rw [hea, heb] at henv
    exact ⟨mapError_fault_inj hr, henv⟩
  · intro h
    refine ⟨max n.nesting m.nesting, fun d hd s => ?_⟩
    obtain ⟨hra, hea⟩ := run_eq_runAll ha hes (d := d) (by omega) s
    obtain ⟨hrb, heb⟩ := run_eq_runAll hb hfs (d := d) (by omega) s
    rw [hra, hrb, hea, heb, (h s).1, (h s).2]
    exact ⟨rfl, rfl⟩

end Reckon
