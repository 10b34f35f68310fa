import Reckon.Proofs.Arithmetic.Parenthesized
import Reckon.Proofs.Interpreter.Limit

/-!
# What errors mention

A fault of an expression mentions names that stand in the expression, so identifiers and nothing else
(`Expr.eval_blames`). A program that is accepted fails as its expressions do, or because it is nested
too deep (`spelled_of_run_error`).
-/

namespace Reckon

open Arithmetic

/-- The name in an error is an identifier, and the kind of what it is bound to is one of a binding. -/
def EvalError.Spelled : EvalError → Prop
  | undefinedName x => IsIdentifier x.toList
  | notCallable x kind => IsIdentifier x.toList ∧ ∃ b : Binding, kind = b.kind
  | notAValue x => IsIdentifier x.toList
  | arityMismatch x _ _ => IsIdentifier x.toList
  | readOnly x => IsIdentifier x.toList
  | tooDeep _ => True

/-- The fault is one that an expression may have, and the name in it is an identifier. -/
def Fault.Spelled : Fault → Prop
  | eval e => e.Spelled
  | unanswered x => IsIdentifier x.toList
  | zeroDivision => True
  | _ => False

namespace Arithmetic

/-! ## Expressions -/

/-- If it is a fault, the name in it is an identifier. -/
def Outcome.Blames {α : Type} (o : Outcome α) : Prop := ∀ e, o.1 = .error e → e.Spelled

section Outcome

variable {α β : Type}

theorem blames_ok (a : α) (s : Session) : Outcome.Blames (.ok a, s) := nofun

theorem blames_error {e : Fault} {s : Session} (h : e.Spelled) :
    Outcome.Blames ((.error e, s) : Outcome α) := by
  rintro _ ⟨⟩
  exact h

theorem Outcome.Blames.andThen {o : Outcome α} {f : α → Session → Outcome β} (h : o.Blames)
    (hf : ∀ a s, (f a s).Blames) : (o.andThen f).Blames := by
  obtain ⟨e | a, s⟩ := o
  · exact blames_error (h e rfl)
  · exact hf a s

end Outcome

theorem orFault_blames {e : Fault} (h : e.Spelled) (a : Option Number) (s : Session) :
    Outcome.Blames (orFault e a, s) := by
  cases a with
  | none => exact blames_error h
  | some a => exact blames_ok a s

theorem value_blames {x : String} (h : IsIdentifier x.toList) (s : Session) :
    Outcome.Blames ((s.env.value x).mapError .eval, s) := by
  unfold Environment.value
  split
  · exact blames_error h
  · exact blames_error h
  · exact blames_ok _ s
  · exact blames_ok _ s

theorem assign_blames {x : String} (h : IsIdentifier x.toList) (a : Number) (s : Session) :
    Outcome.Blames (match s.assign x a with
      | .ok t => (.ok a, t)
      | .error err => (.error (.eval err), s)) := by
  unfold Session.assign Environment.assign
  split <;> rename_i hassign
  · exact blames_ok a _
  · split at hassign
    · rename_i herr
      split at herr <;> cases herr
      cases hassign
      exact blames_error h
    · cases hassign

namespace Expr

mutual

theorem eval_blames : ∀ (e : Expr), e.Spelled → ∀ s, (e.eval s).Blames
  | number _, _, s => blames_ok _ s
  | name _, h, s => value_blames h s
  | assign _ e, h, s => (eval_blames e h.2 s).andThen fun a t => assign_blames h.1 a t
  | sign _ e, h, s => (eval_blames e h s).andThen fun _ t => blames_ok _ t
  | binary _ l r, h, s => (eval_blames l h.1 s).andThen fun _ t =>
      (eval_blames r h.2 t).andThen fun _ u => orFault_blames (e := .zeroDivision) trivial _ u
  | call f es, h, s => by
    rw [eval]
    split
    · exact blames_error h.1
    · split
      · exact (evalEach_blames es h.2 s).andThen fun _ t => orFault_blames (e := .unanswered f) h.1 _ _
      · exact blames_error h.1
    · exact blames_error ⟨h.1, _, rfl⟩

theorem evalEach_blames : ∀ (es : List Expr), AllSpelled es → ∀ s, (evalEach es s).Blames
  | [], _, s => blames_ok _ s
  | e :: es, h, s => (eval_blames e h.1 s).andThen fun _ t =>
      (evalEach_blames es h.2 t).andThen fun _ u => blames_ok _ u

end

theorem evalAll_blames : ∀ (es : List Expr), AllSpelled es → ∀ last s,
    (evalAll last es s).Blames
  | [], _, _, s => blames_ok _ s
  | e :: es, h, _, s => (eval_blames e h.1 s).andThen fun a t => evalAll_blames es h.2 (some a) t

end Expr

/-! ## Programs -/

section Program

variable {text : String} {n : Node} {es : List Expr}

/-- Without a limit of nesting a program comes to what its expressions come to. -/
theorem interpretUnlimited_program (h : parse "program" text = .ok n) (hes : n.statements = some es)
    (s : Session) : Interpreter.interpretUnlimited n s = Expr.evalAll none es s := by
  rcases hr : Interpreter.interpretUnlimited n s with ⟨r, t⟩
  have hlimit := Interpreter.interpret_of_nesting_le h n.nesting hr (Int.le_refl _)
  rw [Interpreter.interpret_eq_evalAll hes _ (by simp) s] at hlimit
  simp only [Prod.mk.injEq, true_and] at hlimit
  rw [← hlimit.1, ← hlimit.2]

/-- A program that is accepted fails with faults that mention identifiers. -/
theorem spelled_of_run_error (h : parse "program" text = .ok n) {d : Int} {s : Session}
    {e : RunError} (he : (run text d s).1 = .error e) :
    ∃ f, e = .fault f ∧ f.Spelled := by
  obtain ⟨ts, ps, -, hps, -, hes⟩ := exists_phrases_of_parse h
  rcases hi : (Interpreter.mk d 0).interpret n (s.note (.matched "program" text n)) with ⟨r, j, t⟩
  obtain ⟨u, hprocess, -⟩ := Interpreter.process_of_interpret h (.ran text) hi
  rw [run_of_process hprocess] at he
  rcases r with f | v
  · cases he
    refine ⟨f, rfl, ?_⟩
    rcases Interpreter.interpret_cases h d (interpretUnlimited_program h hes _) with hrun | ⟨u, hrun⟩
    · rw [hi] at hrun
      exact Expr.evalAll_blames _ (Phrase.spelled_exprs hps) none _ f (Prod.mk.inj hrun).1.symm
    · rw [hi] at hrun
      cases (Prod.mk.inj hrun).1
      trivial
  · cases he

end Program

end Arithmetic

end Reckon
