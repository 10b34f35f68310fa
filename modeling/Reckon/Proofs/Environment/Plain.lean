import Reckon.Proofs.Environment.Protection
import Reckon.Proofs.Interpreter.Failure

/-!
# Environments without plain numbers

The standard environment binds no plain number, and evaluating texts binds none either where there
was none (`Environment.Safe`). So no text divides by a plain zero there, and what comes of it is
ordinary.
-/

namespace Reckon

open Arithmetic Interpreter

/-- The functions answer, and no plain number can be referred to. -/
abbrev Environment.Safe (env : Environment) : Prop := env.Supplied fun a => a.isPlain = false

theorem Number.closed_isPlain : Closed fun a => a.isPlain = false where
  ieee _ := rfl
  sign negative a ha := by
    cases negative <;> cases a
    · rfl
    · cases ha
    · rfl
    · cases ha
  operate {op a b c} ha _ h := by
    cases c with
    | ieee => rfl
    | plain z =>
      obtain ⟨x, y, rfl, -⟩ := op.plain_of_apply h
      cases ha

theorem Interpreter.Concluded.ordinary {P : Option Float → Prop}
    {r : Except RunError (Option Float)} (h : Concluded (fun a => a.isPlain = false) P r) :
    Ordinary P r := by
  rcases h with h | ⟨-, a, b, -, hb, hnone⟩
  · exact h
  · obtain ⟨y, rfl, -⟩ := Number.plain_of_divide_eq_none hnone
    cases hb

theorem Environment.Safe.run {s : Session} (h : s.env.Safe) (p : Pool) (text : String) (d : Int) :
    Ordinary (fun v => Valued v ∨ v = none ∧ IsEmptyProgram text) (p.run text d s).1 ∧
      (p.run text d s).2.2.env.Safe :=
  have hrun := p.run_concluded Number.closed_isPlain text d h
  ⟨hrun.1.ordinary, hrun.2⟩

/-! ## The standard environment -/

theorem Function.answers_unary (name : String) (f : Float → Float) (doc : String) :
    (unary name f doc).Answers := by
  intro as has
  obtain ⟨a, rfl⟩ := List.length_eq_one_iff.1 (Int.ofNat.inj has)
  rfl

theorem Function.answers_binary (name : String) (f : Float → Float → Float) (doc : String) :
    (binary name f doc).Answers := by
  intro as has
  obtain ⟨a, b, rfl⟩ := List.length_eq_two.1 (Int.ofNat.inj has)
  rfl

/-- The binding is of a function that answers, or of a number that is not plain. -/
def Binding.Safe : Binding → Prop
  | constant _ a => a.isPlain = false
  | var _ a => a.isPlain = false
  | function f => f.Answers

namespace Environment

theorem safe_of_bindings {env : Environment} (h : ∀ p ∈ env.bindings, p.2.Safe) : env.Safe where
  answers x f hf := h _ (mem_of_lookup hf)
  supplies x a _ hvalue := by
    unfold value at hvalue
    split at hvalue
    · cases hvalue
    · cases hvalue
    · rename_i hlookup
      cases hvalue
      exact h _ (mem_of_lookup hlookup)
    · rename_i hlookup
      cases hvalue
      exact h _ (mem_of_lookup hlookup)

theorem safe_ofBindings {bindings : List Binding} (h : ∀ b ∈ bindings, b.Safe) (isProtected : Bool) :
    (ofBindings bindings isProtected).Safe :=
  safe_of_bindings (foldl_put (P := fun table => ∀ p ∈ table, p.2.Safe)
    (fun _ b hb htable => forall_mem_put htable (h b hb)) nofun)

theorem safe_standard (isProtected : Bool) : (standard isProtected).Safe := by
  refine safe_ofBindings (fun b hb => ?_) isProtected
  have hfunctions : ∀ f ∈ standardFunctions, f.Answers := by
    simp [standardFunctions, Function.answers_unary, Function.answers_binary]
  rcases List.mem_append.1 hb with hb | hb
  · obtain ⟨c, -, rfl⟩ := List.mem_map.1 hb
    rfl
  · obtain ⟨f, hf, rfl⟩ := List.mem_map.1 hb
    exact hfunctions f hf

theorem Safe.protect {env : Environment} (h : env.Safe) (isProtected : Bool) :
    { env with isProtected }.Safe := ⟨h.answers, h.supplies⟩

end Environment

end Reckon
