import Reckon.Proofs.Arithmetic.Parenthesized
import Reckon.Proofs.Interpreter.Trace

/-!
# How a text may fail

A text that is evaluated or run gives a number, does not match, or fails with an error of evaluation
(`Ordinary`): every node that is visited has an action that takes as many children as it has, every
operand has a value, and every numeral stands for a number. Only an empty program has no value. A
function is applied to as many arguments as it takes, so it gives a number if it does for these
(`Answers`). What is left is a division without a result, and the numbers in it have what holds of all
numbers that an evaluation starts from and that every operation keeps (`Closed`).

All this is carried through the visits by one predicate (`Settles`) with a lemma for each way to go on,
and shown by induction on the nodes that have an expression.
-/

namespace Reckon

open Arithmetic

/-! ## What an evaluation starts from -/

/-- The function gives a number for as many arguments as it takes. -/
def Function.Answers (f : Function) : Prop :=
  ∀ as : List Number, (as.length : Int) = f.arity → (f.apply as).isSome = true

/-- All functions give a number for as many arguments as they take. -/
def Environment.Answers (env : Environment) : Prop :=
  ∀ x f, env.lookup x = some (.function f) → f.Answers

/-- The numbers that can be referred to have `V`. -/
def Environment.Supplies (V : Number → Prop) (env : Environment) : Prop :=
  ∀ x a, IsIdentifier x.toList → env.value x = .ok a → V a

/-- What holds of the operands holds of the result, and it holds of all numbers that are not plain. -/
structure Number.Closed (V : Number → Prop) : Prop where
  ieee (x : Float) : V (.ieee x)
  sign (negative : Bool) {a : Number} (ha : V a) : V (signValue negative a)
  operate {op : Operator} {a b c : Number} (ha : V a) (hb : V b) (hc : op.apply a b = some c) : V c

namespace Environment

variable {V : Number → Prop} {env env' : Environment} {name : String} {value : Number} {count : Int}

theorem Answers.assign (h : env.Answers) (ha : env.assign name value = .ok env') : env'.Answers := by
  intro x f hf
  rw [lookup_of_assign ha] at hf
  split at hf
  · cases hf
  · exact h x f hf

theorem Supplies.assign (h : env.Supplies V) (hv : V value)
    (ha : env.assign name value = .ok env') : env'.Supplies V := by
  intro x a hx hvalue
  unfold Environment.value at hvalue
  rw [lookup_of_assign ha] at hvalue
  by_cases hn : x = name
  · rw [if_pos hn] at hvalue
    cases hvalue
    exact hv
  · rw [if_neg hn] at hvalue
    exact h x a hx hvalue

theorem Answers.of_function {f : Function} (h : env.Answers) (hf : env.function name count = .ok f) :
    f.Answers ∧ f.arity = count := by
  unfold function at hf
  split at hf
  · cases hf
  · rename_i g hg
    split at hf
    · rename_i harity
      cases hf
      exact ⟨h name f hg, harity⟩
    · cases hf
  · cases hf

end Environment

/-- The functions answer, and the numbers that can be referred to have `V`. -/
structure Environment.Supplied (V : Number → Prop) (env : Environment) : Prop where
  answers : env.Answers
  supplies : env.Supplies V

theorem Environment.Supplied.assign {V : Number → Prop} {env env' : Environment} {name : String}
    {value : Number} (h : env.Supplied V) (hv : V value) (ha : env.assign name value = .ok env') :
    env'.Supplied V where
  answers := h.answers.assign ha
  supplies := h.supplies.assign hv ha

/-- Only a division has no result. -/
theorem Arithmetic.Operator.divide_of_apply_eq_none {op : Operator} {a b : Number}
    (h : op.apply a b = none) : a.divide? b = none := by
  cases op with
  | divide => exact h
  | plus | minus | times | power => cases h

/-- Operands of a plain result are plain. -/
theorem Arithmetic.Operator.plain_of_apply {op : Operator} {a b : Number} {z : Float}
    (h : op.apply a b = some (.plain z)) : ∃ x y, a = .plain x ∧ b = .plain y := by
  have hcombine {f : Float → Float → Float} (hf : Number.combine f a b = .plain z) :
      ∃ x y, a = .plain x ∧ b = .plain y := by
    cases a <;> cases b <;> cases hf
    exact ⟨_, _, rfl, rfl⟩
  cases op with
  | plus | minus | times => exact hcombine (Option.some.inj h)
  | divide =>
    rw [apply, Number.divide?] at h
    split at h
    · cases h
    · exact hcombine (Option.some.inj h)
  | power => cases h

/-- Where there is no quotient, the number to divide by is a plain zero. -/
theorem Number.plain_of_divide_eq_none {a b : Number} (h : a.divide? b = none) :
    ∃ y, b = .plain y ∧ (y == 0.0) = true := by
  unfold divide? at h
  split at h
  · rename_i hzero
    simp only [Bool.and_eq_true] at hzero
    cases b with
    | ieee => cases hzero.1.2
    | plain y => exact ⟨y, rfl, hzero.2⟩
  · cases h

namespace Interpreter

/-! ## Visits that settle -/

variable {V : Number → Prop} {α β : Type} {P : α → Prop} {Q : β → Prop} {d : Int}

/-- A result with `P`, an error of evaluation, or a division without a result. -/
inductive Settled (V : Number → Prop) (P : α → Prop) : Except Fault α → Prop
  | value {a : α} (h : P a) : Settled V P (.ok a)
  | error (e : EvalError) : Settled V P (.error (.eval e))
  | divided {a b : Number} (ha : V a) (hb : V b) (h : a.divide? b = none) :
      Settled V P (.error .zeroDivision)

theorem Settled.mono {P' : α → Prop} {r : Except Fault α} (h : Settled V P r)
    (hP : ∀ a, P a → P' a) : Settled V P' r := by
  cases h with
  | value h => exact .value (hP _ h)
  | error e => exact .error e
  | divided ha hb h => exact .divided ha hb h

/-- The visit settles, and what it starts from it leaves. -/
def Settles (V : Number → Prop) (P : α → Prop) (v : Visit Session α) : Prop :=
  ∀ (k : Int) (s : Session), s.env.Supplied V →
    ∃ r t, v.run.run ⟨k, s⟩ = (r, ⟨k, t⟩) ∧ Settled V P r ∧ t.env.Supplied V

theorem settles_pure {a : α} (h : P a) : Settles V P (pure a) :=
  fun _ s hs => ⟨.ok a, s, rfl, .value h, hs⟩

theorem Settles.bind {v : Visit Session α} {g : α → Visit Session β} (hv : Settles V P v)
    (hg : ∀ a, P a → Settles V Q (g a)) : Settles V Q (v >>= g) := by
  intro k s hs
  obtain ⟨r, t, hrun, hr, ht⟩ := hv k s hs
  rw [Visit.run_bind, hrun]
  cases hr with
  | value ha => exact hg _ ha k t ht
  | error e => exact ⟨_, t, rfl, .error e, ht⟩
  | divided ha hb h => exact ⟨_, t, rfl, .divided ha hb h, ht⟩

theorem Settles.mono {v : Visit Session α} {P' : α → Prop} (h : Settles V P v)
    (hP : ∀ a, P a → P' a) : Settles V P' v := by
  intro k s hs
  obtain ⟨r, t, hrun, hr, ht⟩ := h k s hs
  exact ⟨r, t, hrun, hr.mono hP, ht⟩

theorem settles_step {p : Step α}
    (h : ∀ s, s.env.Supplied V → Settled V P (p.outcome s).1 ∧ (p.outcome s).2.env.Supplied V) :
    Settles V P p.visit :=
  fun k s hs => ⟨_, _, p.run_visit k s, (h s hs).1, (h s hs).2⟩

theorem settles_fetch {name : String} (hname : IsIdentifier name.toList) :
    Settles V V (Step.fetch name).visit := by
  refine settles_step fun s hs => ⟨?_, hs⟩
  rw [Step.outcome]
  cases hvalue : s.env.value name with
  | error e => exact .error e
  | ok a => exact .value (hs.supplies name a hname hvalue)

theorem settles_store (name : String) {a : Number} (ha : V a) :
    Settles V (fun _ => True) (Step.store name a).visit := by
  refine settles_step fun s hs => ?_
  rw [Step.outcome]
  cases hassign : s.assign name a with
  | error e => exact ⟨.error e, hs⟩
  | ok t => exact ⟨.value trivial, hs.assign ha (env_of_assign hassign)⟩

theorem settles_resolve (name : String) (count : Int) :
    Settles V (fun f => f.Answers ∧ f.arity = count) (Step.resolve name count).visit := by
  refine settles_step fun s hs => ⟨?_, hs⟩
  rw [Step.outcome]
  cases hf : s.env.function name count with
  | error e => exact .error e
  | ok f => exact .value (hs.answers.of_function hf)

theorem settles_report (name : String) (as : List Number) :
    Settles V (fun _ => True) (Step.report name as).visit :=
  settles_step fun _ hs => ⟨.value trivial, hs⟩

theorem Settles.visitNode {n : Node} {bs : List (Branch Session (Option Number))}
    {P : Option Number → Prop} (h : Settles V P ((operation d).visitBody n bs)) :
    Settles V P ((operation d).visitNode n bs) := by
  intro k s hs
  by_cases hk : k + Operation.levels n ≤ (operation d).maxDepth
  · obtain ⟨r, t, hrun, hr⟩ := h (k + Operation.levels n) s hs
    exact ⟨r, t, Operation.run_visitNode hk hrun, hr⟩
  · have hk : (operation d).maxDepth < k + Operation.levels n := Int.not_le.1 hk
    exact ⟨_, s, Operation.run_visitNode_tooDeep s hk, .error _, hs⟩

theorem settles_construct {n : Node} {ns : List Node} {c : Construct} {P : Option Number → Prop}
    (hc : construct? n.rule = some c) (hn : n.children = ns)
    (h : Settles V P (action c n (ns.map (operation d).branch))) :
    Settles V P ((operation d).branch n).visit := by
  obtain ⟨a, ha, hbody⟩ := dispatch_of_construct hc
  have hiter : n.isIteration = false := beq_false_of_ne (rule_ne_of_construct hc).2
  rw [Operation.branch_visit, Operation.branches_eq_map, hn]
  refine Settles.visitNode ?_
  rw [Operation.visitBody_of_dispatch hiter ha, hbody]
  exact h

/-! ## Expressions -/

/-- There is a number, and it has `V`. -/
def Holds (V : Number → Prop) (v : Option Number) : Prop := ∃ a, v = some a ∧ V a

section Expressions

variable (hV : Number.Closed V)

theorem settles_arguments (rule : String) : ∀ {bs : List (Branch Session (Option Number))},
    (∀ b ∈ bs, Settles V (Holds V) b.visit) →
      Settles V (fun as => as.length = bs.length) (arguments rule bs)
  | [], _ => settles_pure rfl
  | b :: bs, h => by
    refine (h b List.mem_cons_self).bind ?_
    rintro _ ⟨a, rfl, -⟩
    refine (settles_arguments rule fun c hc => h c (List.mem_cons_of_mem _ hc)).bind fun as has => ?_
    exact settles_pure (by rw [List.length_cons, List.length_cons, has])

theorem settles_assign {n : Node} {x p b : Branch Session (Option Number)}
    (h : Settles V (Holds V) b.visit) : Settles V (Holds V) (assign n [x, p, b]) := by
  rw [assign_eq]
  refine h.bind ?_
  rintro _ ⟨a, rfl, ha⟩
  exact (settles_store _ ha).bind fun _ _ => settles_pure ⟨a, rfl, ha⟩

theorem settles_identifier {n : Node} (hn : IsIdentifier n.source.toList) :
    Settles V (Holds V) (identifier n []) := by
  rw [identifier_eq]
  exact (settles_fetch hn).bind fun a ha => settles_pure ⟨a, rfl, ha⟩

include hV

theorem settles_numeral {n : Node} (h : (Decimal.unsigned? n.source.toList).isSome = true) :
    Settles V (Holds V) (numeral n []) := by
  obtain ⟨x, hx⟩ := Option.isSome_iff_exists.1 h
  rw [numeral, hx]
  exact settles_pure ⟨_, rfl, hV.ieee x⟩

/-- The result has what holds of the operands; if there is none, they have no quotient. -/
theorem settles_operate (op : Operator) {n : Node} {l p r : Branch Session (Option Number)}
    (hl : Settles V (Holds V) l.visit) (hr : Settles V (Holds V) r.visit) :
    Settles V (Holds V) (operate op.apply n [l, p, r]) := by
  refine hl.bind ?_
  rintro _ ⟨a, rfl, ha⟩
  refine hr.bind ?_
  rintro _ ⟨b, rfl, hb⟩
  simp only
  cases hc : op.apply a b with
  | some c => exact settles_pure ⟨c, rfl, hV.operate ha hb hc⟩
  | none =>
    exact fun k s hs => ⟨_, s, rfl, .divided ha hb (Operator.divide_of_apply_eq_none hc), hs⟩

/-- The arguments are as many as the function takes, so it gives a number. -/
theorem settles_call {n : Node} {f p list q : Branch Session (Option Number)}
    (hlen : list.node.children.length = list.children.length)
    (h : ∀ b ∈ list.children, Settles V (Holds V) b.visit) :
    Settles V (Holds V) (call n [f, p, list, q]) := by
  rw [call_eq]
  refine (settles_resolve _ _).bind fun g hg => (settles_arguments n.rule h).bind fun as has => ?_
  refine (settles_report _ _).bind fun _ _ => ?_
  obtain ⟨a, ha⟩ := Option.isSome_iff_exists.1 (hg.1 as (by rw [has, ← hlen, hg.2]))
  rw [ha]
  exact settles_pure ⟨_, rfl, hV.ieee _⟩

theorem settles_of_erases {n : Node} {e : Expr} (h : Erases n e) (he : e.Spelled) :
    Settles V (Holds V) ((operation d).branch n).visit := by
  induction h with
  | delegate hc hn _ ih => exact settles_construct hc hn (ih he)
  | paren hc hn _ ih => exact settles_construct hc hn (ih he)
  | @assign n x p _ _ hc hn _ ih =>
    exact settles_construct hc hn (settles_assign (p := (operation d).branch p) (ih he.2))
  | sign hc hn _ ih =>
    refine settles_construct hc hn ((ih he).bind ?_)
    rintro _ ⟨a, rfl, ha⟩
    exact settles_pure ⟨_, rfl, hV.sign _ ha⟩
  | @binary n l p r op _ _ hc hn _ _ _ ihl ihr =>
    exact settles_construct hc hn
      (settles_operate hV op (p := (operation d).branch p) (ihl he.1) (ihr he.2))
  | @call n f p list q es hc hn _ hlen _ ih =>
    refine settles_construct hc hn (settles_call hV (p := (operation d).branch p)
      (q := (operation d).branch q) ?_ ?_)
    · rw [Operation.branch_node, Operation.branch_children, Operation.branches_eq_map,
        List.length_map]
    · rw [Operation.branch_children, Operation.branches_eq_map]
      refine List.forall_mem_map.2 fun m hm => ?_
      obtain ⟨e, hzip⟩ := exists_mem_zip hlen hm
      exact ih m e hzip (he.2.of_mem (List.of_mem_zip hzip).2)
  | name hc hn => exact settles_construct hc hn (settles_identifier he)
  | number hc hn hv => exact settles_construct hc hn (settles_numeral hV hv)

end Expressions

/-! ## Programs -/

section Programs

/-- Only if there is nothing to evaluate the value is the one before. -/
theorem settles_inOrder : ∀ {bs : List (Branch Session (Option Number))},
    (∀ b ∈ bs, Settles V (Holds V) b.visit) → ∀ last,
      Settles V (fun v => Holds V v ∨ bs = [] ∧ v = last) (inOrder last bs)
  | [], _, _ => settles_pure (.inr ⟨rfl, rfl⟩)
  | b :: bs, h, last => by
    refine (h b List.mem_cons_self).bind ?_
    rintro _ ⟨a, rfl, ha⟩
    refine (settles_inOrder (fun c hc => h c (List.mem_cons_of_mem _ hc)) (some a)).mono ?_
    rintro v (hv | ⟨-, rfl⟩)
    · exact .inl hv
    · exact .inl ⟨a, rfl, ha⟩

variable {text : String} {n : Node} {es : List Expr}

theorem settles_program (hV : Number.Closed V) (h : n.statements = some es)
    (hes : Expr.AllSpelled es) :
    Settles V (fun v => Holds V v ∨ es = [] ∧ v = none) ((operation d).branch n).visit := by
  obtain ⟨list, hrule, hch, -, heach⟩ := Node.statements_eq_some h
  obtain ⟨hlen, herases⟩ := List.forall₂_iff_zip.1 (erases_of_eraseEach heach)
  obtain ⟨hdisp, hiter, -⟩ := program_node hrule hch
  rw [Operation.branch_visit, Operation.branches_eq_map, hch]
  refine Settles.visitNode ?_
  rw [Operation.visitBody_of_dispatch hiter hdisp]
  change Settles V _ (inOrder none ((operation d).branch list).children)
  rw [Operation.branch_children, Operation.branches_eq_map]
  have hvalued : ∀ b ∈ list.children.map (operation d).branch, Settles V (Holds V) b.visit := by
    refine List.forall_mem_map.2 fun m hm => ?_
    obtain ⟨e, hzip⟩ := exists_mem_zip hlen hm
    exact settles_of_erases hV (herases hzip) (hes.of_mem (List.of_mem_zip hzip).2)
  refine (settles_inOrder hvalued none).mono ?_
  rintro v (hv | ⟨hnil, rfl⟩)
  · exact .inl hv
  · rw [List.map_eq_nil_iff.1 hnil] at hlen
    exact .inr ⟨List.length_eq_zero_iff.1 hlen.symm, rfl⟩

theorem settles_program_of_parse (hV : Number.Closed V) (h : parse "program" text = .ok n) :
    Settles V (fun v => Holds V v ∨ v = none ∧ n.statements = some [])
      ((operation d).branch n).visit := by
  obtain ⟨ts, ps, -, hps, -, hes⟩ := exists_phrases_of_parse h
  refine (settles_program hV hes (Phrase.spelled_exprs hps)).mono ?_
  rintro v (hv | ⟨hnil, hv⟩)
  · exact .inl hv
  · exact .inr ⟨hv, hnil ▸ hes⟩

theorem settles_exp_of_parse (hV : Number.Closed V) (h : parse "exp" text = .ok n) :
    Settles V (Holds V) ((operation d).branch n).visit := by
  obtain ⟨ts, hr, hsp⟩ := accepts_of_parse_ok isSyntactic_exp h
  cases parsed_of_spells hsp hr.word_of_mem with | ref hn _ =>
  obtain ⟨p, hp, -, he, -⟩ := hn.phrase 0 rfl
  exact settles_of_erases hV (erases_of_erase he) (Phrase.spelled_expr hp)

end Programs

/-! ## Texts -/

/-- What may come of a text: a value with `P`, no match, or an error of evaluation. -/
inductive Ordinary (P : Option Float → Prop) : Except RunError (Option Float) → Prop
  | value {v : Option Float} (h : P v) : Ordinary P (.ok v)
  | unmatched (f : MatchFailure) : Ordinary P (.error (.unmatched (.failed f)))
  | fault (e : EvalError) : Ordinary P (.error (.fault (.eval e)))

/-- The result is an ordinary one, or there is none since numbers with `V` have no quotient. -/
def Concluded (V : Number → Prop) (P : Option Float → Prop) (r : Except RunError (Option Float)) :
    Prop :=
  Ordinary P r ∨ r = .error (.fault .zeroDivision) ∧ ∃ a b, V a ∧ V b ∧ a.divide? b = none

/-- There is a value. -/
def Valued (v : Option Float) : Prop := ∃ x, v = some x

theorem Holds.valued {v : Option Number} (h : Holds V v) : Valued (double v) := by
  obtain ⟨a, rfl, -⟩ := h
  exact ⟨a.toFloat, rfl⟩

/-- If the trees of a text settle, so does the text. -/
theorem process_concluded {start text : String} (hs : grammar.isSyntactic start = true)
    {P : Option Number → Prop} {Q : Option Float → Prop} (hQ : ∀ v, P v → Q (double v))
    (hv : ∀ d n, parse start text = .ok n → Settles V P ((operation d).branch n).visit)
    (report : Option Float → Event) (i : Interpreter) {s : Session} (hsupplied : s.env.Supplied V) :
    Concluded V Q (i.process start text report s).1 ∧
      (i.process start text report s).2.2.env.Supplied V := by
  unfold process
  rcases parse_cases hs text with ⟨n, hn, -⟩ | ⟨f, hf, -⟩
  · obtain ⟨r, t, hrun, hr, ht⟩ :=
      hv i.maxDepth n hn i.depth (s.note (.matched start text n)) hsupplied
    have hinterpret : i.interpret n (s.note (.matched start text n)) = (r, i, t) := by
      rw [interpret, Operation.visit, hrun]
    simp only [parse_of_ok hn, hinterpret]
    cases hr with
    | value h => exact ⟨.inl (.value (hQ _ h)), ht⟩
    | error e => exact ⟨.inl (.fault e), ht⟩
    | divided ha hb h => exact ⟨.inr ⟨rfl, _, _, ha, hb, h⟩, ht⟩
  · simp only [Session.parse, hf]
    exact ⟨.inl (.unmatched f), hsupplied⟩

end Interpreter

open Interpreter

/-- Is the text a program without statements? -/
def IsEmptyProgram (text : String) : Prop :=
  ∃ n, Arithmetic.parse "program" text = .ok n ∧ n.statements = some []

namespace Pool

variable {V : Number → Prop} (hV : Number.Closed V) (p : Pool) (text : String) (d : Int)
  {s : Session} (h : s.env.Supplied V)

include h

theorem process_concluded {start : String} (hs : Arithmetic.grammar.isSyntactic start = true)
    {P : Option Number → Prop} {Q : Option Float → Prop} (hQ : ∀ v, P v → Q (double v))
    (hv : ∀ d n, Arithmetic.parse start text = .ok n →
      Settles V P ((operation d).branch n).visit) (report : Option Float → Event) :
    Concluded V Q (p.process start text report d s).1 ∧
      (p.process start text report d s).2.2.env.Supplied V := by
  have hprocess := Interpreter.process_concluded hs hQ hv report (p.interpreter d) h
  rcases ho : (p.interpreter d).process start text report s with ⟨r, i, t⟩
  rw [ho] at hprocess
  rw [Pool.process_eq rfl ho]
  exact hprocess

include hV

theorem evaluate_concluded : Concluded V Valued (p.evaluate text d s).1 ∧
    (p.evaluate text d s).2.2.env.Supplied V := by
  rw [evaluate]
  exact p.process_concluded text d h Arithmetic.isSyntactic_exp (fun _ => Holds.valued)
    (fun _ _ hn => settles_exp_of_parse hV hn) _

theorem run_concluded :
    Concluded V (fun v => Valued v ∨ v = none ∧ IsEmptyProgram text) (p.run text d s).1 ∧
      (p.run text d s).2.2.env.Supplied V := by
  have hdouble (v : Option Number) (hv : Holds V v ∨ v = none ∧ IsEmptyProgram text) :
      Valued (double v) ∨ double v = none ∧ IsEmptyProgram text :=
    hv.imp Holds.valued fun hv => ⟨by rw [hv.1]; rfl, hv.2⟩
  rw [run]
  refine p.process_concluded text d h Arithmetic.isSyntactic_program hdouble (fun d n hn => ?_) _
  exact (settles_program_of_parse hV hn).mono fun v => Or.imp_right fun hv => ⟨hv.1, n, hn, hv.2⟩

end Pool

section Alone

variable {V : Number → Prop} (hV : Number.Closed V) (text : String) (d : Int) {s : Session}
  (h : s.env.Supplied V)

include hV h

theorem evaluate_concluded : Concluded V Valued (evaluate text d s).1 := by
  have hpool := ({} : Pool).evaluate_concluded hV text d h
  rcases hr : ({} : Pool).evaluate text d s with ⟨r, p, t⟩
  rw [hr] at hpool
  rw [evaluate, hr]
  exact hpool.1

theorem run_concluded :
    Concluded V (fun v => Valued v ∨ v = none ∧ IsEmptyProgram text) (run text d s).1 := by
  have hpool := ({} : Pool).run_concluded hV text d h
  rcases hr : ({} : Pool).run text d s with ⟨r, p, t⟩
  rw [hr] at hpool
  rw [run, hr]
  exact hpool.1

end Alone

end Reckon
