import Reckon.Interpreter.Run
import Reckon.Parenthesizer
import Reckon.Proofs.Operation.Balance

/-!
# Interpreters that are used again

The actions that evaluate a tree and those that write its text touch the count of the nesting only by
visiting (`Interpreter.tidy_operation`, `Parenthesizer.tidy_operation`). So an interpreter is after
each use what it was when it was new, and those that a pool keeps are all new (`Pool.Ready`). What was
evaluated before makes no difference then (`reuse_carries_nothing`).
-/

namespace Reckon

open Visit

namespace Interpreter

theorem balanced_lift {α : Type} (r : Except EvalError α) : (lift r).Balanced := by
  cases r with
  | error e => exact balanced_fail _
  | ok a => exact balanced_pure a

theorem tidy_delegate : Body.Tidy delegate := by
  intro n bs hbs
  unfold delegate
  split
  · exact (hbs _ List.mem_cons_self).visited
  · exact balanced_fail _

theorem balanced_orFail (e : Fault) (a : Option Number) : (orFail e a).Balanced := by
  cases a with
  | none => exact balanced_fail e
  | some a => exact balanced_pure _

theorem tidy_operate (f : Number → Number → Option Number) : Body.Tidy (operate f) := by
  intro n bs hbs
  unfold operate
  split
  · refine (hbs _ (by simp)).visited.bind fun a => (hbs _ (by simp)).visited.bind fun b => ?_
    split
    · exact balanced_orFail _ _
    · exact balanced_fail _
  · exact balanced_fail _

theorem tidy_paren : Body.Tidy paren := by
  intro n bs hbs
  unfold paren
  split
  · exact (hbs _ (by simp)).visited
  · exact balanced_fail _

theorem tidy_signed (f : Number → Number) : Body.Tidy (signed f) := by
  intro n bs hbs
  unfold signed
  split
  · refine (hbs _ (by simp)).visited.bind fun a => ?_
    split
    · exact balanced_pure _
    · exact balanced_fail _
  · exact balanced_fail _

theorem tidy_assign : Body.Tidy assign := by
  intro n bs hbs
  unfold assign
  split
  · refine (hbs _ (by simp)).visited.bind fun a => ?_
    split
    · exact balanced_fail _
    · exact balanced_get.bind fun s => (balanced_lift _).bind fun t => (balanced_set t).bind fun _ =>
        balanced_pure _
  · exact balanced_fail _

theorem balanced_arguments (rule : String) : ∀ {bs : List (Branch Session (Option Number))},
    (∀ b ∈ bs, b.Balanced) → (arguments rule bs).Balanced
  | [], _ => balanced_pure []
  | b :: bs, hbs => by
    refine (hbs b List.mem_cons_self).visited.bind fun a => ?_
    split
    · exact balanced_fail _
    · exact (balanced_arguments rule fun c hc => hbs c (List.mem_cons_of_mem _ hc)).bind fun _ =>
        balanced_pure _

theorem tidy_call : Body.Tidy call := by
  intro n bs hbs
  unfold call
  split
  · rename_i callee _ args _
    have hargs : args.Balanced := hbs _ (by simp)
    refine balanced_get.bind fun s => (balanced_lift _).bind fun f => ?_
    refine (balanced_arguments n.rule fun b => hargs.child).bind fun values => ?_
    exact balanced_get.bind fun t => (balanced_set _).bind fun _ => balanced_orFail _ _
  · exact balanced_fail _

theorem tidy_identifier : Body.Tidy identifier := by
  intro n bs hbs
  unfold identifier
  split
  · exact balanced_get.bind fun s => (balanced_lift _).bind fun a => balanced_pure _
  · exact balanced_fail _

theorem tidy_numeral : Body.Tidy numeral := by
  intro n bs hbs
  unfold numeral
  split
  · split
    · exact balanced_pure _
    · exact balanced_fail _
  · exact balanced_fail _

theorem balanced_inOrder : ∀ {bs : List (Branch Session (Option Number))},
    (∀ b ∈ bs, b.Balanced) → ∀ last, (inOrder last bs).Balanced
  | [], _, last => balanced_pure last
  | b :: _, hbs, _ => (hbs b List.mem_cons_self).visited.bind fun a =>
      balanced_inOrder (fun c hc => hbs c (List.mem_cons_of_mem _ hc)) a

theorem tidy_program : Body.Tidy program := by
  intro n bs hbs
  unfold program
  split
  · have hstatements := hbs _ List.mem_cons_self
    exact balanced_inOrder (fun b => hstatements.child) none
  · exact balanced_fail _

theorem tidy_table : ∀ e ∈ table, Body.Tidy e.2.2 := by
  simp only [table, List.forall_mem_cons]
  exact ⟨tidy_delegate, tidy_delegate, tidy_assign, tidy_delegate, tidy_operate _, tidy_operate _,
    tidy_delegate, tidy_operate _, tidy_operate _, tidy_delegate, tidy_operate _, tidy_delegate,
    tidy_paren, tidy_signed _, tidy_signed _, tidy_call, tidy_program, tidy_identifier,
    tidy_numeral, nofun⟩

theorem tidy_operation (maxDepth : Int) : (operation maxDepth).Tidy := by
  intro p hp
  obtain ⟨e, he, rfl⟩ := List.mem_map.1 hp
  exact tidy_table e he

/-- A new interpreter is as good as new after a text. -/
theorem process_ready (d : Int) (start text : String) (report : Option Float → Event) (s : Session) :
    ((Interpreter.mk d 0).process start text report s).2.1 = ⟨d, 0⟩ := by
  have hinterpret (n : Node) (s : Session) :
      ((Interpreter.mk d 0).interpret n s).2.1 = ⟨d, 0⟩ := by
    have hdepth := ((tidy_operation d).branch n).visited ⟨0, s⟩
    exact congrArg (Interpreter.mk d) hdepth
  unfold process
  split
  · rfl
  · rename_i n s _
    have hn := hinterpret n s
    split <;> rename_i hrun <;> rw [hrun] at hn <;> exact hn

end Interpreter

namespace Parenthesizer

theorem tidy_delegate : Body.Tidy delegate := by
  intro n bs hbs
  unfold delegate
  split
  · exact (hbs _ List.mem_cons_self).visited
  · exact balanced_fail _

theorem tidy_assign : Body.Tidy assign := by
  intro n bs hbs
  unfold assign
  split
  · exact (hbs _ (by simp)).visited.bind fun _ => balanced_pure _
  · exact balanced_fail _

theorem tidy_operate : Body.Tidy operate := by
  intro n bs hbs
  unfold operate
  split
  · exact (hbs _ (by simp)).visited.bind fun a => (hbs _ (by simp)).visited.bind fun b =>
      balanced_pure _
  · exact balanced_fail _

theorem tidy_paren : Body.Tidy paren := by
  intro n bs hbs
  unfold paren
  split
  · exact (hbs _ (by simp)).visited
  · exact balanced_fail _

theorem tidy_signed (sign : String) : Body.Tidy (signed sign) := by
  intro n bs hbs
  unfold signed
  split
  · exact (hbs _ (by simp)).visited.bind fun _ => balanced_pure _
  · exact balanced_fail _

theorem tidy_call : Body.Tidy call := by
  intro n bs hbs
  unfold call
  split
  · exact (hbs _ (by simp)).visited.bind fun _ => balanced_pure _
  · exact balanced_fail _

theorem tidy_token : Body.Tidy token := by
  intro n bs _
  unfold token
  split
  · exact balanced_pure _
  · exact balanced_fail _

theorem tidy_program : Body.Tidy program := by
  intro n bs hbs
  unfold program
  split
  · exact (hbs _ List.mem_cons_self).visited.bind fun _ => balanced_pure _
  · exact balanced_fail _

theorem tidy_table : ∀ e ∈ table, Body.Tidy e.2.2 := by
  simp only [table, List.forall_mem_cons]
  exact ⟨tidy_delegate, tidy_delegate, tidy_assign, tidy_delegate, tidy_operate, tidy_operate,
    tidy_delegate, tidy_operate, tidy_operate, tidy_delegate, tidy_operate, tidy_delegate,
    tidy_paren, tidy_signed _, tidy_signed _, tidy_call, tidy_program, tidy_token, tidy_token, nofun⟩

theorem tidy_operation (maxDepth : Int) : (operation maxDepth).Tidy := by
  intro p hp
  obtain ⟨e, he, rfl⟩ := List.mem_map.1 hp
  exact tidy_table e he

end Parenthesizer

/-! ## Pools -/

namespace Pool

/-- Each interpreter has the limit for which it is kept, and is as good as new. -/
def Ready (p : Pool) : Prop := ∀ e ∈ p.entries, e.2 = ⟨e.1, 0⟩

variable {p : Pool}

theorem Ready.interpreter (h : p.Ready) (d : Int) : p.interpreter d = ⟨d, 0⟩ := by
  unfold Pool.interpreter
  cases hd : p.entries.lookup d with
  | none => rfl
  | some i =>
    obtain ⟨before, after, hentries, -⟩ := List.lookup_eq_some_iff.1 hd
    exact h (d, i) (hentries ▸ List.mem_append_right _ List.mem_cons_self)

theorem Ready.store (h : p.Ready) (d : Int) : (p.store d ⟨d, 0⟩).Ready := by
  unfold Pool.store
  split
  · intro e he
    obtain ⟨e', he', rfl⟩ := List.mem_map.1 he
    split
    · rfl
    · exact h e' he'
  · intro e he
    rcases List.mem_append.1 he with he | he
    · exact h e he
    · obtain rfl := List.mem_singleton.1 he
      rfl

/-- A text comes to the same with a pool as with a new interpreter, and the pool stays ready. -/
theorem Ready.process (h : p.Ready) (start text : String) (report : Option Float → Event) (d : Int)
    (s : Session) :
    (p.process start text report d s).1 = (({} : Pool).process start text report d s).1 ∧
      (p.process start text report d s).2.2 = (({} : Pool).process start text report d s).2.2 ∧
      (p.process start text report d s).2.1.Ready := by
  have hnew : ({} : Pool).interpreter d = ⟨d, 0⟩ := rfl
  unfold Pool.process
  rw [h.interpreter, hnew]
  refine ⟨rfl, rfl, ?_⟩
  simp only [Interpreter.process_ready]
  exact h.store d

end Pool

/-- A text that is evaluated or run, with the limit and the session that it finds. -/
inductive Call where
  | evaluate (text : String) (maxDepth : Int) (s : Session)
  | run (text : String) (maxDepth : Int) (s : Session)

namespace Call

/-- What the call comes to with the interpreters of a pool. -/
def on (p : Pool) : Call → Except RunError (Option Float) × Pool × Session
  | evaluate text maxDepth s => p.evaluate text maxDepth s
  | run text maxDepth s => p.run text maxDepth s

/-- What the call comes to with a new interpreter. -/
def alone : Call → Except RunError (Option Float) × Session
  | evaluate text maxDepth s => Reckon.evaluate text maxDepth s
  | run text maxDepth s => Reckon.run text maxDepth s

end Call

/-- What calls come to one after another, and the pool after them. -/
def Pool.serve (p : Pool) : List Call → List (Except RunError (Option Float) × Session) × Pool
  | [] => ([], p)
  | c :: cs =>
    let first := c.on p
    let rest := first.2.1.serve cs
    ((first.1, first.2.2) :: rest.1, rest.2)

/-- Whatever text it is of, a call is processed. -/
theorem Call.exists_process (c : Call) : ∃ start text report d s, ∀ p r q t,
    p.process start text report d s = (r, q, t) → c.on p = (r, q, t) ∧ (p = {} → c.alone = (r, t)) := by
  cases c with
  | evaluate text d s =>
    refine ⟨"exp", text, .evaluated text, d, s, fun p r q t h => ⟨h, ?_⟩⟩
    rintro rfl
    rw [alone, Reckon.evaluate, Pool.evaluate, h]
  | run text d s =>
    refine ⟨"program", text, .ran text, d, s, fun p r q t h => ⟨h, ?_⟩⟩
    rintro rfl
    rw [alone, Reckon.run, Pool.run, h]

theorem Pool.Ready.on {p : Pool} (h : p.Ready) (c : Call) :
    ((c.on p).1, (c.on p).2.2) = c.alone ∧ (c.on p).2.1.Ready := by
  obtain ⟨start, text, report, d, s, hc⟩ := c.exists_process
  have hprocess := h.process start text report d s
  rcases hp : p.process start text report d s with ⟨r, q, t⟩
  rcases hnew : ({} : Pool).process start text report d s with ⟨r', q', t'⟩
  rw [hp, hnew] at hprocess
  obtain ⟨hresult, hsession, hready⟩ := hprocess
  rw [(hc p r q t hp).1, (hc {} r' q' t' hnew).2 rfl]
  exact ⟨Prod.ext hresult hsession, hready⟩

theorem Pool.Ready.serve_eq {p : Pool} (h : p.Ready) (calls : List Call) :
    (p.serve calls).1 = calls.map (·.alone) ∧ (p.serve calls).2.Ready := by
  induction calls generalizing p with
  | nil => exact ⟨rfl, h⟩
  | cons c cs ih =>
    obtain ⟨hc, hready⟩ := h.on c
    obtain ⟨hcs, hready⟩ := ih hready
    exact ⟨List.cons_eq_cons.2 ⟨hc, hcs⟩, hready⟩

/-- Nothing is carried over: texts come to the same with the interpreters of a pool as with new ones,
and these have the limits for which they are kept and a count of zero after each; and trees, well
formed or not, come to the same with an operation in use as with a new one, if its actions touch the
count only by visiting. Those that evaluate and those that write do. -/
theorem reuse_carries_nothing :
    (∀ calls : List Call, (({} : Pool).serve calls).1 = calls.map (·.alone) ∧
      ∀ e ∈ (({} : Pool).serve calls).2.entries, e.2 = ⟨e.1, 0⟩) ∧
    (∀ (σ α : Type) (op : Operation σ α), op.Tidy → ∀ visits : List (Node × σ),
      op.visitEach 0 visits = (visits.map fun v => (op.visitFrom 0 v.1 v.2).1, 0)) ∧
    ∀ d, (Interpreter.operation d).Tidy ∧ (Parenthesizer.operation d).Tidy := by
  have hnew : ({} : Pool).Ready := nofun
  exact ⟨fun calls => hnew.serve_eq calls, fun σ α op hop visits => hop.visitEach_eq visits,
    fun d => ⟨Interpreter.tidy_operation d, Parenthesizer.tidy_operation d⟩⟩

theorem reuse_carries_nothing_malformed :
    (Interpreter.operation 1).Tidy ∧
      (Interpreter.operation 1).visitEach 0 [
        (⟨"pri_exp_paren", [⟨"(", [], "(", 0, 1⟩, ⟨"add_exp_plus", [], "", 1, 1⟩,
          ⟨")", [], ")", 1, 2⟩], "()", 0, 2⟩, ⟨{}, []⟩),
        (⟨"add_exp_plus", [], "", 0, 0⟩, ⟨{}, []⟩),
        (⟨"sum", [⟨"NUMBER", [], "1", 0, 1⟩], "1", 0, 1⟩, ⟨{}, []⟩)] =
      ([(.error (.eval (.tooDeep 1)), ⟨{}, []⟩),
        (.error (.malformed "add_exp_plus"), ⟨{}, []⟩),
        (.error (.registry (.unregistered "sum")), ⟨{}, []⟩)], 0) := by
  have htidy := Interpreter.tidy_operation 1
  exact ⟨htidy, reuse_carries_nothing.2.1 _ _ (Interpreter.operation 1) htidy _⟩

end Reckon
