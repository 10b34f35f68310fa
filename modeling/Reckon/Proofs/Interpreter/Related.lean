import Reckon.Proofs.Arithmetic.Formed
import Reckon.Proofs.Arithmetic.Running

/-!
# Two ways to visit a tree

An evaluation touches its session by four steps only (`Step`). So two ways of visiting the trees of
arithmetic are related if they are at these steps, at sequencing, and at one node over its children
(`Compatible`): then they are at every tree of a matched text (`Compatible.related`). A relation may
depend on a number, which at a tree is its nesting. In particular an evaluation keeps all that each
step keeps (`interpret_keeps`).
-/

namespace Reckon.Interpreter

open Arithmetic

/-! ## Steps -/

/-- What an evaluation does with its session. -/
inductive Step : Type → Type
  | fetch (name : String) : Step Number
  | resolve (name : String) (count : Int) : Step Function
  | store (name : String) (value : Number) : Step Unit
  | report (name : String) (values : List Number) : Step Unit

def Step.visit {α : Type} : Step α → Visit Session α
  | fetch name => do lift ((← Visit.get).env.value name)
  | resolve name count => do lift ((← Visit.get).env.function name count)
  | store name value => do Visit.set (← lift ((← Visit.get).assign name value))
  | report name values => do Visit.set ((← Visit.get).note (.called name values))

/-- What the step comes to. -/
def Step.outcome {α : Type} : Step α → Session → Outcome α
  | fetch name, s => ((s.env.value name).mapError .eval, s)
  | resolve name count, s => ((s.env.function name count).mapError .eval, s)
  | store name value, s =>
    match s.assign name value with
    | .ok t => (.ok (), t)
    | .error e => (.error (.eval e), s)
  | report name values, s => (.ok (), s.note (.called name values))

theorem Step.run_visit {α : Type} (p : Step α) (k : Int) (s : Session) :
    p.visit.run.run ⟨k, s⟩ = ((p.outcome s).1, ⟨k, (p.outcome s).2⟩) := by
  cases p with
  | fetch name =>
    simp only [visit, outcome, Visit.run_bind, Visit.run_get]
    cases s.env.value name <;> rfl
  | resolve name count =>
    simp only [visit, outcome, Visit.run_bind, Visit.run_get]
    cases s.env.function name count <;> rfl
  | store name value =>
    simp only [visit, outcome, Visit.run_bind, Visit.run_get]
    cases s.assign name value <;> rfl
  | report name values => rfl

section Actions

variable {n : Node} {p q x e args : Branch Session (Option Number)}

theorem assign_eq : assign n [x, p, e] = e.visit >>= fun r =>
    match r with
    | none => Visit.fail (.malformed n.rule)
    | some a => (Step.store x.node.source a).visit >>= fun _ => pure (some a) := by
  unfold assign
  refine congrArg (e.visit >>= ·) (funext fun r => ?_)
  cases r with
  | none => rfl
  | some a => simp only [Step.visit, bind_assoc]

theorem call_eq : call n [x, p, args, q] =
    (Step.resolve x.node.source args.node.children.length).visit >>= fun f =>
      arguments n.rule args.children >>= fun values =>
        (Step.report f.name values).visit >>= fun _ =>
          orFail (.unanswered x.node.source) ((f.apply values).map (·.toIeee)) := by
  simp only [call, Step.visit, bind_assoc]

theorem identifier_eq :
    identifier n [] = (Step.fetch n.source).visit >>= fun a => pure (some a) := by
  simp only [identifier, Step.visit, bind_assoc]

end Actions

/-! ## Relations -/

/-- The relation `R` goes through the visits that `B` and `B'` make of the nodes. -/
structure Compatible (R : ∀ {α : Type}, Nat → Visit Session α → Visit Session α → Prop)
    (B B' : Node → Branch Session (Option Number)) : Prop where
  rule (n : Node) : (B n).node.rule = n.rule ∧ (B' n).node.rule = n.rule
  source {n : Node} (h : n.isLeaf = true) : (B n).node.source = (B' n).node.source
  count (n : Node) : (B n).node.children.length = (B' n).node.children.length
  children (n : Node) : (B n).children = n.children.map B ∧ (B' n).children = n.children.map B'
  pure {α : Type} (a : α) : R 0 (pure a) (pure a)
  fail {α : Type} (h : Nat) (e : Fault) : R h (Visit.fail e : Visit Session α) (Visit.fail e)
  step {α : Type} (p : Step α) : R 0 p.visit p.visit
  bind {α β : Type} {h h' : Nat} {v v' : Visit Session α} {g g' : α → Visit Session β}
    (hv : R h v v') (hg : ∀ a, R h' (g a) (g' a)) : R (max h h') (v >>= g) (v' >>= g')
  node {n : Node} {h : Nat} {a : Action EvalBody} (ha : registry.dispatch n.rule = .ok a)
    (hi : n.isIteration = false)
    (hb : R h (a.body (B n).node (n.children.map B)) (a.body (B' n).node (n.children.map B'))) :
    R (h + Operation.levels n) (B n).visit (B' n).visit

theorem nesting_terminal {n : Node} (h : n.isTerminal = true) : n.nesting = 0 := by
  obtain ⟨rule, children, source, start, stop⟩ := n
  obtain rfl : rule = Node.terminalName := eq_of_beq h
  simp [Node.nesting]

theorem isLeaf_of_construct {n : Node} {c : Construct} (hc : construct? n.rule = some c)
    (hn : n.children = []) : n.isLeaf = true := by
  have hiter : n.isIteration = false := beq_false_of_ne (rule_ne_of_construct hc).2
  simp [Node.isLeaf, hn, hiter]

namespace Compatible

variable {R : ∀ {α : Type}, Nat → Visit Session α → Visit Session α → Prop}
  {B B' : Node → Branch Session (Option Number)}

theorem construct (hR : Compatible R B B') {n : Node} {ns : List Node} {c : Construct} {h : Nat}
    (hc : construct? n.rule = some c) (hn : n.children = ns)
    (hh : Node.deepest (c == .assign || c == .call) ns = h)
    (hb : R h (action c (B n).node (ns.map B)) (action c (B' n).node (ns.map B'))) :
    R n.nesting (B n).visit (B' n).visit := by
  obtain ⟨a, ha, hbody⟩ := dispatch_of_construct hc
  subst hn hh
  rw [← hbody] at hb
  rw [nesting_eq hc, startsWithName_eq hc]
  exact hR.node ha (beq_false_of_ne (rule_ne_of_construct hc).2) hb

theorem orFail (hR : Compatible R B B') (e : Fault) (a : Option Number) :
    R 0 (orFail e a) (orFail e a) := by
  cases a with
  | none => exact hR.fail 0 e
  | some a => exact hR.pure (some a)

theorem arguments (hR : Compatible R B B') (rule : String) {ns : List Node}
    (h : ∀ n ∈ ns, R n.nesting (B n).visit (B' n).visit) :
    R (Node.deepest false ns) (arguments rule (ns.map B)) (arguments rule (ns.map B')) := by
  induction ns with
  | nil => exact hR.pure []
  | cons n ns ih =>
    obtain ⟨hn, hns⟩ := List.forall_mem_cons.1 h
    refine hR.bind hn fun r => ?_
    cases r with
    | none => exact hR.fail _ _
    | some a =>
      have := hR.bind (ih hns) fun as => hR.pure (a :: as)
      rwa [Nat.max_zero] at this

theorem inOrder (hR : Compatible R B B') {ns : List Node}
    (h : ∀ n ∈ ns, R n.nesting (B n).visit (B' n).visit) (last : Option Number) :
    R (Node.deepest false ns) (inOrder last (ns.map B)) (inOrder last (ns.map B')) := by
  induction ns generalizing last with
  | nil => exact hR.pure last
  | cons n ns ih =>
    obtain ⟨hn, hns⟩ := List.forall_mem_cons.1 h
    exact hR.bind hn fun r => ih hns r

theorem formed (hR : Compatible R B B') {n : Node} (h : Formed n) :
    R n.nesting (B n).visit (B' n).visit := by
  induction h with
  | @delegate n m hc hn hm ih =>
    exact hR.construct (h := m.nesting) hc hn (by simp [Node.deepest]) ih
  | @paren n p m q hc hn hp hq hm ih =>
    refine hR.construct (h := m.nesting) hc hn ?_ ih
    simp [Node.deepest, nesting_terminal hp, nesting_terminal hq]
  | @sign n p m negative hc hn hp hm ih =>
    have hbody : R (max m.nesting 0) (signed (signValue negative) (B n).node [B p, B m])
        (signed (signValue negative) (B' n).node [B' p, B' m]) := by
      refine hR.bind ih fun r => ?_
      rw [(hR.rule n).1, (hR.rule n).2]
      cases r with
      | none => exact hR.fail _ _
      | some a => exact hR.pure _
    exact hR.construct hc hn (by simp [Node.deepest, nesting_terminal hp]) hbody
  | @binary n l p r op hc hn hp hl hr ihl ihr =>
    have hbody : R (max l.nesting (max r.nesting 0))
        (operate op.apply (B n).node [B l, B p, B r])
        (operate op.apply (B' n).node [B' l, B' p, B' r]) := by
      refine hR.bind ihl fun a => hR.bind ihr fun b => ?_
      rw [(hR.rule n).1, (hR.rule n).2]
      rcases a with _ | a <;> rcases b with _ | b
      all_goals first | exact hR.orFail _ _ | exact hR.fail _ _
    exact hR.construct hc hn (by simp [Node.deepest, nesting_terminal hp]) hbody
  | @assign n x p m hc hn hx hp hm ih =>
    have hbody : R (max m.nesting (max 0 0)) (Interpreter.assign (B n).node [B x, B p, B m])
        (Interpreter.assign (B' n).node [B' x, B' p, B' m]) := by
      rw [assign_eq, assign_eq, hR.source hx, (hR.rule n).1, (hR.rule n).2]
      refine hR.bind ih fun r => ?_
      cases r with
      | none => exact hR.fail _ _
      | some a => exact hR.bind (hR.step _) fun _ => hR.pure _
    exact hR.construct hc hn (by simp [Node.deepest, nesting_terminal hp]) hbody
  | @call n f p list q hc hn hf hp hq hl hes ih =>
    have hbody : R (max 0 (max (Node.deepest false list.children) (max 0 0)))
        (Interpreter.call (B n).node [B f, B p, B list, B q])
        (Interpreter.call (B' n).node [B' f, B' p, B' list, B' q]) := by
      rw [call_eq, call_eq, hR.source hf, hR.count, (hR.rule n).1, (hR.rule n).2,
        (hR.children list).1, (hR.children list).2]
      refine hR.bind (hR.step _) fun g => hR.bind (hR.arguments n.rule ih) fun values => ?_
      exact hR.bind (hR.step _) fun _ => hR.orFail _ _
    refine hR.construct hc hn ?_ hbody
    have hlist : list.nesting = Node.deepest false list.children :=
      nesting_iteration (eq_of_beq hl)
    simp [Node.deepest, nesting_terminal hp, nesting_terminal hq, hlist]
  | @name n hc hn =>
    have hbody : R (max 0 0) (identifier (B n).node []) (identifier (B' n).node []) := by
      rw [identifier_eq, identifier_eq, hR.source (isLeaf_of_construct hc hn)]
      exact hR.bind (hR.step _) fun a => hR.pure _
    exact hR.construct hc hn rfl hbody
  | @number n hc hn =>
    have hbody : R 0 (numeral (B n).node []) (numeral (B' n).node []) := by
      simp only [numeral, hR.source (isLeaf_of_construct hc hn), (hR.rule n).1, (hR.rule n).2]
      cases Decimal.unsigned? (B' n).node.source.toList with
      | none => exact hR.fail _ _
      | some a => exact hR.pure _
    exact hR.construct hc hn rfl hbody

/-- Ways to visit that are related step by step are related at every tree. -/
theorem related (hR : Compatible R B B') {start text : String} {n : Node}
    (h : parse start text = .ok n) : R n.nesting (B n).visit (B' n).visit := by
  obtain ⟨rule, hs, hn⟩ := exists_start_of_parse_ok h
  obtain ⟨ts, -, hsp⟩ := accepts_of_parse_ok hs hn
  obtain hform | ⟨hrule, list, hch, hl, hes⟩ := formed_or_program hs hsp
  · exact hR.formed hform
  · obtain ⟨hdisp, hiter, hlevels⟩ := program_node hrule hch
    have hbody : R (Node.deepest false list.children) (program (B n).node [B list])
        (program (B' n).node [B' list]) := by
      change R _ (Interpreter.inOrder none (B list).children)
        (Interpreter.inOrder none (B' list).children)
      rw [(hR.children list).1, (hR.children list).2]
      exact hR.inOrder (fun m hm => hR.formed (hes m hm)) none
    have hnode := hR.node (h := Node.deepest false list.children) hdisp hiter
      (by rw [hch]; exact hbody)
    rwa [hlevels, Nat.add_zero, ← nesting_program hrule hch hl] at hnode

end Compatible

/-! ## Invariants -/

/-- The visit keeps what holds of the session. -/
def Keeps (P : Session → Prop) {α : Type} (v : Visit Session α) : Prop :=
  ∀ k s, P s → P (v.run.run ⟨k, s⟩).2.state

section Keeps

variable {P : Session → Prop}

theorem Keeps.bind {α β : Type} {v : Visit Session α} {g : α → Visit Session β} (hv : Keeps P v)
    (hg : ∀ a, Keeps P (g a)) : Keeps P (v >>= g) := by
  intro k s hs
  have hv := hv k s hs
  rw [Visit.run_bind]
  rcases hrun : v.run.run ⟨k, s⟩ with ⟨e | a, j, t⟩ <;> rw [hrun] at hv
  · exact hv
  · exact hg a j t hv

theorem Keeps.visitNode {d : Int} {n : Node} {bs : List (Branch Session (Option Number))}
    (h : Keeps P ((operation d).visitBody n bs)) : Keeps P ((operation d).visitNode n bs) := by
  have hlimited :
      Keeps P (Visit.limited (operation d).maxDepth ((operation d).visitBody n bs)) := by
    intro k s hs
    by_cases hk : k ≤ (operation d).maxDepth
    · rw [Visit.run_limited hk]
      exact h k s hs
    · rw [Visit.run_limited_tooDeep (Int.not_le.1 hk)]
      exact hs
  intro k s hs
  unfold Operation.visitNode
  cases Operation.isNested n with
  | true =>
    rw [Visit.run_counted]
    exact hlimited (k + 1) s hs
  | false => exact hlimited k s hs

theorem compatible_keeps (hP : ∀ {α : Type} (p : Step α) (s : Session), P s → P (p.outcome s).2)
    (d : Int) : Compatible (fun _ v _ => Keeps P v) (operation d).branch (operation d).branch where
  rule n := by simp
  source _ := rfl
  count _ := rfl
  children n := by simp [Operation.branches_eq_map]
  pure _ := fun _ _ hs => hs
  fail _ _ := fun _ _ hs => hs
  step p := fun k s hs => by
    rw [p.run_visit]
    exact hP p s hs
  bind := Keeps.bind
  node {n h a} ha hi hb := by
    rw [Operation.branch_visit, Operation.branches_eq_map]
    rw [Operation.branch_node] at hb
    refine Keeps.visitNode ?_
    rwa [Operation.visitBody_of_dispatch hi ha]

/-- What every step keeps, an evaluation keeps. -/
theorem interpret_keeps (hP : ∀ {α : Type} (p : Step α) (s : Session), P s → P (p.outcome s).2)
    {start text : String} {n : Node} (h : parse start text = .ok n) (i : Interpreter) {s : Session}
    (hs : P s) : P (i.interpret n s).2.2 :=
  (compatible_keeps hP i.maxDepth).related h i.depth s hs

end Keeps

theorem interpret_eq {d : Int} {n : Node} {s t : Session} {r : Except Fault (Option Number)}
    (h : ((operation d).branch n).visit.run.run ⟨0, s⟩ = (r, ⟨0, t⟩)) :
    (Interpreter.mk d 0).interpret n s = (r, ⟨d, 0⟩, t) := by
  unfold interpret Operation.visit
  rw [h]

theorem env_of_assign {s t : Session} {name : String} {value : Number}
    (h : s.assign name value = .ok t) : s.env.assign name value = .ok t.env := by
  unfold Session.assign at h
  split at h
  · cases h
  · rename_i env henv
    cases h
    exact henv

theorem env_parse (s : Session) (start text : String) : (s.parse start text).2.env = s.env := by
  unfold Session.parse
  split <;> rfl

theorem process_of_error {start text : String} {e : MatchError} (h : parse start text = .error e)
    (i : Interpreter) (report : Option Float → Event) (s : Session) :
    i.process start text report s = (.error (.unmatched e), i, (s.parse start text).2) := by
  obtain ⟨t, ht⟩ := parse_of_error h s
  unfold process
  rw [ht]

section Process

variable {P : Environment → Prop}
  (hP : ∀ {env env' : Environment} {name : String} {value : Number}, P env →
    env.assign name value = .ok env' → P env')

include hP

theorem step_keeps {α : Type} (p : Step α) (s : Session) (hs : P s.env) :
    P (p.outcome s).2.env := by
  cases p with
  | fetch | resolve | report => exact hs
  | store name value =>
    unfold Step.outcome
    simp only
    split
    · rename_i t ht
      exact hP hs (env_of_assign ht)
    · exact hs

theorem process_keeps (i : Interpreter) (start text : String) (report : Option Float → Event)
    {s : Session} (hs : P s.env) : P (i.process start text report s).2.2.env := by
  rcases hparse : parse start text with e | n
  · rw [process_of_error hparse]
    change P (s.parse start text).2.env
    rwa [env_parse]
  · have hkeeps := interpret_keeps (P := fun s => P s.env) (step_keeps hP) hparse i
      (s := s.note (.matched start text n)) hs
    rcases hrun : i.interpret n (s.note (.matched start text n)) with ⟨r, j, t⟩
    rw [hrun] at hkeeps
    obtain ⟨u, hprocess, hu⟩ := process_of_interpret hparse report hrun
    rw [hprocess]
    change P u.env
    rw [hu]
    exact hkeeps

/-- What every assignment keeps of the environment, a text keeps, whatever comes of it. -/
theorem pool_keeps (p : Pool) (text : String) (maxDepth : Int) {s : Session} (hs : P s.env) :
    P (p.evaluate text maxDepth s).2.2.env ∧ P (p.run text maxDepth s).2.2.env := by
  have hprocess (start : String) (report : Option Float → Event) :
      P (p.process start text report maxDepth s).2.2.env := by
    have hkeeps := process_keeps hP (p.interpreter maxDepth) start text report hs
    rcases ho : (p.interpreter maxDepth).process start text report s with ⟨r, i, t⟩
    rw [ho] at hkeeps
    rw [Pool.process_eq rfl ho]
    exact hkeeps
  unfold Pool.evaluate Pool.run
  exact ⟨hprocess _ _, hprocess _ _⟩

end Process

end Reckon.Interpreter
