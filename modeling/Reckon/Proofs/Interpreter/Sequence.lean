import Reckon.Proofs.Arithmetic.Rematch
import Reckon.Proofs.Interpreter.Related

/-!
# Programs, one statement after another

Running a program comes to the same as evaluating the texts of its statements one by one, up to the
first that fails (`run_eq_evaluateEach`). The text of a statement is matched again to the same bare
tree, and an evaluation sees no more of a tree than that (`blind_of_bare`): it reads the texts of
leaves only, and what was noted before has no effect on it.
-/

namespace Reckon

/-- Goes on with the value of a text, unless the text failed. -/
def andThen (o : Except RunError (Option Float) × Session)
    (f : Option Float → Session → Except RunError (Option Float) × Session) :
    Except RunError (Option Float) × Session :=
  match o with
  | (.ok value, s) => f value s
  | (.error e, s) => (.error e, s)

/-- Evaluates texts one after another, `last` being the value before them, up to the first that
fails. -/
def evaluateEach (maxDepth : Int) (last : Option Float) :
    List String → Session → Except RunError (Option Float) × Session
  | [], s => (.ok last, s)
  | text :: texts, s => andThen (evaluate text maxDepth s) fun value s =>
      evaluateEach maxDepth value texts s

namespace Interpreter

open Arithmetic

/-! ## What an evaluation sees of a tree -/

/-- From the same environment the visits come to the same result and the same environment. -/
def Blind {α : Type} (v v' : Visit Session α) : Prop :=
  ∀ (k : Int) (s s' : Session), s.env = s'.env → ∃ r t t', v.run.run ⟨k, s⟩ = (r, ⟨k, t⟩) ∧
    v'.run.run ⟨k, s'⟩ = (r, ⟨k, t'⟩) ∧ t.env = t'.env

theorem Blind.bind {α β : Type} {v v' : Visit Session α} {g g' : α → Visit Session β}
    (hv : Blind v v') (hg : ∀ a, Blind (g a) (g' a)) : Blind (v >>= g) (v' >>= g') := by
  intro k s s' hs
  obtain ⟨r, t, t', hrun, hrun', ht⟩ := hv k s s' hs
  rcases r with e | a
  · exact ⟨.error e, t, t', by rw [Visit.run_bind, hrun], by rw [Visit.run_bind, hrun'], ht⟩
  · obtain ⟨r, u, u', hg, hg', hu⟩ := hg a k t t' ht
    exact ⟨r, u, u', by rw [Visit.run_bind, hrun]; exact hg,
      by rw [Visit.run_bind, hrun']; exact hg', hu⟩

theorem Blind.symm {α : Type} {v v' : Visit Session α} (h : Blind v v') : Blind v' v := by
  intro k s s' hs
  obtain ⟨r, t, t', hrun, hrun', ht⟩ := h k s' s hs.symm
  exact ⟨r, t', t, hrun', hrun, ht.symm⟩

theorem Blind.trans {α : Type} {v v' v'' : Visit Session α} (h : Blind v v') (h' : Blind v' v'') :
    Blind v v'' := by
  intro k s s' hs
  obtain ⟨r, t, u, hrun, hmid, ht⟩ := h k s s' hs
  obtain ⟨r', u', t', hmid', hrun', ht'⟩ := h' k s' s' rfl
  rw [hmid] at hmid'
  obtain ⟨rfl, hu⟩ := Prod.mk.inj hmid'
  obtain rfl := (Tracked.mk.inj hu).2
  exact ⟨r, t, t', hrun, hrun', ht.trans ht'⟩

theorem blind_step {α : Type} (p : Step α) : Blind p.visit p.visit := by
  intro k s s' hs
  have hsame : (p.outcome s).1 = (p.outcome s').1 ∧ (p.outcome s).2.env = (p.outcome s').2.env := by
    cases p with
    | fetch name => exact ⟨congrArg (fun env => (env.value name).mapError Fault.eval) hs, hs⟩
    | resolve name count =>
      exact ⟨congrArg (fun env => (env.function name count).mapError Fault.eval) hs, hs⟩
    | report name values => exact ⟨rfl, hs⟩
    | store name value =>
      simp only [Step.outcome, Session.assign, hs]
      rcases s'.env.assign name value with e | env
      · exact ⟨rfl, hs⟩
      · exact ⟨rfl, rfl⟩
  refine ⟨_, _, _, p.run_visit k s, ?_, hsame.2⟩
  rw [p.run_visit k s', hsame.1]

theorem Blind.visitNode {d : Int} {n n' : Node} {bs bs' : List (Branch Session (Option Number))}
    (hn : Operation.levels n = Operation.levels n')
    (h : Blind ((operation d).visitBody n bs) ((operation d).visitBody n' bs')) :
    Blind ((operation d).visitNode n bs) ((operation d).visitNode n' bs') := by
  intro k s s' hs
  by_cases hk : k + Operation.levels n ≤ (operation d).maxDepth
  · obtain ⟨r, t, t', hrun, hrun', ht⟩ := h (k + Operation.levels n) s s' hs
    rw [hn] at hrun'
    exact ⟨r, t, t', Operation.run_visitNode hk hrun, Operation.run_visitNode (hn ▸ hk) hrun', ht⟩
  · have hk : (operation d).maxDepth < k + Operation.levels n := Int.not_le.1 hk
    exact ⟨_, s, s', Operation.run_visitNode_tooDeep s hk,
      Operation.run_visitNode_tooDeep s' (hn ▸ hk), hs⟩

theorem compatible_blind (d : Int) : Compatible (fun _ v v' => Blind v v') (operation d).branch
    (fun n => (operation d).branch n.bare) where
  rule n := by simp
  source h := by simp [Node.bare_source h]
  count n := by simp
  children n := by simp [Operation.branches_eq_map, Function.comp_def]
  pure a := fun k s s' hs => ⟨.ok a, s, s', rfl, rfl, hs⟩
  fail _ e := fun k s s' hs => ⟨.error e, s, s', rfl, rfl, hs⟩
  step := blind_step
  bind := Blind.bind
  node {n h a} ha hi hb := by
    have hi' : n.bare.isIteration = false := by simpa [Node.isIteration] using hi
    have hlevels : Operation.levels n = Operation.levels n.bare := by
      simp [Operation.levels, Operation.isNested]
    simp only [Operation.branch_visit, Operation.branches_eq_map, Node.bare_children, List.map_map,
      Function.comp_def, Operation.branch_node] at hb ⊢
    refine Blind.visitNode hlevels ?_
    rw [Operation.visitBody_of_dispatch hi ha,
      Operation.visitBody_of_dispatch hi' (by rw [Node.bare_rule]; exact ha)]
    exact hb

/-- Trees that are the same when bare are visited alike. -/
theorem blind_of_bare {d : Int} {m m' : Node} (hm : Formed m) (hm' : Formed m')
    (h : m.bare = m'.bare) :
    Blind ((operation d).branch m).visit ((operation d).branch m').visit := by
  have hbare := (compatible_blind d).formed hm
  rw [h] at hbare
  exact hbare.trans ((compatible_blind d).formed hm').symm

/-! ## Sequences -/

section Sequence

variable {d : Int} {start text : String} {n : Node}

theorem visit_program {list : Node} (hd : 0 ≤ d) (hrule : n.rule = "program")
    (hch : n.children = [list]) {s t : Session} {r : Except Fault (Option Number)}
    (h : (inOrder none (list.children.map (operation d).branch)).run.run ⟨0, s⟩ = (r, ⟨0, t⟩)) :
    ((operation d).branch n).visit.run.run ⟨0, s⟩ = (r, ⟨0, t⟩) := by
  obtain ⟨hdisp, hiter, hlevels⟩ := program_node hrule hch
  rw [Operation.branch_visit]
  refine Operation.run_visitNode (k := 0) (by rw [hlevels]; exact hd) ?_
  rw [Operation.visitBody_of_dispatch hiter hdisp, hlevels, hch]
  change (inOrder none ((operation d).branch list).children).run.run ⟨0, s⟩ = (r, ⟨0, t⟩)
  rw [Operation.branch_children, Operation.branches_eq_map, h]

/-- A statement is an expression whose text is matched again to the same bare tree. -/
structure Rematched (m : Node) : Prop where
  formed : Formed m
  again : ∃ m', parse "exp" m.source = .ok m' ∧ m'.bare = m.bare

theorem inOrder_eq_evaluateEach {ms : List Node} (hms : ∀ m ∈ ms, Rematched m)
    (last : Option Number) (s s' : Session) (hs : s.env = s'.env) :
    ∃ r t, (inOrder last (ms.map (operation d).branch)).run.run ⟨0, s⟩ = (r, ⟨0, t⟩) ∧
      (evaluateEach d (double last) (ms.map (·.source)) s').1 = (r.map double).mapError .fault ∧
      (evaluateEach d (double last) (ms.map (·.source)) s').2.env = t.env := by
  induction ms generalizing last s s' with
  | nil => exact ⟨.ok last, s, rfl, rfl, hs.symm⟩
  | cons m ms ih =>
    obtain ⟨hm, hms⟩ := List.forall_mem_cons.1 hms
    obtain ⟨m', hm', hbare⟩ := hm.again
    obtain ⟨r, t, t', hrun, hrun', ht⟩ := blind_of_bare (d := d) hm.formed
      (formed_of_parse_exp hm') hbare.symm 0 s (s'.note (.matched "exp" m.source m')) hs
    obtain ⟨u, hprocess, henv⟩ :=
      process_of_interpret hm' (.evaluated m.source) (interpret_eq hrun')
    rw [List.map_cons, List.map_cons, inOrder, evaluateEach, Visit.run_bind, hrun,
      evaluate_of_process hprocess]
    rcases r with e | v
    · exact ⟨.error e, t, rfl, rfl, henv.trans ht.symm⟩
    · exact ih hms v t u (ht.trans henv.symm)

/-- Running a program is evaluating the texts of its statements in order. -/
theorem run_eq_sources (h : parse "program" text = .ok n) : ∃ list, n.children = [list] ∧
    list.rule = Node.iterationName ∧ ∀ d : Int, 0 ≤ d → ∀ s : Session,
      (run text d s).1 = (evaluateEach d none (list.children.map (·.source)) s).1 ∧
        (run text d s).2.env = (evaluateEach d none (list.children.map (·.source)) s).2.env := by
  obtain ⟨ts, -, hsp⟩ := accepts_of_parse_ok isSyntactic_program h
  obtain ⟨hrule, list, ms, k, hch, hlist, hms, hstatements⟩ := program_cases hsp
  refine ⟨list, hch, hlist, fun d hd s => ?_⟩
  have hrematched : ∀ m ∈ list.children, Rematched m := by
    intro m hm
    obtain ⟨hexp, hform⟩ := formed_statements hstatements m (hms ▸ hm)
    have hlist : list ∈ n.children := by rw [hch]; exact List.mem_cons_self
    have hwithin : m.Within n := .child hlist (.child hm (.self m))
    have hagain := parse_source h hwithin (by rw [hexp]; exact isSyntactic_exp)
      (by rw [hexp]; decide)
    rw [hexp] at hagain
    exact ⟨hform, hagain⟩
  obtain ⟨r, t, hrun, hresult, henv⟩ := inOrder_eq_evaluateEach (d := d) hrematched none
    (s.note (.matched "program" text n)) s rfl
  obtain ⟨u, hprocess, hu⟩ :=
    process_of_interpret h (.ran text) (interpret_eq (visit_program hd hrule hch hrun))
  rw [run_of_process hprocess]
  exact ⟨hresult.symm, hu.trans henv.symm⟩

end Sequence

/-- Running a program is evaluating the texts of its statements in order, and an expression is a
program of one statement. -/
theorem run_eq_evaluateEach (text : String) :
    (∀ n, parse "program" text = .ok n → ∃ list, n.children = [list] ∧
      list.rule = Node.iterationName ∧ ∀ d : Int, 0 ≤ d → ∀ s : Session,
        (run text d s).1 = (evaluateEach d none (list.children.map (·.source)) s).1 ∧
          (run text d s).2.env = (evaluateEach d none (list.children.map (·.source)) s).2.env) ∧
    ((∃ m, parse "exp" text = .ok m) ↔ ∃ n list statement, parse "program" text = .ok n ∧
      n.children = [list] ∧ list.children = [statement]) :=
  ⟨fun _ h => run_eq_sources h, parse_exp_iff text⟩

theorem run_eq_evaluateEach_assignment :
    ∃ n, parse "program" "x=1; y" = .ok n ∧ ∀ s : Session,
      (run "x=1; y" 5 s).1 = (evaluateEach 5 none ["x=1", "y"] s).1 ∧
        (run "x=1; y" 5 s).2.env = (evaluateEach 5 none ["x=1", "y"] s).2.env := by
  have hok : ((matcher.parseFrom "program" "x=1; y".toList).toOption.map fun n =>
      n.children.map fun list => list.children.map (·.source)) = some [["x=1", "y"]] := by
    decide +kernel
  obtain ⟨n, hn, hlists⟩ := exists_parse_of_map isSyntactic_program hok
  obtain ⟨list, hch, -, hrun⟩ := (run_eq_evaluateEach "x=1; y").1 n hn
  have hsources : list.children.map (·.source) = ["x=1", "y"] := by
    rw [hch] at hlists
    exact (List.cons.inj hlists).1
  rw [hsources] at hrun
  exact ⟨n, hn, fun s => hrun 5 (by omega) s⟩

end Interpreter

end Reckon
