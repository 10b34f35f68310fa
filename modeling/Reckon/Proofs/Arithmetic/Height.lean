import Reckon.Proofs.Arithmetic.Erasure
import Reckon.Proofs.Arithmetic.Formed
import Reckon.Proofs.Arithmetic.Rendering

/-!
# Which trees can be written

Writing the text of a tree visits its lists too, so it may be nested deeper than an evaluation is.
The tree is written exactly if that (`Node.height`) keeps to the limit (`render_eq`). Parentheses and
lists only add to the height of an expression, so there are texts of any height: a number behind
that many signs (`exists_parse_signs`).
-/

namespace Reckon

namespace Node

mutual

/-- How deep the visits that write a tree are nested: a node counts unless it has exactly one child.
Literals are not visited, nor the names of targets and callees. -/
def height : Node → Nat
  | ⟨rule, children, _, _, _⟩ =>
    let inner := highest (startsWithName rule) children
    if rule = terminalName then 0 else if children.length = 1 then inner else inner + 1

/-- The height of the highest node in a row, without the first of them if `skip`. -/
def highest (skip : Bool) : List Node → Nat
  | [] => 0
  | n :: ns => max (if skip then 0 else n.height) (highest false ns)

end

theorem height_terminal {n : Node} (h : n.isTerminal = true) : n.height = 0 := by
  obtain ⟨rule, children, source, start, stop⟩ := n
  obtain rfl : rule = terminalName := eq_of_beq h
  simp [height]

theorem height_eq {n : Node} (h : n.rule ≠ terminalName) :
    n.height = highest (startsWithName n.rule) n.children + Operation.levels n := by
  obtain ⟨rule, children, source, start, stop⟩ := n
  simp only [height, Operation.levels, Operation.isNested, bne_iff_ne, ne_eq] at h ⊢
  by_cases hl : children.length = 1 <;> simp [h, hl]

theorem height_le_highest {m : Node} : ∀ {ns : List Node}, m ∈ ns → m.height ≤ highest false ns
  | [], h => absurd h List.not_mem_nil
  | n :: ns, h => by
    rw [highest, if_neg Bool.false_ne_true]
    rcases List.mem_cons.1 h with rfl | h
    · exact Nat.le_max_left _ _
    · exact Nat.le_trans (height_le_highest h) (Nat.le_max_right _ _)

theorem highest_le_cons {m : Node} {ns : List Node} {skip : Bool} :
    highest false ns ≤ highest skip (m :: ns) := by
  rw [highest]
  exact Nat.le_max_right _ _

open Interpreter in
theorem height_le_of_visited {n m : Node} {c : Arithmetic.Construct}
    (hc : Arithmetic.construct? n.rule = some c) (hm : m ∈ visited c n.children) :
    m.height + Operation.levels n ≤ n.height := by
  rw [height_eq (rule_ne_of_construct hc).1, startsWithName_eq hc]
  refine Nat.add_le_add_right ?_ _
  have htail (hm : m ∈ n.children.tail) : m.height ≤ highest true n.children := by
    rcases hns : n.children with _ | ⟨x, ns⟩ <;> rw [hns] at hm
    · exact absurd hm List.not_mem_nil
    · exact Nat.le_trans (height_le_highest hm) highest_le_cons
  cases c with
  | assign | call => exact htail hm
  | delegate | paren | name | number | sign | binary => exact height_le_highest hm

theorem height_le_iteration {list m : Node} (hl : list.rule = iterationName)
    (hm : m ∈ list.children) : m.height ≤ list.height := by
  have hskip : startsWithName list.rule = false := by
    rw [hl]
    rfl
  have hle := height_le_highest hm
  rw [height_eq (n := list) (by rw [hl]; decide), hskip]
  exact Nat.le_add_right_of_le hle

end Node

namespace Parenthesizer

open Arithmetic Interpreter

variable {α β : Type} {limit : Int}

/-- A visit that is nested `h` deep succeeds if it keeps to the limit, and is stopped if not. -/
def Reaches (limit : Int) (h : Nat) (v : Visit Unit α) : Prop := ∀ k ≤ limit,
  (k + h ≤ limit ∧ ∃ a, v.run.run ⟨k, ()⟩ = (.ok a, ⟨k, ()⟩)) ∨
    (limit < k + h ∧ v.run.run ⟨k, ()⟩ = (.error (.eval (.tooDeep limit)), ⟨k, ()⟩))

theorem reaches_pure (a : α) : Reaches limit 0 (pure a) := fun _ hk =>
  .inl ⟨by omega, a, rfl⟩

theorem Reaches.bind {v : Visit Unit α} {g : α → Visit Unit β} {h h' : Nat} (hv : Reaches limit h v)
    (hg : ∀ a, Reaches limit h' (g a)) : Reaches limit (max h h') (v >>= g) := by
  intro k hk
  rw [Visit.run_bind]
  rcases hv k hk with ⟨hle, a, hrun⟩ | ⟨hlt, hrun⟩ <;> rw [hrun]
  · rcases hg a k hk with ⟨hle', b, hrun'⟩ | ⟨hlt, hrun'⟩
    · exact .inl ⟨by omega, b, hrun'⟩
    · exact .inr ⟨by omega, hrun'⟩
  · exact .inr ⟨by omega, rfl⟩

/-- What is done with the result does not nest. -/
theorem Reaches.after {v : Visit Unit α} {f : α → β} {h : Nat} (hv : Reaches limit h v) :
    Reaches limit h (v >>= fun a => pure (f a)) := by
  have hbind : Reaches limit (max h 0) (v >>= fun a => pure (f a)) :=
    hv.bind fun a => reaches_pure (f a)
  rwa [Nat.max_zero] at hbind

theorem reaches_node {n : Node} {h : Nat} (hn : n.rule ≠ Node.terminalName)
    (hh : Node.highest (Node.startsWithName n.rule) n.children = h)
    (hb : Reaches limit h
      ((operation limit).visitBody n (n.children.map (operation limit).branch))) :
    Reaches limit n.height ((operation limit).branch n).visit := by
  intro k hk
  rw [Node.height_eq hn, hh, Operation.branch_visit, Operation.branches_eq_map]
  by_cases hdeep : k + Operation.levels n ≤ limit
  · rcases hb _ hdeep with ⟨hle, a, hrun⟩ | ⟨hlt, hrun⟩
    · exact .inl ⟨by omega, a, Operation.run_visitNode hdeep hrun⟩
    · exact .inr ⟨by omega, Operation.run_visitNode hdeep hrun⟩
  · exact .inr ⟨by omega, Operation.run_visitNode_tooDeep () (Int.not_le.1 hdeep)⟩

theorem reaches_construct {n : Node} {ns : List Node} {c : Construct} {h : Nat}
    (hc : construct? n.rule = some c) (hn : n.children = ns)
    (hh : Node.highest (c == .assign || c == .call) ns = h)
    (hb : Reaches limit h (action c n (ns.map (operation limit).branch))) :
    Reaches limit n.height ((operation limit).branch n).visit := by
  obtain ⟨ht, hi⟩ := rule_ne_of_construct hc
  obtain ⟨a, ha, hbody⟩ := dispatch_of_construct hc
  subst hn
  rw [← startsWithName_eq hc] at hh
  refine reaches_node ht hh ?_
  rw [Operation.visitBody_of_dispatch (beq_false_of_ne hi) ha, hbody]
  exact hb

theorem reaches_mapM {ns : List Node}
    (h : ∀ n ∈ ns, Reaches limit n.height ((operation limit).branch n).visit) :
    Reaches limit (Node.highest false ns)
      ((ns.map (operation limit).branch).mapM (·.visit)) := by
  induction ns with
  | nil => exact reaches_pure []
  | cons n ns ih =>
    obtain ⟨hn, hns⟩ := List.forall_mem_cons.1 h
    rw [List.map_cons, List.mapM_cons]
    exact hn.bind fun _ => (ih hns).after

theorem reaches_iteration {n : Node} (hn : n.rule = Node.iterationName)
    (h : ∀ m ∈ n.children, Reaches limit m.height ((operation limit).branch m).visit) :
    Reaches limit n.height ((operation limit).branch n).visit := by
  have hskip : Node.startsWithName n.rule = false := by
    rw [hn]
    rfl
  have hiter : n.isIteration = true := by
    rw [Node.isIteration, hn]
    rfl
  refine reaches_node (by rw [hn]; decide) (by rw [hskip]) ?_
  rw [Operation.visitBody, if_pos hiter]
  exact (reaches_mapM h).after

theorem reaches_formed {n : Node} (h : Formed n) :
    Reaches limit n.height ((operation limit).branch n).visit := by
  induction h with
  | @delegate n m hc hn _ ih => exact reaches_construct hc hn (by simp [Node.highest]) ih
  | @paren n p m q hc hn hp hq _ ih =>
    refine reaches_construct (h := m.height) hc hn ?_ ih
    simp [Node.highest, Node.height_terminal hp, Node.height_terminal hq]
  | @sign n p m negative hc hn hp _ ih =>
    refine reaches_construct (h := m.height) hc hn ?_ ih.after
    simp [Node.highest, Node.height_terminal hp]
  | @binary n l p r op hc hn hp _ _ ihl ihr =>
    refine reaches_construct hc hn ?_ (ihl.bind fun _ => ihr.after)
    simp [Node.highest, Node.height_terminal hp]
  | @assign n x p m hc hn _ hp _ ih =>
    refine reaches_construct (h := m.height) hc hn ?_ ih.after
    simp [Node.highest, Node.height_terminal hp]
  | @call n f p list q hc hn _ hp hq hl _ ih =>
    refine reaches_construct (h := list.height) hc hn ?_ (reaches_iteration (eq_of_beq hl) ih).after
    simp [Node.highest, Node.height_terminal hp, Node.height_terminal hq]
  | name hc hn => exact reaches_construct hc hn rfl (reaches_pure _)
  | number hc hn => exact reaches_construct hc hn rfl (reaches_pure _)

section Program

variable {text : String} {n : Node} {es : List Expr}

theorem reaches_program (h : parse "program" text = .ok n) :
    Reaches limit n.height ((operation limit).branch n).visit := by
  obtain ⟨ts, -, hsp⟩ := accepts_of_parse_ok isSyntactic_program h
  obtain ⟨hrule, list, ms, k, hch, hlist, hms, hstatements⟩ := program_cases hsp
  have hdisp : registry.dispatch n.rule = .ok (.ofArity "program" 1 program) := by
    rw [hrule]
    rfl
  have hiter : n.isIteration = false := by
    rw [Node.isIteration, hrule]
    rfl
  have hreaches : Reaches limit list.height ((operation limit).branch list).visit := by
    refine reaches_iteration hlist fun m hm => reaches_formed ?_
    exact (formed_statements hstatements m (hms ▸ hm)).2
  refine reaches_node (h := list.height) (by rw [hrule]; decide) ?_ ?_
  · rw [hrule, hch]
    simp [Node.highest, Node.startsWithName]
  · rw [Operation.visitBody_of_dispatch hiter hdisp, hch]
    exact hreaches.after

/-- A program is written with its expressions one after another if its height keeps to the limit,
and not at all if not. -/
theorem render_eq (h : parse "program" text = .ok n) (hes : n.statements = some es) :
    render n = if n.height ≤ defaultMaxDepth then .ok ("; ".intercalate (Expr.texts es))
      else .error (.eval (.tooDeep defaultMaxDepth)) := by
  have hdepth : (0 : Int) ≤ defaultMaxDepth := by decide
  have hzero : (0 : Int) + n.height = n.height := Int.zero_add _
  rcases reaches_program h 0 hdepth with ⟨hle, ts, hrun⟩ | ⟨hlt, hrun⟩
  · rw [if_pos (hzero ▸ hle)]
    refine (render_cases hes).resolve_right fun hr => ?_
    unfold render Operation.visit at hr
    rw [hrun] at hr
    cases hr
  · rw [if_neg (Int.not_le.2 (hzero ▸ hlt))]
    unfold render Operation.visit
    rw [hrun]
    rfl

end Program

end Parenthesizer

/-! ## Texts of any height -/

namespace Arithmetic

namespace Expr

mutual

/-- The operations, calls and assignments around the innermost name or number, and this. -/
def height : Expr → Nat
  | number _ => 1
  | name _ => 1
  | assign _ e => e.height + 1
  | sign _ e => e.height + 1
  | binary _ l r => max l.height r.height + 1
  | call _ es => highest es + 1

def highest : List Expr → Nat
  | [] => 0
  | e :: es => max e.height (highest es)

end

theorem highest_le {es : List Expr} {k : Nat} (h : ∀ e ∈ es, e.height ≤ k) : highest es ≤ k := by
  induction es with
  | nil => exact Nat.zero_le k
  | cons e es ih =>
    obtain ⟨he, hes⟩ := List.forall_mem_cons.1 h
    rw [highest]
    exact Nat.max_le.2 ⟨he, ih hes⟩

theorem highest_le_iteration {list : Node} {es : List Expr} (hl : list.rule = Node.iterationName)
    (hlen : list.children.length = es.length)
    (h : ∀ m e, (m, e) ∈ list.children.zip es → e.height ≤ m.height) : highest es ≤ list.height := by
  refine highest_le fun e he => ?_
  rw [← List.map_snd_zip (Nat.le_of_eq hlen.symm)] at he
  obtain ⟨⟨m, e⟩, hzip, rfl⟩ := List.mem_map.1 he
  exact Nat.le_trans (h m e hzip) (Node.height_le_iteration hl (List.of_mem_zip hzip).1)

end Expr

/-- A tree is at least as high as its expression. -/
theorem Erases.height_le {n : Node} {e : Expr} (h : Erases n e) : e.height ≤ n.height := by
  have hlevels {m : Node} (hm : m.children.length ≠ 1) : Operation.levels m = 1 := by
    simp [Operation.levels, Operation.isNested, hm]
  have hleaf {m : Node} {c : Construct} (hc : construct? m.rule = some c) (hm : m.children = []) :
      1 ≤ m.height := by
    rw [Node.height_eq (Interpreter.rule_ne_of_construct hc).1, hlevels (by simp [hm])]
    exact Nat.le_add_left 1 _
  induction h with
  | @delegate n m e hc hn _ ih =>
    have hm := Node.height_le_of_visited (m := m) hc (by simp [Interpreter.visited, hn])
    exact Nat.le_trans ih (Nat.le_of_add_right_le hm)
  | @paren n p m q e hc hn _ ih =>
    have hm := Node.height_le_of_visited (m := m) hc (by simp [Interpreter.visited, hn])
    exact Nat.le_trans ih (Nat.le_of_add_right_le hm)
  | @assign n x p m e hc hn _ ih =>
    have hm := Node.height_le_of_visited (m := m) hc (by simp [Interpreter.visited, hn])
    rw [hlevels (by simp [hn])] at hm
    exact Nat.le_trans (Nat.add_le_add_right ih 1) hm
  | @sign n p m negative e hc hn _ ih =>
    have hm := Node.height_le_of_visited (m := m) hc (by simp [Interpreter.visited, hn])
    rw [hlevels (by simp [hn])] at hm
    exact Nat.le_trans (Nat.add_le_add_right ih 1) hm
  | @binary n l p r op a b hc hn hp _ _ ihl ihr =>
    have hl := Node.height_le_of_visited (m := l) hc (by simp [Interpreter.visited, hn])
    have hr := Node.height_le_of_visited (m := r) hc (by simp [Interpreter.visited, hn])
    rw [hlevels (by simp [hn])] at hl hr
    rw [Expr.height]
    omega
  | @call n f p list q es hc hn hl hlen _ ih =>
    have hlist := Node.height_le_of_visited (m := list) hc (by simp [Interpreter.visited, hn])
    rw [hlevels (by simp [hn])] at hlist
    have hes := Expr.highest_le_iteration hl hlen ih
    rw [Expr.height]
    omega
  | name hc hn => exact hleaf hc hn
  | number hc hn hv => exact hleaf hc hn

theorem highest_le_of_statements {n : Node} {es : List Expr} (h : n.statements = some es) :
    Expr.highest es ≤ n.height := by
  obtain ⟨list, hrule, hch, hl, hes⟩ := Node.statements_eq_some h
  obtain ⟨hlen, hes⟩ := List.forall₂_iff_zip.1 (erases_of_eraseEach hes)
  have hlist := Expr.highest_le_iteration hl hlen fun m e hzip => (hes hzip).height_le
  rw [Node.height_eq (n := n) (by rw [hrule]; decide), hrule, hch, Node.highest]
  exact Nat.le_trans hlist (Nat.le_add_right_of_le (Nat.le_max_left _ _))

/-- A number behind `k` signs. -/
def signs : Nat → Phrase
  | 0 => .number "1"
  | k + 1 => .sign true (signs k)

theorem isNumeral_one : IsNumeral "1".toList :=
  .inr ⟨by decide, fun d hd => by rw [List.mem_singleton.1 hd]; decide⟩

theorem wellFormed_signs : ∀ k, (signs k).WellFormed ∧ (signs k).IsPrimary
  | 0 => ⟨isNumeral_one, trivial⟩
  | k + 1 => ⟨wellFormed_signs k, trivial⟩

theorem height_signs (k : Nat) : (signs k).expr.height = k + 1 := by
  induction k with
  | zero => rfl
  | succ k ih => exact congrArg (· + 1) ih

theorem spelt_signs (k : Nat) : Spelt (signs k).words (List.replicate k '-' ++ ['1']) := by
  induction k with
  | zero => exact Spelt.lexical (.inr ⟨rfl, isNumeral_one⟩)
  | succ k ih => exact Spelt.symbol (by decide) (by decide) ih

/-- There are programs of any height. -/
theorem exists_parse_signs (k : Nat) : ∃ n,
    parse "program" (String.ofList (List.replicate k '-' ++ ['1'])) = .ok n ∧ k < n.height := by
  have hwords : Phrase.wordsOfList ";" [signs k] = (signs k).words := List.append_nil _
  have hspelt := spelt_signs k
  rw [← hwords, ← String.toList_ofList (l := List.replicate k '-' ++ ['1'])] at hspelt
  have hformed : Phrase.AllWellFormed [signs k] := ⟨(wellFormed_signs k).1, trivial⟩
  obtain ⟨n, hn, hes⟩ := exists_parse hformed hspelt
  refine ⟨n, hn, Nat.lt_of_lt_of_le ?_ (highest_le_of_statements hes)⟩
  change k < max (signs k).expr.height 0
  rw [height_signs, Nat.max_zero]
  exact Nat.lt_succ_self k

end Arithmetic

end Reckon
