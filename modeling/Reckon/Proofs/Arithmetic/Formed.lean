import Mathlib.Data.List.Forall2
import Reckon.Proofs.Arithmetic.Evaluation
import Reckon.Proofs.Arithmetic.Sentence
import Reckon.Proofs.Match.Span

/-!
# The shapes of syntax trees

`Formed` lists the shapes of the nodes that stand for expressions, one case for each construct:
which children are expressions again, which are literals, and which are names that are only read.
Every tree of a matched text is formed so, or is a program of such trees (`formed_or_program`).
-/

namespace Reckon

namespace Arithmetic

open Grammar

/-- The nodes of expressions. -/
inductive Formed : Node → Prop
  | delegate {n m : Node} (hc : construct? n.rule = some .delegate) (hn : n.children = [m])
      (hm : Formed m) : Formed n
  | paren {n p m q : Node} (hc : construct? n.rule = some .paren) (hn : n.children = [p, m, q])
      (hp : p.isTerminal = true) (hq : q.isTerminal = true) (hm : Formed m) : Formed n
  | sign {n p m : Node} {negative : Bool} (hc : construct? n.rule = some (.sign negative))
      (hn : n.children = [p, m]) (hp : p.isTerminal = true) (hm : Formed m) : Formed n
  | binary {n l p r : Node} {op : Operator} (hc : construct? n.rule = some (.binary op))
      (hn : n.children = [l, p, r]) (hp : p.isTerminal = true) (hl : Formed l) (hr : Formed r) :
      Formed n
  | assign {n x p m : Node} (hc : construct? n.rule = some .assign) (hn : n.children = [x, p, m])
      (hx : x.isLeaf = true) (hp : p.isTerminal = true) (hm : Formed m) : Formed n
  | call {n f p list q : Node} (hc : construct? n.rule = some .call)
      (hn : n.children = [f, p, list, q]) (hf : f.isLeaf = true) (hp : p.isTerminal = true)
      (hq : q.isTerminal = true) (hl : list.isIteration = true)
      (hes : ∀ m ∈ list.children, Formed m) : Formed n
  | name {n : Node} (hc : construct? n.rule = some .name) (hn : n.children = []) : Formed n
  | number {n : Node} (hc : construct? n.rule = some .number) (hn : n.children = []) : Formed n

/-- What the node of an item is. -/
def Stands : Item → Node → Prop
  | .ref name, n => n.rule = name ∧ ((rank? name).isSome = true → Formed n) ∧
      (name ∈ grammar.lexicalNames → n.isLeaf = true)
  | .lit _, n => n.isTerminal = true
  | .listOf item _, n => n.isIteration = true ∧
      ((rank? item).isSome = true → ∀ m ∈ n.children, Formed m)
  | .pattern _, _ => True

theorem isSome_of_hasRank {k : Nat} {rule : String} (h : hasRank k rule = true) :
    (rank? rule).isSome = true := by
  unfold hasRank at h
  cases hr : rank? rule with
  | none => simp [hr] at h
  | some j => rfl

theorem formed_of_shapes {n : Node} {k : Nat} {c : Construct} {body : List Item}
    (hc : construct? n.rule = some c) (hs : shapes k c body = true)
    (h : List.Forall₂ Stands body n.children) : Formed n := by
  unfold shapes at hs
  split at hs <;>
    simp only [List.forall₂_cons_left_iff, List.forall₂_nil_left_iff, Bool.and_eq_true,
      beq_iff_eq, Bool.false_eq_true] at h hs
  · obtain ⟨m, _, hm, rfl, hn⟩ := h
    exact .delegate hc hn (hm.2.1 (isSome_of_hasRank hs))
  · obtain ⟨p, _, hp, ⟨m, _, hm, ⟨q, _, hq, rfl, rfl⟩, rfl⟩, hn⟩ := h
    exact .paren hc hn hp hq (hm.2.1 (isSome_of_hasRank hs.1.2))
  · obtain ⟨p, _, hp, ⟨m, _, hm, rfl, rfl⟩, hn⟩ := h
    exact .sign hc hn hp (hm.2.1 (isSome_of_hasRank hs.2))
  · obtain ⟨x, _, hx, ⟨p, _, hp, ⟨m, _, hm, rfl, rfl⟩, rfl⟩, hn⟩ := h
    obtain ⟨⟨⟨-, rfl⟩, -⟩, hy⟩ := hs
    exact .assign hc hn (hx.2.2 ident_mem) hp (hm.2.1 (isSome_of_hasRank hy))
  · obtain ⟨f, _, hf, ⟨p, _, hp, ⟨list, _, hl, ⟨q, _, hq, rfl, rfl⟩, rfl⟩, rfl⟩, hn⟩ := h
    obtain ⟨⟨⟨⟨⟨-, rfl⟩, -⟩, rfl⟩, -⟩, -⟩ := hs
    exact .call hc hn (hf.2.2 ident_mem) hp hq hl.1 (hl.2 rfl)
  · obtain ⟨l, _, hl, ⟨p, _, hp, ⟨r, _, hr, rfl, rfl⟩, rfl⟩, hn⟩ := h
    obtain ⟨⟨⟨-, hx⟩, -⟩, hy⟩ := hs
    exact .binary hc hn hp (hl.2.1 (isSome_of_hasRank hx)) (hr.2.1 (isSome_of_hasRank hy))

theorem stands_rule {r : Rule} {a : Alternative} {n : Node} (hr : r ∈ grammar.rules)
    (hs : r.isLexical = false) (ha : a ∈ r.alternatives) (hn : n.rule = r.name)
    (h : List.Forall₂ Stands a.body n.children) : Stands (.ref r.name) n := by
  refine ⟨hn, ?_, ?_⟩
  · intro hrank
    have hp : r.name ≠ "program" := by
      rintro hp
      rw [hp] at hrank
      cases hrank
    obtain ⟨k, -, c, hc, hall⟩ := shapes_of_rule r hr hs hp
    exact formed_of_shapes (hn ▸ hc) (hall a ha) h
  · exact fun hlex => absurd hlex (not_mem_lexicalNames_of_syntactic hs)

theorem isLeaf_ofToken {a : Token} (h : (Node.ofToken a).rule ≠ Node.iterationName) :
    (Node.ofToken a).isLeaf = true := by
  unfold Node.isLeaf Node.isIteration
  rw [beq_false_of_ne h]
  rfl

theorem stands_token {name : String} {a : Token} (hn : name ∈ grammar.lexicalNames)
    (ha : a.terminal = .lexical name) : Stands (.ref name) (.ofToken a) := by
  have hrule : (Node.ofToken a).rule = name := by rw [Node.ofToken, ha]
  rw [lexicalNames_eq] at hn
  simp only [List.mem_cons, List.not_mem_nil, or_false] at hn
  obtain rfl | rfl := hn
  · exact ⟨hrule, fun _ => .name (by rw [hrule]; rfl) rfl,
      fun _ => isLeaf_ofToken (by rw [hrule]; decide)⟩
  · exact ⟨hrule, fun _ => .number (by rw [hrule]; rfl) rfl,
      fun _ => isLeaf_ofToken (by rw [hrule]; decide)⟩

theorem stands_of_mem_everyOther {item separator : String} : ∀ {k : Nat} {ms : List Node},
    List.Forall₂ Stands (Item.repeated item separator k) ms →
      ∀ m ∈ everyOther ms, Stands (.ref item) m
  | 0, _, h => by
    cases h
    exact nofun
  | 1, _, h => by
    cases h with | cons hm h =>
    cases h
    exact List.forall_mem_singleton.2 hm
  | k + 2, _, h => by
    cases h with | cons hm h =>
    cases h with | cons _ h =>
    exact List.forall_mem_cons.2 ⟨hm, stands_of_mem_everyOther h⟩

theorem stands_of_spells {is : List Item} {ns : List Node} {ts : List Token}
    (h : grammar.Spells is ns ts) : List.Forall₂ Stands is ns := by
  induction h with
  | nil => exact .nil
  | lit ha _ _ ih =>
    refine .cons ?_ ih
    simp [Stands, Node.isTerminal, Node.ofToken, ha]
  | lexical hn ha _ ih => exact .cons (stands_token hn ha) ih
  | rule hr hs ha hn _ _ ihu ih => exact .cons (stands_rule hr hs ha hn ihu) ih
  | list hn _ hc _ ihu ih =>
    refine .cons ⟨by simp [Node.isIteration, hn], fun hi m hm => ?_⟩ ih
    rw [hc] at hm
    exact (stands_of_mem_everyOther ihu m hm).2.1 hi

theorem rank_or_program {r : Rule} (hr : r ∈ grammar.rules) (hs : r.isLexical = false) :
    (rank? r.name).isSome = true ∨ r.name = "program" := by
  by_cases hp : r.name = "program"
  · exact .inr hp
  · obtain ⟨k, hk, -⟩ := shapes_of_rule r hr hs hp
    rw [hk]
    exact .inl rfl

/-- A program is a list of expressions. -/
theorem program_cases {n : Node} {ts : List Token} (h : grammar.Spells [.ref "program"] [n] ts) :
    n.rule = "program" ∧ ∃ list ms k, n.children = [list] ∧ list.rule = Node.iterationName ∧
      list.children = everyOther ms ∧ grammar.Spells (Item.repeated "exp" ";" k) ms ts := by
  refine ⟨h.rule_eq_of_ref, ?_⟩
  generalize hstart : "program" = start at h
  cases h with
  | lexical hn _ _ =>
    rw [lexicalNames_eq, ← hstart] at hn
    exact absurd hn (by decide)
  | rule hr _ ha hn hu hnil =>
    cases hnil
    rw [program_body _ hr hstart.symm _ ha] at hu
    generalize n.children = ns at hu
    cases hu with | @list _ _ k m ms _ _ _ _ hm hu hc hnil =>
    cases hnil
    exact ⟨m, ms, k, rfl, hm, hc, by simpa using hu⟩

theorem formed_statements {ms : List Node} {k : Nat} {ts : List Token}
    (h : grammar.Spells (Item.repeated "exp" ";" k) ms ts) :
    ∀ m ∈ everyOther ms, m.rule = "exp" ∧ Formed m := by
  intro m hm
  obtain ⟨hrule, hform, -⟩ := stands_of_mem_everyOther (stands_of_spells h) m hm
  exact ⟨hrule, hform rfl⟩

/-- A tree is that of an expression or of a program. -/
theorem formed_or_program {start : String} (hs : grammar.isSyntactic start = true) {n : Node}
    {ts : List Token} (h : grammar.Spells [.ref start] [n] ts) :
    Formed n ∨ n.rule = "program" ∧ ∃ list, n.children = [list] ∧
      list.rule = Node.iterationName ∧ ∀ m ∈ list.children, Formed m := by
  obtain ⟨r, hr, rfl, hl⟩ := exists_of_isSyntactic hs
  obtain hrank | hp := rank_or_program hr hl
  · cases stands_of_spells h with | cons hn _ => exact .inl (hn.2.1 hrank)
  · rw [hp] at h
    obtain ⟨hrule, list, ms, k, hch, hlist, hms, hsp⟩ := program_cases h
    refine .inr ⟨hrule, list, hch, hlist, fun m hm => ?_⟩
    rw [hms] at hm
    exact (formed_statements hsp m hm).2

theorem formed_of_parse_exp {text : String} {n : Node} (h : parse "exp" text = .ok n) :
    Formed n := by
  obtain ⟨ts, -, hsp⟩ := accepts_of_parse_ok isSyntactic_exp h
  cases stands_of_spells hsp with | cons hn _ => exact hn.2.1 rfl

/-- The start rule that a request stands for. -/
theorem exists_start_of_parse_ok {start text : String} {n : Node} (h : parse start text = .ok n) :
    ∃ rule, grammar.isSyntactic rule = true ∧ parse rule text = .ok n := by
  have hs : grammar.isSyntactic (matcher.startOf start) = true := by
    unfold parse Matcher.parse at h
    simp only at h
    split at h
    · cases h
    · rename_i hcheck
      unfold Matcher.checkStart at hcheck
      split at hcheck
      · cases hcheck
      · rename_i hnot
        rw [Bool.not_eq_true, Bool.not_eq_false'] at hnot
        exact hnot
  refine ⟨_, hs, ?_⟩
  rw [← h, parse_eq hs]
  unfold parse Matcher.parse
  simp only [checkStart_eq hs]

end Arithmetic

end Reckon
