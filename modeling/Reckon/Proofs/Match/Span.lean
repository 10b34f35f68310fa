import Reckon.Proofs.Cfg.Ambiguity
import Reckon.Proofs.Match.Outcome

/-!
# Nodes and their tokens

The nodes of a derivation tree come from its parts: each node of a syntactic rule is that of a
subtree, whose tokens stand side by side in the whole (`rooted_of_within`). A node without empty
edges spans from the start of its first token to the end of its last (`exists_edges`).

Without places, and without the texts of the nodes that have parts, a node is `bare`.
-/

namespace Reckon

open Cfg Cfg.Tree

namespace Node

/-- Is it the node of a token? -/
def isLeaf (n : Node) : Bool := n.children.isEmpty && !n.isIteration

mutual

/-- The tree without places, with texts at its leaves only. -/
def bare : Node → Node
  | ⟨rule, children, source, start, stop⟩ =>
    ⟨rule, bareEach children,
      if isLeaf ⟨rule, children, source, start, stop⟩ then source else "", 0, 0⟩

def bareEach : List Node → List Node
  | [] => []
  | n :: ns => n.bare :: bareEach ns

end

theorem bareEach_eq_map (ns : List Node) : bareEach ns = ns.map bare := by
  induction ns with
  | nil => rw [bareEach, List.map_nil]
  | cons n ns ih => rw [bareEach, ih, List.map_cons]

theorem bare_eq (n : Node) :
    n.bare = ⟨n.rule, n.children.map bare, if n.isLeaf then n.source else "", 0, 0⟩ := by
  obtain ⟨rule, children, source, start, stop⟩ := n
  rw [bare, bareEach_eq_map]

@[simp] theorem bare_rule (n : Node) : n.bare.rule = n.rule := by rw [bare_eq]

@[simp] theorem bare_children (n : Node) : n.bare.children = n.children.map bare := by rw [bare_eq]

theorem bare_source {n : Node} (h : n.isLeaf = true) : n.bare.source = n.source := by
  rw [bare_eq, if_pos h]

end Node

/-! ## Subtrees -/

namespace Grammar

variable {g : Grammar}

theorem Sound.not_isSyntactic (hg : g.Sound) {name : String}
    (h : name = Node.terminalName ∨ name = Node.iterationName) : g.isSyntactic name = false := by
  refine Bool.eq_false_iff.2 fun hs => ?_
  have hnot := hg.not_contains h
  rw [show g.contains name = true from declares_of_isSyntactic hs] at hnot
  cases hnot

theorem not_isSyntactic_ofToken (hg : g.Sound) {a : Token} (ha : g.Proper (.terminal a.terminal)) :
    g.isSyntactic (Node.ofToken a).rule = false := by
  unfold Node.ofToken
  rcases hterm : a.terminal with l | name
  · exact hg.not_isSyntactic (.inl rfl)
  · rw [hterm] at ha
    exact isSyntactic_of_lexical ha

/-- A node of a syntactic rule is that of a subtree. -/
def Rooted (g : Grammar) (text : List Char) (w : List Token) (m : Node) : Prop :=
  g.isSyntactic m.rule = true → ∃ x last u v,
    Tree.Derives g.productions Token.terminal (.nonterminal (.rule m.rule)) x ∧
      (Node.ofTree text last x).1 = [m] ∧ w = u ++ (x.yield ++ v)

theorem Rooted.append_left {text : List Char} {w : List Token} {m : Node} (h : g.Rooted text w m)
    (w' : List Token) : g.Rooted text (w' ++ w) m := by
  intro hs
  obtain ⟨x, last, u, v, hx, hm, rfl⟩ := h hs
  exact ⟨x, last, w' ++ u, v, hx, hm, (List.append_assoc _ _ _).symm⟩

theorem Rooted.append_right {text : List Char} {w : List Token} {m : Node} (h : g.Rooted text w m)
    (w' : List Token) : g.Rooted text (w ++ w') m := by
  intro hs
  obtain ⟨x, last, u, v, hx, hm, rfl⟩ := h hs
  exact ⟨x, last, u, v ++ w', hx, hm, by simp only [List.append_assoc]⟩

mutual

theorem rooted_of_within (hg : g.Sound) (text : List Char) {s : Cfg.Symbol Terminal Category}
    {t : Tree Token Category} :
    Tree.Derives g.productions Token.terminal s t → g.Proper s → ∀ last,
      ∀ n ∈ (Node.ofTree text last t).1, ∀ m, m.Within n → g.Rooted text t.yield m
  | .leaf a, hs, last, n, hn, m, hm => by
    rw [Node.ofTree, List.mem_singleton] at hn
    subst hn
    obtain rfl | ⟨c, hc, -⟩ := Node.within_iff.1 hm
    · intro hsyn
      rw [not_isSyntactic_ofToken hg hs] at hsyn
      cases hsyn
    · exact absurd hc List.not_mem_nil
  | @Tree.Derives.node _ _ _ _ _ p ts hp hts, hs, last, n, hn, m, hm => by
    have hparts := rooted_of_withinAll hg text hts (hg.proper hp) last
    have hnode := Tree.Derives.node hp hts
    rw [Tree.yield]
    rcases hl : p.lhs with name | ⟨item, separator⟩ | ⟨item, separator⟩ <;>
      rw [hl, Node.ofTree] at hn
    · rw [List.mem_singleton] at hn
      obtain rfl | ⟨c, hc, hm⟩ := Node.within_iff.1 hm
      · intro _
        rw [hl] at hnode
        refine ⟨.node (.rule name) ts, last, [], [], ?_, ?_, ?_⟩
        · rwa [hn]
        · rw [hn, Node.ofTree]
        · rw [List.nil_append, List.append_nil, Tree.yield]
      · rw [hn] at hc
        exact hparts c hc m hm
    · rw [List.mem_singleton] at hn
      obtain rfl | ⟨c, hc, hm⟩ := Node.within_iff.1 hm
      · intro hsyn
        rw [hg.not_isSyntactic (.inr (by rw [hn]; rfl))] at hsyn
        cases hsyn
      · rw [hn] at hc
        exact hparts c (List.mem_filter.1 hc).1 m hm
    · exact hparts n hn m hm

theorem rooted_of_withinAll (hg : g.Sound) (text : List Char)
    {ss : List (Cfg.Symbol Terminal Category)} {ts : List (Tree Token Category)} :
    Tree.DerivesAll g.productions Token.terminal ss ts → (∀ s ∈ ss, g.Proper s) → ∀ last,
      ∀ n ∈ (Node.ofTrees text last ts).1, ∀ m, m.Within n → g.Rooted text (Tree.yieldAll ts) m
  | .nil, _, last, n, hn, _, _ => by
    rw [Node.ofTrees] at hn
    exact absurd hn List.not_mem_nil
  | .cons h hs, hp, last, n, hn, m, hm => by
    obtain ⟨hp, hps⟩ := List.forall_mem_cons.1 hp
    rw [Node.ofTrees] at hn
    rw [Tree.yieldAll]
    rcases List.mem_append.1 hn with hn | hn
    · exact (rooted_of_within hg text h hp last n hn m hm).append_right _
    · exact (rooted_of_withinAll hg text hs hps _ n hn m hm).append_left _

end

end Grammar

/-! ## Edges -/

/-- The right sides of the nonterminals in `E` have one of these or a terminal at either end. -/
structure Edged (E : Category → Bool) (ps : List (Production Terminal Category)) : Prop where
  head : ∀ p ∈ ps, E p.lhs = true → p.rhs.head?.any (begins E fun _ => true) = true
  last : ∀ p ∈ ps, E p.lhs = true → p.rhs.getLast?.any (begins E fun _ => true) = true

section Edges

variable {E : Category → Bool} {ps : List (Production Terminal Category)}

mutual

/-- The first node starts with the first token. -/
theorem exists_start (hE : Edged E ps) (text : List Char) {s : Cfg.Symbol Terminal Category}
    {t : Tree Token Category} :
    Tree.Derives ps Token.terminal s t → begins E (fun _ => true) s = true → ∀ last,
      ∃ a, t.yield.head? = some a ∧ (Node.ofTree text last t).1.head?.map (·.start) = some a.start
  | .leaf a, _, last => by
    rw [Tree.yield, Node.ofTree]
    exact ⟨a, rfl, rfl⟩
  | @Tree.Derives.node _ _ _ _ _ p ts hp hts, hs, last => by
    obtain ⟨a, ha, hparts⟩ := exists_startOfAll hE text hts (hE.head p hp hs) last
    refine ⟨a, by rwa [Tree.yield], ?_⟩
    rw [Node.ofTree]
    rcases p.lhs with name | ⟨item, separator⟩ | ⟨item, separator⟩
    · simp [Node.spanning, hparts]
    · simp [Node.spanning, hparts]
    · exact hparts

theorem exists_startOfAll (hE : Edged E ps) (text : List Char)
    {ss : List (Cfg.Symbol Terminal Category)} {ts : List (Tree Token Category)} :
    Tree.DerivesAll ps Token.terminal ss ts → ss.head?.any (begins E fun _ => true) = true →
      ∀ last, ∃ a, (Tree.yieldAll ts).head? = some a ∧
        (Node.ofTrees text last ts).1.head?.map (·.start) = some a.start
  | .nil, hs, _ => by cases hs
  | .cons h _, hs, last => by
    obtain ⟨a, ha, hn⟩ := exists_start hE text h hs last
    refine ⟨a, by rw [Tree.yieldAll, List.head?_append, ha]; rfl, ?_⟩
    rw [Node.ofTrees]
    obtain ⟨n, hhead, hn⟩ := Option.map_eq_some_iff.1 hn
    simp [List.head?_append, hhead, hn]

end

mutual

/-- The last node stops with the last token. -/
theorem exists_stop (hE : Edged E ps) (text : List Char) {s : Cfg.Symbol Terminal Category}
    {t : Tree Token Category} :
    Tree.Derives ps Token.terminal s t → begins E (fun _ => true) s = true → ∀ last,
      ∃ b, t.yield.getLast? = some b ∧
        (Node.ofTree text last t).1.getLast?.map (·.stop) = some b.stop
  | .leaf a, _, last => by
    rw [Tree.yield, Node.ofTree]
    exact ⟨a, rfl, rfl⟩
  | @Tree.Derives.node _ _ _ _ _ p ts hp hts, hs, last => by
    obtain ⟨b, hb, hparts⟩ := exists_stopOfAll hE text hts (hE.last p hp hs) last
    refine ⟨b, by rwa [Tree.yield], ?_⟩
    rw [Node.ofTree]
    rcases p.lhs with name | ⟨item, separator⟩ | ⟨item, separator⟩
    · simp [Node.spanning, hparts]
    · simp [Node.spanning, hparts]
    · exact hparts

theorem exists_stopOfAll (hE : Edged E ps) (text : List Char)
    {ss : List (Cfg.Symbol Terminal Category)} {ts : List (Tree Token Category)} :
    Tree.DerivesAll ps Token.terminal ss ts → ss.getLast?.any (begins E fun _ => true) = true →
      ∀ last, ∃ b, (Tree.yieldAll ts).getLast? = some b ∧
        (Node.ofTrees text last ts).1.getLast?.map (·.stop) = some b.stop
  | .nil, hs, _ => by cases hs
  | @Tree.DerivesAll.cons _ _ _ _ _ s ss t ts h hts, hs, last => by
    rw [Tree.yieldAll, Node.ofTrees]
    cases ss with
    | nil =>
      obtain ⟨b, hb, hn⟩ := exists_stop hE text h hs last
      cases hts
      refine ⟨b, by simp [hb], ?_⟩
      simpa [Node.ofTrees] using hn
    | cons s' ss =>
      obtain ⟨b, hb, hn⟩ := exists_stopOfAll hE text hts (by simpa using hs)
        (Node.ofTree text last t).2
      obtain ⟨n, hlast, hn⟩ := Option.map_eq_some_iff.1 hn
      refine ⟨b, by simp [List.getLast?_append, hb], ?_⟩
      simp [List.getLast?_append, hlast, hn]

end

/-- The node of a rule spans from its first token to its last. -/
theorem exists_edges (hE : Edged E ps) {text : List Char} {name : String}
    {x : Tree Token Category} {m : Node} {last : Nat}
    (h : Tree.Derives ps Token.terminal (.nonterminal (.rule name)) x)
    (hname : E (.rule name) = true) (hm : (Node.ofTree text last x).1 = [m]) :
    ∃ a b, x.yield.head? = some a ∧ x.yield.getLast? = some b ∧ m.start = a.start ∧
      m.source = Node.slice text a.start b.stop := by
  obtain ⟨a, ha, hstart⟩ := exists_start hE text h hname last
  obtain ⟨b, hb, hstop⟩ := exists_stop hE text h hname last
  rw [hm] at hstart hstop
  have hstart : m.start = a.start := Option.some.inj hstart
  have hstop : m.stop = b.stop := Option.some.inj hstop
  refine ⟨a, b, ha, hb, hstart, ?_⟩
  obtain ⟨p, -, -, ts, -, rfl⟩ := Tree.derives_nonterminal_iff.1 h
  rw [Node.ofTree] at hm
  obtain rfl := (List.cons.inj hm).1
  rw [← hstart, ← hstop]
  rfl

end Edges

/-! ## Trees of matched texts -/

namespace Matcher

open Grammar

/-- A text is read by way of a derivation tree of its tokens. -/
theorem exists_tree_of_parseFrom {g : Grammar} (hg : g.Readable) {start : String}
    (hstart : g.isSyntactic start = true) {text : List Char} {n : Node}
    (h : (ofGrammar g).parseFrom start text = .ok n) :
    ∃ t, Tree.Derives g.productions Token.terminal (.nonterminal (.rule start)) t ∧
      Reads g.Word 0 text t.yield text.length [] ∧ (Node.ofTree text 0 t).1 = [n] := by
  obtain ⟨p, cs, hreads, hends⟩ := Scan.scanFrom_reads g.forms text 0
  obtain ⟨word, htokens, ho⟩ := read_tokens hg hstart (Scan.ofText g.forms text).tokens
  rw [show (Scan.scanFrom g.forms text 0 0) = Scan.ofText g.forms text from rfl] at hreads hends
  rw [parseFrom] at h
  simp only [show (ofGrammar g).forms = g.forms from rfl] at h
  split at h
  · cases h
  · cases h
  · cases h
  · rename_i t hrest hstuck hsentence
    rw [hrest, List.append_nil] at htokens
    rw [htokens] at hreads
    rw [hstuck] at hends
    rcases cs with _ | ⟨c, cs⟩
    rotate_left
    · cases hends.1
    have hp := hreads.position_of_nil
    rw [Nat.zero_add] at hp
    subst hp
    obtain ⟨hd, hy⟩ := ho.tree t hsentence
    obtain ⟨m, hm, -⟩ := outcome_spells hg hstart ho text (faithful_of_reads hreads) hsentence
    rw [plain_chart] at hd
    simp only [hm, Except.ok.injEq] at h
    exact ⟨t, hd, hy ▸ hreads, h ▸ hm⟩

end Matcher

end Reckon
