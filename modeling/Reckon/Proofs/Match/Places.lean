import Mathlib.Data.List.Flatten
import Reckon.Proofs.Match.Moved

/-!
# Where the nodes stand

The nodes of a derivation tree stand one after another, and each spans the text from its first child
to its last (`Node.InPlace`). The leaves are the tokens but for the separators of lists, which stand
between two items and make no node (`Grammar.Drops`). All of this is said of a row of nodes at once
(`Laid`): it holds of one token and of rows side by side, and a rule or a list carries it from a row
to the node over the row (`laid_of_derives`).
-/

namespace Reckon

open Cfg Cfg.Tree

namespace Node

/-! ## Rows -/

/-- The nodes stand one after another, from place `lo` up to `hi`. -/
def InRow : Nat → List Node → Nat → Prop
  | lo, [], hi => lo ≤ hi
  | lo, n :: ns, hi => lo ≤ n.start ∧ n.start ≤ n.stop ∧ InRow n.stop ns hi

section InRow

variable {lo mid hi : Nat} {ns ms : List Node}

theorem InRow.le (h : InRow lo ns hi) : lo ≤ hi := by
  induction ns generalizing lo with
  | nil => exact h
  | cons n ns ih => exact h.1.trans (h.2.1.trans (ih h.2.2))

theorem InRow.mono {lo' : Nat} (hlo : lo' ≤ lo) (h : InRow lo ns hi) : InRow lo' ns hi := by
  cases ns with
  | nil => exact hlo.trans h
  | cons n ns => exact ⟨hlo.trans h.1, h.2⟩

theorem InRow.append (h : InRow lo ns mid) (h' : InRow mid ms hi) : InRow lo (ns ++ ms) hi := by
  induction ns generalizing lo with
  | nil => exact h'.mono h
  | cons n ns ih => exact ⟨h.1, h.2.1, ih h.2.2⟩

theorem InRow.bounds (h : InRow lo ns hi) :
    ∀ n ∈ ns, lo ≤ n.start ∧ n.start ≤ n.stop ∧ n.stop ≤ hi := by
  induction ns generalizing lo with
  | nil => exact nofun
  | cons n ns ih =>
    refine List.forall_mem_cons.2 ⟨⟨h.1, h.2.1, h.2.2.le⟩, fun m hm => ?_⟩
    have hm := ih h.2.2 m hm
    exact ⟨h.1.trans (h.2.1.trans hm.1), hm.2⟩

theorem InRow.pairwise (h : InRow lo ns hi) : ns.Pairwise fun n m => n.stop ≤ m.start := by
  induction ns generalizing lo with
  | nil => exact .nil
  | cons n ns ih => exact .cons (fun m hm => (h.2.2.bounds m hm).1) (ih h.2.2)

theorem InRow.upto_last {n : Node} (h : InRow n.stop ns hi) :
    InRow n.stop ns (((n :: ns).getLast?.map (·.stop)).getD hi) := by
  induction ns generalizing n with
  | nil => exact Nat.le_refl _
  | cons m ns ih =>
    rw [List.getLast?_cons_cons]
    exact ⟨h.1, h.2.1, ih h.2.2⟩

/-- A row fills the place from the start of its first node to the end of its last. -/
theorem InRow.tight (h : InRow lo ns hi) :
    InRow ((ns.head?.map (·.start)).getD hi) ns ((ns.getLast?.map (·.stop)).getD hi) := by
  cases ns with
  | nil => exact Nat.le_refl hi
  | cons n ns => exact ⟨Nat.le_refl _, h.2.1, h.2.2.upto_last⟩

end InRow

/-- The place where a row of tokens ends, `last` being the end of the token before it. -/
def endOf (last : Nat) (ts : List Token) : Nat := ts.foldl (fun _ a => a.stop) last

theorem endOf_append (last : Nat) (ts us : List Token) :
    endOf last (ts ++ us) = endOf (endOf last ts) us :=
  List.foldl_append

theorem inRow_append_iff {lo hi : Nat} {ts us : List Token} :
    InRow lo ((ts ++ us).map ofToken) hi ↔
      InRow lo (ts.map ofToken) (endOf lo ts) ∧ InRow (endOf lo ts) (us.map ofToken) hi := by
  induction ts generalizing lo with
  | nil => simp [InRow, endOf]
  | cons a ts ih =>
    have ih := @ih a.stop
    simp only [List.cons_append, List.map_cons, InRow, and_assoc] at ih ⊢
    exact and_congr_right fun _ => and_congr_right fun _ => ih

mutual

theorem ofTree_end (text : List Char) :
    ∀ (t : Tree Token Category) (last : Nat), (ofTree text last t).2 = endOf last t.yield
  | .leaf a, last => by
    rw [ofTree, yield]
    rfl
  | .node n ts, last => by
    rw [ofTree, yield, ← ofTrees_end text ts last]
    cases n <;> rfl

theorem ofTrees_end (text : List Char) :
    ∀ (ts : List (Tree Token Category)) (last : Nat),
      (ofTrees text last ts).2 = endOf last (yieldAll ts)
  | [], last => by
    rw [ofTrees, yieldAll]
    rfl
  | t :: ts, last => by
    rw [ofTrees, yieldAll, endOf_append, ← ofTree_end text t last, ← ofTrees_end text ts]

end

/-! ## Nodes in their places -/

/-- The node spans a piece of the text, in which its children stand in order from edge to edge. -/
structure InPlace (text : List Char) (n : Node) : Prop where
  start_le : n.start ≤ n.stop
  stop_le : n.stop ≤ text.length
  source_eq : n.source = slice text n.start n.stop
  ordered : n.children.Pairwise fun c d => c.stop ≤ d.start
  inside : ∀ c ∈ n.children, n.start ≤ c.start ∧ c.stop ≤ n.stop
  first : ∀ c ∈ n.children.head?, n.start = c.start
  last : ∀ c ∈ n.children.getLast?, n.stop = c.stop

/-- A node without children is the only one in its tree. -/
theorem Within.eq_of_nil {m n : Node} (h : m.Within n) (hn : n.children = []) : m = n := by
  rcases within_iff.1 h with rfl | ⟨c, hc, -⟩
  · rfl
  · rw [hn] at hc
    exact absurd hc List.not_mem_nil

/-! ## Leaves -/

mutual

/-- The nodes of the tokens, in order. -/
def leaves : Node → List Node
  | ⟨rule, children, source, start, stop⟩ =>
    if isLeaf ⟨rule, children, source, start, stop⟩ then [⟨rule, children, source, start, stop⟩]
    else leavesEach children

def leavesEach : List Node → List Node
  | [] => []
  | n :: ns => n.leaves ++ leavesEach ns

end

theorem leavesEach_eq_flatMap (ns : List Node) : leavesEach ns = ns.flatMap leaves := by
  induction ns with
  | nil => rw [leavesEach, List.flatMap_nil]
  | cons n ns ih => rw [leavesEach, ih, List.flatMap_cons]

theorem leaves_eq (n : Node) :
    n.leaves = if n.isLeaf then [n] else n.children.flatMap leaves := by
  obtain ⟨rule, children, source, start, stop⟩ := n
  rw [leaves, leavesEach_eq_flatMap]

mutual

theorem within_of_mem_leaves : ∀ {n l : Node}, l ∈ n.leaves → l.Within n ∧ l.isLeaf = true
  | ⟨rule, children, source, start, stop⟩, l, h => by
    rw [leaves] at h
    split at h
    · rename_i hleaf
      obtain rfl := List.mem_singleton.1 h
      exact ⟨.self _, hleaf⟩
    · obtain ⟨c, hc, hl, hleaf⟩ := exists_of_mem_leavesEach h
      exact ⟨.child hc hl, hleaf⟩

theorem exists_of_mem_leavesEach : ∀ {ns : List Node} {l : Node}, l ∈ leavesEach ns →
    ∃ c ∈ ns, l.Within c ∧ l.isLeaf = true
  | [], l, h => absurd h List.not_mem_nil
  | n :: ns, l, h => by
    rw [leavesEach] at h
    rcases List.mem_append.1 h with h | h
    · exact ⟨n, List.mem_cons_self, within_of_mem_leaves h⟩
    · obtain ⟨c, hc, hl⟩ := exists_of_mem_leavesEach h
      exact ⟨c, List.mem_cons_of_mem _ hc, hl⟩

end

/-- The leaves are the nodes without children that are no lists. -/
theorem mem_leaves_iff {n l : Node} : l ∈ n.leaves ↔ l.Within n ∧ l.isLeaf = true := by
  refine ⟨within_of_mem_leaves, ?_⟩
  rintro ⟨hl, hleaf⟩
  induction hl with
  | self => rw [leaves_eq, if_pos hleaf]; exact List.mem_cons_self
  | @child c n hc _ ih =>
    have hnot : ¬ n.isLeaf = true := by
      simp [isLeaf, List.ne_nil_of_mem hc]
    rw [leaves_eq, if_neg hnot]
    exact List.mem_flatMap.2 ⟨c, hc, ih⟩

/-! ## Separators -/

/-- The separator stands between two items of the list, and is no node of it. -/
structure Separates (text : List Char) (n : Node) (separator : String) (start stop : Nat) :
    Prop where
  isIteration : n.isIteration = true
  slice_eq : slice text start stop = separator
  between : ∃ cs c d ds, n.children = cs ++ c :: d :: ds ∧ c.stop ≤ start ∧ stop ≤ d.start

/-- Items with separators between them. -/
inductive Strung (separator : String) : List Node → Prop
  | nil : Strung separator []
  | one {c : Node} (hc : c.isTerminal = false) : Strung separator [c]
  | more {a : Token} {c d : Node} {ns : List Node} (hc : c.isTerminal = false)
      (ha : a.terminal = .literal separator) (ht : a.text = separator)
      (h : Strung separator (d :: ns)) :
      Strung separator (c :: ofToken a :: d :: ns)

theorem isTerminal_ofToken {a : Token} {text : String} (h : a.terminal = .literal text) :
    (ofToken a).isTerminal = true := by
  rw [isTerminal, ofToken, h]
  rfl

namespace Strung

variable {separator : String} {c : Node} {ns : List Node}

theorem head_isTerminal (h : Strung separator (c :: ns)) : c.isTerminal = false := by
  cases h with
  | one hc | more hc _ _ _ => exact hc

theorem head?_filter (h : Strung separator ns) :
    (ns.filter (!·.isTerminal)).head? = ns.head? := by
  cases ns with
  | nil => rfl
  | cons c ns => rw [List.filter_cons_of_pos (by simp [h.head_isTerminal])]; rfl

theorem getLast?_filter (h : Strung separator ns) :
    (ns.filter (!·.isTerminal)).getLast? = ns.getLast? := by
  induction h with
  | nil => rfl
  | one hc => rw [List.filter_cons_of_pos (by simp [hc])]; rfl
  | @more a c d ns hc ha ht h ih =>
    rw [List.filter_cons_of_pos (by simp [hc]),
      List.filter_cons_of_neg (by simp [isTerminal_ofToken ha]),
      List.getLast?_cons_cons, List.getLast?_cons_cons, ← ih,
      List.filter_cons_of_pos (by simp [h.head_isTerminal]), List.getLast?_cons_cons]

/-- A node is an item, or a separator between two items. -/
theorem item_or_between (h : Strung separator ns) {x : Node} (hx : x ∈ ns) :
    x.isTerminal = false ∨ x.isTerminal = true ∧ x.children = [] ∧ x.source = separator ∧
      ∃ us c d vs, ns = us ++ c :: x :: d :: vs ∧ c.isTerminal = false ∧ d.isTerminal = false := by
  induction h with
  | nil => exact absurd hx List.not_mem_nil
  | one hc => exact .inl (List.mem_singleton.1 hx ▸ hc)
  | @more a c d ns hc ha ht h ih =>
    rcases List.mem_cons.1 hx with rfl | hx
    · exact .inl hc
    rcases List.mem_cons.1 hx with rfl | hx
    · exact .inr ⟨isTerminal_ofToken ha, rfl, ht, [], c, d, ns, rfl, hc, h.head_isTerminal⟩
    · refine (ih hx).imp_right fun ⟨hx, hnil, hs, us, c', d', vs, heq, hends⟩ => ?_
      exact ⟨hx, hnil, hs, c :: ofToken a :: us, c', d', vs, by rw [heq]; rfl, hends⟩

end Strung

end Node

namespace Grammar

open Node

variable {g : Grammar}

theorem Spells.exists_tail {i : Item} {is : List Item} {n : Node} {ns : List Node} {ts : List Token}
    (h : g.Spells (i :: is) (n :: ns) ts) : ∃ us, g.Spells is ns us := by
  cases h with
  | lit _ _ h | lexical _ _ h | rule _ _ _ _ _ h | list _ _ _ h => exact ⟨_, h⟩

theorem Spells.isTerminal_of_ref {item : String} (hi : item ≠ Node.terminalName) {is : List Item}
    {n : Node} {ns : List Node} {ts : List Token} (h : g.Spells (.ref item :: is) (n :: ns) ts) :
    n.isTerminal = false := by
  rw [Node.isTerminal, h.rule_eq_of_ref]
  exact beq_false_of_ne hi

/-- The nodes of the items of a list and of their separators. -/
theorem Spells.strung {item separator : String} (hi : item ≠ Node.terminalName) :
    ∀ {k : Nat} {ns : List Node} {ts : List Token},
      g.Spells (Item.repeated item separator k) ns ts → Strung separator ns
  | 0, _, _, h => by
    cases h
    exact .nil
  | 1, ns, _, h => by
    obtain ⟨c, rfl⟩ := List.length_eq_one_iff.1 h.length_eq
    exact .one (h.isTerminal_of_ref hi)
  | k + 2, [], _, h => by cases h.length_eq
  | k + 2, c :: ns, _, h => by
    obtain ⟨us, htail⟩ := h.exists_tail
    cases htail with
    | @lit _ a _ ns _ ha ht htail =>
      have hrest := htail.strung hi
      cases ns with
      | nil => exact absurd htail.length_eq (by cases k <;> exact nofun)
      | cons d ns => exact .more (h.isTerminal_of_ref hi) ha ht hrest

/-- From `start` up to `stop` there is a separator of a list in the tree, as the rule of the node above
the list has it. -/
def Drops (g : Grammar) (text : List Char) (n : Node) (start stop : Nat) : Prop :=
  ∃ w m : Node, w.Within n ∧ m ∈ w.children ∧ ∃ r ∈ g.rules, r.name = w.rule ∧
    ∃ a ∈ r.alternatives, ∃ item separator, .listOf item separator ∈ a.body ∧
      m.Separates text separator start stop

theorem Drops.of_child {text : List Char} {n c : Node} {start stop : Nat} (hc : c ∈ n.children)
    (h : g.Drops text c start stop) : g.Drops text n start stop := by
  obtain ⟨w, m, hw, hm⟩ := h
  exact ⟨w, m, .child hc hw, hm⟩

end Grammar

/-- The token is the piece of the text where it stands. -/
structure Token.CutFrom (text : List Char) (a : Token) : Prop where
  stop_le : a.stop ≤ text.length
  text_eq : a.text = Node.slice text a.start a.stop
  faithful : a.Faithful

/-- The tokens are cut one after another from the text, from place `lo` on. -/
structure Token.AllCutFrom (text : List Char) (lo : Nat) (ts : List Token) : Prop where
  le_length : lo ≤ text.length
  inRow : Node.InRow lo (ts.map Node.ofToken) (Node.endOf lo ts)
  cutFrom : ∀ a ∈ ts, a.CutFrom text

namespace Token.AllCutFrom

open Node

variable {text : List Char} {lo : Nat} {ts us : List Token}

theorem end_le (h : AllCutFrom text lo ts) : endOf lo ts ≤ text.length := by
  obtain ⟨hlo, -, h⟩ := h
  induction ts generalizing lo with
  | nil => exact hlo
  | cons a ts ih =>
    obtain ⟨ha, h⟩ := List.forall_mem_cons.1 h
    exact ih ha.stop_le h

theorem of_append (h : AllCutFrom text lo (ts ++ us)) :
    AllCutFrom text lo ts ∧ AllCutFrom text (endOf lo ts) us := by
  obtain ⟨hts, hus⟩ := inRow_append_iff.1 h.inRow
  obtain ⟨hcut, hcuts⟩ := List.forall_mem_append.1 h.cutFrom
  have hleft : AllCutFrom text lo ts := ⟨h.le_length, hts, hcut⟩
  rw [endOf_append] at hus
  exact ⟨hleft, hleft.end_le, hus, hcuts⟩

end Token.AllCutFrom

namespace Grammar

open Node

variable {g : Grammar} {text : List Char}

/-- The token is a leaf, or it separates the items of a list. Whose list it is is told by a node
above, or by the symbols if the list is in the row itself. -/
def Covered (g : Grammar) (text : List Char) (ss : List (Cfg.Symbol Terminal Category))
    (ns : List Node) (a : Token) : Prop :=
  (∃ n ∈ ns, ofToken a ∈ n.leaves) ∨ (∃ n ∈ ns, g.Drops text n a.start a.stop) ∨
    ∃ n ∈ ns, ∃ item separator, .nonterminal (.list item separator) ∈ ss ∧
      n.Separates text separator a.start a.stop

theorem Covered.mono {ss rs : List (Cfg.Symbol Terminal Category)} {ns ms : List Node} {a : Token}
    (hs : ss ⊆ rs) (hn : ns ⊆ ms) (h : g.Covered text ss ns a) : g.Covered text rs ms a := by
  rcases h with ⟨n, hm, hl⟩ | ⟨n, hm, hd⟩ | ⟨n, hm, i, s, hi, hsep⟩
  · exact .inl ⟨n, hn hm, hl⟩
  · exact .inr (.inl ⟨n, hn hm, hd⟩)
  · exact .inr (.inr ⟨n, hn hm, i, s, hs hi, hsep⟩)

/-- The row of nodes that symbols have over some tokens, in its place from `lo` up to `hi`. -/
structure Laid (g : Grammar) (text : List Char) (ss : List (Cfg.Symbol Terminal Category))
    (lo : Nat) (ns : List Node) (ts : List Token) (hi : Nat) : Prop where
  inRow : InRow lo ns hi
  inPlace : ∀ n ∈ ns, ∀ m : Node, m.Within n → m.InPlace text
  leaves : (ns.flatMap Node.leaves).Sublist (ts.map ofToken)
  covered : ∀ a ∈ ts, g.Covered text ss ns a

section Laid

variable {ss rs : List (Cfg.Symbol Terminal Category)} {lo mid hi : Nat} {ns ms parts : List Node}
  {ts us : List Token}

theorem laid_nil (lo : Nat) : g.Laid text [] lo [] [] lo where
  inRow := Nat.le_refl lo
  inPlace := nofun
  leaves := .slnil
  covered := nofun

theorem Laid.append (h : g.Laid text ss lo ns ts mid) (h' : g.Laid text rs mid ms us hi) :
    g.Laid text (ss ++ rs) lo (ns ++ ms) (ts ++ us) hi where
  inRow := h.inRow.append h'.inRow
  inPlace := List.forall_mem_append.2 ⟨h.inPlace, h'.inPlace⟩
  leaves := by
    rw [List.flatMap_append, List.map_append]
    exact h.leaves.append h'.leaves
  covered := List.forall_mem_append.2
    ⟨fun a ha => (h.covered a ha).mono (List.subset_append_left _ _) (List.subset_append_left _ _),
      fun a ha =>
        (h'.covered a ha).mono (List.subset_append_right _ _) (List.subset_append_right _ _)⟩

theorem isLeaf_ofToken (hg : g.Sound) {a : Token} (ha : g.Proper (.terminal a.terminal)) :
    (ofToken a).isLeaf = true := by
  rw [isLeaf, isIteration, ofToken]
  rcases hterm : a.terminal with l | name
  · rfl
  · rw [hterm] at ha
    have hname : name ≠ iterationName := fun h => by
      have hnot := hg.not_contains (.inr h)
      rw [(mem_lexicalNames.1 ha).1] at hnot
      cases hnot
    simp [hname]

theorem laid_ofToken (hg : g.Sound) {a : Token} (ha : g.Proper (.terminal a.terminal))
    (h : InRow lo [ofToken a] a.stop) (hcut : a.CutFrom text) :
    g.Laid text [.terminal a.terminal] lo [ofToken a] [a] a.stop := by
  have hleaves : (ofToken a).leaves = [ofToken a] := by
    rw [leaves_eq, if_pos (isLeaf_ofToken hg ha)]
  refine ⟨h, List.forall_mem_singleton.2 fun m hm => ?_, ?_, List.forall_mem_singleton.2 ?_⟩
  · obtain rfl := hm.eq_of_nil rfl
    exact ⟨h.2.1, hcut.stop_le, hcut.text_eq, .nil, nofun, nofun, nofun⟩
  · rw [List.flatMap_singleton, hleaves]
    exact .refl _
  · exact .inl ⟨_, List.mem_cons_self, hleaves ▸ List.mem_cons_self⟩

/-! ### A node over a row -/

theorem spanning_bounds (text : List Char) (h : InRow lo parts hi) (rule : String)
    (children : List Node) :
    InRow lo [spanning text rule parts children hi] hi ∧
      ∀ c ∈ parts, (spanning text rule parts children hi).start ≤ c.start ∧
        c.stop ≤ (spanning text rule parts children hi).stop := by
  have htight := h.tight
  refine ⟨⟨?_, htight.le, ?_⟩, fun c hc => ?_⟩
  · cases parts with
    | nil => exact h
    | cons c parts => exact h.1
  · rcases hl : parts.getLast? with _ | d
    · simp [spanning, hl, InRow]
    · simpa [spanning, hl, InRow] using (h.bounds d (List.mem_of_getLast? hl)).2.2
  · exact ⟨(htight.bounds c hc).1, (htight.bounds c hc).2.2⟩

theorem inPlace_spanning (h : InRow lo parts hi) (hhi : hi ≤ text.length) (rule : String)
    {children : List Node} (hsub : children.Sublist parts) (hfirst : children.head? = parts.head?)
    (hlast : children.getLast? = parts.getLast?) :
    (spanning text rule parts children hi).InPlace text := by
  obtain ⟨⟨-, hle, hstop⟩, hinside⟩ := spanning_bounds text h rule children
  refine ⟨hle, hstop.trans hhi, rfl, h.pairwise.sublist hsub,
    fun c hc => hinside c (hsub.subset hc), fun c hc => ?_, fun c hc => ?_⟩
  · rw [show children.head? = some c from hc] at hfirst
    simp [spanning, ← hfirst]
  · rw [show children.getLast? = some c from hc] at hlast
    simp [spanning, ← hlast]

theorem listOf_of_symbol {i : Item} {item separator : String}
    (h : symbol i = .nonterminal (.list item separator)) : i = .listOf item separator := by
  cases i with
  | ref name =>
    rw [symbol, reference] at h
    split at h <;> cases h
  | lit | pattern => cases h
  | listOf =>
    cases h
    rfl

theorem leaves_spanning {rule : String} {children : List Node}
    (h : children ≠ [] ∨ rule = iterationName) :
    (spanning text rule parts children hi).leaves = children.flatMap Node.leaves := by
  have hnot : ¬ (spanning text rule parts children hi).isLeaf = true := by
    rcases h with h | rfl
    · simp [spanning, isLeaf, h]
    · simp [spanning, isLeaf, isIteration]
  rw [leaves_eq, if_neg hnot]
  rfl

theorem Laid.rule {r : Rule} {a : Alternative} (hr : r ∈ g.rules) (ha : a ∈ r.alternatives)
    (hne : parts ≠ []) (h : g.Laid text (a.body.map symbol) lo parts ts hi)
    (hhi : hi ≤ text.length) :
    g.Laid text [.nonterminal (.rule r.name)] lo [spanning text r.name parts parts hi] ts hi := by
  have hleaves : (spanning text r.name parts parts hi).leaves = parts.flatMap Node.leaves :=
    leaves_spanning (.inl hne)
  refine ⟨(spanning_bounds text h.inRow _ _).1, List.forall_mem_singleton.2 fun m hm => ?_, ?_,
    fun b hb => ?_⟩
  · obtain rfl | ⟨c, hc, hm⟩ := Node.within_iff.1 hm
    · exact inPlace_spanning h.inRow hhi _ (.refl _) rfl rfl
    · exact h.inPlace c hc m hm
  · rw [List.flatMap_singleton, hleaves]
    exact h.leaves
  · rcases h.covered b hb with ⟨n, hn, hl⟩ | ⟨n, hn, hd⟩ | ⟨n, hn, item, separator, hs, hsep⟩
    · exact .inl ⟨_, List.mem_cons_self, hleaves ▸ List.mem_flatMap.2 ⟨n, hn, hl⟩⟩
    · exact .inr (.inl ⟨_, List.mem_cons_self, hd.of_child hn⟩)
    · obtain ⟨i, hi, hs⟩ := List.mem_map.1 hs
      exact .inr (.inl ⟨_, List.mem_cons_self, _, n, .self _, hn, r, hr, rfl, a, ha, item,
        separator, listOf_of_symbol hs ▸ hi, hsep⟩)

theorem separates_spanning (h : InRow lo parts hi) {a : Token} (hcut : a.CutFrom text)
    {us vs : List Node} {c d : Node} (heq : parts = us ++ c :: ofToken a :: d :: vs)
    (hc : c.isTerminal = false) (ha : (ofToken a).isTerminal = true) (hd : d.isTerminal = false) :
    (spanning text iterationName parts (parts.filter (!·.isTerminal)) hi).Separates text a.text
      a.start a.stop where
  isIteration := rfl
  slice_eq := hcut.text_eq.symm
  between := by
    have hordered := h.pairwise
    rw [heq, List.pairwise_append, List.pairwise_cons, List.pairwise_cons] at hordered
    obtain ⟨-, ⟨hleft, hright, -⟩, -⟩ := hordered
    refine ⟨us.filter (!·.isTerminal), c, d, vs.filter (!·.isTerminal), ?_,
      hleft _ List.mem_cons_self, hright _ List.mem_cons_self⟩
    simp [spanning, heq, hc, ha, hd]

/-- The items of a list make no node of their own. -/
theorem Laid.items (h : g.Laid text ss lo ns ts hi)
    (hss : ∀ i s, .nonterminal (.list i s) ∉ ss) : g.Laid text rs lo ns ts hi where
  inRow := h.inRow
  inPlace := h.inPlace
  leaves := h.leaves
  covered a ha := (h.covered a ha).imp_right fun h => h.imp_right fun ⟨_, _, i, s, hs, _⟩ =>
    absurd hs (hss i s)

theorem Laid.list {item separator : String} (h : g.Laid text ss lo parts ts hi)
    (hhi : hi ≤ text.length) (hss : ∀ i s, .nonterminal (.list i s) ∉ ss)
    (hcut : ∀ a ∈ ts, a.CutFrom text) (hs : Strung separator parts) :
    g.Laid text [.nonterminal (.list item separator)] lo
      [spanning text iterationName parts (parts.filter (!·.isTerminal)) hi] ts hi := by
  have hleaves : (spanning text iterationName parts (parts.filter (!·.isTerminal)) hi).leaves =
      (parts.filter (!·.isTerminal)).flatMap Node.leaves := leaves_spanning (.inr rfl)
  refine ⟨(spanning_bounds text h.inRow _ _).1, List.forall_mem_singleton.2 fun m hm => ?_, ?_,
    fun b hb => ?_⟩
  · obtain rfl | ⟨c, hc, hm⟩ := Node.within_iff.1 hm
    · exact inPlace_spanning h.inRow hhi _ List.filter_sublist hs.head?_filter hs.getLast?_filter
    · exact h.inPlace c (List.mem_filter.1 hc).1 m hm
  · rw [List.flatMap_singleton, hleaves]
    exact (List.Sublist.flatMap List.filter_sublist _).trans h.leaves
  · have hitem {n : Node} (hn : n ∈ parts) (hterm : n.isTerminal = false) :
        n ∈ parts.filter (!·.isTerminal) := List.mem_filter.2 ⟨hn, by simp [hterm]⟩
    rcases h.covered b hb with ⟨n, hn, hl⟩ | ⟨n, hn, hd⟩ | ⟨n, hn, i, s, hmem, -⟩
    · rcases hs.item_or_between hn with hterm | ⟨hterm, hnil, hsource, us, c, d, vs, heq, hc, hd⟩
      · exact .inl ⟨_, List.mem_cons_self, hleaves ▸ List.mem_flatMap.2 ⟨n, hitem hn hterm, hl⟩⟩
      · obtain rfl := (mem_leaves_iff.1 hl).1.eq_of_nil hnil
        have hsep := separates_spanning h.inRow (hcut b hb) heq hc hterm hd
        rw [show b.text = separator from hsource] at hsep
        exact .inr (.inr ⟨_, List.mem_cons_self, item, separator, List.mem_cons_self, hsep⟩)
    · rcases hs.item_or_between hn with hterm | ⟨-, hnil, -⟩
      · exact .inr (.inl ⟨_, List.mem_cons_self, hd.of_child (hitem hn hterm)⟩)
      · obtain ⟨w, m, hw, hm, -⟩ := hd
        rw [hw.eq_of_nil hnil, hnil] at hm
        exact absurd hm List.not_mem_nil
    · exact absurd hmem (hss i s)

end Laid

/-! ### Derivation trees -/

/-- Every alternative of a syntactic rule has an item. -/
def Filled (g : Grammar) : Prop :=
  ∀ r ∈ g.rules, r.isLexical = false → ∀ a ∈ r.alternatives, a.body ≠ []

theorem list_ne_reference (name item separator : String) :
    Cfg.Symbol.nonterminal (.list item separator) ≠ reference name := by
  rw [reference]
  cases RuleKind.ofName name <;> simp

/-- A use of a production carries the places of its right side over to its left side. -/
theorem laid_node (hg : g.Sound) (hb : g.Filled) {p : Production Terminal Category}
    (hp : p ∈ g.productions) {lo : Nat} {ts : List (Tree Token Category)} {is : List Item}
    (hcut : Token.AllCutFrom text lo (Tree.yieldAll ts)) (hrow : Row p.rhs is)
    (hspells : g.Spells is (ofTrees text lo ts).1 (Tree.yieldAll ts))
    (h : g.Laid text p.rhs lo (ofTrees text lo ts).1 (Tree.yieldAll ts) (ofTrees text lo ts).2) :
    g.Laid text [.nonterminal p.lhs] lo (ofTree text lo (.node p.lhs ts)).1 (Tree.yieldAll ts)
      (ofTree text lo (.node p.lhs ts)).2 := by
  have hhi : (ofTrees text lo ts).2 ≤ text.length := by
    rw [ofTrees_end]
    exact hcut.end_le
  rcases mem_productions.1 hp with ⟨r, hr, hl, a, ha, rfl⟩ | ⟨⟨⟨item, separator⟩, name⟩, hl, hp⟩
  · obtain rfl := hrow.eq_of_symbols fun i hi => isPattern_of_declares (hg.rules r hr hl a ha i hi)
    have hne : (ofTrees text lo ts).1 ≠ [] := by
      rw [← List.length_pos_iff, hspells.length_eq, List.length_pos_iff]
      exact hb r hr hl a ha
    exact h.rule hr ha hne hhi
  have hname : item ≠ Node.terminalName := by
    obtain ⟨r, hr, rfl⟩ := exists_rule_of_contains (declares_ref_of_listOf (hg.lists _ hl))
    exact (hg.names r hr).1
  have hcuts := hcut.cutFrom
  simp only [listProductions, List.mem_cons, List.not_mem_nil, or_false] at hp
  rcases hp with rfl | rfl | rfl | rfl
  · cases hrow
    exact h.list hhi (fun _ _ => List.not_mem_nil) hcuts (hspells.strung (k := 0) hname)
  · cases hrow with
    | items _ _ k hrow =>
      cases hrow
      rw [List.append_nil] at hspells
      exact h.list hhi (by simp) hcuts (hspells.strung hname)
  · exact h.items fun i s => by simp [list_ne_reference]
  · exact h.items fun i s => by simp [list_ne_reference]

mutual

theorem laid_of_derives (hg : g.Sound) (hb : g.Filled) {s : Cfg.Symbol Terminal Category}
    {t : Tree Token Category} :
    Tree.Derives g.productions Token.terminal s t → g.Proper s → ∀ {lo : Nat},
      Token.AllCutFrom text lo t.yield →
        g.Laid text [s] lo (ofTree text lo t).1 t.yield (ofTree text lo t).2
  | .leaf a, hs, lo, hcut => by
    rw [ofTree]
    rw [Tree.yield] at hcut ⊢
    exact laid_ofToken hg hs hcut.inRow (hcut.cutFrom a List.mem_cons_self)
  | .node hp hts, _, lo, hcut => by
    rw [Tree.yield] at hcut ⊢
    have hproper := hg.proper hp
    obtain ⟨is, hrow, hspells⟩ := spells_of_derivesAll hg text hts hproper
      (fun a ha => (hcut.cutFrom a ha).faithful) lo
    exact laid_node hg hb hp hcut hrow hspells (laid_of_derivesAll hg hb hts hproper hcut)

theorem laid_of_derivesAll (hg : g.Sound) (hb : g.Filled)
    {ss : List (Cfg.Symbol Terminal Category)} {ts : List (Tree Token Category)} :
    Tree.DerivesAll g.productions Token.terminal ss ts → (∀ s ∈ ss, g.Proper s) → ∀ {lo : Nat},
      Token.AllCutFrom text lo (Tree.yieldAll ts) →
        g.Laid text ss lo (ofTrees text lo ts).1 (Tree.yieldAll ts) (ofTrees text lo ts).2
  | .nil, _, lo, _ => by
    rw [ofTrees, Tree.yieldAll]
    exact laid_nil lo
  | @Tree.DerivesAll.cons _ _ _ _ _ _ _ t _ h hs, hp, lo, hcut => by
    obtain ⟨hp, hps⟩ := List.forall_mem_cons.1 hp
    rw [Tree.yieldAll] at hcut ⊢
    obtain ⟨hcut, hcuts⟩ := hcut.of_append
    rw [← ofTree_end text t] at hcuts
    exact (laid_of_derives hg hb h hp hcut).append (laid_of_derivesAll hg hb hs hps hcuts)

end

end Grammar

/-! ## Tokens of a text -/

namespace Reads

open Node

variable {L : Terminal → List Char → Prop} {pos pos' : Nat} {cs rest : List Char} {ts : List Token}

theorem start_lt_stop (h : Reads L pos cs ts pos' rest) : ∀ a ∈ ts, a.start < a.stop := by
  induction h with
  | done => exact nofun
  | gap _ _ ih => exact ih
  | token hu _ ih =>
    exact List.forall_mem_cons.2 ⟨Nat.lt_add_of_pos_right (List.length_pos_iff.2 hu.nonempty), ih⟩

theorem inRow (h : Reads L pos cs ts pos' rest) : InRow pos (ts.map ofToken) (endOf pos ts) := by
  induction h with
  | done pos => exact Nat.le_refl pos
  | @gap pos _ _ _ _ ts _ _ ih =>
    cases ts with
    | nil => exact Nat.le_refl pos
    | cons a ts => exact ih.mono (Nat.le_succ pos)
  | @token pos _ _ u => exact ⟨Nat.le_refl pos, Nat.le_add_right pos u.length, ‹_›⟩

/-- The text of a token stands where the token does. -/
theorem text_eq (h : Reads L pos cs ts pos' rest) : ∀ a ∈ ts,
    pos ≤ a.start ∧ a.text = slice cs (a.start - pos) (a.stop - pos) := by
  induction h with
  | done => exact nofun
  | @gap pos _ c cs _ _ hc _ ih =>
    intro a ha
    obtain ⟨hle, heq⟩ := ih a ha
    refine ⟨by omega, ?_⟩
    rw [heq, slice, slice, show a.start - pos = (a.start - (pos + 1)) + 1 by omega,
      List.drop_succ_cons]
    congr 2
    omega
  | @token pos _ t u cs _ _ hu _ ih =>
    refine List.forall_mem_cons.2 ⟨⟨Nat.le_refl _, ?_⟩, fun a ha => ?_⟩
    · simp [slice]
    · obtain ⟨hle, heq⟩ := ih a ha
      refine ⟨by omega, ?_⟩
      rw [heq, slice, slice, show a.start - pos = u.length + (a.start - (pos + u.length)) by omega,
        ← List.drop_drop, List.drop_left]
      congr 2
      omega

/-- A character that is read is a gap or stands in a token. -/
theorem isGap_or_exists (h : Reads L pos cs ts pos' rest) : ∀ p, pos ≤ p → p < pos' →
    (∃ a ∈ ts, a.start ≤ p ∧ p < a.stop) ∨ ∃ c, cs[p - pos]? = some c ∧ isGap c = true := by
  induction h with
  | done => intro p _ _; omega
  | @gap pos _ c cs _ _ hc _ ih =>
    intro p hp hlt
    rcases Nat.eq_or_lt_of_le hp with rfl | hp
    · exact .inr ⟨c, by simp, hc⟩
    · refine (ih p hp hlt).imp_right fun ⟨d, hd, hgap⟩ => ⟨d, ?_, hgap⟩
      rw [show p - pos = (p - (pos + 1)) + 1 by omega, List.getElem?_cons_succ, hd]
  | @token pos _ t u cs _ _ hu _ ih =>
    intro p hp hlt
    by_cases hin : p < pos + u.length
    · exact .inl ⟨_, List.mem_cons_self, hp, hin⟩
    · rcases ih p (by omega) hlt with ⟨a, ha, hplace⟩ | ⟨d, hd, hgap⟩
      · exact .inl ⟨a, List.mem_cons_of_mem _ ha, hplace⟩
      · refine .inr ⟨d, ?_, hgap⟩
        rw [List.getElem?_append_right (by omega), ← hd]
        congr 1
        omega

theorem allCutFrom {text : List Char} (h : Reads L 0 text ts text.length [])
    (hf : ∀ a ∈ ts, a.Faithful) : Token.AllCutFrom text 0 ts where
  le_length := Nat.zero_le _
  inRow := h.inRow
  cutFrom a ha := ⟨(h.bounds.2 a ha).2.2, (h.text_eq a ha).2, hf a ha⟩

end Reads

end Reckon
