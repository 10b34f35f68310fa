import Reckon.Proofs.Grammar.Derivation

/-!
# The syntax trees of a grammar

`Spells` says when a row of nodes is a syntax tree of a row of items over some tokens: the nodes
stand for the items one by one, a node of a syntactic rule has children for the items of one of its
alternatives, a node of a list has the items of the list without the separators, and a token is a
node without children.

The nodes made of a derivation tree are such a syntax tree (`spells_of_derivesAll`), and its tokens
are derived by the rules (`Spells.derives`). So the productions of a grammar generate exactly the
words that its rules derive (`generates_iff_derives`).
-/

namespace Reckon

open Cfg

/-- The first, third, fifth and so on. -/
def everyOther {α : Type} : List α → List α
  | [] => []
  | [a] => [a]
  | a :: _ :: rest => a :: everyOther rest

theorem mem_of_mem_everyOther {α : Type} {a : α} : ∀ {as : List α}, a ∈ everyOther as → a ∈ as
  | [], h => h
  | [_], h => h
  | b :: c :: rest, h => by
    rcases List.mem_cons.1 h with rfl | h
    · exact List.mem_cons_self
    · exact List.mem_cons_of_mem _ (List.mem_cons_of_mem _ (mem_of_mem_everyOther h))

namespace Token

/-- A literal has its own text. -/
def Faithful (a : Token) : Prop := ∀ l, a.terminal = .literal l → a.text = l

/-- Some token of a terminal. -/
def ofTerminal : Terminal → Token
  | .literal l => ⟨.literal l, l, 0, 0⟩
  | .lexical name => ⟨.lexical name, "", 0, 0⟩

theorem terminal_ofTerminal (t : Terminal) : (ofTerminal t).terminal = t := by
  cases t <;> rfl

theorem faithful_ofTerminal (t : Terminal) : (ofTerminal t).Faithful := by
  intro l hl
  rw [terminal_ofTerminal] at hl
  subst hl
  rfl

end Token

namespace Grammar

variable {g : Grammar}

/-- The nodes are a syntax tree of the row of items over the tokens. -/
inductive Spells (g : Grammar) : List Item → List Node → List Token → Prop
  | nil : Spells g [] [] []
  | lit {text : String} {a : Token} {is : List Item} {ns : List Node} {ts : List Token}
      (ha : a.terminal = .literal text) (ht : a.text = text) (h : Spells g is ns ts) :
      Spells g (.lit text :: is) (.ofToken a :: ns) (a :: ts)
  | lexical {name : String} {a : Token} {is : List Item} {ns : List Node} {ts : List Token}
      (hn : name ∈ g.lexicalNames) (ha : a.terminal = .lexical name) (h : Spells g is ns ts) :
      Spells g (.ref name :: is) (.ofToken a :: ns) (a :: ts)
  | rule {r : Rule} {a : Alternative} {n : Node} {is : List Item} {ns : List Node}
      {us ts : List Token} (hr : r ∈ g.rules) (hs : r.isLexical = false) (ha : a ∈ r.alternatives)
      (hn : n.rule = r.name) (hu : Spells g a.body n.children us) (h : Spells g is ns ts) :
      Spells g (.ref r.name :: is) (n :: ns) (us ++ ts)
  | list {item separator : String} {k : Nat} {n : Node} {ms : List Node} {is : List Item}
      {ns : List Node} {us ts : List Token} (hn : n.rule = Node.iterationName)
      (hu : Spells g (Item.repeated item separator k) ms us) (hc : n.children = everyOther ms)
      (h : Spells g is ns ts) : Spells g (.listOf item separator :: is) (n :: ns) (us ++ ts)

namespace Spells

variable {is js : List Item} {ns ms : List Node} {ts us : List Token}

theorem append (h : g.Spells is ns ts) (h' : g.Spells js ms us) :
    g.Spells (is ++ js) (ns ++ ms) (ts ++ us) := by
  induction h with
  | nil => exact h'
  | lit ha ht _ ih => exact .lit ha ht ih
  | lexical hn ha _ ih => exact .lexical hn ha ih
  | rule hr hs ha hn hu _ _ ih =>
    rw [List.append_assoc]
    exact .rule hr hs ha hn hu ih
  | list hn hu hc _ _ ih =>
    rw [List.append_assoc]
    exact .list hn hu hc ih

theorem length_eq (h : g.Spells is ns ts) : ns.length = is.length := by
  induction h with
  | nil => rfl
  | lit _ _ _ ih | lexical _ _ _ ih | rule _ _ _ _ _ _ _ ih | list _ _ _ _ _ ih =>
    rw [List.length_cons, List.length_cons, ih]

/-- The tokens of a syntax tree are derived by the rules. -/
theorem derives (h : g.Spells is ns ts) : g.Derives is (ts.map (·.terminal)) := by
  induction h with
  | nil => exact .nil
  | lit ha _ _ ih =>
    rw [List.map_cons, ha]
    exact .lit _ ih
  | lexical hn ha _ ih =>
    rw [List.map_cons, ha]
    exact .lexical hn ih
  | rule hr hs ha _ _ _ ihu ih =>
    rw [List.map_append]
    exact .rule hr hs ha ihu ih
  | list _ _ _ _ ihu ih =>
    rw [List.map_append]
    exact .list _ ihu ih

/-- A reference is spelled by one node, which has the name of the rule. -/
theorem rule_eq_of_ref {name : String} {n : Node} (h : g.Spells (.ref name :: is) (n :: ns) ts) :
    n.rule = name := by
  cases h with
  | lexical _ ha _ => rw [Node.ofToken, ha]
  | rule _ _ _ hn _ _ => exact hn

/-- The items of a list are the nodes that are no literals. -/
theorem filter_repeated {item separator : String} (hi : item ≠ Node.terminalName) :
    ∀ {k : Nat} {ms : List Node} {us : List Token},
      g.Spells (Item.repeated item separator k) ms us →
      ms.filter (!·.isTerminal) = everyOther ms
  | 0, ms, us, h => by
    cases h
    rfl
  | 1, ms, us, h => by
    have hlen := h.length_eq
    obtain ⟨n, rfl⟩ := List.length_eq_one_iff.1 hlen
    have hn : n.isTerminal = false := by
      rw [Node.isTerminal, h.rule_eq_of_ref]
      exact beq_false_of_ne hi
    rw [List.filter_cons_of_pos (by simp [hn]), List.filter_nil, everyOther]
  | k + 2, ms, us, h => by
    have hlen := h.length_eq
    rcases ms with _ | ⟨n, ms⟩
    · exact absurd hlen (by simp [Item.repeated])
    have hn : n.isTerminal = false := by
      rw [Node.isTerminal, h.rule_eq_of_ref]
      exact beq_false_of_ne hi
    obtain ⟨us', h'⟩ : ∃ us', g.Spells (.lit separator :: Item.repeated item separator (k + 1))
        ms us' := by
      cases h with
      | lexical _ _ h => exact ⟨_, h⟩
      | rule _ _ _ _ _ h => exact ⟨_, h⟩
    cases h' with
    | @lit _ a _ ns _ ha _ h' =>
      have hl : (Node.ofToken a).isTerminal = true := by
        rw [Node.isTerminal, Node.ofToken, ha]
        rfl
      rw [List.filter_cons_of_pos (by simp [hn]), List.filter_cons_of_neg (by simp [hl]),
        everyOther, filter_repeated hi h']

end Spells

/-! ## From derivation trees -/

/-- The row of items that a row of symbols stands for; the items of a list are one or more. -/
inductive Row : List (Cfg.Symbol Terminal Category) → List Item → Prop
  | nil : Row [] []
  | literal (text : String) {ss : List (Cfg.Symbol Terminal Category)} {is : List Item}
      (h : Row ss is) : Row (.terminal (.literal text) :: ss) (.lit text :: is)
  | lexical (name : String) {ss : List (Cfg.Symbol Terminal Category)} {is : List Item}
      (h : Row ss is) : Row (.terminal (.lexical name) :: ss) (.ref name :: is)
  | rule (name : String) {ss : List (Cfg.Symbol Terminal Category)} {is : List Item}
      (h : Row ss is) : Row (.nonterminal (.rule name) :: ss) (.ref name :: is)
  | list (item separator : String) {ss : List (Cfg.Symbol Terminal Category)} {is : List Item}
      (h : Row ss is) :
      Row (.nonterminal (.list item separator) :: ss) (.listOf item separator :: is)
  | items (item separator : String) (k : Nat) {ss : List (Cfg.Symbol Terminal Category)}
      {is : List Item} (h : Row ss is) :
      Row (.nonterminal (.items item separator) :: ss)
        (Item.repeated item separator (k + 1) ++ is)

namespace Row

theorem append {ss rs : List (Cfg.Symbol Terminal Category)} {is js : List Item} (h : Row ss is)
    (h' : Row rs js) : Row (ss ++ rs) (is ++ js) := by
  induction h with
  | nil => exact h'
  | literal text _ ih => exact .literal text ih
  | lexical name _ ih => exact .lexical name ih
  | rule name _ ih => exact .rule name ih
  | list item separator _ ih => exact .list item separator ih
  | items item separator k _ ih =>
    rw [List.append_assoc]
    exact .items item separator k ih

theorem eq_of_reference {name : String} {ss : List (Cfg.Symbol Terminal Category)} {js : List Item}
    (h : Row (reference name :: ss) js) : ∃ is, js = .ref name :: is ∧ Row ss is := by
  rw [reference] at h
  split at h
  · cases h with
    | lexical _ h => exact ⟨_, rfl, h⟩
  · cases h with
    | rule _ h => exact ⟨_, rfl, h⟩

/-- The symbols of a row of items stand for these items. -/
theorem eq_of_symbols {is : List Item} (hp : ∀ i ∈ is, i.isPattern = false) {js : List Item}
    (h : Row (is.map symbol) js) : js = is := by
  induction is generalizing js with
  | nil =>
    cases h
    rfl
  | cons i is ih =>
    obtain ⟨hi, his⟩ := List.forall_mem_cons.1 hp
    rcases i with name | text | regex | ⟨item, separator⟩ <;> simp only [List.map_cons, symbol] at h
    · obtain ⟨js, rfl, htail⟩ := h.eq_of_reference
      rw [ih his htail]
    · cases h with
      | literal _ h => rw [ih his h]
    · cases hi
    · cases h with
      | list _ _ h => rw [ih his h]

end Row

/-- A terminal of a lexical rule belongs to a rule of the grammar. -/
def Proper (g : Grammar) : Cfg.Symbol Terminal Category → Prop
  | .terminal (.lexical name) => name ∈ g.lexicalNames
  | _ => True

theorem isPattern_of_declares {i : Item} (h : g.declares i = true) : i.isPattern = false := by
  cases i with
  | pattern regex => exact absurd h nofun
  | ref _ | lit _ | listOf _ _ => rfl

theorem proper_reference {name : String} (h : g.declares (.ref name) = true) :
    g.Proper (reference name) := by
  rw [reference]
  split
  · rename_i hn
    exact mem_lexicalNames.2 ⟨h, hn⟩
  · trivial

theorem proper_symbol {i : Item} (h : g.declares i = true) : g.Proper (symbol i) := by
  cases i with
  | ref name => exact proper_reference h
  | pattern regex => exact absurd h nofun
  | lit _ | listOf _ _ => trivial

theorem Sound.proper (hg : g.Sound) {p : Production Terminal Category} (hp : p ∈ g.productions) :
    ∀ s ∈ p.rhs, g.Proper s := by
  intro s hs
  rcases mem_productions.1 hp with ⟨r, hr, hl, a, ha, rfl⟩ | ⟨⟨⟨item, separator⟩, name⟩, hl, hp⟩
  · obtain ⟨i, hi, rfl⟩ := List.mem_map.1 hs
    exact proper_symbol (hg.rules r hr hl a ha i hi)
  · have hi := proper_reference (declares_ref_of_listOf (hg.lists _ hl))
    simp only [listProductions, List.mem_cons, List.not_mem_nil, or_false] at hp
    rcases hp with rfl | rfl | rfl | rfl <;>
      simp only [List.mem_cons, List.not_mem_nil, or_false] at hs
    · subst hs
      trivial
    · exact hs ▸ hi
    · rcases hs with rfl | rfl | rfl
      · trivial
      · trivial
      · exact hi

/-- A use of a production carries the syntax trees of its right side over to its left side. -/
theorem spells_node (hg : g.Sound) {p : Production Terminal Category} (hp : p ∈ g.productions)
    (text : List Char) (last : Nat) {ts : List (Tree Token Category)} {is : List Item}
    (hrow : Row p.rhs is) (h : g.Spells is (Node.ofTrees text last ts).1 (Tree.yieldAll ts)) :
    ∃ js, Row [.nonterminal p.lhs] js ∧
      g.Spells js (Node.ofTree text last (.node p.lhs ts)).1 (Tree.yieldAll ts) := by
  rcases mem_productions.1 hp with ⟨r, hr, hl, a, ha, rfl⟩ | ⟨⟨⟨item, separator⟩, name⟩, hl, hp⟩
  · obtain rfl := hrow.eq_of_symbols fun i hi => isPattern_of_declares (hg.rules r hr hl a ha i hi)
    refine ⟨_, .rule _ .nil, ?_⟩
    have hnode := Spells.rule (n := .spanning text r.name (Node.ofTrees text last ts).1
      (Node.ofTrees text last ts).1 (Node.ofTrees text last ts).2) hr hl ha rfl h .nil
    rwa [List.append_nil] at hnode
  have hi := hg.lists _ hl
  have hlist (k : Nat) (hk : g.Spells (Item.repeated item separator k)
      (Node.ofTrees text last ts).1 (Tree.yieldAll ts)) :
      ∃ js, Row [.nonterminal (.list item separator)] js ∧
        g.Spells js (Node.ofTree text last (.node (.list item separator) ts)).1
          (Tree.yieldAll ts) := by
    have hname : item ≠ Node.terminalName := by
      obtain ⟨r, hr, rfl⟩ := exists_rule_of_contains (declares_ref_of_listOf hi)
      exact (hg.names r hr).1
    refine ⟨_, .list _ _ .nil, ?_⟩
    have hnode := Spells.list (n := .spanning text Node.iterationName
      (Node.ofTrees text last ts).1 ((Node.ofTrees text last ts).1.filter (!·.isTerminal))
      (Node.ofTrees text last ts).2) rfl hk (hk.filter_repeated hname) .nil
    rwa [List.append_nil] at hnode
  simp only [listProductions, List.mem_cons, List.not_mem_nil, or_false] at hp
  rcases hp with rfl | rfl | rfl | rfl
  · cases hrow
    exact hlist 0 h
  · cases hrow with
    | items _ _ k hrow =>
      cases hrow
      rw [List.append_nil] at h
      exact hlist (k + 1) h
  · obtain ⟨is, rfl, hnil⟩ := hrow.eq_of_reference
    cases hnil
    exact ⟨_, .items item separator 0 .nil, h⟩
  · cases hrow with
    | items _ _ k hrow =>
      cases hrow with
      | literal _ hrow =>
        obtain ⟨is, rfl, hnil⟩ := hrow.eq_of_reference
        cases hnil
        refine ⟨_, .items item separator (k + 1) .nil, ?_⟩
        rw [List.append_nil, Item.repeated_succ_succ]
        exact h

mutual

theorem spells_of_derives (hg : g.Sound) (text : List Char) {s : Cfg.Symbol Terminal Category}
    {t : Tree Token Category} :
    Tree.Derives g.productions Token.terminal s t → g.Proper s → (∀ a ∈ t.yield, a.Faithful) →
      ∀ last, ∃ is, Row [s] is ∧ g.Spells is (Node.ofTree text last t).1 t.yield
  | .leaf a, hs, hy, last => by
    rw [Tree.yield] at hy ⊢
    rw [Node.ofTree]
    rcases ha : a.terminal with l | name
    · exact ⟨_, .literal l .nil, .lit ha (hy a List.mem_cons_self l ha) .nil⟩
    · rw [ha] at hs
      exact ⟨_, .lexical name .nil, .lexical hs ha .nil⟩
  | .node hp hts, _, hy, last => by
    rw [Tree.yield] at hy ⊢
    obtain ⟨is, hrow, h⟩ := spells_of_derivesAll hg text hts (hg.proper hp) hy last
    exact spells_node hg hp text last hrow h

theorem spells_of_derivesAll (hg : g.Sound) (text : List Char)
    {ss : List (Cfg.Symbol Terminal Category)} {ts : List (Tree Token Category)} :
    Tree.DerivesAll g.productions Token.terminal ss ts → (∀ s ∈ ss, g.Proper s) →
      (∀ a ∈ Tree.yieldAll ts, a.Faithful) → ∀ last, ∃ is, Row ss is ∧
        g.Spells is (Node.ofTrees text last ts).1 (Tree.yieldAll ts)
  | .nil, _, _, _ => by
    rw [Node.ofTrees, Tree.yieldAll]
    exact ⟨[], .nil, .nil⟩
  | .cons h hs, hp, hy, last => by
    obtain ⟨hp, hps⟩ := List.forall_mem_cons.1 hp
    rw [Tree.yieldAll] at hy ⊢
    obtain ⟨hy, hys⟩ := List.forall_mem_append.1 hy
    rw [Node.ofTrees]
    obtain ⟨is, hrow, h⟩ := spells_of_derives hg text h hp hy last
    obtain ⟨js, hrows, hs⟩ := spells_of_derivesAll hg text hs hps hys (Node.ofTree text last _).2
    exact ⟨is ++ js, hrow.append hrows, h.append hs⟩

end

/-- The productions generate exactly the words that the rules derive. -/
theorem generates_iff_derives (hg : g.Sound) {is : List Item} (his : ∀ i ∈ is, g.declares i = true)
    {w : List Terminal} : Generates g.productions (is.map symbol) w ↔ g.Derives is w := by
  refine ⟨fun h => ?_, fun h => h.generates hg his⟩
  have hw : (w.map Token.ofTerminal).map Token.terminal = w := by
    rw [List.map_map, show Token.terminal ∘ Token.ofTerminal = id from
      funext Token.terminal_ofTerminal, List.map_id]
  obtain ⟨ts, hts, hy⟩ := Tree.exists_derivesAll h (w.map Token.ofTerminal) hw
  obtain ⟨js, hrow, hs⟩ := spells_of_derivesAll hg [] hts (fun s hs => by
    obtain ⟨i, hi, rfl⟩ := List.mem_map.1 hs
    exact proper_symbol (his i hi)) (fun a ha => by
    rw [hy] at ha
    obtain ⟨t, -, rfl⟩ := List.mem_map.1 ha
    exact Token.faithful_ofTerminal t) 0
  obtain rfl := hrow.eq_of_symbols fun i hi => isPattern_of_declares (his i hi)
  have hd := hs.derives
  rwa [hy, hw] at hd

section Start

variable {start : String}

theorem declares_of_isSyntactic (h : g.isSyntactic start = true) :
    g.declares (.ref start) = true := by
  obtain ⟨r, hr, rfl, -⟩ := exists_of_isSyntactic h
  exact List.any_eq_true.2 ⟨r, hr, beq_self_eq_true _⟩

theorem generates_start_iff (hg : g.Sound) (h : g.isSyntactic start = true) {w : List Terminal} :
    Generates g.productions [.nonterminal (.rule start)] w ↔ g.Derives [.ref start] w := by
  obtain ⟨r, hr, rfl, hl⟩ := exists_of_isSyntactic h
  rw [← generates_iff_derives hg (List.forall_mem_singleton.2 (declares_of_isSyntactic h)),
    List.map_singleton, symbol, reference_of_syntactic hl]

theorem viable_iff_continues (hg : g.Sound) (h : g.isSyntactic start = true) {w : List Terminal} :
    Viable g.productions (.rule start) w ↔ g.Continues start w :=
  exists_congr fun _ => generates_start_iff hg h

end Start

end Grammar

/-! ## Every node of a tree -/

/-- `m` is a node of the tree `n`. -/
inductive Node.Within : Node → Node → Prop
  | self (n : Node) : Within n n
  | child {m c n : Node} (hc : c ∈ n.children) (h : Within m c) : Within m n

theorem Node.within_iff {m n : Node} :
    m.Within n ↔ m = n ∨ ∃ c ∈ n.children, m.Within c := by
  constructor
  · intro h
    cases h with
    | self => exact .inl rfl
    | child hc h => exact .inr ⟨_, hc, h⟩
  · rintro (rfl | ⟨c, hc, h⟩)
    · exact .self _
    · exact .child hc h

namespace Grammar

variable {g : Grammar}

/-- A node of a syntactic rule has as many children as the rule has items, and a node of a lexical
rule has none. -/
def Shaped (g : Grammar) (n : Node) : Prop :=
  (g.isSyntactic n.rule = true → n.children.length = g.arity n.rule) ∧
    (n.rule ∈ g.lexicalNames → n.children = [])

/-- All alternatives of a syntactic rule have the same number of items. -/
def Uniform (g : Grammar) : Prop :=
  ∀ r ∈ g.rules, r.isLexical = false → ∀ a ∈ r.alternatives, a.body.length = g.arity r.name

theorem not_mem_lexicalNames_of_syntactic {r : Rule} (h : r.isLexical = false) :
    r.name ∉ g.lexicalNames := by
  intro hn
  rw [Rule.isLexical, Rule.kind, (mem_lexicalNames.1 hn).2] at h
  cases h

theorem isSyntactic_of_lexical {name : String} (h : name ∈ g.lexicalNames) :
    g.isSyntactic name = false := by
  refine Bool.eq_false_iff.2 fun hs => ?_
  obtain ⟨r, -, rfl, hl⟩ := exists_of_isSyntactic hs
  exact not_mem_lexicalNames_of_syntactic hl h

/-- A name of no rule is shaped anyhow. -/
theorem shaped_of_not_contains {n : Node} (h : g.contains n.rule = false) : g.Shaped n := by
  refine ⟨fun hs => ?_, fun hl => ?_⟩
  · rw [show g.contains n.rule = true from declares_of_isSyntactic hs] at h
    cases h
  · rw [(mem_lexicalNames.1 hl).1] at h
    cases h

theorem Sound.not_contains (hg : g.Sound) {name : String}
    (h : name = Node.terminalName ∨ name = Node.iterationName) : g.contains name = false := by
  refine Bool.eq_false_iff.2 fun hc => ?_
  obtain ⟨r, hr, rfl⟩ := exists_rule_of_contains hc
  rcases h with h | h
  · exact (hg.names r hr).1 h
  · exact (hg.names r hr).2 h

/-- Every node of a syntax tree is shaped as its rule says. -/
theorem Spells.shaped (hg : g.Sound) (hu : g.Uniform) {is : List Item} {ns : List Node}
    {ts : List Token} (h : g.Spells is ns ts) : ∀ n ∈ ns, ∀ m, m.Within n → g.Shaped m := by
  induction h with
  | nil => exact nofun
  | @lit _ a _ _ _ ha _ _ ih =>
    refine List.forall_mem_cons.2 ⟨fun m hm => ?_, ih⟩
    obtain rfl | ⟨c, hc, -⟩ := Node.within_iff.1 hm
    · refine shaped_of_not_contains (hg.not_contains (.inl ?_))
      rw [Node.ofToken, ha]
    · exact absurd hc List.not_mem_nil
  | @lexical _ a _ _ _ hn ha _ ih =>
    refine List.forall_mem_cons.2 ⟨fun m hm => ?_, ih⟩
    obtain rfl | ⟨c, hc, -⟩ := Node.within_iff.1 hm
    · refine ⟨fun hs => ?_, fun _ => rfl⟩
      rw [Node.ofToken, ha] at hs
      exact absurd hs (by simp [isSyntactic_of_lexical hn])
    · exact absurd hc List.not_mem_nil
  | @rule r a n _ _ _ _ hr hs ha hn hb _ ihb ih =>
    refine List.forall_mem_cons.2 ⟨fun m hm => ?_, ih⟩
    obtain rfl | ⟨c, hc, hm⟩ := Node.within_iff.1 hm
    · refine ⟨fun _ => ?_, fun hl => ?_⟩
      · rw [hb.length_eq, hn]
        exact hu r hr hs a ha
      · exact absurd (hn ▸ hl) (not_mem_lexicalNames_of_syntactic hs)
    · exact ihb c hc m hm
  | @list _ _ _ n ms _ _ _ _ hn _ hc _ ihb ih =>
    refine List.forall_mem_cons.2 ⟨fun m hm => ?_, ih⟩
    obtain rfl | ⟨c, hcm, hm⟩ := Node.within_iff.1 hm
    · exact shaped_of_not_contains (hg.not_contains (.inr hn))
    · exact ihb c (mem_of_mem_everyOther (hc ▸ hcm)) m hm

end Grammar

end Reckon
