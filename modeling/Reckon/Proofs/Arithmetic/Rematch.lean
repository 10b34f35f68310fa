import Reckon.Proofs.Arithmetic.Formed
import Reckon.Proofs.Arithmetic.Unambiguous
import Reckon.Proofs.Match.Moved

/-!
# Matching a part again

A text is matched exactly if it reads as the tokens of a derivation tree, and since there is only
one such tree, the node is that of the tree (`exists_tree_of_parse`, `parse_of_tree`). So the text
of a node inside a matched one is matched again by the rule of the node, and gives the same node,
counted from its own start (`parse_source_moved`).
-/

namespace Reckon.Arithmetic

open Cfg Cfg.Tree Grammar

variable {start text : String} {n : Node}

theorem exists_tree_of_parse (hs : grammar.isSyntactic start = true)
    (h : parse start text = .ok n) :
    ∃ t, TreeOf Token.terminal start t ∧
      Reads Lexeme 0 text.toList t.yield text.toList.length [] ∧
      (Node.ofTree text.toList 0 t).1 = [n] := by
  rw [parse_eq hs] at h
  rcases hp : matcher.parseFrom start text.toList with f | m <;> rw [hp] at h
  · cases h
  · obtain rfl := Except.ok.inj h
    rw [← word_eq_lexeme]
    exact Matcher.exists_tree_of_parseFrom readable_grammar hs hp

theorem parse_of_tree (hs : grammar.isSyntactic start = true) {t : Tree Token Category}
    (ht : TreeOf Token.terminal start t)
    (hr : Reads Lexeme 0 text.toList t.yield text.toList.length []) :
    ∃ n, parse start text = .ok n ∧ (Node.ofTree text.toList 0 t).1 = [n] := by
  have hd := (generates_start_iff sound_grammar hs).1 (Tree.generates_of_derives ht)
  obtain ⟨n, hn⟩ := exists_parse_ok hs hr hd
  obtain ⟨t', ht', hr', hnode⟩ := exists_tree_of_parse hs hn
  obtain ⟨body, hb, -⟩ := treeOf_iff.1 ht
  obtain rfl := oneTree_of_mem Token.terminal hb t t' ht ht' (tokens_unique hr hr')
  exact ⟨n, hn, hnode⟩

theorem edged_grammar : Edged ofExp grammar.productions where
  head := by decide
  last := by decide

/-! ## Nodes inside a matched one -/

/-- The node of a tree stands from its first token to its last, whatever comes before. -/
structure Placed (text : List Char) (x : Tree Token Category) (m : Node) : Prop where
  edges : ∃ a b, x.yield.head? = some a ∧ x.yield.getLast? = some b ∧ m.start = a.start ∧
    m.source = Node.slice text a.start b.stop
  node : ∀ last, (Node.ofTree text last x).1 = [m]

section Placed

variable {cs : List Char} {x : Tree Token Category} {m : Node} {last : Nat}

theorem placed_of_exp (hx : TreeOf Token.terminal m.rule x) (hm : (Node.ofTree cs last x).1 = [m])
    (hp : m.rule ≠ "program") : Placed cs x m where
  edges := exists_edges edged_grammar hx (by simpa [ofExp] using hp) hm
  node last' := by
    rw [← hm, Node.ofTree_after edged_grammar cs hx (by simpa [begins, ofExp] using hp) last' last]

/-- A program that is not empty stands where its statements do. -/
theorem placed_of_items {y : Tree Token Category} (hy : ItemsTree Token.terminal ";" y)
    (hx : x = branchOf "program" [.node (.list "exp" ";") [y]])
    (hm : (Node.ofTree cs last x).1 = [m]) : Placed cs x m := by
  obtain ⟨a, ha, hstart⟩ := exists_start edged_grammar cs hy rfl last
  obtain ⟨b, hb, hstop⟩ := exists_stop edged_grammar cs hy rfl last
  have hafter (last' : Nat) : Node.ofTree cs last' x = Node.ofTree cs last x := by
    simp only [hx, branchOf, Node.ofTree, Node.ofTrees,
      Node.ofTree_after edged_grammar cs hy rfl last' last]
  refine ⟨⟨a, b, by simp [hx, yield, yieldAll, ha], by simp [hx, yield, yieldAll, hb], ?_⟩,
    fun last' => by rw [hafter, hm]⟩
  simp only [hx, branchOf, Node.ofTree, Node.ofTrees, List.append_nil, List.cons.injEq,
    and_true] at hm
  simp [← hm, Node.spanning, hstart, hstop]

theorem Placed.exists_parse (h : Placed cs x m) (hs : grammar.isSyntactic m.rule = true)
    (hx : TreeOf Token.terminal m.rule x) {u v : List Token} {p : Nat} {rest : List Char}
    (hr : Reads Lexeme 0 cs (u ++ (x.yield ++ v)) p rest) :
    ∃ m', parse m.rule m.source = .ok m' ∧ m'.moved m.start = m := by
  obtain ⟨a, b, ha, hb, hstart, hsource⟩ := h.edges
  have hslice : (cs.drop a.start).take (b.stop - a.start) = m.source.toList := by
    rw [hsource, Node.slice, String.toList_ofList]
  have hpiece := hr.piece ha hb
  rw [← yield_map, hslice] at hpiece
  -- the tokens moved back read the piece alone, and moved on again they are those of the whole text
  have hx' : TreeOf Token.terminal m.rule (x.map (Token.back a.start)) :=
    Derives.map (f := Token.back a.start) (fun _ => rfl) hx
  obtain ⟨m', hm', hnode⟩ := parse_of_tree hs hx' hpiece
  have hback : (x.map (Token.back a.start)).map (Token.moved a.start) = x := by
    rw [Tree.map_map]
    refine map_eq_self fun c hc => ?_
    have hle := hr.head_le (by rw [List.head?_append, ha]; rfl) c (List.mem_append_left v hc)
    exact Token.moved_back hle.1 hle.2
  have hmoved := Node.ofTree_moved (hslice ▸ List.take_prefix _ _ :
      Node.StandsAt a.start m.source.toList cs) (x.map (Token.back a.start))
    (fun c hc => (hpiece.bounds.2 c hc).2.2) (Nat.zero_le _)
  rw [hback, hnode] at hmoved
  have hnode' := h.node (0 + a.start)
  rw [hmoved] at hnode'
  exact ⟨m', hm', hstart ▸ (List.cons.inj hnode').1⟩

end Placed

/-- A node of a syntactic rule is that of a tree whose tokens stand side by side. -/
theorem exists_tree_within (h : parse start text = .ok n) {m : Node} (hm : m.Within n)
    (hs : grammar.isSyntactic m.rule = true) :
    ∃ x last u v, TreeOf Token.terminal m.rule x ∧ (Node.ofTree text.toList last x).1 = [m] ∧
      Reads Lexeme 0 text.toList (u ++ (x.yield ++ v)) text.toList.length [] := by
  obtain ⟨rule, hrule, hn⟩ := exists_start_of_parse_ok h
  obtain ⟨t, ht, hreads, hnode⟩ := exists_tree_of_parse hrule hn
  obtain ⟨x, last, u, v, hx, hxm, hyield⟩ := rooted_of_within sound_grammar text.toList ht trivial 0
    n (by rw [hnode]; exact List.mem_cons_self) m hm hs
  exact ⟨x, last, u, v, hx, hxm, hyield ▸ hreads⟩

/-- The text of an expression is matched again, by its rule and with the same bare node. -/
theorem parse_source (h : parse start text = .ok n) {m : Node} (hm : m.Within n)
    (hs : grammar.isSyntactic m.rule = true) (hp : m.rule ≠ "program") :
    ∃ m', parse m.rule m.source = .ok m' ∧ m'.bare = m.bare := by
  obtain ⟨x, last, u, v, hx, hxm, hreads⟩ := exists_tree_within h hm hs
  obtain ⟨m', hm', hmoved⟩ := (placed_of_exp hx hxm hp).exists_parse hs hx hreads
  exact ⟨m', hm', by rw [← hmoved, Node.bare_moved]⟩

theorem treeOf_program_iff {x : Tree Token Category} : TreeOf Token.terminal "program" x ↔
    ∃ l, ListTree Token.terminal ";" l ∧ x = branchOf "program" [l] := by
  simp [treeOf_iff, symbol]

theorem list_declared : grammar.declares (.listOf "exp" ";") = true := by rfl

/-- The tree of a program without statements. -/
def emptyProgram : Tree Token Category := branchOf "program" [.node (.list "exp" ";") []]

theorem treeOf_emptyProgram : TreeOf Token.terminal "program" emptyProgram :=
  treeOf_program_iff.2 ⟨_, derives_nonterminal_iff.2 ⟨⟨.list "exp" ";", []⟩,
    list_mem_productions list_declared (by simp [listProductions]), rfl, [], .nil, rfl⟩, rfl⟩

theorem ofTree_emptyProgram (cs : List Char) (last : Nat) :
    (Node.ofTree cs last emptyProgram).1 =
      [⟨"program", [⟨Node.iterationName, [], "", last, last⟩], "", last, last⟩] := by
  simp [emptyProgram, branchOf, Node.ofTree, Node.ofTrees, Node.spanning, Node.slice]

/-- A program without statements has no token that tells where it stands. -/
theorem exists_parse_empty {m : Node} {last : Nat} {cs : List Char}
    (hm : (Node.ofTree cs last emptyProgram).1 = [m]) :
    ∃ m', parse m.rule m.source = .ok m' ∧ m'.moved m.start = m := by
  have hyield : emptyProgram.yield = [] := by simp [emptyProgram, yield, yieldAll]
  have hreads : Reads Lexeme 0 "".toList emptyProgram.yield "".toList.length [] := by
    rw [hyield]
    exact .done 0 []
  obtain ⟨m', hm', hnode⟩ := parse_of_tree isSyntactic_program treeOf_emptyProgram hreads
  rw [ofTree_emptyProgram] at hm hnode
  obtain rfl := (List.cons.inj hm).1
  obtain rfl := (List.cons.inj hnode).1
  exact ⟨_, hm', by simp [Node.moved_eq]⟩

/-- The text of a node is matched again by its rule, and gives the node as it stands in the whole
text, counted from its own start. -/
theorem parse_source_moved (h : parse start text = .ok n) {m : Node} (hm : m.Within n)
    (hs : grammar.isSyntactic m.rule = true) :
    ∃ m', parse m.rule m.source = .ok m' ∧ m'.moved m.start = m := by
  obtain ⟨x, last, u, v, hx, hxm, hreads⟩ := exists_tree_within h hm hs
  by_cases hp : m.rule = "program"
  · -- only a program can be empty, and then no token tells where it stands
    obtain ⟨l, hl, rfl⟩ := treeOf_program_iff.1 (hp ▸ hx)
    obtain rfl | ⟨y, hy, rfl⟩ := listTree hl
    · exact exists_parse_empty hxm
    · exact (placed_of_items hy rfl hxm).exists_parse hs hx hreads
  · exact (placed_of_exp hx hxm hp).exists_parse hs hx hreads

theorem parse_source_moved_call :
    ∃ n m, parse "program" "1; f( )" = .ok n ∧ m.Within n ∧ grammar.isSyntactic m.rule = true ∧
      (m.rule, m.source, m.start) = ("exp", "f( )", 3) ∧
        ∃ m', parse "exp" "f( )" = .ok m' ∧ m'.moved 3 = m := by
  have hok : ((matcher.parseFrom "program" "1; f( )".toList).toOption.map fun n =>
      (n.children.flatMap (·.children))[1]?.map fun m => (m.rule, m.source, m.start)) =
        some (some ("exp", "f( )", 3)) := by
    decide +kernel
  obtain ⟨n, hn, hsecond⟩ := exists_parse_of_map isSyntactic_program hok
  obtain ⟨m, hm, hplace⟩ := Option.map_eq_some_iff.1 hsecond
  obtain ⟨list, hlist, hmem⟩ := List.mem_flatMap.1 (List.mem_of_getElem? hm)
  have hwithin : m.Within n := .child hlist (.child hmem (.self m))
  obtain ⟨hrule, hsource, hstart⟩ : m.rule = "exp" ∧ m.source = "f( )" ∧ m.start = 3 := by
    simpa using hplace
  have hs : grammar.isSyntactic m.rule = true := hrule ▸ isSyntactic_exp
  have hagain := parse_source_moved hn hwithin hs
  rw [hrule, hsource, hstart] at hagain
  exact ⟨n, m, hn, hwithin, hs, hplace, hagain⟩

/-! ## Programs -/

theorem length_everyOther {item separator : String} : ∀ {k : Nat} {ms : List Node},
    ms.length = (Item.repeated item separator k).length → (everyOther ms).length = k
  | 0, ms, h => by
    obtain rfl := List.length_eq_zero_iff.1 h
    rfl
  | 1, ms, h => by
    obtain ⟨m, rfl⟩ := List.length_eq_one_iff.1 h
    rfl
  | k + 2, [], h => by simp [Item.repeated] at h
  | k + 2, [_], h => by
    rw [Item.repeated, List.length_cons, List.length_cons] at h
    simp at h
  | k + 2, a :: b :: ms, h => by
    simp only [Item.repeated, List.length_cons, Nat.add_right_cancel_iff] at h
    simp only [everyOther, List.length_cons, length_everyOther h]

/-- The tree of a program of one expression. -/
theorem treeOf_single {x : Tree Token Category} (hx : TreeOf Token.terminal "exp" x) :
    TreeOf Token.terminal "program" (branchOf "program"
      [.node (.list "exp" ";") [.node (.items "exp" ";") [x]]]) := by
  have hitems : ItemsTree Token.terminal ";" (.node (.items "exp" ";") [x]) :=
    Tree.derives_nonterminal_iff.2 ⟨⟨.items "exp" ";", [reference "exp"]⟩,
      list_mem_productions list_declared (by simp [listProductions]), rfl, [x],
      by simpa [treeOf_ref] using hx, rfl⟩
  exact treeOf_program_iff.2 ⟨_, derives_nonterminal_iff.2 ⟨⟨.list "exp" ";",
    [.nonterminal (.items "exp" ";")]⟩, list_mem_productions list_declared (by simp [listProductions]),
    rfl, _, .cons hitems .nil, rfl⟩, rfl⟩

/-- An expression is a program of one statement. -/
theorem parse_exp_iff (text : String) : (∃ m, parse "exp" text = .ok m) ↔
    ∃ n list statement, parse "program" text = .ok n ∧ n.children = [list] ∧
      list.children = [statement] := by
  constructor
  · rintro ⟨m, hm⟩
    obtain ⟨x, hx, hreads, hnode⟩ := exists_tree_of_parse isSyntactic_exp hm
    obtain ⟨ts, -, hsp⟩ := accepts_of_parse_ok isSyntactic_exp hm
    have hterminal : m.isTerminal = false := by
      rw [Node.isTerminal, hsp.rule_eq_of_ref]
      rfl
    obtain ⟨n, hn, hprogram⟩ := parse_of_tree isSyntactic_program (treeOf_single hx)
      (by simpa using hreads)
    simp only [branchOf, Node.ofTree, Node.ofTrees, hnode, List.append_nil, List.cons.injEq,
      and_true] at hprogram
    subst hprogram
    exact ⟨_, _, m, hn, rfl, by simp [Node.spanning, hterminal]⟩
  · rintro ⟨n, list, statement, hn, hch, hlist⟩
    obtain ⟨ts, hreads, hsp⟩ := accepts_of_parse_ok isSyntactic_program hn
    obtain ⟨-, list', ms, k, hch', -, hlist', hms⟩ := program_cases hsp
    obtain rfl : list' = list := by
      rw [hch] at hch'
      exact (List.cons.inj hch').1.symm
    have hk : k = 1 := by
      rw [← length_everyOther hms.length_eq, ← hlist', hlist]
      rfl
    subst hk
    exact exists_parse_ok isSyntactic_exp hreads hms.derives

end Reckon.Arithmetic
