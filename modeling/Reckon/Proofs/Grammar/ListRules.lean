import Reckon.Match.Matcher
import Reckon.Proofs.Grammar.Derivation
import Reckon.Proofs.Grammar.Naming

/-!
# The rules that lists become

In the text of a grammar each list is a rule with a name of its own. `Search` looks for such a name with
no bound on the number of candidates, and `Naming` gives the lists their names one after another. Both
come to an end, with one outcome: the names that the grammar has (`naming_iff`).

A tree of the text tells rules and lists by their names alone, and `Node.ofNamed` makes a list of each
node that is named as one. Since no rule has such a name, this gives the nodes that the kinds of the
nonterminals give (`ofNamedAll_named`).
-/

namespace Reckon

open Cfg

/-- A name starts with a letter. -/
theorem RuleKind.IsName.exists_letter {k : RuleKind} {cs : List Char} (h : k.IsName cs) :
    ∃ c rest, cs = c :: rest ∧ k.isLetter c = true := by
  rcases h with ⟨c, rest, rfl, hc, -⟩ | ⟨_, ⟨c, rest, rfl, hc, -⟩, rfl⟩
  · exact ⟨c, rest, rfl, hc⟩
  · exact ⟨c, rest ++ ['\n'], rfl, hc⟩

namespace Grammar

variable {g : Grammar} {declared : List Rule} {name version start : String}

/-! ## Searching a name -/

/-- The search for a name of a list, which has come to the candidate with the given number: it goes on
as long as the candidates are taken. -/
inductive Search (taken : List String) (item : String) : Nat → String → Prop
  | found {k : Nat} (h : listCandidate item k ∉ taken) : Search taken item k (listCandidate item k)
  | next {k : Nat} {name : String} (h : listCandidate item k ∈ taken)
      (hnext : Search taken item (k + 1) name) : Search taken item k name

section Search

variable {taken : List String} {item : String} {k : Nat} {found other : String}

theorem Search.eq (h : Search taken item k found) (h' : Search taken item k other) :
    found = other := by
  induction h with
  | found hfree =>
    cases h' with
    | found => rfl
    | next htaken => exact absurd htaken hfree
  | next htaken _ ih =>
    cases h' with
    | found hfree => exact absurd htaken hfree
    | next _ hnext => exact ih hnext

/-- The search goes through the candidates up to the first that is free. -/
theorem search_freshListName (taken : List String) (item : String) :
    Search taken item 0 (freshListName taken item) := by
  obtain ⟨k, hk, hfree, htaken⟩ := freshListName_first taken item
  rw [hk]
  have hsearch : ∀ d ≤ k, Search taken item (k - d) (listCandidate item k) := by
    intro d
    induction d with
    | zero => exact fun _ => .found hfree
    | succ d ih =>
      intro hd
      refine .next (htaken _ (by omega)) ?_
      rw [show k - (d + 1) + 1 = k - d by omega]
      exact ih (by omega)
  simpa using hsearch k (Nat.le_refl k)

end Search

/-! ## Naming the lists -/

/-- From the names given so far and the lists still to come to the names of all: a list that has a name
keeps it, and another gets the one that a search finds. -/
inductive Naming (ruleNames : List String) :
    List (ListKey × String) → List ListKey → List (ListKey × String) → Prop
  | done {lists : List (ListKey × String)} : Naming ruleNames lists [] lists
  | named {lists all : List (ListKey × String)} {key : ListKey} {keys : List ListKey}
      (hkey : key ∈ lists.map (·.1)) (h : Naming ruleNames lists keys all) :
      Naming ruleNames lists (key :: keys) all
  | unnamed {lists all : List (ListKey × String)} {key : ListKey} {keys : List ListKey} {name : String}
      (hkey : key ∉ lists.map (·.1)) (hname : Search (ruleNames ++ lists.map (·.2)) key.1 0 name)
      (h : Naming ruleNames (lists ++ [(key, name)]) keys all) :
      Naming ruleNames lists (key :: keys) all

section Naming

variable {ruleNames : List String} {lists all : List (ListKey × String)} {key : ListKey}
  {keys : List ListKey}

theorem any_key_iff : lists.any (·.1 == key) = true ↔ key ∈ lists.map (·.1) := by
  simp only [List.any_eq_true, List.mem_map, beq_iff_eq]

theorem nameList_of_mem (h : key ∈ lists.map (·.1)) : nameList ruleNames lists key = lists :=
  if_pos (any_key_iff.2 h)

theorem nameList_of_notMem (h : key ∉ lists.map (·.1)) : nameList ruleNames lists key =
    lists ++ [(key, freshListName (ruleNames ++ lists.map (·.2)) key.1)] :=
  if_neg (mt any_key_iff.1 h)

theorem naming_iff : Naming ruleNames lists keys all ↔ all = keys.foldl (nameList ruleNames) lists := by
  constructor
  · intro h
    induction h with
    | done => rfl
    | named hkey _ ih => rw [List.foldl_cons, nameList_of_mem hkey, ih]
    | unnamed hkey hname _ ih =>
      rw [List.foldl_cons, nameList_of_notMem hkey, ih, hname.eq (search_freshListName _ _)]
  · rintro rfl
    induction keys generalizing lists with
    | nil => exact .done
    | cons key keys ih =>
      rw [List.foldl_cons]
      by_cases hkey : key ∈ lists.map (·.1)
      · rw [nameList_of_mem hkey]
        exact .named hkey ih
      · rw [nameList_of_notMem hkey]
        exact .unnamed hkey (search_freshListName _ _) ih

end Naming

/-! ## Nodes told by their names -/

/-- The name that a nonterminal has in the text of the grammar. The items of a list have none. -/
def nameOf? (g : Grammar) : Category → Option String
  | .rule name => some name
  | .list item separator => g.listName? (item, separator)
  | .items _ _ => none

mutual

/-- The tree with the names of its nonterminals; what has no name is put in a row. -/
def named (g : Grammar) : Tree Token Category → List (Tree Token String)
  | .leaf a => [.leaf a]
  | .node n ts =>
    match g.nameOf? n with
    | some name => [.node name (namedAll g ts)]
    | none => namedAll g ts

def namedAll (g : Grammar) : List (Tree Token Category) → List (Tree Token String)
  | [] => []
  | t :: ts => named g t ++ namedAll g ts

end

end Grammar

namespace Node

mutual

/-- The node of a tree with names, and the end of its last token: a list if it is named as one. -/
def ofNamed (text : List Char) (iterations : List String) (last : Nat) :
    Tree Token String → Node × Nat
  | .leaf a => (ofToken a, a.stop)
  | .node name ts =>
    let (parts, last) := ofNamedAll text iterations last ts
    if name ∈ iterations then
      (spanning text iterationName parts (parts.filter (!·.isTerminal)) last, last)
    else (spanning text name parts parts last, last)

def ofNamedAll (text : List Char) (iterations : List String) (last : Nat) :
    List (Tree Token String) → List Node × Nat
  | [] => ([], last)
  | t :: ts =>
    let (n, last) := ofNamed text iterations last t
    let (ns, last) := ofNamedAll text iterations last ts
    (n :: ns, last)

end

variable {text : List Char} {iterations : List String}

theorem ofNamedAll_singleton (last : Nat) (t : Tree Token String) :
    ofNamedAll text iterations last [t] =
      ([(ofNamed text iterations last t).1], (ofNamed text iterations last t).2) := rfl

theorem ofNamedAll_append (ts us : List (Tree Token String)) (last : Nat) :
    ofNamedAll text iterations last (ts ++ us) =
      ((ofNamedAll text iterations last ts).1 ++
          (ofNamedAll text iterations (ofNamedAll text iterations last ts).2 us).1,
        (ofNamedAll text iterations (ofNamedAll text iterations last ts).2 us).2) := by
  induction ts generalizing last with
  | nil => rfl
  | cons t ts ih => simp only [List.cons_append, ofNamedAll, ih]

theorem rule_ofNamed_of_notMem {name : String} (h : name ∉ iterations) (last : Nat)
    (ts : List (Tree Token String)) :
    (ofNamed text iterations last (.node name ts)).1.rule = name := by
  simp [ofNamed, h, spanning]

end Node

namespace Grammar

variable {g : Grammar} {declared : List Rule} {name version start : String}

theorem exists_listName {l : ListKey × String} (hl : l ∈ g.lists) :
    ∃ name ∈ g.listNames, g.listName? l.1 = some name := by
  have hfound : (g.lists.find? (·.1 == l.1)).isSome :=
    List.find?_isSome.2 ⟨l, hl, beq_self_eq_true _⟩
  obtain ⟨m, hm⟩ := Option.isSome_iff_exists.1 hfound
  exact ⟨m.2, List.mem_map_of_mem (List.mem_of_find?_eq_some hm),
    by rw [listName?, hm, Option.map_some]⟩

/-- A use of a production makes the same node by the name of its left side as by its kind. -/
theorem ofNamedAll_node (hg : ∀ r ∈ g.rules, r.name ∉ g.listNames) (text : List Char)
    {p : Production Terminal Category} (hp : p ∈ g.productions) {ts : List (Tree Token Category)}
    {last : Nat}
    (ih : Node.ofNamedAll text g.listNames last (g.namedAll ts) = Node.ofTrees text last ts) :
    Node.ofNamedAll text g.listNames last (g.named (.node p.lhs ts)) =
      Node.ofTree text last (.node p.lhs ts) := by
  rcases mem_productions.1 hp with ⟨r, hr, -, a, -, rfl⟩ | ⟨⟨⟨item, separator⟩, n⟩, hl, hp⟩
  · simp only [named, nameOf?, Node.ofNamedAll_singleton, Node.ofNamed, ih, if_neg (hg r hr),
      Node.ofTree]
  · obtain ⟨listName, hmem, hname⟩ := exists_listName hl
    have hlist : Node.ofNamedAll text g.listNames last (g.named (.node (.list item separator) ts)) =
        Node.ofTree text last (.node (.list item separator) ts) := by
      simp only [named, nameOf?, hname, Node.ofNamedAll_singleton, Node.ofNamed, ih, if_pos hmem,
        Node.ofTree]
    have hitems : Node.ofNamedAll text g.listNames last (g.named (.node (.items item separator) ts)) =
        Node.ofTree text last (.node (.items item separator) ts) := by
      simp only [named, nameOf?, ih, Node.ofTree]
    simp only [listProductions, List.mem_cons, List.not_mem_nil, or_false] at hp
    rcases hp with rfl | rfl | rfl | rfl
    · exact hlist
    · exact hlist
    · exact hitems
    · exact hitems

mutual

theorem ofNamedAll_named (hg : ∀ r ∈ g.rules, r.name ∉ g.listNames) (text : List Char)
    {s : Cfg.Symbol Terminal Category} {t : Tree Token Category} :
    Tree.Derives g.productions Token.terminal s t → ∀ last,
      Node.ofNamedAll text g.listNames last (g.named t) = Node.ofTree text last t
  | .leaf a, last => rfl
  | .node hp hts, last => ofNamedAll_node hg text hp (ofNamedAll_namedAll hg text hts last)

theorem ofNamedAll_namedAll (hg : ∀ r ∈ g.rules, r.name ∉ g.listNames) (text : List Char)
    {ss : List (Cfg.Symbol Terminal Category)} {ts : List (Tree Token Category)} :
    Tree.DerivesAll g.productions Token.terminal ss ts → ∀ last,
      Node.ofNamedAll text g.listNames last (g.namedAll ts) = Node.ofTrees text last ts
  | .nil, last => rfl
  | .cons h hs, last => by
    rw [namedAll, Node.ofNamedAll_append, ofNamedAll_named hg text h last,
      ofNamedAll_namedAll hg text hs, Node.ofTrees]

end

/-! ## Accepted grammars -/

section Built

variable (h : build name version declared start = .ok g)

include h

theorem name_notMem_listNames : ∀ r ∈ g.rules, r.name ∉ g.listNames := by
  intro r hr hmem
  exact (List.nodup_append.1 (named_of_build h).nodup).2.2 _ (List.mem_map_of_mem hr) _ hmem rfl

theorem name_ne_iterationName : ∀ r ∈ g.rules, r.name ≠ Node.iterationName := by
  intro r hr hname
  have hmem : r.name ∈ declared.flatMap Rule.names := ruleNames_of_build h ▸ List.mem_map_of_mem hr
  obtain ⟨c, cs, hcs, hc⟩ := ((exists_build_iff.1 ⟨g, h⟩).isName _ hmem).exists_letter
  rw [hname] at hcs hc
  obtain ⟨rfl, -⟩ := List.cons.inj hcs
  exact absurd hc (by decide)

/-- A list that occurs in the rules has one name. -/
theorem existsUnique_listName {item separator : String} (hr : ∃ r ∈ g.rules, ∃ a ∈ r.alternatives,
    .listOf item separator ∈ a.body) : ∃! name, ((item, separator), name) ∈ g.lists := by
  have hnamed := named_of_build h
  obtain ⟨⟨key, name⟩, hl, hkey⟩ := List.mem_map.1 ((hnamed.mem_keys _).2 (mem_listItems.2 hr))
  obtain rfl : key = (item, separator) := hkey
  refine ⟨name, hl, fun other hother => ?_⟩
  exact congrArg Prod.snd (List.inj_on_of_nodup_map hnamed.nodup_keys hother hl rfl)

end Built

/-- In an accepted grammar the search ends for each list, and leads to the names that the lists have.
These differ from each other and from the names of all rules, each list that occurs in the rules has
one, and no other has any. So the grammar has a text, and told by its name no node of a rule is taken
for a list. -/
theorem list_names_fresh (h : build name version declared start = .ok g) :
    (∀ lists, Naming g.ruleNames [] (listItems g.rules) lists ↔ lists = g.lists) ∧
    (declared.flatMap Rule.names ++ g.listNames).Nodup ∧
    (∀ item separator, (∃ r ∈ g.rules, ∃ a ∈ r.alternatives, .listOf item separator ∈ a.body) →
      ∃! name, ((item, separator), name) ∈ g.lists) ∧
    (∀ item separator name, ((item, separator), name) ∈ g.lists →
      ∃ r ∈ g.rules, ∃ a ∈ r.alternatives, .listOf item separator ∈ a.body) ∧
    (∃ text, g.render? = some text) ∧
    (∀ r ∈ g.rules, r.name ≠ Node.iterationName ∧ ∀ text last ts,
      (Node.ofNamed text g.listNames last (.node r.name ts)).1.rule = r.name) ∧
    ∀ text s t, Tree.Derives g.productions Token.terminal s t → ∀ last,
      Node.ofNamedAll text g.listNames last (g.named t) = Node.ofTree text last t := by
  have hnamed := named_of_build h
  obtain ⟨_, -, hrender⟩ := exists_render h
  refine ⟨fun lists => ?_, ?_, fun item separator => existsUnique_listName h,
    fun item separator name hl => mem_listItems.1 ((hnamed.mem_keys _).1 (List.mem_map_of_mem hl)),
    ⟨_, hrender⟩, fun r hr => ⟨name_ne_iterationName h r hr, fun text last ts =>
      Node.rule_ofNamed_of_notMem (name_notMem_listNames h r hr) last ts⟩,
    fun text s t ht => ofNamedAll_named (name_notMem_listNames h) text ht⟩
  · rw [naming_iff, (rules_of_build h).1]
    rfl
  · rw [← ruleNames_of_build h]
    exact hnamed.nodup

/-- Pairs of items with two separators, where a label and a rule take the first names that a list of
these items would get. -/
def pairLines : List Rule := [
  { name := "line", alternatives := [{ body := [.listOf "x" ",", .listOf "x" ";"] }] },
  { name := "x", alternatives := [{ body := [.ref "WORD"], label := some "list" }] },
  { name := "x_list2", alternatives := [{ body := [.ref "WORD"] }] },
  { name := "WORD", alternatives := [{ body := [.pattern "[a-z]+"] }] }]

theorem list_names_fresh_pairLines :
    ∃ g, build "Pairs" "1" pairLines "line" = .ok g ∧
      g.lists = [(("x", ","), "x_list3"), (("x", ";"), "x_list4")] ∧
      (∀ ts, (Node.ofNamed [] g.listNames 0 (.node "x_list" ts)).1.rule = "x_list") ∧
      Node.ofNamedAll [] g.listNames 0 (g.named (.node (.list "x" ";") [])) =
        ([⟨Node.iterationName, [], "", 0, 0⟩], 0) := by
  have hbuild : build "Pairs" "1" pairLines "line" = .ok (assemble "Pairs" "1" pairLines "line") := by
    rfl
  have hlists : (assemble "Pairs" "1" pairLines "line").lists =
      [(("x", ","), "x_list3"), (("x", ";"), "x_list4")] := by rfl
  have hrule : ⟨"x_list", [⟨[.ref "WORD"], none⟩], none⟩ ∈
      (assemble "Pairs" "1" pairLines "line").rules :=
    List.mem_cons_of_mem _ (List.mem_cons_of_mem _ List.mem_cons_self)
  have hempty : (⟨.list "x" ";", []⟩ : Production Terminal Category) ∈
      (assemble "Pairs" "1" pairLines "line").productions :=
    mem_productions.2 (.inr ⟨(("x", ";"), "x_list4"), by simp [hlists], List.mem_cons_self⟩)
  obtain ⟨-, -, -, -, -, hrules, hnode⟩ := list_names_fresh hbuild
  exact ⟨_, hbuild, hlists, (hrules _ hrule).2 [] 0, hnode [] _ _ (.node hempty .nil) 0⟩

end Grammar

end Reckon
