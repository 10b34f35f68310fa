import Reckon.Match.Matcher
import Reckon.Proofs.Cfg.Language

/-!
# What the rules of a grammar derive

`Derives` says which words of terminals a row of items derives, straight from the rules: a reference
to a lexical rule is a token, one to a syntactic rule derives what one of its alternatives does, and
a list derives any number of its items with the separator between them.

Where all names are declared (`Sound`), the productions generate no less
(`Derives.generates`). That they generate no more is shown by way of the syntax trees.
-/

namespace Reckon

open Cfg

/-- A row of `k` items with the separator between them. -/
def Item.repeated (item separator : String) : Nat → List Item
  | 0 => []
  | 1 => [.ref item]
  | k + 2 => .ref item :: .lit separator :: repeated item separator (k + 1)

theorem Item.repeated_succ_succ (item separator : String) :
    ∀ k, repeated item separator (k + 2)
      = repeated item separator (k + 1) ++ [.lit separator, .ref item]
  | 0 => rfl
  | k + 1 => congrArg (fun is => Item.ref item :: Item.lit separator :: is)
      (repeated_succ_succ item separator k)

theorem Item.mem_repeated {item separator : String} {i : Item} :
    ∀ {k}, i ∈ repeated item separator k → i = .ref item ∨ i = .lit separator
  | 0, h => absurd h List.not_mem_nil
  | 1, h => .inl (List.mem_singleton.1 h)
  | k + 2, h => by
    rcases List.mem_cons.1 h with rfl | h
    · exact .inl rfl
    rcases List.mem_cons.1 h with rfl | h
    · exact .inr rfl
    exact mem_repeated h

namespace Grammar

variable {g : Grammar}

/-- By the rules of the grammar the row of items derives the word. -/
inductive Derives (g : Grammar) : List Item → List Terminal → Prop
  | nil : Derives g [] []
  | lit (text : String) {is : List Item} {w : List Terminal} (h : Derives g is w) :
      Derives g (.lit text :: is) (.literal text :: w)
  | lexical {name : String} {is : List Item} {w : List Terminal} (hn : name ∈ g.lexicalNames)
      (h : Derives g is w) : Derives g (.ref name :: is) (.lexical name :: w)
  | rule {r : Rule} {a : Alternative} {is : List Item} {u w : List Terminal} (hr : r ∈ g.rules)
      (hs : r.isLexical = false) (ha : a ∈ r.alternatives) (hu : Derives g a.body u)
      (h : Derives g is w) : Derives g (.ref r.name :: is) (u ++ w)
  | list {item separator : String} (k : Nat) {is : List Item} {u w : List Terminal}
      (hu : Derives g (Item.repeated item separator k) u) (h : Derives g is w) :
      Derives g (.listOf item separator :: is) (u ++ w)

theorem Derives.append {is js : List Item} {u w : List Terminal} (h : g.Derives is u)
    (h' : g.Derives js w) : g.Derives (is ++ js) (u ++ w) := by
  induction h with
  | nil => exact h'
  | lit text _ ih => exact .lit text ih
  | lexical hn _ ih => exact .lexical hn ih
  | rule hr hs ha hu _ _ ih =>
    rw [List.append_assoc]
    exact .rule hr hs ha hu ih
  | list k hu _ _ ih =>
    rw [List.append_assoc]
    exact .list k hu ih

/-- The word is the beginning of a word that the rule derives. -/
def Continues (g : Grammar) (start : String) (w : List Terminal) : Prop :=
  ∃ v, g.Derives [.ref start] (w ++ v)

/-! ## Declared names -/

/-- May the item stand in a syntactic rule? -/
def declares (g : Grammar) : Item → Bool
  | .ref name => g.contains name
  | .lit _ => true
  | .pattern _ => false
  | .listOf item separator => g.contains item && (g.lists.map (·.1)).contains (item, separator)

/-- All names are declared, in the rules and in the lists, and no rule has the name of the literals
or of the lists. -/
structure Sound (g : Grammar) : Prop where
  names : ∀ r ∈ g.rules, r.name ≠ Node.terminalName ∧ r.name ≠ Node.iterationName
  rules : ∀ r ∈ g.rules, r.isLexical = false → ∀ a ∈ r.alternatives, ∀ i ∈ a.body,
    g.declares i = true
  lists : ∀ l ∈ g.lists, g.declares (.listOf l.1.1 l.1.2) = true

theorem exists_of_isSyntactic {name : String} (h : g.isSyntactic name = true) :
    ∃ r ∈ g.rules, r.name = name ∧ r.isLexical = false := by
  rw [isSyntactic] at h
  split at h
  · rename_i r hr
    have hname : (r.name == name) = true := List.find?_some (p := fun r : Rule => r.name == name) hr
    exact ⟨r, List.mem_of_find?_eq_some hr, eq_of_beq hname, by simpa using h⟩
  · cases h

theorem exists_rule_of_contains {name : String} (h : g.contains name = true) :
    ∃ r ∈ g.rules, r.name = name := by
  obtain ⟨r, hr, hn⟩ := List.any_eq_true.1 h
  exact ⟨r, hr, eq_of_beq hn⟩

theorem mem_lexicalNames {name : String} :
    name ∈ g.lexicalNames ↔ g.contains name = true ∧ RuleKind.ofName name = .lexical := by
  simp only [lexicalNames, List.mem_map, List.mem_filter, Rule.isLexical, Rule.kind, beq_iff_eq,
    contains, List.any_eq_true]
  constructor
  · rintro ⟨r, ⟨hr, hk⟩, rfl⟩
    exact ⟨⟨r, hr, rfl⟩, hk⟩
  · rintro ⟨⟨r, hr, rfl⟩, hk⟩
    exact ⟨r, ⟨hr, hk⟩, rfl⟩

theorem reference_of_lexical {name : String} (h : name ∈ g.lexicalNames) :
    reference name = .terminal (.lexical name) := by
  rw [reference, (mem_lexicalNames.1 h).2]

theorem reference_of_syntactic {r : Rule} (h : r.isLexical = false) :
    reference r.name = .nonterminal (.rule r.name) := by
  have hk : RuleKind.ofName r.name ≠ .lexical := fun hk => by
    rw [Rule.isLexical, Rule.kind, hk] at h
    cases h
  rw [reference]
  rcases hn : RuleKind.ofName r.name with _ | _
  · rfl
  · exact absurd hn hk

theorem declares_ref_of_listOf {item separator : String}
    (h : g.declares (.listOf item separator) = true) : g.declares (.ref item) = true := by
  simp only [declares, Bool.and_eq_true] at h ⊢
  exact h.1

theorem mem_lists_of_declares {item separator : String}
    (h : g.declares (.listOf item separator) = true) : ∃ l ∈ g.lists, l.1 = (item, separator) := by
  simp only [declares, Bool.and_eq_true, List.contains_iff_mem] at h
  exact List.mem_map.1 h.2

/-! ## Productions -/

theorem mem_productions {p : Production Terminal Category} :
    p ∈ g.productions ↔
      (∃ r ∈ g.rules, r.isLexical = false ∧
        ∃ a ∈ r.alternatives, p = ⟨.rule r.name, a.body.map symbol⟩) ∨
      ∃ l ∈ g.lists, p ∈ listProductions l.1 := by
  simp only [productions, List.mem_append, List.mem_flatMap, List.mem_filter, ruleProductions,
    List.mem_map, Bool.not_eq_true', and_assoc, eq_comm (a := p)]

theorem rule_mem_productions {r : Rule} {a : Alternative} (hr : r ∈ g.rules)
    (hs : r.isLexical = false) (ha : a ∈ r.alternatives) :
    (⟨.rule r.name, a.body.map symbol⟩ : Production Terminal Category) ∈ g.productions :=
  mem_productions.2 (.inl ⟨r, hr, hs, a, ha, rfl⟩)

section Lists

variable {item separator : String}

theorem list_mem_productions (hi : g.declares (.listOf item separator) = true)
    {p : Production Terminal Category} (hp : p ∈ listProductions (item, separator)) :
    p ∈ g.productions := by
  obtain ⟨l, hl, he⟩ := mem_lists_of_declares hi
  exact mem_productions.2 (.inr ⟨l, hl, he ▸ hp⟩)

theorem generates_items_one (hi : g.declares (.listOf item separator) = true) {x : List Terminal}
    (hx : Generates g.productions [reference item] x) :
    Generates g.productions [.nonterminal (.items item separator)] x :=
  .of_production (list_mem_productions hi (List.mem_cons_of_mem _
    (List.mem_cons_of_mem _ List.mem_cons_self))) hx

theorem generates_items_more (hi : g.declares (.listOf item separator) = true)
    {u x : List Terminal} (hu : Generates g.productions [.nonterminal (.items item separator)] u)
    (hx : Generates g.productions [.terminal (.literal separator), reference item] x) :
    Generates g.productions [.nonterminal (.items item separator)] (u ++ x) :=
  .of_production (list_mem_productions hi (List.mem_cons_of_mem _ (List.mem_cons_of_mem _
    (List.mem_cons_of_mem _ List.mem_cons_self)))) (hu.append hx)

/-- A row of items goes on with a separator and further items. -/
theorem generates_items_append (hi : g.declares (.listOf item separator) = true) :
    ∀ (k : Nat) {u v : List Terminal},
      Generates g.productions [.nonterminal (.items item separator)] u →
      Generates g.productions
        (.terminal (.literal separator) :: (Item.repeated item separator (k + 1)).map symbol) v →
      Generates g.productions [.nonterminal (.items item separator)] (u ++ v)
  | 0, u, v, hu, hv => generates_items_more hi hu hv
  | k + 1, u, v, hu, hv => by
    rw [Item.repeated, List.map_cons, ← List.singleton_append, List.append_cons] at hv
    obtain ⟨x, y, rfl, hx, hy⟩ := hv.exists_of_append
    rw [← List.append_assoc]
    exact generates_items_append hi k (generates_items_more hi hu hx) hy

theorem generates_list (hi : g.declares (.listOf item separator) = true) {u : List Terminal} :
    ∀ (k : Nat), Generates g.productions ((Item.repeated item separator k).map symbol) u →
      Generates g.productions [.nonterminal (.list item separator)] u
  | 0, hu => .of_production (list_mem_productions hi List.mem_cons_self) hu
  | k + 1, hu => by
    refine .of_production (list_mem_productions hi
      (List.mem_cons_of_mem _ List.mem_cons_self)) ?_
    rcases k with _ | k
    · exact generates_items_one hi hu
    · rw [Item.repeated, List.map_cons, ← List.singleton_append] at hu
      obtain ⟨x, y, rfl, hx, hy⟩ := hu.exists_of_append
      exact generates_items_append hi k (generates_items_one hi hx) hy

end Lists

/-- What the rules derive, the productions generate. -/
theorem Derives.generates (hg : g.Sound) {is : List Item} {w : List Terminal}
    (h : g.Derives is w) (his : ∀ i ∈ is, g.declares i = true) :
    Generates g.productions (is.map symbol) w := by
  induction h with
  | nil => exact .nil
  | lit text _ ih => exact .terminal _ (ih (List.forall_mem_cons.1 his).2)
  | lexical hn _ ih =>
    rw [List.map_cons, symbol, reference_of_lexical hn]
    exact .terminal _ (ih (List.forall_mem_cons.1 his).2)
  | rule hr hs ha _ _ ihu ih =>
    rw [List.map_cons, symbol, reference_of_syntactic hs]
    exact .nonterminal (rule_mem_productions hr hs ha) (ihu (hg.rules _ hr hs _ ha))
      (ih (List.forall_mem_cons.1 his).2)
  | list k _ _ ihu ih =>
    obtain ⟨hi, his⟩ := List.forall_mem_cons.1 his
    rw [List.map_cons, ← List.singleton_append]
    refine (generates_list hi k (ihu fun i hi' => ?_)).append (ih his)
    rcases Item.mem_repeated hi' with rfl | rfl
    · exact declares_ref_of_listOf hi
    · rfl

end Grammar

end Reckon
