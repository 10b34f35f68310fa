import Reckon.Operation.Definition
import Reckon.Proofs.Grammar.WellFormed
import Reckon.Proofs.Operation.Served

/-!
# What the check of a definition is good for

A definition passes the check against its grammar if its public methods are named as the rules are
and each takes as many children as its rule has (`Suits`, `checkAgainst_eq_ok_iff`). The check goes
through the methods by name and an operation in use registers them by rule; both find the same. So
an operation of a checked definition has an action for every node of a rule, and a visit does not
miss one as long as no literal is visited (`check_suffices`).
-/

namespace Reckon

variable {β σ α : Type}

namespace Definition

variable {d : Definition β} {g : Grammar} {name : String} {a : Action β}

/-! ## Public methods -/

theorem mem_names_lastOfEach {ms : List (String × Action β)} :
    name ∈ (lastOfEach ms).map (·.1) → name ∈ ms.map (·.1) := by
  induction ms with
  | nil => exact id
  | cons m ms ih =>
    rw [lastOfEach]
    split
    · exact fun h => List.mem_cons_of_mem _ (ih h)
    · intro h
      rcases List.mem_cons.1 h with rfl | h
      · exact List.mem_cons_self
      · exact List.mem_cons_of_mem _ (ih h)

theorem nodup_lastOfEach (ms : List (String × Action β)) :
    ((lastOfEach ms).map (·.1)).Nodup := by
  induction ms with
  | nil => exact List.nodup_nil
  | cons m ms ih =>
    rw [lastOfEach]
    split
    · exact ih
    · rename_i hm
      refine List.nodup_cons.2 ⟨fun h => hm ?_, ih⟩
      obtain ⟨p, hp, hpm⟩ := List.mem_map.1 (mem_names_lastOfEach h)
      exact List.any_eq_true.2 ⟨p, hp, beq_iff_eq.2 hpm⟩

theorem nodup_publicMethods (d : Definition β) : (d.publicMethods.map (·.1)).Nodup :=
  (nodup_lastOfEach d.methods).sublist (List.filter_sublist.map _)

/-- The definition has a public method of the name. -/
def Offers (d : Definition β) (name : String) (a : Action β) : Prop :=
  isPublic name = true ∧ d.method? name = some a

theorem mem_publicMethods : (name, a) ∈ d.publicMethods ↔ d.Offers name a := by
  rw [publicMethods, List.mem_filter, ← lookup_eq_some_iff (nodup_lastOfEach d.methods), Offers,
    method?]
  cases d.attributes.contains name <;> simp [and_comm]

theorem mem_actions : (name, a) ∈ d.actions ↔ d.Offers name a := by
  rw [actions, List.mem_mergeSort, mem_publicMethods]

theorem nodup_actions (d : Definition β) : (d.actions.map (·.1)).Nodup :=
  ((List.mergeSort_perm d.publicMethods _).map _).nodup_iff.2 d.nodup_publicMethods

/-! ## The check -/

/-- The public methods are named as the rules are, and take as many children as these have. -/
structure Suits (d : Definition β) (g : Grammar) : Prop where
  names : ∀ name, (∃ a, d.Offers name a) ↔ name ∈ g.ruleNames
  takes : ∀ name a, d.Offers name a → a.Takes (g.arity name)

theorem registerMethods_eq_ok_iff {owner : String} {r r' : Registry β}
    {l : List (String × Action β)} :
    registerMethods owner r l = .ok r' ↔ r.registerAll l = .ok r' := by
  induction l generalizing r with
  | nil => rfl
  | cons p l ih =>
    obtain ⟨rule, a⟩ := p
    rw [registerMethods, Registry.registerAll]
    split
    · rename_i hrule
      simp only [reduceCtorEq, false_iff, bind_eq_ok_iff, Registry.register_eq_ok_iff]
      rintro ⟨r₁, ⟨hmem, -⟩, -⟩
      simp [Grammar.contains_iff.2 hmem] at hrule
    · simp only [bind_eq_ok_iff, ih]

theorem checkAgainst_eq_ok_iff : d.checkAgainst g = .ok () ↔ d.Suits g := by
  simp only [checkAgainst, bind_eq_ok_iff, registerMethods_eq_ok_iff,
    Registry.registerAll_empty_eq_ok_iff, Registry.checkComplete_eq_ok_iff]
  constructor
  · rintro ⟨_, ⟨hfits, -, rfl⟩, hcomplete⟩
    refine ⟨fun name => ⟨fun ⟨a, ha⟩ => (hfits _ (mem_actions.2 ha)).1, fun hname => ?_⟩,
      fun name a ha => (hfits _ (mem_actions.2 ha)).2⟩
    obtain ⟨⟨name, a⟩, hp, rfl⟩ := List.mem_map.1 (hcomplete name hname)
    exact ⟨a, mem_actions.1 hp⟩
  · intro h
    refine ⟨_, ⟨fun p hp => ⟨?_, h.takes _ _ (mem_actions.1 hp)⟩, d.nodup_actions, rfl⟩,
      fun rule hrule => ?_⟩
    · exact (h.names p.1).1 ⟨p.2, mem_actions.1 hp⟩
    · obtain ⟨a, ha⟩ := (h.names rule).2 hrule
      exact List.mem_map.2 ⟨(rule, a), mem_actions.2 ha, rfl⟩

theorem check_eq_ok_iff (hd : d.grammar = some g) (hb : d.broken = []) :
    d.check = .ok () ↔ d.Suits g := by
  simp [check, hd, hb, mapError_eq_ok_iff, checkAgainst_eq_ok_iff]

/-! ## Operations in use -/

theorem mem_rowOfRules {p : String × Action β} (h : p ∈ d.rowOfRules g) :
    p.1 ∈ g.ruleNames ∧ d.Offers p.1 p.2 := by
  obtain ⟨rule, hrule, hp⟩ := List.mem_filterMap.1 h
  obtain ⟨a, ha, rfl⟩ := Option.map_eq_some_iff.1 hp
  exact ⟨hrule, mem_publicMethods.1 (mem_of_lookup ha)⟩

theorem Suits.names_rowOfRules (h : d.Suits g) :
    (⟨g, d.rowOfRules g⟩ : Registry β).names = g.ruleNames := by
  rw [Registry.names, rowOfRules, List.map_filterMap]
  -- no rule is passed over
  refine (List.filterMap_congr fun rule hrule => ?_).trans List.filterMap_some
  obtain ⟨a, ha⟩ := (h.names rule).2 hrule
  rw [lookup_of_mem d.nodup_publicMethods (mem_publicMethods.2 ha)]
  rfl

theorem Suits.registryFor_eq (h : d.Suits g) (hg : g.ruleNames.Nodup) :
    d.registryFor g = .ok ⟨g, d.rowOfRules g⟩ := by
  have hall : (⟨g, []⟩ : Registry β).registerAll (d.rowOfRules g) = .ok ⟨g, d.rowOfRules g⟩ := by
    rw [← h.names_rowOfRules] at hg
    refine Registry.registerAll_empty_eq_ok_iff.2 ⟨fun p hp => ?_, hg, rfl⟩
    obtain ⟨hrule, ha⟩ := mem_rowOfRules hp
    exact ⟨hrule, h.takes _ _ ha⟩
  have hcomplete : (⟨g, d.rowOfRules g⟩ : Registry β).checkComplete = .ok () :=
    Registry.checkComplete_eq_ok_iff.2 fun rule hrule => by rwa [h.names_rowOfRules]
  rw [registryFor, hall]
  simp only [bind, Except.bind, hcomplete, pure, Except.pure]

theorem Suits.instantiate_eq (h : d.Suits g) (hg : g.ruleNames.Nodup)
    (hfree : ∀ rule ∈ occupied, rule ∉ g.ruleNames) (hd : d.grammar = some g) (hb : d.broken = []) :
    d.instantiate = .ok ⟨g, d.rowOfRules g⟩ := by
  have hnone : g.ruleNames.find? occupied.contains = none :=
    List.find?_eq_none.2 fun rule hrule ho => hfree rule (List.contains_iff_mem.1 ho) hrule
  simp only [instantiate, hd, hb, hnone, h.registryFor_eq hg, List.contains_nil,
    Bool.false_eq_true, if_false]
  rfl

/-! ## What follows from the check -/

/-- A definition passes the check if and only if its methods suit the grammar. Then it can be put
to use, and finds for each node of a rule an action that takes the children of the node, so a visit
does not end in an error of the registry unless a literal is visited. -/
theorem check_suffices {name version start : String} {declared : List Rule} {g : Grammar}
    (hg : Grammar.build name version declared start = .ok g)
    (hfree : ∀ rule ∈ occupied, rule ∉ g.ruleNames) {d : Definition (Body σ α)}
    (hd : d.grammar = some g) (hb : d.broken = []) :
    (d.check = .ok () ↔ d.Suits g) ∧ (d.check = .ok () → ∀ ofList maxDepth, ∃ op,
      d.operation ofList maxDepth = .ok op ∧
        ∀ tree : Node, (∀ n : Node, n.Within tree → g.Regular n) →
          (∀ n : Node, n.Within tree → n.isIteration = false → n.isTerminal = false →
            ∃ a, op.registry.dispatch n.rule = .ok a ∧ a.Takes n.children.length) ∧
          (d.ownVisit? = none → tree.isTerminal = false → op.SkipsLiterals tree →
            (d.visit op tree).Served)) := by
  refine ⟨check_eq_ok_iff hd hb, fun hcheck ofList maxDepth => ?_⟩
  have hsuits := (check_eq_ok_iff hd hb).1 hcheck
  have hr : ∀ rule ∈ g.ruleNames, rule ∈ (⟨g, d.rowOfRules g⟩ : Registry (Body σ α)).names :=
    fun rule hrule => by rwa [hsuits.names_rowOfRules]
  refine ⟨⟨⟨g, d.rowOfRules g⟩, ofList, maxDepth⟩, ?_, fun tree htree => ⟨fun n hn hi hl => ?_,
    fun hv hl hs => ?_⟩⟩
  · rw [operation, hsuits.instantiate_eq (Grammar.nodup_of_build hg) hfree hd hb]
    rfl
  · obtain ⟨hrule, harity⟩ := (htree n hn).rule hi hl
    obtain ⟨a, ha⟩ := Registry.exists_dispatch (hr _ hrule)
    exact ⟨a, ha, harity ▸ hsuits.takes _ _ (mem_rowOfRules (Registry.mem_of_dispatch ha)).2⟩
  · rw [visit, hv]
    exact (Operation.served_branch hr tree htree hs).visited (by rwa [Operation.branch_node])

/-! ### The lengths of pairs -/

def pairRules : List Rule := [
  { name := "pair", alternatives := [{ body := [.ref "NUM", .lit ",", .ref "NUM"] }] },
  { name := "NUM", alternatives := [{ body := [.pattern "[0-9]+"] }] }]

def pairGrammar : Grammar := .assemble "Pairs" "1" pairRules "pair"

def addPair : Body Unit Nat
  | _, [a, _, b] => do
    let x ← a.visit
    let y ← b.visit
    return x + y
  | n, _ => Visit.fail (.malformed n.rule)

def ofNumber : Action (Body Unit Nat) := .ofArity "NUM" 0 fun n _ => pure n.source.length

/-- The action of a pair has an option besides. -/
def ofPair : Action (Body Unit Nat) :=
  ⟨(List.replicate 5 (.plain "p")) ++ [⟨"log", .keywordOnly, true⟩], "pair", addPair⟩

/-- One method is private and takes any arguments, and one is hidden by an attribute. -/
def pairLength : Definition (Body Unit Nat) where
  name := "PairLength"
  grammar := some pairGrammar
  methods := [("_add", ⟨[⟨"args", .rest, false⟩], "_add", addPair⟩), ("NUM", ofNumber),
    ("limit", ofPair), ("pair", ofPair)]
  attributes := ["limit"]

theorem suits_pairLength : pairLength.Suits pairGrammar := by
  have hpublic : pairLength.publicMethods = [("NUM", ofNumber), ("pair", ofPair)] := by rfl
  have hoffers (name : String) (a : Action (Body Unit Nat)) : pairLength.Offers name a ↔
      name = "NUM" ∧ a = ofNumber ∨ name = "pair" ∧ a = ofPair := by
    rw [← mem_publicMethods, hpublic]
    simp
  refine ⟨fun name => ?_, fun name a h => ?_⟩
  · rw [show pairGrammar.ruleNames = ["pair", "NUM"] by rfl]
    simp [hoffers, exists_or, or_comm]
  · obtain ⟨rfl, rfl⟩ | ⟨rfl, rfl⟩ := (hoffers _ _).1 h
    · exact Action.arity_eq_ok_iff.1 (by rfl)
    · exact Action.arity_eq_ok_iff.1 (by rfl)

def pairTree : Node :=
  ⟨"pair", [⟨"NUM", [], "1", 0, 1⟩, ⟨Node.terminalName, [], ",", 1, 2⟩, ⟨"NUM", [], "23", 2, 4⟩],
    "1,23", 0, 4⟩

theorem within_pairTree {n : Node} (h : n.Within pairTree) : n = pairTree ∨
    n.children = [] ∧ (n.rule = "NUM" ∨ n.rule = Node.terminalName) := by
  obtain rfl | ⟨c, hc, h⟩ := Node.within_iff.1 h
  · exact .inl rfl
  · right
    simp only [pairTree, List.mem_cons, List.not_mem_nil, or_false] at hc
    obtain rfl | rfl | rfl := hc <;> obtain rfl | ⟨d, hd, -⟩ := Node.within_iff.1 h <;>
      first | exact absurd hd List.not_mem_nil | simp

theorem regular_pairTree {n : Node} (h : n.Within pairTree) : pairGrammar.Regular n := by
  obtain rfl | ⟨hch, hn⟩ := within_pairTree h
  · exact ⟨by decide, fun _ _ => by decide⟩
  · refine ⟨by simp [hch], fun _ hl => ?_⟩
    obtain hn | hn := hn
    · rw [hn, hch]
      decide
    · rw [Node.isTerminal, hn] at hl
      cases hl

theorem served_addPair {n : Node} {bs : List (Branch Unit Nat)}
    (hn : bs.map (·.node) = pairTree.children) (hbs : ∀ b ∈ bs, b.Served) :
    (addPair n bs).Served := by
  obtain ⟨a, b, c, rfl⟩ : ∃ a b c, bs = [a, b, c] := List.length_eq_three.1 (by
    rw [← List.length_map, hn]
    rfl)
  simp only [pairTree, List.map_cons, List.map_nil, List.cons.injEq, and_true] at hn
  have ha := (hbs a (by simp)).visited (by rw [hn.1]; rfl)
  have hc := (hbs c (by simp)).visited (by rw [hn.2.2]; rfl)
  exact ha.bind fun _ => hc.bind fun _ => Visit.served_pure _

theorem check_suffices_pairLength : pairLength.check = .ok () ∧ ∃ op,
    pairLength.operation (List.foldr (· + ·) 0) 10 = .ok op ∧ op.SkipsLiterals pairTree ∧
      (pairLength.visit op pairTree).Served := by
  have hbuild : Grammar.build "Pairs" "1" pairRules "pair" = .ok pairGrammar := by rfl
  have hbound : pairLength.grammar = some pairGrammar := rfl
  have hall := check_suffices hbuild (by decide) hbound rfl
  have hcheck := hall.1.2 suits_pairLength
  obtain ⟨op, hop, htrees⟩ := hall.2 hcheck _ 10
  have hregistry : op.registry.actions = [("pair", ofPair), ("NUM", ofNumber)] := by
    obtain rfl : _ = op := Except.ok.inj hop
    rfl
  have hskips : op.SkipsLiterals pairTree := by
    intro n hn a ha bs hbs hserved
    have hmem := Registry.mem_of_dispatch ha
    simp only [hregistry, List.mem_cons, Prod.mk.injEq, List.not_mem_nil, or_false] at hmem
    obtain ⟨hrule, rfl⟩ | ⟨-, rfl⟩ := hmem
    · obtain rfl | ⟨-, hn | hn⟩ := within_pairTree hn
      · exact served_addPair hbs hserved
      all_goals exact absurd (hn.symm.trans hrule) (by decide)
    · exact Visit.served_pure _
  have hserved := (htrees pairTree fun n hn => regular_pairTree hn).2 rfl rfl hskips
  exact ⟨hcheck, op, hop, hskips, hserved⟩

end Definition

end Reckon
