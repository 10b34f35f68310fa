import Mathlib.Data.List.Nodup
import Reckon.Grammar.Check
import Reckon.Proofs.Checks

/-!
# Which rules make up a grammar

`WellFormed` says of declared rules as they are written when they make up a grammar: how their names
look, that no two of them are the same, those that labels bring included, and what may stand in their
alternatives. A grammar is built from these and from no others (`build_ok_iff_wellFormed`).

The checks run through the rules with labels split off. Each of the two passes is first brought to a
statement about all of these (`checkDeclared_eq_ok_iff`, `checkBodies_eq_ok_iff`), the first carrying
the names that it has seen, and then to the rules as they are written.
-/

namespace Reckon

/-! ## Names -/

namespace RuleKind

variable {k : RuleKind}

/-- A letter of the kind's case, then such letters, digits and underscores. -/
def IsPlain (k : RuleKind) (cs : List Char) : Prop :=
  ∃ c rest, cs = c :: rest ∧ k.isLetter c = true ∧
    ∀ d ∈ rest, k.isLetter d = true ∨ d.isDigit = true ∨ d = '_'

/-- What a name of the kind looks like: one line feed may follow. -/
def IsName (k : RuleKind) (cs : List Char) : Prop :=
  k.IsPlain cs ∨ ∃ w, k.IsPlain w ∧ cs = w ++ ['\n']

theorem isLetter_newline : ∀ k : RuleKind, k.isLetter '\n' = false
  | syntactic => rfl
  | lexical => rfl

theorem IsPlain.not_newline {cs : List Char} (h : k.IsPlain cs) : '\n' ∉ cs := by
  obtain ⟨c, rest, rfl, hc, hrest⟩ := h
  have hletter := k.isLetter_newline
  intro hmem
  rcases List.mem_cons.1 hmem with rfl | hmem
  · rw [hletter] at hc
    cases hc
  · rcases hrest _ hmem with h | h | h
    · rw [hletter] at h
      cases h
    · cases h
    · cases h

theorem admits_iff {name : String} : k.admits name = true ↔ k.IsName name.toList := by
  have hadmits : k.admits name = true ↔ k.IsPlain
      (if name.toList.getLast? = some '\n' then name.toList.dropLast else name.toList) := by
    simp only [admits]
    generalize (if name.toList.getLast? = some '\n' then name.toList.dropLast else name.toList) = cs
    cases cs <;> simp [IsPlain, or_assoc]
  rw [hadmits]
  split
  · rename_i hlast
    obtain ⟨w, hw⟩ := List.getLast?_eq_some_iff.1 hlast
    rw [IsName, hw, List.dropLast_concat]
    refine ⟨fun h => .inr ⟨w, h, rfl⟩, ?_⟩
    rintro (h | ⟨v, h, hv⟩)
    · exact absurd (List.mem_append_right w List.mem_cons_self) h.not_newline
    · rwa [List.append_cancel_right hv]
  · rename_i hlast
    refine ⟨.inl, ?_⟩
    rintro (h | ⟨w, -, hw⟩)
    · exact h
    · rw [hw, List.getLast?_concat] at hlast
      exact absurd rfl hlast

end RuleKind

/-! ## Rules as they are written -/

/-- May the item stand in a syntactic rule, where `names` are declared? -/
def Item.Fits (names : List String) : Item → Prop
  | .ref name => name ∈ names
  | .lit _ => True
  | .pattern _ => False
  | .listOf item separator => item ∈ names ∧ separator ≠ ""

/-- The length of an alternative, of which a reference is left if it has a label. -/
def Alternative.splitArity (a : Alternative) : Nat :=
  match a.label with
  | some _ => 1
  | none => a.body.length

/-- The names that a rule brings: its own, and one with each label. -/
def Rule.names (r : Rule) : List String :=
  r.name :: (r.alternatives.filterMap (·.label)).map (labelled r.name)

/-- Declared rules and a start rule that make up a grammar. -/
structure WellFormed (declared : List Rule) (start : String) : Prop where
  isName : ∀ name ∈ declared.flatMap Rule.names, (RuleKind.ofName name).IsName name.toList
  nodup : (declared.flatMap Rule.names).Nodup
  nonempty : ∀ r ∈ declared, r.alternatives ≠ [] ∧ ∀ a ∈ r.alternatives, a.body ≠ []
  lexical : ∀ r ∈ declared, RuleKind.ofName r.name = .lexical →
    ∀ a ∈ r.alternatives, a.label = none ∧ ∀ i ∈ a.body, i.isLexical = true
  syntactic : ∀ r ∈ declared, RuleKind.ofName r.name = .syntactic →
    (∀ a ∈ r.alternatives, ∀ i ∈ a.body, i.Fits (declared.flatMap Rule.names)) ∧
      ∃ n, ∀ a ∈ r.alternatives, a.splitArity = n
  start_mem : start ∈ declared.flatMap Rule.names
  start_syntactic : RuleKind.ofName start = .syntactic

/-! ## Declarations -/

namespace Rule

variable {r : Rule} {seen : List String}

/-- What is asked of a declaration by itself. -/
structure Declarable (r : Rule) : Prop where
  isName : r.kind.IsName r.name.toList
  nonempty : r.alternatives ≠ []
  unlabelled : r.isLexical = true → ∀ a ∈ r.alternatives, a.label = none

theorem checkHead_eq_ok_iff : r.checkHead seen = .ok () ↔ r.Declarable ∧ r.name ∉ seen := by
  have hlabels : r.alternatives.any (·.label.isSome) = true ↔
      ¬ ∀ a ∈ r.alternatives, a.label = none := by
    simp [Option.isSome_iff_ne_none]
  unfold checkHead
  constructor
  · intro h
    split_ifs at h with hname hseen hnonempty hlabelled
    refine ⟨⟨RuleKind.admits_iff.1 (by simpa using hname), by simpa using hnonempty, fun hl => ?_⟩,
      by simpa using hseen⟩
    by_contra hsome
    exact hlabelled (by rw [hl, hlabels.2 hsome, Bool.and_self])
  · rintro ⟨⟨hname, hnonempty, hlabelled⟩, hseen⟩
    rw [if_neg (by simpa using RuleKind.admits_iff.2 hname), if_neg (by simpa using hseen),
      if_neg (by simpa using hnonempty), if_neg ?_]
    intro h
    obtain ⟨hl, hsome⟩ := Bool.and_eq_true_iff.1 h
    exact hlabels.1 hsome (hlabelled hl)

/-- The declarations are accepted that are fit by themselves and whose names are new. -/
theorem checkHeads_eq_ok_iff {names : List String} :
    ∀ {rs : List Rule} {seen : List String}, seen.Nodup →
      (checkHeads seen rs = .ok names ↔ (∀ r ∈ rs, r.Declarable) ∧
        (seen ++ rs.map (·.name)).Nodup ∧ names = seen ++ rs.map (·.name))
  | [], seen, hseen => by simp [checkHeads, hseen, eq_comm]
  | r :: rs, seen, hseen => by
    have hsplit : seen ++ (r :: rs).map (·.name) = (seen ++ [r.name]) ++ rs.map (·.name) := by simp
    rw [checkHeads, andThen_eq_ok_iff, hsplit, List.forall_mem_cons]
    constructor
    · rintro ⟨hr, hrs⟩
      obtain ⟨hr, hnew⟩ := checkHead_eq_ok_iff.1 hr
      have hseen' : (seen ++ [r.name]).Nodup := List.concat_eq_append ▸ hseen.concat hnew
      obtain ⟨hrs, hnodup, hnames⟩ := (checkHeads_eq_ok_iff hseen').1 hrs
      exact ⟨⟨hr, hrs⟩, hnodup, hnames⟩
    · rintro ⟨⟨hr, hrs⟩, hnodup, hnames⟩
      have hseen' := (List.nodup_append.1 hnodup).1
      refine ⟨checkHead_eq_ok_iff.2 ⟨hr, fun hmem => ?_⟩,
        (checkHeads_eq_ok_iff hseen').2 ⟨hrs, hnodup, hnames⟩⟩
      exact (List.nodup_append.1 hseen').2.2 _ hmem _ List.mem_cons_self rfl

theorem checkHeads_append (rs ss : List Rule) (seen : List String) :
    checkHeads seen (rs ++ ss) = checkHeads seen rs >>= (checkHeads · ss) := by
  induction rs generalizing seen with
  | nil => rfl
  | cons r rs ih =>
    rw [List.cons_append, checkHeads, checkHeads, bind_assoc]
    exact congrArg _ (funext fun _ => ih _)

theorem checkDeclared_eq (rs : List Rule) (seen : List String) :
    checkDeclared seen rs = checkHeads seen (rs.flatMap fun r => r :: r.inlined) := by
  induction rs generalizing seen with
  | nil => rfl
  | cons r rs ih =>
    rw [checkDeclared, List.flatMap_cons, checkHeads_append]
    exact congrArg _ (funext ih)

end Rule

/-! ## Bodies -/

namespace Rule

variable {r : Rule} {names : List String}

theorem isLexical_eq_true (h : r.kind = .lexical) : r.isLexical = true := beq_iff_eq.2 h

theorem isLexical_eq_false_iff : r.isLexical = false ↔ r.kind = .syntactic := by
  unfold isLexical
  cases r.kind <;> decide

theorem checkItem_eq_ok_iff {i : Item} : r.checkItem names i = .ok () ↔ i.Fits names := by
  unfold checkItem Item.Fits
  cases i with
  | ref name => by_cases h : name ∈ names <;> simp [Item.isPattern, Item.target?, h]
  | lit text => simp [Item.isPattern, Item.target?]
  | pattern regex => simp [Item.isPattern]
  | listOf item separator =>
    by_cases h : item ∈ names <;> by_cases hs : separator = "" <;>
      simp [Item.isPattern, Item.target?, h, hs]

theorem checkSyntacticAlternative_eq_ok_iff {a : Alternative} :
    r.checkSyntacticAlternative names a = .ok () ↔ a.body ≠ [] ∧ ∀ i ∈ a.body, i.Fits names := by
  unfold checkSyntacticAlternative
  split
  · rename_i h
    simp [List.isEmpty_iff.1 h]
  · rename_i h
    rw [forM_eq_ok_iff]
    simp only [checkItem_eq_ok_iff]
    exact (and_iff_right (by simpa using h)).symm

theorem checkLexicalAlternative_eq_ok_iff {a : Alternative} :
    r.checkLexicalAlternative a = .ok () ↔ a.body ≠ [] ∧ ∀ i ∈ a.body, i.isLexical = true := by
  unfold checkLexicalAlternative
  split
  · rename_i h
    simp [List.isEmpty_iff.1 h]
  · rename_i h
    have hbody : a.body ≠ [] := by simpa using h
    split
    · rename_i i hi
      have hnot := List.find?_some hi
      simp only [reduceCtorEq, false_iff]
      intro hall
      rw [hall.2 i (List.mem_of_find?_eq_some hi)] at hnot
      cases hnot
    · rename_i hnone
      refine iff_of_true rfl ⟨hbody, fun i hi => ?_⟩
      simpa using List.find?_eq_none.1 hnone i hi

theorem hasOneArity_iff (h : r.isLexical = false) :
    r.hasOneArity = true ↔ ∃ n, ∀ a ∈ r.alternatives, a.arity = n := by
  have harity : ∀ a ∈ r.alternatives.head?, r.arity = a.arity := by
    intro a ha
    obtain ⟨as, has⟩ := List.head?_eq_some_iff.1 ha
    simp [arity, h, has]
  simp only [hasOneArity, List.all_eq_true, beq_iff_eq]
  refine ⟨fun hall => ⟨r.arity, hall⟩, ?_⟩
  rintro ⟨n, hall⟩ a ha
  obtain ⟨b, hb⟩ := Option.isSome_iff_exists.1 (List.isSome_head?.2 (List.ne_nil_of_mem ha))
  rw [harity b hb, hall a ha, hall b (List.mem_of_mem_head? hb)]

/-- What is asked of the alternatives of a rule without labels. -/
def Filled (names : List String) (r : Rule) : Prop :=
  (∀ a ∈ r.alternatives, a.body ≠ []) ∧
    match r.kind with
    | .lexical => ∀ a ∈ r.alternatives, ∀ i ∈ a.body, i.isLexical = true
    | .syntactic => (∀ a ∈ r.alternatives, ∀ i ∈ a.body, i.Fits names) ∧
        ∃ n, ∀ a ∈ r.alternatives, a.arity = n

theorem checkBody_eq_ok_iff : r.checkBody names = .ok () ↔ r.Filled names := by
  unfold checkBody Filled
  rcases hk : r.kind with _ | _
  · have hl := isLexical_eq_false_iff.2 hk
    have hfill : (∀ a ∈ r.alternatives, r.checkSyntacticAlternative names a = .ok ()) ↔
        (∀ a ∈ r.alternatives, a.body ≠ []) ∧ ∀ a ∈ r.alternatives, ∀ i ∈ a.body, i.Fits names := by
      simp only [checkSyntacticAlternative_eq_ok_iff]
      exact forall₂_and
    have harity : (if !r.hasOneArity then
        Except.error (GrammarError.inconsistentArity r.name (r.alternatives.map (·.arity)))
        else pure ()) = .ok () ↔ r.hasOneArity = true := by
      cases r.hasOneArity <;> simp [pure, Except.pure]
    rw [if_neg (by simp [hl]), andThen_eq_ok_iff, forM_eq_ok_iff, hfill, harity, hasOneArity_iff hl,
      and_assoc]
  · rw [if_pos (isLexical_eq_true hk), forM_eq_ok_iff]
    simp only [checkLexicalAlternative_eq_ok_iff]
    exact forall₂_and

end Rule

/-! ## Labels -/

namespace Rule

variable {r : Rule} {names : List String}

/-- A rule split off has the kind of the rule that it comes from. -/
theorem ofName_labelled (name label : String) :
    RuleKind.ofName (labelled name label) = RuleKind.ofName name := by
  have hlist : (labelled name label).toList = name.toList ++ '_' :: label.toList := by
    simp [labelled]
  unfold RuleKind.ofName
  rw [hlist]
  cases name.toList with
  | nil => rfl
  | cons c cs => rfl

/-- The rule that is split off an alternative with the label. -/
def splitOff (r : Rule) (label : String) (a : Alternative) : Rule :=
  ⟨labelled r.name label, [⟨a.body, none⟩], none⟩

theorem kind_splitOff (label : String) (a : Alternative) : (r.splitOff label a).kind = r.kind :=
  ofName_labelled r.name label

theorem mem_inlined {s : Rule} : s ∈ r.inlined ↔
    ∃ a ∈ r.alternatives, ∃ l, a.label = some l ∧ s = r.splitOff l a := by
  simp [inlined, splitOff, eq_comm (b := s)]

/-- What is left of an alternative in its rule. -/
def delegated (name : String) (a : Alternative) : Alternative :=
  match a.label with
  | some l => ⟨[.ref (labelled name l)], none⟩
  | none => a

theorem delegated_of_unlabelled {name : String} {a : Alternative} (h : a.label = none) :
    delegated name a = a := by
  rw [delegated, h]

theorem delegated_of_label {name l : String} {a : Alternative} (h : a.label = some l) :
    delegated name a = ⟨[.ref (labelled name l)], none⟩ := by
  rw [delegated, h]

theorem alternatives_delegating (r : Rule) :
    r.delegating.alternatives = r.alternatives.map (delegated r.name) := rfl

theorem arity_delegated (name : String) (a : Alternative) :
    (delegated name a).arity = a.splitArity := by
  unfold delegated Alternative.splitArity
  cases a.label <;> rfl

/-- Nothing is split off a rule without labels. -/
theorem expand_of_unlabelled (h : ∀ a ∈ r.alternatives, a.label = none) : r.expand = [r] := by
  have hinlined : r.inlined = [] := List.eq_nil_iff_forall_not_mem.2 fun s hs => by
    obtain ⟨a, ha, l, hl, -⟩ := mem_inlined.1 hs
    rw [h a ha] at hl
    cases hl
  have halternatives : r.delegating.alternatives = r.alternatives :=
    (List.map_congr_left fun a ha => delegated_of_unlabelled (h a ha)).trans (List.map_id _)
  have hdelegating : r.delegating = r :=
    congrArg (fun as => { r with alternatives := as }) halternatives
  rw [expand, hinlined, hdelegating]

theorem map_name_expand : r.expand.map (·.name) = r.names := by
  simp [expand, names, inlined, delegating, List.map_filterMap, Function.comp_def]

theorem forall_declarable_iff :
    (∀ s ∈ r :: r.inlined, s.Declarable) ↔
      (∀ name ∈ r.names, (RuleKind.ofName name).IsName name.toList) ∧ r.alternatives ≠ [] ∧
        (RuleKind.ofName r.name = .lexical → ∀ a ∈ r.alternatives, a.label = none) := by
  have hlexical : r.isLexical = true ↔ RuleKind.ofName r.name = .lexical := beq_iff_eq
  have hinlined : (∀ s ∈ r.inlined, s.Declarable) ↔ ∀ name ∈
      (r.alternatives.filterMap (·.label)).map (labelled r.name),
        (RuleKind.ofName name).IsName name.toList := by
    constructor
    · intro h name hname
      obtain ⟨l, hl, rfl⟩ := List.mem_map.1 hname
      obtain ⟨a, ha, hl⟩ := List.mem_filterMap.1 hl
      exact (h _ (mem_inlined.2 ⟨a, ha, l, hl, rfl⟩)).isName
    · intro h s hs
      obtain ⟨a, ha, l, hl, rfl⟩ := mem_inlined.1 hs
      refine ⟨h _ (List.mem_map_of_mem (List.mem_filterMap.2 ⟨a, ha, hl⟩)), by simp [splitOff], ?_⟩
      rintro - b hb
      obtain rfl := List.mem_singleton.1 hb
      rfl
  rw [List.forall_mem_cons, hinlined, names, List.forall_mem_cons]
  constructor
  · rintro ⟨h, hlabels⟩
    exact ⟨⟨h.isName, hlabels⟩, h.nonempty, fun hl => h.unlabelled (hlexical.2 hl)⟩
  · rintro ⟨⟨hname, hlabels⟩, hnonempty, hunlabelled⟩
    exact ⟨⟨hname, hnonempty, fun hl => hunlabelled (hlexical.1 hl)⟩, hlabels⟩

theorem filled_of_syntactic {s : Rule} (hs : s.kind = .syntactic) : s.Filled names ↔
    (∀ a ∈ s.alternatives, a.body ≠ [] ∧ ∀ i ∈ a.body, i.Fits names) ∧
      ∃ n, ∀ a ∈ s.alternatives, a.arity = n := by
  rw [Filled, hs, ← and_assoc]
  exact and_congr_left' forall₂_and.symm

theorem filled_delegating_iff (hs : r.kind = .syntactic) (hnames : ∀ name ∈ r.names, name ∈ names) :
    r.delegating.Filled names ↔
      (∀ a ∈ r.alternatives, a.label = none → a.body ≠ [] ∧ ∀ i ∈ a.body, i.Fits names) ∧
        ∃ n, ∀ a ∈ r.alternatives, a.splitArity = n := by
  have hkind : r.delegating.kind = .syntactic := hs
  rw [filled_of_syntactic hkind, alternatives_delegating]
  simp only [List.forall_mem_map, arity_delegated]
  refine and_congr_left' (forall₂_congr fun a ha => ?_)
  rcases hl : a.label with _ | l
  · rw [delegated_of_unlabelled hl]
    exact ⟨fun h _ => h, fun h => h rfl⟩
  · -- the reference that is left is to a name of the rule
    have hl' : labelled r.name l ∈ names := hnames _
      (List.mem_cons_of_mem _ (List.mem_map_of_mem (List.mem_filterMap.2 ⟨a, ha, hl⟩)))
    rw [delegated_of_label hl]
    simpa [Item.Fits] using hl'

theorem forall_filled_inlined_iff (hs : r.kind = .syntactic) :
    (∀ s ∈ r.inlined, s.Filled names) ↔
      ∀ a ∈ r.alternatives, ∀ l, a.label = some l → a.body ≠ [] ∧ ∀ i ∈ a.body, i.Fits names := by
  have hfilled (a : Alternative) (l : String) :
      (r.splitOff l a).Filled names ↔ a.body ≠ [] ∧ ∀ i ∈ a.body, i.Fits names := by
    rw [filled_of_syntactic ((kind_splitOff l a).trans hs)]
    simp [splitOff]
  constructor
  · intro h a ha l hl
    exact (hfilled a l).1 (h _ (mem_inlined.2 ⟨a, ha, l, hl, rfl⟩))
  · intro h s hs
    obtain ⟨a, ha, l, hl, rfl⟩ := mem_inlined.1 hs
    exact (hfilled a l).2 (h a ha l hl)

/-- The bodies of a rule are in order once its labels are split off, said of the rule itself. -/
theorem forall_filled_iff (hnames : ∀ name ∈ r.names, name ∈ names)
    (hlabels : RuleKind.ofName r.name = .lexical → ∀ a ∈ r.alternatives, a.label = none) :
    (∀ s ∈ r.expand, s.Filled names) ↔ (∀ a ∈ r.alternatives, a.body ≠ []) ∧
      (RuleKind.ofName r.name = .lexical → ∀ a ∈ r.alternatives, ∀ i ∈ a.body, i.isLexical = true) ∧
      (RuleKind.ofName r.name = .syntactic →
        (∀ a ∈ r.alternatives, ∀ i ∈ a.body, i.Fits names) ∧
          ∃ n, ∀ a ∈ r.alternatives, a.splitArity = n) := by
  rcases hk : RuleKind.ofName r.name with _ | _
  · rw [expand, List.forall_mem_cons, filled_delegating_iff hk hnames, forall_filled_inlined_iff hk]
    have hlabel (a : Alternative) (P : Prop) :
        (a.label = none → P) ∧ (∀ l, a.label = some l → P) ↔ P := by
      cases a.label <;> simp
    have hbodies : ((∀ a ∈ r.alternatives, a.label = none → a.body ≠ [] ∧ ∀ i ∈ a.body, i.Fits names) ∧
        ∀ a ∈ r.alternatives, ∀ l, a.label = some l → a.body ≠ [] ∧ ∀ i ∈ a.body, i.Fits names) ↔
        (∀ a ∈ r.alternatives, a.body ≠ []) ∧ ∀ a ∈ r.alternatives, ∀ i ∈ a.body, i.Fits names := by
      rw [← forall₂_and, ← forall₂_and]
      exact forall₂_congr fun a _ => hlabel a _
    rw [and_right_comm, hbodies, and_assoc]
    simp
  · rw [expand_of_unlabelled (hlabels hk), List.forall_mem_singleton, Filled, kind, hk]
    simp

end Rule

/-! ## Grammars -/

namespace Grammar

variable {g : Grammar} {declared : List Rule} {name version start : String}

theorem ruleNames_assemble (name version : String) (declared : List Rule) (start : String) :
    (assemble name version declared start).ruleNames = declared.flatMap Rule.names := by
  simp only [ruleNames, assemble, List.map_flatMap, Rule.map_name_expand]

theorem rule?_eq_some_of_mem {r : Rule} (hg : g.ruleNames.Nodup) (hr : r ∈ g.rules) :
    g.rule? r.name = some r := by
  obtain ⟨s, hs⟩ : ∃ s, g.rule? r.name = some s :=
    Option.isSome_iff_exists.1 (List.find?_isSome.2 ⟨r, hr, beq_self_eq_true _⟩)
  have hname : s.name = r.name := eq_of_beq (List.find?_some (p := fun s : Rule => s.name == r.name) hs)
  rw [hs, List.inj_on_of_nodup_map hg (List.mem_of_find?_eq_some hs) hr hname]

theorem arity_of_mem {r : Rule} (hg : g.ruleNames.Nodup) (hr : r ∈ g.rules) :
    g.arity r.name = r.arity := by
  rw [arity, rule?_eq_some_of_mem hg hr]

theorem checkStart_eq_ok_iff :
    g.checkStart = .ok () ↔ g.start ∈ g.ruleNames ∧ RuleKind.ofName g.start = .syntactic := by
  unfold checkStart
  rcases hr : g.rule? g.start with _ | r
  · have hstart : g.start ∉ g.ruleNames := by
      intro hmem
      obtain ⟨r, hr', hname⟩ := List.mem_map.1 hmem
      exact absurd (beq_iff_eq.2 hname) (List.find?_eq_none.1 hr r hr')
    simp [hstart]
  · have hname : r.name = g.start := eq_of_beq (List.find?_some (p := fun s : Rule => s.name == g.start) hr)
    have hstart : g.start ∈ g.ruleNames := hname ▸ List.mem_map_of_mem (List.mem_of_find?_eq_some hr)
    simp only [Rule.isLexical, Rule.kind, hname, hstart, true_and]
    rcases RuleKind.ofName g.start with _ | _ <;> simp

theorem checkDeclared_eq_ok_iff {names : List String} :
    Rule.checkDeclared [] declared = .ok names ↔
      (∀ r ∈ declared, ∀ s ∈ r :: r.inlined, s.Declarable) ∧
        (declared.flatMap Rule.names).Nodup ∧ names = declared.flatMap Rule.names := by
  have hnames : (declared.flatMap fun r => r :: r.inlined).map (·.name) =
      declared.flatMap Rule.names := by
    rw [List.map_flatMap]
    exact congrArg (declared.flatMap ·) (funext fun r => r.map_name_expand)
  rw [Rule.checkDeclared_eq, Rule.checkHeads_eq_ok_iff List.nodup_nil, List.nil_append, hnames]
  refine and_congr_left' ⟨fun h r hr s hs => h s (List.mem_flatMap.2 ⟨r, hr, hs⟩), fun h s hs => ?_⟩
  obtain ⟨r, hr, hs⟩ := List.mem_flatMap.1 hs
  exact h r hr s hs

theorem build_eq_ok_iff : build name version declared start = .ok g ↔
    g = assemble name version declared start ∧
      (∀ r ∈ declared, ∀ s ∈ r :: r.inlined, s.Declarable) ∧ (declared.flatMap Rule.names).Nodup ∧
      (∀ r ∈ declared, ∀ s ∈ r.expand, s.Filled (declared.flatMap Rule.names)) ∧
      start ∈ declared.flatMap Rule.names ∧ RuleKind.ofName start = .syntactic := by
  have hrules (names : List String) : (∀ s ∈ (assemble name version declared start).rules,
      s.Filled names) ↔ ∀ r ∈ declared, ∀ s ∈ r.expand, s.Filled names := by
    simp only [assemble, List.mem_flatMap]
    exact ⟨fun h r hr s hs => h s ⟨r, hr, hs⟩, fun h s ⟨r, hr, hs⟩ => h r hr s hs⟩
  have hstart : (assemble name version declared start).checkStart = .ok () ↔
      start ∈ declared.flatMap Rule.names ∧ RuleKind.ofName start = .syntactic := by
    rw [checkStart_eq_ok_iff, ruleNames_assemble]
    rfl
  rw [build, bind_eq_ok_iff]
  simp only [andThen_eq_ok_iff, checkDeclared_eq_ok_iff, forM_eq_ok_iff, Rule.checkBody_eq_ok_iff,
    hstart, pure, Except.pure, Except.ok.injEq]
  constructor
  · rintro ⟨names, ⟨hdeclarable, hnodup, rfl⟩, hfilled, hstart, rfl⟩
    exact ⟨rfl, hdeclarable, hnodup, (hrules _).1 hfilled, hstart⟩
  · rintro ⟨rfl, hdeclarable, hnodup, hfilled, hstart⟩
    exact ⟨_, ⟨hdeclarable, hnodup, rfl⟩, (hrules _).2 hfilled, hstart, rfl⟩

theorem exists_build_iff :
    (∃ g, build name version declared start = .ok g) ↔ WellFormed declared start := by
  simp only [build_eq_ok_iff, exists_eq_left]
  have hmem : ∀ r ∈ declared, ∀ name ∈ r.names, name ∈ declared.flatMap Rule.names :=
    fun r hr name hname => List.mem_flatMap.2 ⟨r, hr, hname⟩
  constructor
  · rintro ⟨hdeclarable, hnodup, hfilled, hmem_start, hstart⟩
    have hheads r hr := Rule.forall_declarable_iff.1 (hdeclarable r hr)
    have hbodies r hr := (Rule.forall_filled_iff (hmem r hr) (hheads r hr).2.2).1 (hfilled r hr)
    refine ⟨fun name hname => ?_, hnodup, fun r hr => ⟨(hheads r hr).2.1, (hbodies r hr).1⟩,
      fun r hr hl a ha => ⟨(hheads r hr).2.2 hl a ha, (hbodies r hr).2.1 hl a ha⟩,
      fun r hr => (hbodies r hr).2.2, hmem_start, hstart⟩
    obtain ⟨r, hr, hname⟩ := List.mem_flatMap.1 hname
    exact (hheads r hr).1 name hname
  · intro h
    have hlabels (r : Rule) (hr : r ∈ declared) (hl : RuleKind.ofName r.name = .lexical) :
        ∀ a ∈ r.alternatives, a.label = none := fun a ha => (h.lexical r hr hl a ha).1
    refine ⟨fun r hr => Rule.forall_declarable_iff.2 ⟨fun name hname => ?_, (h.nonempty r hr).1,
      hlabels r hr⟩, h.nodup, fun r hr => (Rule.forall_filled_iff (hmem r hr) (hlabels r hr)).2
      ⟨(h.nonempty r hr).2, fun hl a ha => (h.lexical r hr hl a ha).2, h.syntactic r hr⟩,
      h.start_mem, h.start_syntactic⟩
    exact h.isName name (hmem r hr name hname)

section Built

variable {r : Rule}

theorem nodup_of_build (h : build name version declared start = .ok g) : g.ruleNames.Nodup := by
  obtain ⟨rfl, -, hnodup, -⟩ := build_eq_ok_iff.1 h
  rwa [ruleNames_assemble]

theorem expand_subset_of_build (h : build name version declared start = .ok g) (hr : r ∈ declared) :
    ∀ s ∈ r.expand, s ∈ g.rules := by
  obtain ⟨rfl, -⟩ := build_eq_ok_iff.1 h
  exact fun s hs => List.mem_flatMap.2 ⟨r, hr, hs⟩

theorem arity_lexical (h : build name version declared start = .ok g) (hr : r ∈ declared)
    (hl : RuleKind.ofName r.name = .lexical) : g.arity r.name = 0 := by
  have hmem := expand_subset_of_build h hr r.delegating List.mem_cons_self
  have harity : g.arity r.name = r.delegating.arity := arity_of_mem (nodup_of_build h) hmem
  have hlexical : r.delegating.isLexical = true := Rule.isLexical_eq_true hl
  rw [harity, Rule.arity, if_pos hlexical]

/-- A rule has the arity of each of its alternatives. -/
theorem arity_syntactic (h : build name version declared start = .ok g) (hr : r ∈ declared)
    (hs : RuleKind.ofName r.name = .syntactic) {a : Alternative} (ha : a ∈ r.alternatives) :
    g.arity r.name = a.splitArity := by
  have hmem := expand_subset_of_build h hr r.delegating List.mem_cons_self
  have harity : g.arity r.name = r.delegating.arity := arity_of_mem (nodup_of_build h) hmem
  obtain ⟨n, hn⟩ := ((exists_build_iff.1 ⟨g, h⟩).syntactic r hr hs).2
  have hsyntactic : r.delegating.isLexical = false := Rule.isLexical_eq_false_iff.2 hs
  rw [harity, Rule.arity, hsyntactic, Rule.alternatives_delegating, hn a ha]
  obtain ⟨b, bs, hbs⟩ := List.exists_cons_of_ne_nil (List.ne_nil_of_mem ha)
  rw [hbs, List.map_cons]
  simpa [Rule.arity_delegated] using hn b (hbs ▸ List.mem_cons_self)

theorem arity_labelled (h : build name version declared start = .ok g) (hr : r ∈ declared)
    (hs : RuleKind.ofName r.name = .syntactic) {a : Alternative} (ha : a ∈ r.alternatives)
    {l : String} (hl : a.label = some l) :
    g.arity (Rule.labelled r.name l) = a.body.length := by
  have hmem := expand_subset_of_build h hr _
    (List.mem_cons_of_mem _ (Rule.mem_inlined.2 ⟨a, ha, l, hl, rfl⟩))
  have harity : g.arity (Rule.labelled r.name l) = (r.splitOff l a).arity :=
    arity_of_mem (nodup_of_build h) hmem
  rw [harity, Rule.arity, Rule.isLexical_eq_false_iff.2 ((Rule.kind_splitOff l a).trans hs)]
  rfl

end Built

/-- A grammar is built from the rules and the start rule that make one up, and from no others. Its
rules are those declared, each followed by those split off from it. A lexical rule has no children;
the others have as many as each of their alternatives, a reference being left of those with labels. -/
theorem build_ok_iff_wellFormed (name version : String) (declared : List Rule) (start : String) :
    ((∃ g, build name version declared start = .ok g) ↔ WellFormed declared start) ∧
      ∀ g, build name version declared start = .ok g →
        g.ruleNames = declared.flatMap Rule.names ∧
        ∀ r ∈ declared, (RuleKind.ofName r.name = .lexical → g.arity r.name = 0) ∧
          (RuleKind.ofName r.name = .syntactic → ∀ a ∈ r.alternatives,
            g.arity r.name = a.splitArity ∧
            ∀ l, a.label = some l → g.arity (Rule.labelled r.name l) = a.body.length) := by
  refine ⟨exists_build_iff, fun g h => ⟨?_, fun r hr => ⟨arity_lexical h hr, fun hs a ha =>
    ⟨arity_syntactic h hr hs ha, fun l hl => arity_labelled h hr hs ha hl⟩⟩⟩⟩
  obtain ⟨rfl, -⟩ := build_eq_ok_iff.1 h
  exact ruleNames_assemble name version declared start

/-- Lines of numbers, one rule of which has the empty label and one a name that a line feed ends. -/
def numberLines : List Rule := [
  { name := "lines"
    alternatives := [
      { body := [.listOf "NUMBER\n" ",", .lit ";"], label := some "" },
      { body := [.ref "lines_"] }] },
  { name := "NUMBER\n", alternatives := [{ body := [.pattern "[0-9]+", .lit "."] }] }]

theorem build_ok_iff_wellFormed_numberLines :
    WellFormed numberLines "lines_" ∧ ∃ g, build "Lines" "1" numberLines "lines_" = .ok g ∧
      g.ruleNames = ["lines", "lines_", "NUMBER\n"] ∧ g.arity "lines_" = 2 := by
  have hbuild : build "Lines" "1" numberLines "lines_" =
      .ok (assemble "Lines" "1" numberLines "lines_") := by rfl
  have hall := build_ok_iff_wellFormed "Lines" "1" numberLines "lines_"
  obtain ⟨hnames, harity⟩ := hall.2 _ hbuild
  exact ⟨hall.1.1 ⟨_, hbuild⟩, _, hbuild, hnames,
    (((harity _ List.mem_cons_self).2 rfl _ List.mem_cons_self).2 "" rfl)⟩

end Grammar

end Reckon
