import Reckon.Proofs.Arithmetic.Sentence
import Reckon.Proofs.Cfg.Ambiguity

/-!
# One tree for each sentence

The grammar of arithmetic is unambiguous: the tokens of a derivation tree tell the tree
(`derivation_unique`). The first token of a primary tells its alternative, but for a name, which is
a call if a parenthesis follows. So a primary is told where no parenthesis follows it, a power where
moreover no `^` does, and so on up to expressions, which no operator and no `=` may follow
(`Barred`). Sums and products lean to the left and are told as stems.
-/

namespace Reckon.Arithmetic

open Cfg Cfg.Tree Grammar

variable {τ : Type} {kind : τ → Terminal}

/-! ## The trees of the rules -/

def branchOf (name : String) (ts : List (Tree τ Category)) : Tree τ Category :=
  .node (.rule name) ts

@[simp] theorem yield_branchOf (name : String) (ts : List (Tree τ Category)) :
    (branchOf name ts).yield = yieldAll ts := by
  rw [branchOf, yield]

@[simp] theorem branchOf_inj {name name' : String} {ts us : List (Tree τ Category)} :
    branchOf name ts = branchOf name' us ↔ name = name' ∧ ts = us := by
  simp [branchOf]

/-- The tree is one of the rule. -/
def TreeOf (kind : τ → Terminal) (name : String) (t : Tree τ Category) : Prop :=
  Derives grammar.productions kind (.nonterminal (.rule name)) t

/-- The tree is one of a list of expressions. -/
def ListTree (kind : τ → Terminal) (separator : String) (t : Tree τ Category) : Prop :=
  Derives grammar.productions kind (.nonterminal (.list "exp" separator)) t

def ItemsTree (kind : τ → Terminal) (separator : String) (t : Tree τ Category) : Prop :=
  Derives grammar.productions kind (.nonterminal (.items "exp" separator)) t

theorem treeOf_iff {name : String} {t : Tree τ Category} :
    TreeOf kind name t ↔ ∃ body, (name, body) ∈ bodies ∧
      ∃ ts, DerivesAll grammar.productions kind (body.map symbol) ts ∧ t = branchOf name ts := by
  rw [TreeOf, derives_nonterminal_iff]
  constructor
  · rintro ⟨p, hp, hl, ts, hts, rfl⟩
    obtain ⟨r, hr, hs, a, ha, rfl⟩ | ⟨⟨⟨item, separator⟩, list⟩, -, hp⟩ := mem_productions.1 hp
    · obtain rfl := Category.rule.inj hl
      refine ⟨a.body, ?_, ts, hts, rfl⟩
      exact List.mem_flatMap.2 ⟨r, List.mem_filter.2 ⟨hr, by simp [hs]⟩, List.mem_map_of_mem ha⟩
    · simp only [listProductions, List.mem_cons, List.not_mem_nil, or_false] at hp
      obtain rfl | rfl | rfl | rfl := hp <;> cases hl
  · rintro ⟨body, hb, ts, hts, rfl⟩
    obtain ⟨r, hr, hmem⟩ := List.mem_flatMap.1 hb
    obtain ⟨a, ha, he⟩ := List.mem_map.1 hmem
    obtain ⟨rfl, rfl⟩ := Prod.mk.inj he
    obtain ⟨hr, hs⟩ := List.mem_filter.1 hr
    exact ⟨_, rule_mem_productions hr (by simpa using hs) ha, rfl, ts, hts, rfl⟩

@[simp] theorem derives_rule_iff {name : String} {t : Tree τ Category} :
    Derives grammar.productions kind (.nonterminal (.rule name)) t ↔ TreeOf kind name t := Iff.rfl

@[simp] theorem derives_list_iff {separator : String} {t : Tree τ Category} :
    Derives grammar.productions kind (.nonterminal (.list "exp" separator)) t ↔
      ListTree kind separator t := Iff.rfl

@[simp] theorem derives_items_iff {separator : String} {t : Tree τ Category} :
    Derives grammar.productions kind (.nonterminal (.items "exp" separator)) t ↔
      ItemsTree kind separator t := Iff.rfl

@[simp] theorem reference_ident : reference "IDENT" = .terminal (.lexical "IDENT") := by decide

@[simp] theorem reference_number : reference "NUMBER" = .terminal (.lexical "NUMBER") := by decide

/-- All names but those of the tokens refer to rules. -/
theorem reference_of_mem : ∀ p ∈ bodies, reference p.1 = .nonterminal (.rule p.1) := by
  rw [bodies_eq]
  decide

theorem treeOf_ref {name : String} {t : Tree τ Category} (h : ∃ b, (name, b) ∈ bodies) :
    Derives grammar.productions kind (reference name) t ↔ TreeOf kind name t := by
  obtain ⟨b, hb⟩ := h
  rw [reference_of_mem _ hb, TreeOf]

/-- The rule of the operation that a literal stands for. -/
def operationName : Terminal → String
  | .literal "+" => "add_exp_plus"
  | .literal "-" => "add_exp_minus"
  | .literal "*" => "mul_exp_times"
  | .literal "/" => "mul_exp_divide"
  | _ => "exp_exp_power"

def Operator.ruleName (op : Operator) : String := operationName (.literal op.symbol)

section Shapes

variable {t : Tree τ Category}

theorem treeOf_operation_iff (op : Operator) :
    TreeOf kind op.ruleName t ↔ ∃ x a y, (TreeOf kind (levelName op.leftRank) x ∧
      kind a = .literal op.symbol ∧ TreeOf kind (levelName op.rightRank) y) ∧
        t = branchOf op.ruleName [x, .leaf a, y] := by
  rw [treeOf_iff]
  cases op <;> simp [symbol, treeOf_ref, Operator.ruleName, operationName, Operator.symbol,
    Operator.leftRank, Operator.rightRank, Operator.rank]

/-- A level is an operation of its own rank, or the next level. -/
theorem treeOf_level {k : Nat} (hk : 1 ≤ k) (hk' : k ≤ 3) (h : TreeOf kind (levelName k) t) :
    ∃ x, ((∃ op : Operator, op.rank = k ∧ TreeOf kind op.ruleName x) ∨
      TreeOf kind (levelName (k + 1)) x) ∧ t = branchOf (levelName k) [x] := by
  rw [treeOf_iff] at h
  obtain rfl | rfl | rfl : k = 1 ∨ k = 2 ∨ k = 3 := by omega
  · simp [symbol, treeOf_ref] at h
    obtain ⟨x, hx, rfl⟩ | ⟨x, hx, rfl⟩ | ⟨x, hx, rfl⟩ := h
    · exact ⟨x, .inl ⟨.plus, rfl, hx⟩, rfl⟩
    · exact ⟨x, .inl ⟨.minus, rfl, hx⟩, rfl⟩
    · exact ⟨x, .inr hx, rfl⟩
  · simp [symbol, treeOf_ref] at h
    obtain ⟨x, hx, rfl⟩ | ⟨x, hx, rfl⟩ | ⟨x, hx, rfl⟩ := h
    · exact ⟨x, .inl ⟨.times, rfl, hx⟩, rfl⟩
    · exact ⟨x, .inl ⟨.divide, rfl, hx⟩, rfl⟩
    · exact ⟨x, .inr hx, rfl⟩
  · simp [symbol, treeOf_ref] at h
    obtain ⟨x, hx, rfl⟩ | ⟨x, hx, rfl⟩ := h
    · exact ⟨x, .inl ⟨.power, rfl, hx⟩, rfl⟩
    · exact ⟨x, .inr hx, rfl⟩

/-- An operation of the rank of its level, or a tree of the next level. -/
theorem level_cases {k : Nat} (hk : 1 ≤ k) (hk' : k ≤ 3) (h : TreeOf kind (levelName k) t) :
    (∃ x, TreeOf kind (levelName (k + 1)) x ∧ t = branchOf (levelName k) [x]) ∨
      ∃ (op : Operator) (x : Tree τ Category) (a : τ) (y : Tree τ Category), op.rank = k ∧
        TreeOf kind (levelName op.leftRank) x ∧ kind a = .literal op.symbol ∧
          TreeOf kind (levelName op.rightRank) y ∧
            t = branchOf (levelName k) [branchOf op.ruleName [x, .leaf a, y]] := by
  obtain ⟨x, ⟨op, hop, hx⟩ | hx, rfl⟩ := treeOf_level hk hk' h
  · obtain ⟨l, a, r, ⟨hl, ha, hr⟩, rfl⟩ := (treeOf_operation_iff op).1 hx
    exact .inr ⟨op, l, a, r, hop, hl, ha, hr, rfl⟩
  · exact .inl ⟨x, hx, rfl⟩

inductive PrimaryTree (kind : τ → Terminal) : Tree τ Category → Prop
  | token {a : τ} (ha : kind a = .lexical "IDENT" ∨ kind a = .lexical "NUMBER") :
      PrimaryTree kind (branchOf "pri_exp" [.leaf a])
  | paren {a b : τ} {e : Tree τ Category} (ha : kind a = .literal "(") (he : TreeOf kind "exp" e)
      (hb : kind b = .literal ")") :
      PrimaryTree kind (branchOf "pri_exp" [branchOf "pri_exp_paren" [.leaf a, e, .leaf b]])
  | sign (negative : Bool) {a : τ} {e : Tree τ Category}
      (ha : kind a = .literal (signSymbol negative)) (he : TreeOf kind "pri_exp" e) :
      PrimaryTree kind (branchOf "pri_exp"
        [branchOf (if negative then "pri_exp_neg" else "pri_exp_pos") [.leaf a, e]])
  | call {f a b : τ} {l : Tree τ Category} (hf : kind f = .lexical "IDENT")
      (ha : kind a = .literal "(") (hl : ListTree kind "," l) (hb : kind b = .literal ")") :
      PrimaryTree kind (branchOf "pri_exp" [branchOf "pri_exp_call" [.leaf f, .leaf a, l, .leaf b]])

theorem primaryTree (h : TreeOf kind "pri_exp" t) : PrimaryTree kind t := by
  rw [treeOf_iff] at h
  simp [symbol, treeOf_ref] at h
  rcases h with
    ⟨x, hx, rfl⟩ | ⟨x, hx, rfl⟩ | ⟨x, hx, rfl⟩ | ⟨x, hx, rfl⟩ | ⟨a, ha, rfl⟩ | ⟨a, ha, rfl⟩
  rotate_left 4
  · exact .token (.inl ha)
  · exact .token (.inr ha)
  all_goals
    rw [treeOf_iff] at hx
    simp [symbol, treeOf_ref] at hx
  · obtain ⟨a, e, b, ⟨ha, he, hb⟩, rfl⟩ := hx
    exact .paren ha he hb
  · obtain ⟨a, e, ⟨ha, he⟩, rfl⟩ := hx
    exact .sign false ha he
  · obtain ⟨a, e, ⟨ha, he⟩, rfl⟩ := hx
    exact .sign true ha he
  · obtain ⟨f, a, l, b, ⟨hf, ha, hl, hb⟩, rfl⟩ := hx
    exact .call hf ha hl hb

inductive PowerTree (kind : τ → Terminal) : Tree τ Category → Prop
  | primary {x : Tree τ Category} (hx : TreeOf kind "pri_exp" x) :
      PowerTree kind (branchOf "exp_exp" [x])
  | power {a : τ} {x y : Tree τ Category} (hx : TreeOf kind "pri_exp" x)
      (ha : kind a = .literal "^") (hy : TreeOf kind "exp_exp" y) :
      PowerTree kind (branchOf "exp_exp" [branchOf "exp_exp_power" [x, .leaf a, y]])

theorem powerTree (h : TreeOf kind "exp_exp" t) : PowerTree kind t := by
  obtain ⟨x, hx, rfl⟩ | ⟨op, x, a, y, hop, hx, ha, hy, rfl⟩ :=
    level_cases (k := 3) (by omega) (by omega) h
  · exact .primary hx
  · cases op with
    | power => exact .power hx ha hy
    | plus | minus | times | divide => cases hop

inductive ExpTree (kind : τ → Terminal) : Tree τ Category → Prop
  | sum {x : Tree τ Category} (hx : TreeOf kind "add_exp" x) :
      ExpTree kind (branchOf "exp" [branchOf "assign_exp" [x]])
  | assign {a b : τ} {x : Tree τ Category} (ha : kind a = .lexical "IDENT")
      (hb : kind b = .literal "=") (hx : TreeOf kind "add_exp" x) :
      ExpTree kind (branchOf "exp"
        [branchOf "assign_exp" [branchOf "assign_exp_assign" [.leaf a, .leaf b, x]]])

theorem expTree (h : TreeOf kind "exp" t) : ExpTree kind t := by
  rw [treeOf_iff] at h
  simp [symbol, treeOf_ref] at h
  obtain ⟨x, hx, rfl⟩ := h
  rw [treeOf_iff] at hx
  simp [symbol, treeOf_ref] at hx
  rcases hx with ⟨x, hx, rfl⟩ | ⟨x, hx, rfl⟩
  · rw [treeOf_iff] at hx
    simp [symbol, treeOf_ref] at hx
    obtain ⟨a, b, x, ⟨ha, hb, hx⟩, rfl⟩ := hx
    exact .assign ha hb hx
  · exact .sum hx

theorem treeOf_delegate (name : String) {inner : String} (h : (name, [.ref inner]) ∈ bodies)
    (hinner : ∃ b, (inner, b) ∈ bodies) (ht : TreeOf kind inner t) :
    TreeOf kind name (branchOf name [t]) :=
  treeOf_iff.2 ⟨_, h, _, by simpa [symbol, treeOf_ref hinner] using ht, rfl⟩

/-- A name alone is a sum. -/
theorem treeOf_name {a : τ} (ha : kind a = .lexical "IDENT") :
    TreeOf kind "add_exp" (branchOf "add_exp" [branchOf "mul_exp" [branchOf "exp_exp"
      [branchOf "pri_exp" [.leaf a]]]]) := by
  have hname : TreeOf kind "pri_exp" (branchOf "pri_exp" [.leaf a]) :=
    treeOf_iff.2 ⟨[.ref "IDENT"], by simp, _, by simp [symbol, ha], rfl⟩
  have hpower := treeOf_delegate "exp_exp" (by simp) (by simp) hname
  have hproduct := treeOf_delegate "mul_exp" (by simp) (by simp) hpower
  exact treeOf_delegate "add_exp" (by simp) (by simp) hproduct

theorem listTree {separator : String} (h : ListTree kind separator t) :
    t = .node (.list "exp" separator) [] ∨
      ∃ x, ItemsTree kind separator x ∧ t = .node (.list "exp" separator) [x] := by
  obtain ⟨p, hp, hl, ts, hts, rfl⟩ := derives_nonterminal_iff.1 h
  obtain ⟨r, hr, hs, a, ha, rfl⟩ | ⟨⟨⟨item, separator⟩, list⟩, -, hp⟩ := mem_productions.1 hp
  · cases hl
  · simp only [listProductions, List.mem_cons, List.not_mem_nil, or_false] at hp
    obtain rfl | rfl | rfl | rfl := hp <;> cases hl
    · exact .inl (by rw [derivesAll_nil_iff.1 hts])
    · obtain ⟨x, hx, us, hus, rfl⟩ := derivesAll_cons_iff.1 hts
      exact .inr ⟨x, hx, by rw [derivesAll_nil_iff.1 hus]⟩

end Shapes

def levelStem (kind : τ → Terminal) (name : String) : Stem τ Category where
  one x := branchOf name [x]
  more t a x := branchOf name [branchOf (operationName (kind a)) [t, .leaf a, x]]
  yield_one x := by simp [yieldAll]
  yield_more t a x := by simp [yieldAll, yield]

def itemsStem (separator : String) : Stem τ Category where
  one x := .node (.items "exp" separator) [x]
  more t a x := .node (.items "exp" separator) [t, .leaf a, x]
  yield_one x := by simp [yieldAll, yield]
  yield_more t a x := by simp [yieldAll, yield]

/-- The token is an operator of the rank. -/
def IsOperator (kind : τ → Terminal) (k : Nat) (a : τ) : Prop :=
  ∃ op : Operator, op.rank = k ∧ kind a = .literal op.symbol

theorem grown_level {k : Nat} (hk : 1 ≤ k) (hk' : k ≤ 2) :
    (levelStem kind (levelName k)).Grown (TreeOf kind (levelName (k + 1))) (IsOperator kind k)
      (TreeOf kind (levelName k)) := by
  intro t h
  obtain ⟨x, hx, rfl⟩ | ⟨op, x, a, y, hop, hx, ha, hy, rfl⟩ := level_cases hk (by omega) h
  · exact .inl ⟨x, hx, rfl⟩
  · obtain ⟨hleft, hright⟩ := Operator.ranks_of_le (hop ▸ hk' : op.rank ≤ 2)
    rw [hleft, hop] at hx
    rw [hright, hop] at hy
    exact .inr ⟨x, a, y, hx, ⟨op, hop, ha⟩, hy, by simp [levelStem, ha, Operator.ruleName]⟩

theorem grown_items {separator : String} : (itemsStem separator).Grown (TreeOf kind "exp")
    (fun a => kind a = .literal separator) (ItemsTree kind separator) := by
  intro t h
  obtain ⟨p, hp, hl, ts, hts, rfl⟩ := derives_nonterminal_iff.1 h
  obtain ⟨r, hr, hs, a, ha, rfl⟩ | ⟨⟨⟨item, separator⟩, list⟩, -, hp⟩ := mem_productions.1 hp
  · cases hl
  · simp only [listProductions, List.mem_cons, List.not_mem_nil, or_false] at hp
    obtain rfl | rfl | rfl | rfl := hp <;> cases hl
    · simp [treeOf_ref] at hts
      obtain ⟨x, hx, rfl⟩ := hts
      exact .inl ⟨x, hx, rfl⟩
    · simp [treeOf_ref] at hts
      obtain ⟨y, hy, a, x, ⟨ha, hx⟩, rfl⟩ := hts
      exact .inr ⟨y, a, x, hy, ha, hx, rfl⟩

/-! ## What may follow -/

/-- Nothing comes that could go on with a tree of level `k`. -/
def Barred (kind : τ → Terminal) (k : Nat) (u : List τ) : Prop :=
  ∀ a ∈ u.head?, kind a ≠ .literal "(" ∧
    (∀ op : Operator, k ≤ op.rank → kind a ≠ .literal op.symbol) ∧ (k = 0 → kind a ≠ .literal "=")

theorem Barred.mono {j k : Nat} {u : List τ} (h : Barred kind j u) (hjk : j ≤ k) :
    Barred kind k u := by
  intro a ha
  obtain ⟨hp, hop, he⟩ := h a ha
  exact ⟨hp, fun op hk => hop op (by omega), fun hk => he (by omega)⟩

theorem barred_cons {k : Nat} {a : τ} {u : List τ} {l : String} (ha : kind a = .literal l)
    (hp : l ≠ "(") (hop : ∀ op : Operator, op.symbol = l → op.rank < k) (he : k = 0 → l ≠ "=") :
    Barred kind k (a :: u) := by
  intro b hb
  obtain rfl := Option.some.inj hb
  simp only [ha, ne_eq, Terminal.literal.injEq]
  refine ⟨hp, fun op hk hl => ?_, he⟩
  have := hop op hl.symm
  omega

theorem barred_operator {k : Nat} {a : τ} (h : IsOperator kind k a) (u : List τ) :
    Barred kind (k + 1) (a :: u) := by
  obtain ⟨op, rfl, ha⟩ := h
  refine barred_cons ha (by cases op <;> decide) (fun op' h => ?_) (by omega)
  rw [Phrase.symbol_injective h]
  omega

theorem Barred.unjoined {k : Nat} {u : List τ} (h : Barred kind k u) :
    Unjoined (IsOperator kind k) u := by
  rintro a ha ⟨op, rfl, hop⟩
  exact (h a ha).2.1 op (Nat.le_refl _) hop

/-- The terminals with which an expression begins. -/
def beginsExp (t : Terminal) : Bool :=
  t ∈ [.literal "(", .literal "+", .literal "-", .lexical "IDENT", .lexical "NUMBER"]

/-- Is it a nonterminal of expressions? -/
def ofExp : Category → Bool
  | .rule name => name != "program"
  | .list _ _ => false
  | .items _ _ => true

theorem head_productions : ∀ p ∈ grammar.productions, ofExp p.lhs = true →
    p.rhs.head?.any (begins ofExp beginsExp) = true := by
  decide

/-- Nothing comes that could go on with a list. -/
structure Closing (kind : τ → Terminal) (separator : String) (u : List τ) : Prop where
  barred : Barred kind 0 u
  unjoined : Unjoined (fun a => kind a = .literal separator) u
  ended : ∀ a ∈ u.head?, beginsExp (kind a) = false

theorem barred_nil (k : Nat) : Barred kind k [] := by
  intro a ha
  cases ha

theorem closing_nil {separator : String} : Closing kind separator [] where
  barred := barred_nil 0
  unjoined a ha := by cases ha
  ended a ha := by cases ha

theorem barred_closing {k : Nat} {a : τ} (ha : kind a = .literal ")") (u : List τ) :
    Barred kind k (a :: u) := by
  refine barred_cons ha (by decide) (fun op h => ?_) (fun _ => by decide)
  cases op <;> simp [Operator.symbol] at h

theorem closing_cons {separator : String} (hs : separator ≠ ")") {a : τ}
    (ha : kind a = .literal ")") (u : List τ) : Closing kind separator (a :: u) where
  barred := barred_closing ha u
  unjoined b hb := by
    obtain rfl := Option.some.inj hb
    simpa [ha] using hs.symm
  ended b hb := by
    obtain rfl := Option.some.inj hb
    rw [ha]
    decide

/-! ## Uniqueness -/

/-- Trees of fewer than `m` leaves are told by their leaves. -/
structure ToldBelow (kind : τ → Terminal) (m : Nat) : Prop where
  primary : Told m (TreeOf kind "pri_exp") (Barred kind 4)
  power : Told m (TreeOf kind "exp_exp") (Barred kind 3)
  exp : Told m (TreeOf kind "exp") (Barred kind 0)
  list : Told m (ListTree kind ",") (Closing kind ",")

section Steps

variable {m : Nat}

theorem ToldBelow.primary_succ (h : ToldBelow kind m) :
    Told (m + 1) (TreeOf kind "pri_exp") (Barred kind 4) := by
  intro t t' u v ht ht' hlen hu hv he
  have hsign (negative : Bool) : signSymbol negative ≠ "(" := by cases negative <;> decide
  -- the first token tells the alternative, a parenthesis after a name that it is called
  cases primaryTree ht with
  | token ha =>
    cases primaryTree ht' with
    | token ha' => simpa using he
    | paren ha' | sign _ ha' =>
      simp at he
      simp [he, ha'] at ha
    | call hf' ha' =>
      simp at he
      exact absurd ha' (hu _ (by rw [he.2]; rfl)).1
  | paren ha hx hb =>
    cases primaryTree ht' with
    | paren ha' hx' hb' =>
      simp at he hlen
      obtain ⟨rfl, hrest⟩ := h.exp hx hx' (by omega) (barred_closing hb _) (barred_closing hb' _)
        he.2
      simpa [he.1] using hrest
    | token ha' | call ha' =>
      simp at he
      simp [← he.1, ha] at ha'
    | sign _ ha' =>
      simp at he
      simp [← he.1, ha, (hsign _).symm] at ha'
  | sign negative ha hx =>
    cases primaryTree ht' with
    | sign negative' ha' hx' =>
      simp at he hlen
      obtain ⟨rfl, rfl⟩ := h.primary hx hx' (by omega) hu hv he.2
      rw [he.1, ha', Terminal.literal.injEq] at ha
      obtain rfl := Phrase.signSymbol_injective ha
      simp [he.1]
    | token ha' | call ha' =>
      simp at he
      simp [← he.1, ha] at ha'
    | paren ha' =>
      simp at he
      simp [← he.1, ha, hsign] at ha'
  | call hf ha hl hb =>
    cases primaryTree ht' with
    | call hf' ha' hl' hb' =>
      simp at he hlen
      obtain ⟨rfl, hrest⟩ := h.list hl hl' (by omega) (closing_cons (by decide) hb _)
        (closing_cons (by decide) hb' _) he.2.2
      simpa [he.1, he.2.1] using hrest
    | token ha' =>
      simp at he
      exact absurd ha (hv _ (by rw [← he.2]; rfl)).1
    | paren ha' | sign _ ha' =>
      simp at he
      simp [he, ha'] at hf

theorem ToldBelow.power_succ (h : ToldBelow kind m) :
    Told (m + 1) (TreeOf kind "exp_exp") (Barred kind 3) := by
  intro t t' u v ht ht' hlen hu hv he
  have hpower {a : τ} (ha : kind a = .literal "^") (w : List τ) : Barred kind 4 (a :: w) :=
    barred_operator (k := 3) ⟨.power, rfl, ha⟩ w
  cases powerTree ht with
  | primary hx =>
    cases powerTree ht' with
    | primary hx' =>
      simp at he hlen
      obtain ⟨rfl, rfl⟩ := h.primary_succ hx hx' (by omega) (hu.mono (by omega))
        (hv.mono (by omega)) he
      exact ⟨rfl, rfl⟩
    | power hx' ha' hy' =>
      simp at he hlen
      obtain ⟨-, hrest⟩ := h.primary_succ hx hx' (by omega) (hu.mono (by omega)) (hpower ha' _) he
      exact absurd ha' ((hu _ (by rw [hrest]; rfl)).2.1 .power (Nat.le_refl _))
  | power hx ha hy =>
    cases powerTree ht' with
    | primary hx' =>
      simp at he hlen
      obtain ⟨-, hrest⟩ := h.primary_succ hx hx' (by omega) (hpower ha _) (hv.mono (by omega)) he
      exact absurd ha ((hv _ (by rw [← hrest]; rfl)).2.1 .power (Nat.le_refl _))
    | power hx' ha' hy' =>
      simp at he hlen
      obtain ⟨rfl, hrest⟩ := h.primary_succ hx hx' (by omega) (hpower ha _) (hpower ha' _) he
      simp at hrest
      obtain ⟨rfl, rfl⟩ := h.power hy hy' (by omega) hu hv hrest.2
      simp [hrest.1]

/-- A level of operations that lean to the left is told if the next one is. -/
theorem Told.level {k : Nat} (hk : 1 ≤ k) (hk' : k ≤ 2)
    (h : Told m (TreeOf kind (levelName (k + 1))) (Barred kind (k + 1))) :
    Told m (TreeOf kind (levelName k)) (Barred kind k) :=
  (h.grown (grown_level hk hk') fun _ u ha => barred_operator ha u).mono fun _ hu =>
    ⟨hu.mono (Nat.le_succ k), hu.unjoined⟩

theorem told_exp (h : Told m (TreeOf kind "add_exp") (Barred kind 1)) :
    Told m (TreeOf kind "exp") (Barred kind 0) := by
  intro t t' u v ht ht' hlen hu hv he
  have hequals {b : τ} (hb : kind b = .literal "=") (w : List τ) : Barred kind 1 (b :: w) :=
    barred_cons hb (by decide) (fun op h => by cases op <;> simp [Operator.symbol] at h) (by decide)
  -- a name before `=` would be a sum by itself, and `=` may not follow an expression
  cases expTree ht with
  | sum hx =>
    cases expTree ht' with
    | sum hx' =>
      simp at he hlen
      obtain ⟨rfl, rfl⟩ := h hx hx' hlen (hu.mono (by omega)) (hv.mono (by omega)) he
      exact ⟨rfl, rfl⟩
    | assign ha' hb' hx' =>
      simp at he hlen
      obtain ⟨-, hrest⟩ := h hx (treeOf_name ha') hlen (hu.mono (by omega)) (hequals hb' _)
        (by simpa using he)
      exact absurd hb' ((hu _ (by rw [hrest]; rfl)).2.2 rfl)
  | assign ha hb hx =>
    cases expTree ht' with
    | sum hx' =>
      simp at he hlen
      obtain ⟨-, hrest⟩ := h (treeOf_name ha) hx' (by simp; omega) (hequals hb _)
        (hv.mono (by omega)) (by simpa using he)
      exact absurd hb ((hv _ (by rw [← hrest]; rfl)).2.2 rfl)
    | assign ha' hb' hx' =>
      simp at he hlen
      obtain ⟨rfl, rfl⟩ := h hx hx' (by omega) (hu.mono (by omega)) (hv.mono (by omega)) he.2.2
      simp [he]

theorem told_list {separator : String} (hs : separator = "," ∨ separator = ";")
    (h : Told m (TreeOf kind "exp") (Barred kind 0)) :
    Told m (ListTree kind separator) (Closing kind separator) := by
  have hjoin (a : τ) (u : List τ) (ha : kind a = .literal separator) : Barred kind 0 (a :: u) := by
    refine barred_cons ha (by rcases hs with rfl | rfl <;> decide) (fun op h => ?_)
      (fun _ => by rcases hs with rfl | rfl <;> decide)
    rcases hs with rfl | rfl <;> cases op <;> simp [Operator.symbol] at h
  have hitems : Told m (ItemsTree kind separator) (Closing kind separator) :=
    (h.grown grown_items hjoin).mono fun u hu => ⟨hu.barred, hu.unjoined⟩
  have hfirst {x : Tree τ Category} {u v : List τ} (hx : ItemsTree kind separator x)
      (hu : Closing kind separator u) : u ≠ x.yield ++ v := by
    rintro rfl
    obtain ⟨a, ha, hb⟩ := exists_first head_productions hx rfl
    have hnot := hu.ended a (by rw [List.head?_append, ha]; rfl)
    rw [hb] at hnot
    cases hnot
  intro t t' u v ht ht' hlen hu hv he
  rcases listTree ht with rfl | ⟨x, hx, rfl⟩ <;> rcases listTree ht' with rfl | ⟨x', hx', rfl⟩
  · exact ⟨rfl, by simpa using he⟩
  · exact absurd (by simpa using he) (hfirst hx' hu)
  · exact absurd (by simpa using he.symm) (hfirst hx hv)
  · obtain ⟨rfl, rfl⟩ := hitems hx hx' (by simpa using hlen) hu hv (by simpa using he)
    exact ⟨rfl, rfl⟩

theorem toldBelow (kind : τ → Terminal) : ∀ m, ToldBelow kind m
  | 0 => by
    constructor <;> exact fun _ _ _ _ _ _ hlen => absurd hlen (Nat.not_lt_zero _)
  | m + 1 => by
    have h := toldBelow kind m
    have hproduct := Told.level (k := 2) (by omega) (by omega) h.power_succ
    have hexp := told_exp (Told.level (k := 1) (by omega) (by omega) hproduct)
    exact ⟨h.primary_succ, h.power_succ, hexp, told_list (.inl rfl) hexp⟩

end Steps

/-! ## Every rule -/

/-- The tokens of a tree of the rule tell the tree. -/
def OneTree (kind : τ → Terminal) (name : String) : Prop :=
  ∀ t t', TreeOf kind name t → TreeOf kind name t' → t.yield = t'.yield → t = t'

theorem oneTree_of_told {name : String} {F : List τ → Prop} (hF : F [])
    (h : ∀ m, Told m (TreeOf kind name) F) : OneTree kind name := fun t _ ht ht' he =>
  (h _ ht ht' (Nat.lt_succ_self t.yield.length) hF hF (by rw [he])).1

theorem oneTree_level (kind : τ → Terminal) {k : Nat} (hk : 1 ≤ k) (hk' : k ≤ 4) :
    OneTree kind (levelName k) := by
  have hpower (m : Nat) := (toldBelow kind m).power
  have hproduct (m : Nat) := Told.level (k := 2) (by omega) (by omega) (hpower m)
  have hsum (m : Nat) := Told.level (k := 1) (by omega) (by omega) (hproduct m)
  obtain rfl | rfl | rfl | rfl : k = 1 ∨ k = 2 ∨ k = 3 ∨ k = 4 := by omega
  · exact oneTree_of_told (barred_nil 1) hsum
  · exact oneTree_of_told (barred_nil 2) hproduct
  · exact oneTree_of_told (barred_nil 3) hpower
  · exact oneTree_of_told (barred_nil 4) fun m => (toldBelow kind m).primary

/-- What a rule passes on has one tree if the rule has. -/
theorem OneTree.inner {name inner : String} (h : OneTree kind name)
    (hb : (name, [.ref inner]) ∈ bodies) (hinner : ∃ b, (inner, b) ∈ bodies) :
    OneTree kind inner := by
  intro t t' ht ht' he
  have hsame := h _ _ (treeOf_delegate name hb hinner ht) (treeOf_delegate name hb hinner ht')
    (by simpa using he)
  simpa using hsame

theorem oneTree_program (kind : τ → Terminal) : OneTree kind "program" := by
  intro t t' ht ht' he
  simp [treeOf_iff, symbol] at ht ht'
  obtain ⟨x, hx, rfl⟩ := ht
  obtain ⟨x', hx', rfl⟩ := ht'
  have htold := told_list (m := x.yield.length + 1) (.inr rfl) (toldBelow kind _).exp
  rw [(htold hx hx' (Nat.lt_succ_self _) closing_nil closing_nil (by simpa using he)).1]

/-- The rules that are no labels. -/
def plainNames : List String :=
  ["exp", "assign_exp", "add_exp", "mul_exp", "exp_exp", "pri_exp", "program"]

/-- A label is passed on by the rule that has it. -/
theorem mem_plainNames_or_label : ∀ p ∈ bodies, p.1 ∈ plainNames ∨
    ∃ name ∈ plainNames, (name, [.ref p.1]) ∈ bodies := by
  rw [bodies_eq]
  decide

theorem oneTree_plain (kind : τ → Terminal) {name : String} (h : name ∈ plainNames) :
    OneTree kind name := by
  have hexp : OneTree kind "exp" := oneTree_of_told (barred_nil 0)
    fun m => (toldBelow kind m).exp
  simp only [plainNames, List.mem_cons, List.not_mem_nil, or_false] at h
  obtain rfl | rfl | rfl | rfl | rfl | rfl | rfl := h
  · exact hexp
  · exact hexp.inner (by simp) (by simp)
  · exact oneTree_level kind (k := 1) (by omega) (by omega)
  · exact oneTree_level kind (k := 2) (by omega) (by omega)
  · exact oneTree_level kind (k := 3) (by omega) (by omega)
  · exact oneTree_level kind (k := 4) (by omega) (by omega)
  · exact oneTree_program kind

theorem oneTree_of_mem (kind : τ → Terminal) {p : String × List Item} (hp : p ∈ bodies) :
    OneTree kind p.1 := by
  obtain h | ⟨name, hname, hlabel⟩ := mem_plainNames_or_label p hp
  · exact oneTree_plain kind h
  · exact (oneTree_plain kind hname).inner hlabel ⟨p.2, hp⟩

/-- The grammar is unambiguous: tokens have at most one derivation tree from a rule. -/
theorem derivation_unique {τ : Type} (kind : τ → Terminal) {start : String} {t t' : Tree τ Category}
    (h : Derives grammar.productions kind (.nonterminal (.rule start)) t)
    (h' : Derives grammar.productions kind (.nonterminal (.rule start)) t')
    (hy : t.yield = t'.yield) : t = t' := by
  obtain ⟨body, hb, -⟩ := treeOf_iff.1 h
  exact oneTree_of_mem kind hb t t' h h' hy

theorem derivation_unique_assignment :
    ∃ t : Tree Terminal Category, Derives grammar.productions id (.nonterminal (.rule "exp")) t ∧
      t.yield = [.lexical "IDENT", .literal "=", .lexical "IDENT"] ∧
      ∀ t', Derives grammar.productions id (.nonterminal (.rule "exp")) t' →
        t.yield = t'.yield → t = t' := by
  have hname := @treeOf_name _ id (.lexical "IDENT") rfl
  have hassign : TreeOf id "assign_exp_assign" (branchOf "assign_exp_assign"
      [.leaf (.lexical "IDENT"), .leaf (.literal "="), _]) :=
    treeOf_iff.2 ⟨[.ref "IDENT", .lit "=", .ref "add_exp"], by simp, _,
      by simpa [symbol, treeOf_ref] using hname, rfl⟩
  have hexp := treeOf_delegate "exp" (by simp) (by simp)
    (treeOf_delegate "assign_exp" (by simp) (by simp) hassign)
  exact ⟨_, hexp, by simp, fun t' h' hy => derivation_unique id hexp h' hy⟩

end Reckon.Arithmetic
