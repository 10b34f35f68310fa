import Reckon.Proofs.Arithmetic.Phrase
import Reckon.Proofs.Arithmetic.Recognition

/-!
# Reading phrases

Each syntax tree of an expression is that of a phrase: the tokens are the words of the phrase, and
erasing the tree gives the expression of the phrase (`phrased_of_spells`). Conversely the rules
derive the words of every phrase.
-/

namespace Reckon

/-- The terminal of a token with its text. -/
def Token.word (a : Token) : Arithmetic.Word := (a.terminal, a.text)

namespace Arithmetic

open Grammar

/-! ## Joining phrases -/

namespace Phrase

/-- One more operator and its operands at the end of a series. -/
def join : Phrase → Operator → Phrase → Phrase
  | chain h o r, op, q => chain h o (join r op q)
  | p, op, q => chain p op q

theorem words_join (op : Operator) (q : Phrase) :
    ∀ p : Phrase, (join p op q).words = p.words ++ lit op.symbol :: q.words
  | chain h o r => by
    simp only [join, words, words_join op q r, List.append_assoc, List.cons_append]
  | number _ | name _ | paren _ | sign _ _ | call _ _ | assign _ _ => by simp only [join, words]

theorem series_join (op : Operator) (q : Phrase) :
    ∀ p : Phrase, (join p op q).series
      = (p.series.1, p.series.2 ++ (op, q.series.1) :: q.series.2)
  | chain h o r => by
    simp only [join, series, series_join op q r, List.cons_append]
  | number _ | name _ | paren _ | sign _ _ | call _ _ | assign _ _ => by
    simp only [join, series, List.nil_append, sums_nil]

theorem not_isAssign_join (op : Operator) (q : Phrase) (p : Phrase) : ¬ (join p op q).IsAssign := by
  cases p <;> exact id

theorem wellFormed_join {op : Operator} {q : Phrase} (hq : q.WellFormed) (hqa : ¬ q.IsAssign) :
    ∀ {p : Phrase}, p.WellFormed → ¬ p.IsAssign → (join p op q).WellFormed
  | chain _ _ r, hp, _ =>
    ⟨hp.1, hp.2.1, wellFormed_join hq hqa hp.2.2.1 hp.2.2.2, not_isAssign_join op q r⟩
  | assign _ _, _, hpa => absurd trivial hpa
  | number _, hp, _ | name _, hp, _ | paren _, hp, _ | sign _ _, hp, _ | call _ _, hp, _ =>
    ⟨hp, trivial, hq, hqa⟩

/-- The operators of the phrase have rank `k` or higher; an assignment has rank zero. -/
def Fits (k : Nat) (p : Phrase) : Prop := k = 0 ∨ ¬ p.IsAssign ∧ Tight k p.series.2

theorem Fits.mono {j k : Nat} {p : Phrase} (h : p.Fits j) (hk : k ≤ j) : p.Fits k := by
  rcases h with rfl | ⟨ha, ht⟩
  · exact .inl (Nat.le_zero.1 hk)
  · exact .inr ⟨ha, ht.mono hk⟩

theorem IsPrimary.series_eq {p : Phrase} (h : p.IsPrimary) : p.series.2 = [] := by
  cases p with
  | chain | assign => exact h.elim
  | number | name | paren | sign | call => simp only [series]

theorem IsPrimary.fits {p : Phrase} (h : p.IsPrimary) (k : Nat) : p.Fits k :=
  .inr ⟨h.not_isAssign, h.series_eq ▸ nofun⟩

theorem Fits.isPrimary {p : Phrase} (h : p.Fits 4) : p.IsPrimary := by
  rcases h with h | ⟨ha, ht⟩
  · cases h
  · rcases operand_cases ha with hp | ⟨a, op, r, rfl⟩
    · exact hp
    · exact absurd ht.eq_nil (by simp [series])

theorem Fits.tight {k : Nat} {p : Phrase} (h : p.Fits k) (hk : 0 < k) :
    ¬ p.IsAssign ∧ Tight k p.series.2 := h.resolve_left (Nat.ne_of_gt hk)

theorem expr_join {op : Operator} {p q : Phrase} (hp : Tight op.leftRank p.series.2)
    (hq : Tight op.rightRank q.series.2) : (join p op q).expr = .binary op p.expr q.expr := by
  rw [expr, series_join]
  exact sums_binary hp hq

theorem fits_join {op : Operator} {p q : Phrase} (hp : Tight op.leftRank p.series.2)
    (hq : Tight op.rightRank q.series.2) : (join p op q).Fits op.rank := by
  refine .inr ⟨not_isAssign_join op q p, ?_⟩
  rw [series_join]
  exact (hp.mono op.rank_le_leftRank).append_cons (Nat.le_refl _) (hq.mono op.rank_le_rightRank)

end Phrase

/-! ## The shapes of the rules -/

/-- The least rank of the operators in the phrases of a rule. -/
def rank? : String → Option Nat
  | "exp" | "assign_exp" | "assign_exp_assign" => some 0
  | "add_exp" | "add_exp_plus" | "add_exp_minus" => some 1
  | "mul_exp" | "mul_exp_times" | "mul_exp_divide" => some 2
  | "exp_exp" | "exp_exp_power" => some 3
  | "pri_exp" | "pri_exp_paren" | "pri_exp_pos" | "pri_exp_neg" | "pri_exp_call" => some 4
  | "IDENT" | "NUMBER" => some 4
  | _ => none

def hasRank (k : Nat) (rule : String) : Bool := (rank? rule).any (k ≤ ·)

/-- Has the alternative the shape that its rule says, for phrases of rank `k`? -/
def shapes (k : Nat) : Construct → List Item → Bool
  | .delegate, [.ref x] => hasRank k x
  | .paren, [.lit a, .ref x, .lit b] => k == 4 && a == "(" && hasRank 0 x && b == ")"
  | .sign negative, [.lit a, .ref x] => k == 4 && a == signSymbol negative && hasRank 4 x
  | .assign, [.ref x, .lit a, .ref y] => k == 0 && x == "IDENT" && a == "=" && hasRank 1 y
  | .call, [.ref x, .lit a, .listOf y separator, .lit b] =>
    k == 4 && x == "IDENT" && a == "(" && y == "exp" && separator == "," && b == ")"
  | .binary op, [.ref x, .lit a, .ref y] =>
    k == op.rank && hasRank op.leftRank x && a == op.symbol && hasRank op.rightRank y
  | _, _ => false

theorem shapes_of_rule : ∀ r ∈ grammar.rules, r.isLexical = false → r.name ≠ "program" →
    ∃ k ∈ rank? r.name, ∃ c ∈ construct? r.name, ∀ a ∈ r.alternatives, shapes k c a.body = true := by
  decide

theorem lexicalNames_eq : grammar.lexicalNames = ["IDENT", "NUMBER"] := by rfl

/-! ## From syntax trees to phrases -/

/-- A node is the tree of a phrase of rank `k`, whose words the tokens are. -/
def IsTree (k : Nat) (n : Node) (ts : List Token) : Prop :=
  ∃ p : Phrase, p.WellFormed ∧ p.words = ts.map (·.word) ∧ n.erase = some p.expr ∧ p.Fits k

/-- A node is the tree of a phrase of its rule. -/
structure Phrased (rule : String) (n : Node) (ts : List Token) : Prop where
  name : rule = "IDENT" → IsIdentifier n.source.toList ∧ ts.map (·.word) = [ident n.source]
  phrase : ∀ k ∈ rank? rule, IsTree k n ts

/-- A node of a list of expressions is the tree of a row of phrases. -/
def Listed (item separator : String) (n : Node) (ts : List Token) : Prop :=
  item = "exp" → n.rule = Node.iterationName ∧ ∃ ps : List Phrase, Phrase.AllWellFormed ps ∧
    Phrase.wordsOfList separator ps = ts.map (·.word) ∧
    Node.eraseEach n.children = some (Phrase.exprs ps)

/-- A row of nodes, each the tree of a phrase. -/
inductive Parsed : List Item → List Node → List Token → Prop
  | nil : Parsed [] [] []
  | lit {text : String} {n : Node} {a : Token} {is : List Item} {ns : List Node} {ts : List Token}
      (hn : n.source = text) (ha : a.word = lit text) (h : Parsed is ns ts) :
      Parsed (.lit text :: is) (n :: ns) (a :: ts)
  | ref {name : String} {n : Node} {is : List Item} {ns : List Node} {us ts : List Token}
      (hp : Phrased name n us) (h : Parsed is ns ts) : Parsed (.ref name :: is) (n :: ns) (us ++ ts)
  | list {item separator : String} {n : Node} {is : List Item} {ns : List Node}
      {us ts : List Token} (hl : Listed item separator n us) (h : Parsed is ns ts) :
      Parsed (.listOf item separator :: is) (n :: ns) (us ++ ts)

theorem erase_eq (n : Node) : n.erase =
    match construct? n.rule, n.children with
    | some .delegate, [e] => e.erase
    | some .paren, [_, e, _] => e.erase
    | some .assign, [x, _, e] => e.erase.map (.assign x.source)
    | some (.sign negative), [_, e] => e.erase.map (.sign negative)
    | some (.binary op), [l, o, r] =>
      if o.source = op.symbol then l.erase.bind fun a => r.erase.map (.binary op a) else none
    | some .call, [f, _, ⟨list, es, _, _, _⟩, _] =>
      if list = Node.iterationName then (Node.eraseEach es).map (.call f.source) else none
    | some .name, [] => some (.name n.source)
    | some .number, [] =>
      if (Decimal.unsigned? n.source.toList).isSome then some (.number n.source) else none
    | _, _ => none := by
  obtain ⟨rule, children, source, start, stop⟩ := n
  exact Node.erase.eq_def ⟨rule, children, source, start, stop⟩

/-- A token of a lexical rule is a phrase of one word. -/
theorem phrased_token {name : String} {a : Token} (hn : name ∈ grammar.lexicalNames)
    (ha : a.terminal = .lexical name) (hl : Lexeme a.terminal a.text.toList) :
    Phrased name (.ofToken a) [a] := by
  have hrule : (Node.ofToken a).rule = name := by rw [Node.ofToken, ha]
  rw [ha] at hl
  rw [lexicalNames_eq] at hn
  rcases List.mem_cons.1 hn with rfl | hn
  · obtain ⟨-, hid⟩ | ⟨hne, -⟩ := hl
    · have hword : [a].map (·.word) = [ident a.text] := by
        rw [List.map_singleton, Token.word, ha, ident]
      refine ⟨fun _ => ⟨hid, hword⟩, fun k _ => ⟨.name a.text, hid, hword.symm, ?_, ?_⟩⟩
      · rw [erase_eq, hrule]
        rfl
      · exact Phrase.IsPrimary.fits (p := .name a.text) trivial k
    · exact absurd hne (by decide)
  · obtain rfl := List.mem_singleton.1 hn
    obtain ⟨hne, -⟩ | ⟨-, hnum⟩ := hl
    · exact absurd hne (by decide)
    · refine ⟨fun h => absurd h (by decide), fun k _ => ⟨.number a.text, hnum, ?_, ?_, ?_⟩⟩
      · rw [List.map_singleton, Token.word, ha, Phrase.words, numeral]
      · rw [erase_eq, hrule]
        exact if_pos (isSome_unsigned hnum)
      · exact Phrase.IsPrimary.fits (p := .number a.text) trivial k

theorem Phrased.isTree {k : Nat} {rule : String} {n : Node} {ts : List Token}
    (h : Phrased rule n ts) (hk : hasRank k rule = true) : IsTree k n ts := by
  obtain ⟨hj, hjk⟩ := (Option.any_eq_true_iff_get _ _).1 hk
  obtain ⟨p, hp, hw, he, hf⟩ := h.phrase _ (Option.get_mem hj)
  exact ⟨p, hp, hw, he, hf.mono (of_decide_eq_true hjk)⟩

section Constructs

variable {k : Nat} {n : Node} {ts : List Token} {x y : String}

theorem isTree_delegate (hc : construct? n.rule = some .delegate) (hx : hasRank k x = true)
    (h : Parsed [.ref x] n.children ts) : IsTree k n ts := by
  have he := erase_eq n
  rw [hc] at he
  generalize n.children = ns at h he
  cases h with | ref hp h =>
  cases h with | nil =>
  rw [List.append_nil, IsTree, he]
  exact hp.isTree hx

theorem isTree_paren (hc : construct? n.rule = some .paren) (hx : hasRank 0 x = true)
    (h : Parsed [.lit "(", .ref x, .lit ")"] n.children ts) : IsTree 4 n ts := by
  have he := erase_eq n
  rw [hc] at he
  generalize n.children = ns at h he
  cases h with | lit _ ha h =>
  cases h with | ref hp h =>
  cases h with | lit _ hb h =>
  cases h with | nil =>
  obtain ⟨p, hp, hw, hpe, -⟩ := hp.isTree hx
  refine ⟨.paren p, hp, ?_, ?_, Phrase.IsPrimary.fits (p := .paren p) trivial 4⟩
  · simp only [Phrase.words, hw, List.map_cons, List.map_append, List.map_nil, ha, hb]
  · rw [he]
    exact hpe

theorem isTree_sign {negative : Bool} (hc : construct? n.rule = some (.sign negative))
    (hx : hasRank 4 x = true) (h : Parsed [.lit (signSymbol negative), .ref x] n.children ts) :
    IsTree 4 n ts := by
  have he := erase_eq n
  rw [hc] at he
  generalize n.children = ns at h he
  cases h with | lit _ ha h =>
  cases h with | ref hp h =>
  cases h with | nil =>
  obtain ⟨p, hp, hw, hpe, hfit⟩ := hp.isTree hx
  refine ⟨.sign negative p, ⟨hp, hfit.isPrimary⟩, ?_, ?_,
    Phrase.IsPrimary.fits (p := .sign negative p) trivial 4⟩
  · simp only [Phrase.words, hw, List.map_cons, List.append_nil, ha]
  · simp only [he, hpe, Option.map_some]
    rfl

theorem isTree_assign (hc : construct? n.rule = some .assign) (hy : hasRank 1 y = true)
    (h : Parsed [.ref "IDENT", .lit "=", .ref y] n.children ts) : IsTree 0 n ts := by
  have he := erase_eq n
  rw [hc] at he
  generalize n.children = ns at h he
  cases h with | ref hx h =>
  cases h with | lit _ ha h =>
  cases h with | ref hp h =>
  cases h with | nil =>
  obtain ⟨hid, hxw⟩ := hx.name rfl
  obtain ⟨p, hp, hw, hpe, hfit⟩ := hp.isTree hy
  refine ⟨.assign _ p, ⟨hid, hp, (hfit.tight Nat.one_pos).1⟩, ?_, ?_, .inl rfl⟩
  · simp only [Phrase.words, hw, List.map_append, List.map_cons, List.append_nil, hxw, ha,
      List.singleton_append]
  · simp only [he, hpe, Option.map_some]
    rfl

theorem isTree_call (hc : construct? n.rule = some .call)
    (h : Parsed [.ref "IDENT", .lit "(", .listOf "exp" ",", .lit ")"] n.children ts) :
    IsTree 4 n ts := by
  have he := erase_eq n
  rw [hc] at he
  generalize n.children = ns at h he
  cases h with | ref hx h =>
  cases h with | lit _ ha h =>
  cases h with | @list _ _ m _ _ _ _ hl h =>
  cases h with | lit _ hb h =>
  cases h with | nil =>
  obtain ⟨hid, hxw⟩ := hx.name rfl
  obtain ⟨hm, ps, hps, hw, hpe⟩ := hl rfl
  obtain ⟨list, es, _, _, _⟩ := m
  refine ⟨.call _ ps, ⟨hid, hps⟩, ?_, ?_, Phrase.IsPrimary.fits (p := .call _ ps) trivial 4⟩
  · simp only [Phrase.words, hw, List.map_append, List.map_cons, List.map_nil, hxw, ha, hb,
      List.singleton_append]
  · simp only at hm hpe
    simp only [he, hpe, if_pos hm, Option.map_some]
    rfl

theorem isTree_binary {op : Operator} (hc : construct? n.rule = some (.binary op))
    (hx : hasRank op.leftRank x = true) (hy : hasRank op.rightRank y = true)
    (h : Parsed [.ref x, .lit op.symbol, .ref y] n.children ts) : IsTree op.rank n ts := by
  have he := erase_eq n
  rw [hc] at he
  generalize n.children = ns at h he
  cases h with | ref hp h =>
  cases h with | lit hop ha h =>
  cases h with | ref hq h =>
  cases h with | nil =>
  obtain ⟨p, hp, hpw, hpe, hpf⟩ := hp.isTree hx
  obtain ⟨q, hq, hqw, hqe, hqf⟩ := hq.isTree hy
  obtain ⟨hpa, hpt⟩ := hpf.tight (Nat.lt_of_lt_of_le op.rank_pos op.rank_le_leftRank)
  obtain ⟨hqa, hqt⟩ := hqf.tight (Nat.lt_of_lt_of_le op.rank_pos op.rank_le_rightRank)
  refine ⟨p.join op q, Phrase.wellFormed_join hq hqa hp hpa, ?_, ?_, Phrase.fits_join hpt hqt⟩
  · simp only [Phrase.words_join, hpw, hqw, List.map_append, List.map_cons, List.append_nil, ha]
  · simp only [he, hpe, hqe, if_pos hop, Option.map_some, Option.bind_some,
      Phrase.expr_join hpt hqt]

theorem isTree_of_shapes {c : Construct} {body : List Item} (hc : construct? n.rule = some c)
    (hs : shapes k c body = true) (h : Parsed body n.children ts) : IsTree k n ts := by
  unfold shapes at hs
  split at hs
  · exact isTree_delegate hc hs h
  · simp only [Bool.and_eq_true, beq_iff_eq] at hs
    obtain ⟨⟨⟨rfl, rfl⟩, hx⟩, rfl⟩ := hs
    exact isTree_paren hc hx h
  · simp only [Bool.and_eq_true, beq_iff_eq] at hs
    obtain ⟨⟨rfl, rfl⟩, hx⟩ := hs
    exact isTree_sign hc hx h
  · simp only [Bool.and_eq_true, beq_iff_eq] at hs
    obtain ⟨⟨⟨rfl, rfl⟩, rfl⟩, hy⟩ := hs
    exact isTree_assign hc hy h
  · simp only [Bool.and_eq_true, beq_iff_eq] at hs
    obtain ⟨⟨⟨⟨⟨rfl, rfl⟩, rfl⟩, rfl⟩, rfl⟩, rfl⟩ := hs
    exact isTree_call hc h
  · simp only [Bool.and_eq_true, beq_iff_eq] at hs
    obtain ⟨⟨⟨rfl, hx⟩, rfl⟩, hy⟩ := hs
    exact isTree_binary hc hx hy h
  · cases hs

end Constructs

theorem exists_wordsOfMore {separator : String} : ∀ {k : Nat} {ms : List Node} {ts : List Token},
    Parsed (Item.repeated "exp" separator (k + 1)) ms ts → ∃ ps, Phrase.AllWellFormed ps ∧
      Phrase.wordsOfMore separator ps = lit separator :: ts.map (·.word) ∧
      Node.eraseEach (everyOther ms) = some (Phrase.exprs ps)
  | 0, ms, ts, h => by
    cases h with | ref hp h =>
    cases h with | nil =>
    obtain ⟨p, hp, hw, he, -⟩ := hp.isTree (k := 0) rfl
    refine ⟨[p], ⟨hp, trivial⟩, ?_, ?_⟩
    · simp only [Phrase.wordsOfMore, hw, List.append_nil]
    · simp only [everyOther, Node.eraseEach, he, Option.bind_some, Option.map_some]
      rfl
  | k + 1, ms, ts, h => by
    cases h with | ref hp h =>
    cases h with | lit _ ha h =>
    obtain ⟨p, hp, hw, he, -⟩ := hp.isTree (k := 0) rfl
    obtain ⟨ps, hps, hws, hes⟩ := exists_wordsOfMore h
    refine ⟨p :: ps, ⟨hp, hps⟩, ?_, ?_⟩
    · simp only [Phrase.wordsOfMore, hw, hws, List.map_append, List.map_cons, ha]
    · simp only [everyOther, Node.eraseEach, he, hes, Option.bind_some, Option.map_some]
      rfl

theorem listed_of_repeated {item separator : String} {k : Nat} {n : Node} {ms : List Node}
    {ts : List Token} (hn : n.rule = Node.iterationName) (hc : n.children = everyOther ms)
    (h : Parsed (Item.repeated item separator k) ms ts) : Listed item separator n ts := by
  rintro rfl
  refine ⟨hn, ?_⟩
  rw [hc]
  cases k with
  | zero =>
    cases h with | nil =>
    exact ⟨[], trivial, rfl, rfl⟩
  | succ k =>
    obtain ⟨ps, hps, hws, hes⟩ := exists_wordsOfMore h
    refine ⟨ps, hps, ?_, hes⟩
    cases ps with
    | nil => cases hws
    | cons p ps => exact (List.cons.inj hws).2

theorem phrased_rule {r : Rule} {a : Alternative} {n : Node} {ts : List Token}
    (hr : r ∈ grammar.rules) (hs : r.isLexical = false) (ha : a ∈ r.alternatives)
    (hn : n.rule = r.name) (h : Parsed a.body n.children ts) : Phrased r.name n ts := by
  by_cases hp : r.name = "program"
  · rw [hp]
    exact ⟨fun he => absurd he (by decide), fun k hk => by cases hk⟩
  · obtain ⟨k, hk, c, hc, hall⟩ := shapes_of_rule r hr hs hp
    refine ⟨fun he => ?_, fun j hj => ?_⟩
    · -- no alternative has the shape of a token
      rw [he] at hc
      cases hc
      have := hall a ha
      unfold shapes at this
      split at this <;> simp_all
    · obtain rfl := Option.some.inj (hk.symm.trans hj)
      exact isTree_of_shapes (hn ▸ hc) (hall a ha) h

theorem parsed_of_spells {is : List Item} {ns : List Node} {ts : List Token}
    (h : grammar.Spells is ns ts) (hl : ∀ a ∈ ts, Lexeme a.terminal a.text.toList) :
    Parsed is ns ts := by
  induction h with
  | nil => exact .nil
  | lit ha ht _ ih =>
    exact .lit ht (by rw [Token.word, ha, ht, lit])
      (ih fun b hb => hl b (List.mem_cons_of_mem _ hb))
  | lexical hn ha _ ih =>
    have hrow := Parsed.ref (phrased_token hn ha (hl _ List.mem_cons_self))
      (ih fun b hb => hl b (List.mem_cons_of_mem _ hb))
    exact hrow
  | rule hr hs ha hn _ _ ihu ih =>
    exact .ref (phrased_rule hr hs ha hn (ihu fun b hb => hl b (List.mem_append_left _ hb)))
      (ih fun b hb => hl b (List.mem_append_right _ hb))
  | list hn _ hc _ ihu ih =>
    exact .list (listed_of_repeated hn hc (ihu fun b hb => hl b (List.mem_append_left _ hb)))
      (ih fun b hb => hl b (List.mem_append_right _ hb))

theorem program_body : ∀ r ∈ grammar.rules, r.name = "program" →
    ∀ a ∈ r.alternatives, a.body = [.listOf "exp" ";"] := by
  decide

/-- The tree of a program is that of a row of phrases. -/
theorem exists_phrases_of_spells {n : Node} {ts : List Token}
    (h : grammar.Spells [.ref "program"] [n] ts)
    (hl : ∀ a ∈ ts, Lexeme a.terminal a.text.toList) :
    ∃ ps, Phrase.AllWellFormed ps ∧ Phrase.wordsOfList ";" ps = ts.map (·.word) ∧
      n.statements = some (Phrase.exprs ps) := by
  generalize hstart : "program" = start at h
  cases h with
  | lexical hn _ _ =>
    rw [lexicalNames_eq, ← hstart] at hn
    exact absurd hn (by decide)
  | rule hr _ ha hn hu hnil =>
    cases hnil
    rw [List.append_nil] at hl ⊢
    have hu' := parsed_of_spells hu hl
    rw [program_body _ hr hstart.symm _ ha] at hu'
    obtain ⟨rule, children, source, start, stop⟩ := n
    cases hu' with | @list _ _ m _ _ _ _ hm hnil =>
    cases hnil
    obtain ⟨hiter, ps, hps, hw, he⟩ := hm rfl
    obtain ⟨list, es, _, _, _⟩ := m
    refine ⟨ps, hps, by rw [hw, List.append_nil], ?_⟩
    obtain rfl : rule = "program" := hn.trans hstart.symm
    rw [Node.statements, if_pos hiter, he]

/-- The text of a program is a row of phrases, and its tree has their expressions. -/
theorem exists_phrases_of_parse {text : String} {n : Node} (h : parse "program" text = .ok n) :
    ∃ ts ps, Reads Lexeme 0 text.toList ts text.toList.length [] ∧ Phrase.AllWellFormed ps ∧
      Phrase.wordsOfList ";" ps = ts.map (·.word) ∧ n.statements = some (Phrase.exprs ps) := by
  obtain ⟨ts, hr, hsp⟩ := accepts_of_parse_ok isSyntactic_program h
  obtain ⟨ps, hps, hw, he⟩ := exists_phrases_of_spells hsp hr.word_of_mem
  exact ⟨ts, ps, hr, hps, hw, he⟩

end Arithmetic

end Reckon
