import Reckon.Proofs.Arithmetic.Reading

/-!
# Sentences

The rules derive the words of every phrase: a series is a power, then powers joined to it by `*` and
`/`, then products joined to that by `+` and `-`. So a text that spells the words of some phrases,
with gaps between them where it likes, is a program, and has their expressions (`exists_parse`).
-/

namespace Reckon.Arithmetic

open Grammar

/-! ## Levels -/

/-- The syntactic rules, each with the body of one alternative. -/
def bodies : List (String × List Item) :=
  (grammar.rules.filter (!·.isLexical)).flatMap fun r => r.alternatives.map fun a => (r.name, a.body)

@[simp] theorem bodies_eq : bodies = [
    ("exp", [.ref "assign_exp"]),
    ("assign_exp", [.ref "assign_exp_assign"]),
    ("assign_exp", [.ref "add_exp"]),
    ("assign_exp_assign", [.ref "IDENT", .lit "=", .ref "add_exp"]),
    ("add_exp", [.ref "add_exp_plus"]),
    ("add_exp", [.ref "add_exp_minus"]),
    ("add_exp", [.ref "mul_exp"]),
    ("add_exp_plus", [.ref "add_exp", .lit "+", .ref "mul_exp"]),
    ("add_exp_minus", [.ref "add_exp", .lit "-", .ref "mul_exp"]),
    ("mul_exp", [.ref "mul_exp_times"]),
    ("mul_exp", [.ref "mul_exp_divide"]),
    ("mul_exp", [.ref "exp_exp"]),
    ("mul_exp_times", [.ref "mul_exp", .lit "*", .ref "exp_exp"]),
    ("mul_exp_divide", [.ref "mul_exp", .lit "/", .ref "exp_exp"]),
    ("exp_exp", [.ref "exp_exp_power"]),
    ("exp_exp", [.ref "pri_exp"]),
    ("exp_exp_power", [.ref "pri_exp", .lit "^", .ref "exp_exp"]),
    ("pri_exp", [.ref "pri_exp_paren"]),
    ("pri_exp", [.ref "pri_exp_pos"]),
    ("pri_exp", [.ref "pri_exp_neg"]),
    ("pri_exp", [.ref "pri_exp_call"]),
    ("pri_exp", [.ref "IDENT"]),
    ("pri_exp", [.ref "NUMBER"]),
    ("pri_exp_paren", [.lit "(", .ref "exp", .lit ")"]),
    ("pri_exp_pos", [.lit "+", .ref "pri_exp"]),
    ("pri_exp_neg", [.lit "-", .ref "pri_exp"]),
    ("pri_exp_call", [.ref "IDENT", .lit "(", .listOf "exp" ",", .lit ")"]),
    ("program", [.listOf "exp" ";"])] := by
  rfl

/-- The rule of the expressions whose operators have rank `k` or higher. -/
@[simp] def levelName : Nat → String
  | 0 => "exp"
  | 1 => "add_exp"
  | 2 => "mul_exp"
  | 3 => "exp_exp"
  | _ => "pri_exp"

/-- The word is an expression of a level. -/
def IsLevel (k : Nat) (w : List Terminal) : Prop := grammar.Derives [.ref (levelName k)] w

section Rules

variable {name : String} {b : List Item} {k : Nat} {u v w : List Terminal}

theorem derives_of_body (h : (name, b) ∈ bodies) (hu : grammar.Derives b u) :
    grammar.Derives [.ref name] u := by
  obtain ⟨r, hr, hmem⟩ := List.mem_flatMap.1 h
  obtain ⟨a, ha, he⟩ := List.mem_map.1 hmem
  obtain ⟨rfl, rfl⟩ := Prod.mk.inj he
  obtain ⟨hr, hs⟩ := List.mem_filter.1 hr
  have hu' := Derives.rule hr (by simpa using hs) ha hu .nil
  rwa [List.append_nil] at hu'

/-- A labelled alternative is a rule of its own. -/
theorem derives_of_label (label : String) (h : (name, [.ref label]) ∈ bodies)
    (h' : (label, b) ∈ bodies) (hu : grammar.Derives b u) : grammar.Derives [.ref name] u :=
  derives_of_body h (derives_of_body h' hu)

theorem derives_token {name : String} (hn : name ∈ grammar.lexicalNames) :
    grammar.Derives [.ref name] [.lexical name] := .lexical hn .nil

theorem ident_mem : "IDENT" ∈ grammar.lexicalNames := by
  rw [lexicalNames_eq]
  exact List.mem_cons_self

theorem number_mem : "NUMBER" ∈ grammar.lexicalNames := by
  rw [lexicalNames_eq]
  exact List.mem_cons_of_mem _ List.mem_cons_self

theorem IsLevel.power (h : IsLevel 4 w) : IsLevel 3 w := derives_of_body (by simp) h

theorem IsLevel.product (h : IsLevel 3 w) : IsLevel 2 w := derives_of_body (by simp) h

theorem IsLevel.sum (h : IsLevel 2 w) : IsLevel 1 w := derives_of_body (by simp) h

theorem IsLevel.exp (h : IsLevel 1 w) : IsLevel 0 w :=
  derives_of_label "assign_exp" (by simp) (by simp) h

theorem isLevel_binary (op : Operator) (hu : IsLevel op.leftRank u) (hv : IsLevel op.rightRank v) :
    IsLevel op.rank (u ++ .literal op.symbol :: v) := by
  have hbody : ∃ label, (levelName op.rank, [.ref label]) ∈ bodies ∧
      (label, [.ref (levelName op.leftRank), .lit op.symbol, .ref (levelName op.rightRank)])
        ∈ bodies := by
    cases op <;> simp only [Operator.rank, Operator.leftRank, Operator.rightRank, Operator.symbol]
    · exact ⟨"add_exp_plus", by simp⟩
    · exact ⟨"add_exp_minus", by simp⟩
    · exact ⟨"mul_exp_times", by simp⟩
    · exact ⟨"mul_exp_divide", by simp⟩
    · exact ⟨"exp_exp_power", by simp⟩
  obtain ⟨label, h, h'⟩ := hbody
  exact derives_of_label label h h' (hu.append (.lit op.symbol hv))

theorem isLevel_name : IsLevel 4 [.lexical "IDENT"] :=
  derives_of_body (by simp) (derives_token ident_mem)

theorem isLevel_number : IsLevel 4 [.lexical "NUMBER"] :=
  derives_of_body (by simp) (derives_token number_mem)

theorem isLevel_paren (h : IsLevel 0 w) : IsLevel 4 (.literal "(" :: (w ++ [.literal ")"])) :=
  derives_of_label "pri_exp_paren" (by simp) (by simp)
    (.lit "(" (h.append (.lit ")" .nil)))

theorem isLevel_sign (negative : Bool) (h : IsLevel 4 w) :
    IsLevel 4 (.literal (signSymbol negative) :: w) := by
  cases negative with
  | false =>
    exact derives_of_label "pri_exp_pos" (by simp) (by simp) (.lit "+" h)
  | true =>
    exact derives_of_label "pri_exp_neg" (by simp) (by simp) (.lit "-" h)

theorem isLevel_call (h : grammar.Derives (Item.repeated "exp" "," k) w) :
    IsLevel 4 (.lexical "IDENT" :: .literal "(" :: (w ++ [.literal ")"])) :=
  derives_of_label "pri_exp_call" (by simp) (by simp)
    (.lexical ident_mem (.lit "(" (.list k h (.lit ")" .nil))))

theorem isLevel_assign (h : IsLevel 1 w) : IsLevel 0 (.lexical "IDENT" :: .literal "=" :: w) :=
  derives_of_body (b := [.ref "assign_exp"]) (by simp)
    (derives_of_label "assign_exp_assign" (by simp) (by simp)
      (.lexical ident_mem (.lit "=" h)))

end Rules

/-! ## Series -/

/-- A power, what continues a product, and what continues a sum. -/
def IsSum (w : List Terminal) : Prop :=
  ∃ a b c, w = a ++ (b ++ c) ∧ IsLevel 3 a ∧ (∀ u, IsLevel 2 u → IsLevel 2 (u ++ b)) ∧
    ∀ u, IsLevel 1 u → IsLevel 1 (u ++ c)

theorem IsSum.isLevel {w : List Terminal} (h : IsSum w) : IsLevel 1 w := by
  obtain ⟨a, b, c, rfl, ha, hb, hc⟩ := h
  rw [← List.append_assoc]
  exact hc _ (hb a ha.product).sum

theorem IsLevel.isSum {w : List Terminal} (h : IsLevel 3 w) : IsSum w :=
  ⟨w, [], [], by simp, h, fun u hu => by rwa [List.append_nil], fun u hu => by rwa [List.append_nil]⟩

/-- One more operand in front of a series. -/
theorem IsSum.chain {h w : List Terminal} (op : Operator) (hh : IsLevel 4 h) (hw : IsSum w) :
    IsSum (h ++ .literal op.symbol :: w) := by
  obtain ⟨a, b, c, rfl, ha, hb, hc⟩ := hw
  have hproduct (hop : op.rank = 2) (hl : op.leftRank = 2) (hr : op.rightRank = 3) :
      IsSum (h ++ .literal op.symbol :: (a ++ (b ++ c))) := by
    refine ⟨h, .literal op.symbol :: (a ++ b), c, by simp, hh.power, fun u hu => ?_, hc⟩
    have hua := isLevel_binary op (hl ▸ hu) (hr ▸ ha)
    rw [hop] at hua
    simpa using hb _ hua
  have hsum (hop : op.rank = 1) (hl : op.leftRank = 1) (hr : op.rightRank = 2) :
      IsSum (h ++ .literal op.symbol :: (a ++ (b ++ c))) := by
    refine ⟨h, [], .literal op.symbol :: (a ++ (b ++ c)), by simp, hh.power, fun u hu => ?_,
      fun u hu => ?_⟩
    · rwa [List.append_nil]
    · have hua := isLevel_binary op (hl ▸ hu) (hr ▸ hb a ha.product)
      rw [hop] at hua
      simpa using hc _ hua
  cases op with
  | plus | minus => exact hsum rfl rfl rfl
  | times | divide => exact hproduct rfl rfl rfl
  | power =>
    exact ⟨h ++ .literal Operator.power.symbol :: a, b, c, by simp, isLevel_binary .power hh ha, hb,
      hc⟩

/-! ## Phrases -/

namespace Phrase

/-- The terminals of the words of a phrase. -/
def terminals (p : Phrase) : List Terminal := p.words.map Prod.fst

/-- The rules derive the phrase at each level that it can stand at. -/
structure Derived (p : Phrase) : Prop where
  primary : p.IsPrimary → IsLevel 4 p.terminals
  sum : ¬ p.IsAssign → IsSum p.terminals
  exp : IsLevel 0 p.terminals

theorem Derived.of_primary {p : Phrase} (h : IsLevel 4 p.terminals) : p.Derived where
  primary _ := h
  sum _ := h.power.isSum
  exp := h.power.isSum.isLevel.exp

theorem derives_repeated (separator : String) : ∀ {ps : List Phrase}, (∀ p ∈ ps, p.Derived) →
    grammar.Derives (Item.repeated "exp" separator ps.length)
      ((wordsOfList separator ps).map Prod.fst)
  | [], _ => .nil
  | [p], h => by
    have hp : IsLevel 0 p.terminals := (h p List.mem_cons_self).exp
    rw [wordsOfList, wordsOfMore, List.append_nil]
    exact hp
  | p :: q :: ps, h => by
    have hp : IsLevel 0 p.terminals := (h p List.mem_cons_self).exp
    have hps := derives_repeated separator fun r hr => h r (List.mem_cons_of_mem p hr)
    rw [wordsOfList, wordsOfMore, List.map_append, List.map_cons]
    exact Derives.append hp (.lit separator hps)

mutual

theorem derived : ∀ {p : Phrase}, p.WellFormed → p.Derived
  | number _, _ => .of_primary isLevel_number
  | name _, _ => .of_primary isLevel_name
  | paren e, h => by
    refine .of_primary ?_
    rw [terminals, words, List.map_cons, List.map_append]
    exact isLevel_paren (derived (p := e) h).exp
  | sign negative e, h => by
    refine .of_primary ?_
    rw [terminals, words, List.map_cons]
    exact isLevel_sign negative ((derived h.1).primary h.2)
  | call f es, h => by
    refine .of_primary ?_
    rw [terminals, words, List.map_cons, List.map_cons, List.map_append]
    exact isLevel_call (derives_repeated "," (allDerived h.2))
  | chain a op r, h => by
    have hsum : IsSum (chain a op r).terminals := by
      rw [terminals, words, List.map_append, List.map_cons]
      exact ((derived h.2.2.1).sum h.2.2.2).chain op ((derived h.1).primary h.2.1)
    exact ⟨fun hp => hp.elim, fun _ => hsum, hsum.isLevel.exp⟩
  | assign x e, h => by
    refine ⟨fun hp => hp.elim, fun ha => absurd trivial ha, ?_⟩
    rw [terminals, words, List.map_cons, List.map_cons]
    exact isLevel_assign ((derived h.2.1).sum h.2.2).isLevel

theorem allDerived : ∀ {ps : List Phrase}, AllWellFormed ps → ∀ p ∈ ps, p.Derived
  | [], _ => nofun
  | _ :: _, h => List.forall_mem_cons.2 ⟨derived h.1, allDerived h.2⟩

end

theorem derives_program {ps : List Phrase} (h : AllWellFormed ps) :
    grammar.Derives [.ref "program"] ((wordsOfList ";" ps).map Prod.fst) := by
  have hlist := Derives.list _ (derives_repeated ";" (allDerived h)) .nil
  rw [List.append_nil] at hlist
  exact derives_of_body (by simp) hlist

end Phrase

/-! ## Spelling -/

/-- The text does not go on with a name or numeral. -/
def Breaks (cs : List Char) : Prop :=
  ∀ c ∈ cs.head?, isWord c = false ∧ isDecimalDigit c = false ∧ c ≠ '.'

theorem Breaks.append {cs rest : List Char} (h : Breaks cs) (h' : Breaks rest) :
    Breaks (cs ++ rest) := by
  cases cs with
  | nil => exact h'
  | cons c cs => exact h

theorem breaks_symbol {c : Char} (hc : c ∈ symbols) (cs : List Char) : Breaks (c :: cs) := by
  intro d hd
  obtain rfl := Option.some.inj hd
  obtain ⟨hw, hn, hp, -⟩ := symbols_distinct c hc
  exact ⟨hw, hn, hp⟩

theorem breaks_gap (cs : List Char) : Breaks (' ' :: cs) := by
  intro d hd
  obtain rfl := Option.some.inj hd
  decide

theorem exists_symbol : ∀ op : Operator, ∃ c ∈ symbols, op.symbol = .singleton c
  | .plus => ⟨'+', by decide, by decide⟩
  | .minus => ⟨'-', by decide, by decide⟩
  | .times => ⟨'*', by decide, by decide⟩
  | .divide => ⟨'/', by decide, by decide⟩
  | .power => ⟨'^', by decide, by decide⟩

/-- Whatever follows a symbol, the symbol is a token. -/
theorem isToken_symbol {c : Char} (hc : c ∈ symbols) (rest : List Char) :
    IsToken Lexeme (.literal (.singleton c)) [c] rest where
  nonempty := List.cons_ne_nil _ _
  word := by
    refine ⟨?_, by rw [String.toList_singleton]⟩
    rw [literals_eq]
    exact List.mem_map_of_mem hc
  longest t v hv hpre := by
    rcases v with _ | ⟨d, v⟩
    · exact Nat.zero_le _
    obtain ⟨rfl, -⟩ := List.cons_prefix_cons.1 hpre
    obtain ⟨hw, hd, hp, -⟩ := symbols_distinct d hc
    rcases hv.kind with ⟨-, -, rfl⟩ | ⟨hl, -⟩ | ⟨hn | hn, -⟩
    · exact Nat.le_refl _
    · exact absurd (isWord_of_isLetter hl) (by simp [hw])
    · exact absurd hn (by simp [hd])
    · exact absurd hn hp

theorem Lexeme.part_of_mem {name : String} {u : List Char} (h : Lexeme (.lexical name) u) :
    ∀ c ∈ u, ¬ (isWord c = false ∧ isDecimalDigit c = false ∧ c ≠ '.') := by
  rintro c hc ⟨hw, hd, hp⟩
  rcases h with ⟨-, a, cs, rfl, ha, hcs⟩ | ⟨-, ⟨cs, ds, rfl, hcs, -, hds⟩ | ⟨-, hu⟩⟩
  · rcases List.mem_cons.1 hc with rfl | hc
    · exact absurd (isWord_of_isLetter ha) (by simp [hw])
    · exact absurd (hcs c hc) (by simp [hw])
  · rcases List.mem_append.1 hc with hc | hc
    · exact absurd (hcs c hc) (by simp [hd])
    · rcases List.mem_cons.1 hc with rfl | hc
      · exact hp rfl
      · exact absurd (hds c hc) (by simp [hd])
  · exact absurd (hu c hc) (by simp [hd])

theorem Lexeme.ne_nil {name : String} {u : List Char} (h : Lexeme (.lexical name) u) : u ≠ [] := by
  rcases h with ⟨-, a, cs, rfl, -⟩ | ⟨-, ⟨cs, ds, rfl, -⟩ | ⟨hne, -⟩⟩
  · exact List.cons_ne_nil _ _
  · simp
  · exact hne

/-- A token ends no later where the text that breaks goes on. -/
theorem isToken_append {t : Terminal} {u cs rest : List Char} (h : IsToken Lexeme t u cs)
    (hb : Breaks rest) : IsToken Lexeme t u (cs ++ rest) where
  nonempty := h.nonempty
  word := h.word
  longest t' v hv hpre := by
    rw [← List.append_assoc] at hpre
    by_cases hlen : v.length ≤ (u ++ cs).length
    · exact h.longest t' v hv
        (List.prefix_of_prefix_length_le hpre (List.prefix_append _ rest) hlen)
    obtain ⟨w, rfl⟩ : u ++ cs <+: v :=
      List.prefix_of_prefix_length_le (List.prefix_append _ rest) hpre (by omega)
    obtain ⟨c, w, rfl⟩ : ∃ c w', w = c :: w' := by
      refine List.exists_cons_of_ne_nil fun hw => hlen ?_
      rw [hw, List.append_nil]
    have hc : c ∈ rest.head? := by
      obtain ⟨more, rfl⟩ := (List.prefix_append_right_inj (u ++ cs)).1 hpre
      rfl
    -- a word that goes on past the break has a character before it, so it is no symbol
    rcases t' with l | name'
    · obtain ⟨d, u, rfl⟩ := List.exists_cons_of_ne_nil h.nonempty
      rcases hv.kind with ⟨-, -, hnil⟩ | ⟨-, ht⟩ | ⟨-, ht⟩
      · simp at hnil
      · cases ht
      · cases ht
    · exact absurd (hb c hc) (hv.part_of_mem c (List.mem_append_right _ List.mem_cons_self))

/-- A name or numeral ends where the text breaks. -/
theorem isToken_lexical {name : String} {u rest : List Char} (h : Lexeme (.lexical name) u)
    (hb : Breaks rest) : IsToken Lexeme (.lexical name) u rest := by
  have halone : IsToken Lexeme (.lexical name) u [] :=
    ⟨h.ne_nil, h, fun _ _ _ hpre => by simpa using hpre.length_le⟩
  exact isToken_append halone hb

/-- What is read alone is read alike before a break. -/
theorem reads_append {ts : List Token} {p q : Nat} {cs : List Char}
    (h : Reads Lexeme p cs ts q []) {rest : List Char} (hb : Breaks rest) :
    Reads Lexeme p (cs ++ rest) ts q rest := by
  generalize hnil : ([] : List Char) = left at h
  induction h with
  | done => exact hnil ▸ .done _ _
  | gap hc _ ih => exact .gap hc (ih hnil)
  | token hu _ ih =>
    rw [List.append_assoc]
    exact .token (isToken_append hu hb) (ih hnil)

/-- Up to a break the text reads as tokens of these words. -/
def Spelt (ws : List Word) (cs : List Char) : Prop :=
  ∀ pos rest, Breaks rest → ∃ ts : List Token, ts.map (·.word) = ws ∧
    Reads Lexeme pos (cs ++ rest) ts (pos + cs.length) rest

namespace Spelt

variable {ws vs : List Word} {cs ds : List Char}

theorem nil : Spelt [] [] := fun pos rest _ => ⟨[], rfl, .done pos rest⟩

theorem append (h : Spelt ws cs) (h' : Spelt vs ds) (hb : Breaks ds) :
    Spelt (ws ++ vs) (cs ++ ds) := by
  intro pos rest hrest
  obtain ⟨ts, hts, hr⟩ := h pos (ds ++ rest) (hb.append hrest)
  obtain ⟨us, hus, hr'⟩ := h' (pos + cs.length) rest hrest
  refine ⟨ts ++ us, by rw [List.map_append, hts, hus], ?_⟩
  rw [List.append_assoc, List.length_append, ← Nat.add_assoc]
  exact hr.append hr'

theorem gap (h : Spelt ws cs) : Spelt ws (' ' :: cs) := by
  intro pos rest hrest
  obtain ⟨ts, hts, hr⟩ := h (pos + 1) rest hrest
  refine ⟨ts, hts, ?_⟩
  rw [List.length_cons, Nat.add_comm cs.length, ← Nat.add_assoc]
  exact .gap (by decide) hr

theorem symbol {s : String} {c : Char} (hs : s = .singleton c) (hc : c ∈ symbols)
    (h : Spelt ws cs) : Spelt (lit s :: ws) (c :: cs) := by
  subst hs
  intro pos rest hrest
  obtain ⟨ts, hts, hr⟩ := h (pos + 1) rest hrest
  have hread := Reads.token (isToken_symbol hc (cs ++ rest)) hr
  refine ⟨_, ?_, by rwa [List.length_cons, Nat.add_comm cs.length, ← Nat.add_assoc]⟩
  rw [List.map_cons, hts]
  rfl

theorem lexical {name x : String} (h : Lexeme (.lexical name) x.toList) :
    Spelt [(.lexical name, x)] x.toList := by
  intro pos rest hrest
  refine ⟨_, ?_, .token (isToken_lexical h hrest) (.done _ _)⟩
  rw [List.map_singleton, Token.word, String.ofList_toList]

theorem reads {text : String} (h : Spelt ws text.toList) :
    ∃ ts : List Token, ts.map (·.word) = ws ∧
      Reads Lexeme 0 text.toList ts text.toList.length [] := by
  have hnil : Breaks [] := nofun
  obtain ⟨ts, hts, hr⟩ := h 0 [] hnil
  rw [List.append_nil, Nat.zero_add] at hr
  exact ⟨ts, hts, hr⟩

end Spelt

theorem tokens_unique {cs : List Char} {ts us : List Token} {p q : Nat}
    (h : Reads Lexeme 0 cs ts p []) (h' : Reads Lexeme 0 cs us q []) : ts = us := by
  rw [← word_eq_lexeme] at h h'
  have hts := Scan.scanFrom_eq distinct_forms h
  rw [Scan.scanFrom_eq distinct_forms h'] at hts
  cases hts
  rfl

/-- What is read from a text that spells some words is the tree of phrases with these words. -/
theorem exists_phrases_of_spelt {text : String} {ws : List Word} {n : Node}
    (hs : Spelt ws text.toList) (h : parse "program" text = .ok n) :
    ∃ ps, Phrase.AllWellFormed ps ∧ Phrase.wordsOfList ";" ps = ws ∧
      n.statements = some (Phrase.exprs ps) := by
  obtain ⟨ts, ps, hr, hps, hw, he⟩ := exists_phrases_of_parse h
  obtain ⟨us, hus, hr'⟩ := hs.reads
  obtain rfl := tokens_unique hr hr'
  exact ⟨ps, hps, hw.trans hus, he⟩

/-- A text that spells phrases is a program with their expressions. -/
theorem exists_parse {text : String} {ps : List Phrase} (hps : Phrase.AllWellFormed ps)
    (hs : Spelt (Phrase.wordsOfList ";" ps) text.toList) :
    ∃ n, parse "program" text = .ok n ∧ n.statements = some (Phrase.exprs ps) := by
  obtain ⟨ts, hts, hr⟩ := hs.reads
  have hd : grammar.Derives [.ref "program"] (ts.map (·.terminal)) := by
    have hd := Phrase.derives_program hps
    rwa [← hts, List.map_map] at hd
  obtain ⟨n, hn⟩ := exists_parse_ok isSyntactic_program hr hd
  obtain ⟨qs, hqs, hw, he⟩ := exists_phrases_of_spelt hs hn
  obtain rfl := Phrase.statements_inj hqs hps hw
  exact ⟨n, hn, he⟩

end Reckon.Arithmetic
