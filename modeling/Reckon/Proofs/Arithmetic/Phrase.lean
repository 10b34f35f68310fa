import Reckon.Proofs.Arithmetic.Grouping
import Reckon.Proofs.Arithmetic.Lexeme

/-!
# Phrases

A phrase is an expression as it is written, parentheses included, with its operands in a series:
which operands belong together is not yet decided. So the words of a phrase tell the phrase
(`Phrase.words_append_inj`): the next word is always enough to know what comes. The expression of a
phrase groups the series (`Phrase.expr`).
-/

namespace Reckon.Arithmetic

/-- A terminal with the text of its token. -/
abbrev Word := Terminal × String

def lit (text : String) : Word := (.literal text, text)

def ident (text : String) : Word := (.lexical "IDENT", text)

def numeral (text : String) : Word := (.lexical "NUMBER", text)

inductive Phrase where
  | number (text : String)
  | name (text : String)
  | paren (e : Phrase)
  | sign (negative : Bool) (e : Phrase)
  | call (callee : String) (es : List Phrase)
  | chain (head : Phrase) (op : Operator) (rest : Phrase)
  | assign (target : String) (e : Phrase)

namespace Phrase

def IsPrimary : Phrase → Prop
  | chain _ _ _ => False
  | assign _ _ => False
  | _ => True

def IsAssign : Phrase → Prop
  | assign _ _ => True
  | _ => False

theorem IsPrimary.not_isAssign {p : Phrase} (h : p.IsPrimary) : ¬ p.IsAssign := by
  cases p <;> simp_all [IsPrimary, IsAssign]

mutual

/-- The phrase is one of arithmetic: the operands of a series are primaries, and an assignment stands
only where an expression may. -/
def WellFormed : Phrase → Prop
  | number text => IsNumeral text.toList
  | name text => IsIdentifier text.toList
  | paren e => e.WellFormed
  | sign _ e => e.WellFormed ∧ e.IsPrimary
  | call f es => IsIdentifier f.toList ∧ AllWellFormed es
  | chain h _ r => h.WellFormed ∧ h.IsPrimary ∧ r.WellFormed ∧ ¬ r.IsAssign
  | assign x e => IsIdentifier x.toList ∧ e.WellFormed ∧ ¬ e.IsAssign

def AllWellFormed : List Phrase → Prop
  | [] => True
  | e :: es => e.WellFormed ∧ AllWellFormed es

end

mutual

def words : Phrase → List Word
  | number text => [numeral text]
  | name text => [ident text]
  | paren e => lit "(" :: (e.words ++ [lit ")"])
  | sign negative e => lit (signSymbol negative) :: e.words
  | call f es => ident f :: lit "(" :: (wordsOfList "," es ++ [lit ")"])
  | chain h op r => h.words ++ lit op.symbol :: r.words
  | assign x e => ident x :: lit "=" :: e.words

/-- Phrases with a separator between them. -/
def wordsOfList (separator : String) : List Phrase → List Word
  | [] => []
  | e :: es => e.words ++ wordsOfMore separator es

/-- Phrases with a separator before each. -/
def wordsOfMore (separator : String) : List Phrase → List Word
  | [] => []
  | e :: es => lit separator :: (e.words ++ wordsOfMore separator es)

end

mutual

/-- The operands of a phrase as a series of expressions. -/
def series : Phrase → Series
  | number text => (.number text, [])
  | name text => (.name text, [])
  | paren e => (sums e.series, [])
  | sign negative e => (.sign negative (sums e.series), [])
  | call f es => (.call f (exprs es), [])
  | chain h op r => (sums h.series, (op, r.series.1) :: r.series.2)
  | assign x e => (.assign x (sums e.series), [])

def exprs : List Phrase → List Expr
  | [] => []
  | e :: es => sums e.series :: exprs es

end

def expr (p : Phrase) : Expr := sums p.series

/-! ## Words tell the phrase -/

/-- Nothing comes that could go on with a name. -/
def Closed (u : List Word) : Prop := ∀ w ∈ u.head?, w ≠ lit "("

/-- Nothing comes that could go on with an expression. -/
def Ends (u : List Word) : Prop := ∀ w ∈ u.head?, w = lit ")" ∨ w = lit "," ∨ w = lit ";"

theorem lit_inj {s t : String} : lit s = lit t ↔ s = t := by simp [lit]

theorem symbol_injective {op op' : Operator} (h : op.symbol = op'.symbol) : op = op' := by
  cases op <;> cases op' <;> first | rfl | exact absurd h (by decide)

theorem signSymbol_injective {a b : Bool} (h : signSymbol a = signSymbol b) : a = b := by
  cases a <;> cases b <;> first | rfl | exact absurd h (by decide)

theorem closed_symbol (op : Operator) (u : List Word) : Closed (lit op.symbol :: u) := by
  intro w hw
  obtain rfl := Option.some.inj hw
  cases op <;> simp [lit, Operator.symbol]

theorem Ends.closed {u : List Word} (h : Ends u) : Closed u := by
  intro w hw
  rcases h w hw with rfl | rfl | rfl <;> simp [lit]

theorem Ends.ne_symbol {u v : List Word} (h : Ends u) (op : Operator) : u ≠ lit op.symbol :: v := by
  rintro rfl
  have := h _ rfl
  cases op <;> simp [lit, Operator.symbol] at this

theorem Ends.ne_equals {u v : List Word} (h : Ends u) : u ≠ lit "=" :: v := by
  rintro rfl
  have := h _ rfl
  simp [lit] at this

theorem ends_cons {s : String} (h : s = ")" ∨ s = "," ∨ s = ";") (u : List Word) :
    Ends (lit s :: u) := by
  intro w hw
  obtain rfl := Option.some.inj hw
  rcases h with rfl | rfl | rfl <;> simp

/-- A phrase does not begin with what may come after one. -/
theorem exists_words :
    ∀ p : Phrase, ∃ w ws, p.words = w :: ws ∧ w ≠ lit ")" ∧ w ≠ lit "," ∧ w ≠ lit ";"
  | number _ | name _ | paren _ | call _ _ | assign _ _ => by
    rw [words]
    exact ⟨_, _, rfl, by simp [lit, numeral, ident]⟩
  | sign negative _ => by
    rw [words]
    refine ⟨_, _, rfl, ?_⟩
    cases negative <;> simp [lit, signSymbol]
  | chain h op r => by
    obtain ⟨w, ws, hw, hne⟩ := exists_words h
    exact ⟨w, ws ++ lit op.symbol :: r.words, by rw [words, hw, List.cons_append], hne⟩

theorem Ends.ne_words {u v : List Word} (h : Ends u) (p : Phrase) : u ≠ p.words ++ v := by
  rintro rfl
  obtain ⟨w, ws, hw, h1, h2, h3⟩ := p.exists_words
  rw [hw] at h
  rcases h w rfl with h | h | h
  · exact h1 h
  · exact h2 h
  · exact h3 h

/-- Phrases of fewer than `n` words are told by their words. -/
structure Told (n : Nat) : Prop where
  primary : ∀ {p q : Phrase} {u v : List Word}, p.words.length < n → p.WellFormed → q.WellFormed →
    p.IsPrimary → q.IsPrimary → Closed u → Closed v → p.words ++ u = q.words ++ v → p = q ∧ u = v
  phrase : ∀ {p q : Phrase} {u v : List Word}, p.words.length < n → p.WellFormed → q.WellFormed →
    Ends u → Ends v → p.words ++ u = q.words ++ v → p = q ∧ u = v
  more : ∀ {ps qs : List Phrase} {u v : List Word}, (wordsOfMore "," ps).length < n →
    AllWellFormed ps → AllWellFormed qs →
    wordsOfMore "," ps ++ lit ")" :: u = wordsOfMore "," qs ++ lit ")" :: v → ps = qs ∧ u = v

theorem ends_wordsOfMore (ps : List Phrase) (u : List Word) :
    Ends (wordsOfMore "," ps ++ lit ")" :: u) := by
  cases ps with
  | nil => exact ends_cons (.inl rfl) u
  | cons e es => exact ends_cons (.inr (.inl rfl)) _

theorem Told.list {n : Nat} (h : Told n) {ps qs : List Phrase} {u v : List Word}
    (hlen : (wordsOfList "," ps).length < n) (hps : AllWellFormed ps) (hqs : AllWellFormed qs)
    (he : wordsOfList "," ps ++ lit ")" :: u = wordsOfList "," qs ++ lit ")" :: v) :
    ps = qs ∧ u = v := by
  have hend (w : List Word) : Ends (lit ")" :: w) := ends_cons (.inl rfl) w
  rcases ps with _ | ⟨p, ps⟩ <;> rcases qs with _ | ⟨q, qs⟩ <;>
    simp only [wordsOfList, List.append_assoc, List.nil_append] at he
  · exact ⟨rfl, (List.cons.inj he).2⟩
  · exact absurd he ((hend u).ne_words q)
  · exact absurd he.symm ((hend v).ne_words p)
  · simp only [wordsOfList, List.length_append] at hlen
    obtain ⟨rfl, hmore⟩ := h.phrase (by omega) hps.1 hqs.1 (ends_wordsOfMore ps u)
      (ends_wordsOfMore qs v) he
    obtain ⟨rfl, rfl⟩ := h.more (by omega) hps.2 hqs.2 hmore
    exact ⟨rfl, rfl⟩

theorem Told.primary_succ {n : Nat} (h : Told n) {p q : Phrase} {u v : List Word}
    (hlen : p.words.length < n + 1) (hp : p.WellFormed) (hq : q.WellFormed) (hpp : p.IsPrimary)
    (hqp : q.IsPrimary) (hu : Closed u) (hv : Closed v) (he : p.words ++ u = q.words ++ v) :
    p = q ∧ u = v := by
  have hsign (b : Bool) : signSymbol b ≠ "(" := by cases b <;> decide
  cases p with
  | chain | assign => exact hpp.elim
  | number t =>
    cases q with
    | chain | assign => exact hqp.elim
    | number t' => simpa [words, numeral] using he
    | name | paren | sign | call => simp [words, numeral, ident, lit] at he
  | name t =>
    cases q with
    | chain | assign => exact hqp.elim
    | name t' => simpa [words, ident] using he
    | call f es =>
      have := hu (lit "(") (by simp [words] at he; simp [he])
      exact absurd rfl this
    | number | paren | sign => simp [words, numeral, ident, lit] at he
  | paren e =>
    cases q with
    | chain | assign => exact hqp.elim
    | paren e' =>
      simp only [words, List.cons_append, List.append_assoc, List.nil_append, List.length_cons,
        List.length_append, List.length_nil, List.cons.injEq, true_and] at he hlen
      rw [WellFormed] at hp hq
      obtain ⟨rfl, hrest⟩ := h.phrase (by omega) hp hq (ends_cons (.inl rfl) u)
        (ends_cons (.inl rfl) v) he
      exact ⟨rfl, (List.cons.inj hrest).2⟩
    | sign b =>
      simp only [words, List.cons_append, List.cons.injEq, lit_inj] at he
      exact absurd he.1.symm (hsign b)
    | number | name | call => simp [words, numeral, ident, lit] at he
  | sign b e =>
    cases q with
    | chain | assign => exact hqp.elim
    | sign b' e' =>
      simp only [words, List.cons_append, List.cons.injEq, lit_inj, List.length_cons] at he hlen
      obtain rfl := signSymbol_injective he.1
      obtain ⟨rfl, rfl⟩ := h.primary (by omega) hp.1 hq.1 hp.2 hq.2 hu hv he.2
      exact ⟨rfl, rfl⟩
    | paren e' =>
      simp only [words, List.cons_append, List.cons.injEq, lit_inj] at he
      exact absurd he.1 (hsign b)
    | number | name | call => simp [words, numeral, ident, lit] at he
  | call f es =>
    cases q with
    | chain | assign => exact hqp.elim
    | call f' es' =>
      simp only [words, List.cons_append, List.append_assoc, List.nil_append, List.cons.injEq,
        true_and, List.length_cons, List.length_append] at he hlen
      obtain ⟨rfl, rfl⟩ := h.list (by omega) hp.2 hq.2 he.2
      have hf : f = f' := by simpa [ident] using he.1
      exact ⟨by rw [hf], rfl⟩
    | name t =>
      have := hv (lit "(") (by simp [words] at he; simp [← he])
      exact absurd rfl this
    | number | paren | sign => simp [words, numeral, ident, lit] at he

theorem operand_cases {p : Phrase} (h : ¬ p.IsAssign) :
    p.IsPrimary ∨ ∃ a op r, p = chain a op r := by
  cases p with
  | chain a op r => exact .inr ⟨a, op, r, rfl⟩
  | assign => exact absurd trivial h
  | number | name | paren | sign | call => exact .inl trivial

theorem IsPrimary.words_ne_assign {q : Phrase} {x : String} {u v : List Word} (hq : q.IsPrimary)
    (hv : ∀ y, v ≠ lit "=" :: y) : q.words ++ v ≠ ident x :: lit "=" :: u := by
  intro he
  cases q with
  | chain | assign => exact hq.elim
  | name t => exact hv u (by simpa [words] using (List.cons.inj he).2)
  | number | paren | sign | call => simp [words, numeral, ident, lit] at he

/-- An assignment is told by its second word. -/
theorem words_ne_assign {q : Phrase} {x : String} {u v : List Word} (hq : q.WellFormed)
    (hqa : ¬ q.IsAssign) (hv : Ends v) : q.words ++ v ≠ ident x :: lit "=" :: u := by
  rcases operand_cases hqa with hqp | ⟨a, op, r, rfl⟩
  · exact hqp.words_ne_assign fun y => hv.ne_equals
  · rw [words, List.append_assoc, List.cons_append]
    refine hq.2.1.words_ne_assign fun y hy => ?_
    have := (List.cons.inj hy).1
    cases op <;> simp [lit, Operator.symbol] at this

theorem Told.phrase_succ {n : Nat} (h : Told n) {p q : Phrase} {u v : List Word}
    (hlen : p.words.length < n + 1) (hp : p.WellFormed) (hq : q.WellFormed) (hu : Ends u)
    (hv : Ends v) (he : p.words ++ u = q.words ++ v) : p = q ∧ u = v := by
  by_cases hpa : p.IsAssign
  · cases p with
    | assign x e =>
      simp only [words, List.cons_append, List.length_cons] at he hlen
      by_cases hqa : q.IsAssign
      · cases q with
        | assign y e' =>
          simp only [words, List.cons_append, List.cons.injEq, true_and] at he
          obtain ⟨rfl, rfl⟩ := h.phrase (by omega) hp.2.1 hq.2.1 hu hv he.2
          have hx : x = y := by simpa [ident] using he.1
          exact ⟨by rw [hx], rfl⟩
        | number | name | paren | sign | call | chain => exact hqa.elim
      · exact absurd he.symm (words_ne_assign hq hqa hv)
    | number | name | paren | sign | call | chain => exact hpa.elim
  by_cases hqa : q.IsAssign
  · cases q with
    | assign y e' =>
      simp only [words, List.cons_append] at he
      exact absurd he (words_ne_assign hp hpa hu)
    | number | name | paren | sign | call | chain => exact hqa.elim
  rcases operand_cases hpa with hpp | ⟨a, op, r, rfl⟩
  · rcases operand_cases hqa with hqp | ⟨b, op', r', rfl⟩
    · exact h.primary_succ hlen hp hq hpp hqp hu.closed hv.closed he
    · rw [words, List.append_assoc, List.cons_append] at he
      obtain ⟨-, hrest⟩ := h.primary_succ hlen hp hq.1 hpp hq.2.1 hu.closed (closed_symbol op' _) he
      exact absurd hrest (hu.ne_symbol op')
  · simp only [words, List.append_assoc, List.cons_append, List.length_append,
      List.length_cons] at he hlen
    rcases operand_cases hqa with hqp | ⟨b, op', r', rfl⟩
    · obtain ⟨-, hrest⟩ := h.primary_succ (by omega) hp.1 hq hp.2.1 hqp (closed_symbol op _)
        hv.closed he
      exact absurd hrest.symm (hv.ne_symbol op)
    · rw [words, List.append_assoc, List.cons_append] at he
      obtain ⟨rfl, hrest⟩ := h.primary_succ (by omega) hp.1 hq.1 hp.2.1 hq.2.1
        (closed_symbol op _) (closed_symbol op' _) he
      simp only [List.cons.injEq, lit_inj] at hrest
      obtain rfl := symbol_injective hrest.1
      obtain ⟨rfl, rfl⟩ := h.phrase (by omega) hp.2.2.1 hq.2.2.1 hu hv hrest.2
      exact ⟨rfl, rfl⟩

theorem told : ∀ n, Told n
  | 0 => ⟨fun h => absurd h (Nat.not_lt_zero _), fun h => absurd h (Nat.not_lt_zero _),
      fun h => absurd h (Nat.not_lt_zero _)⟩
  | n + 1 => by
    have h := told n
    refine ⟨h.primary_succ, h.phrase_succ, fun {ps qs u v} hlen hps hqs he => ?_⟩
    rcases ps with _ | ⟨p, ps⟩ <;> rcases qs with _ | ⟨q, qs⟩ <;>
      simp only [wordsOfMore, List.nil_append, List.cons_append, List.append_assoc,
        List.cons.injEq, lit_inj, true_and] at he
    · exact ⟨rfl, he⟩
    · exact absurd he.1 (by decide)
    · exact absurd he.1 (by decide)
    · simp only [wordsOfMore, List.length_cons, List.length_append] at hlen
      obtain ⟨rfl, hmore⟩ := h.phrase (by omega) hps.1 hqs.1 (ends_wordsOfMore ps u)
        (ends_wordsOfMore qs v) he
      obtain ⟨rfl, rfl⟩ := h.more (by omega) hps.2 hqs.2 hmore
      exact ⟨rfl, rfl⟩

theorem words_append_inj {p q : Phrase} {u v : List Word} (hp : p.WellFormed) (hq : q.WellFormed)
    (hu : Ends u) (hv : Ends v) (h : p.words ++ u = q.words ++ v) : p = q ∧ u = v :=
  (told _).phrase (Nat.lt_succ_self _) hp hq hu hv h

theorem ends_statements (ps : List Phrase) : Ends (wordsOfMore ";" ps) := by
  cases ps with
  | nil => exact nofun
  | cons e es => exact ends_cons (.inr (.inr rfl)) _

/-- The words of a program tell its statements. -/
theorem statements_inj {ps qs : List Phrase} (hps : AllWellFormed ps) (hqs : AllWellFormed qs)
    (h : wordsOfList ";" ps = wordsOfList ";" qs) : ps = qs := by
  have hmore : ∀ {ps qs : List Phrase}, AllWellFormed ps → AllWellFormed qs →
      wordsOfMore ";" ps = wordsOfMore ";" qs → ps = qs := by
    intro ps
    induction ps with
    | nil =>
      intro qs _ _ h
      cases qs with
      | nil => rfl
      | cons q qs => simp [wordsOfMore] at h
    | cons p ps ih =>
      intro qs hps hqs h
      cases qs with
      | nil => simp [wordsOfMore] at h
      | cons q qs =>
        simp only [wordsOfMore, List.cons.injEq, true_and] at h
        obtain ⟨rfl, hrest⟩ := words_append_inj hps.1 hqs.1 (ends_statements ps)
          (ends_statements qs) h
        rw [ih hps.2 hqs.2 hrest]
  rcases ps with _ | ⟨p, ps⟩ <;> rcases qs with _ | ⟨q, qs⟩ <;> simp only [wordsOfList] at h
  · rfl
  · exact absurd h ((ends_statements []).ne_words q)
  · exact absurd h.symm ((ends_statements []).ne_words p)
  · obtain ⟨rfl, hrest⟩ := words_append_inj hps.1 hqs.1 (ends_statements ps)
      (ends_statements qs) h
    rw [hmore hps.2 hqs.2 hrest]

end Phrase

end Reckon.Arithmetic
