import Mathlib.Data.List.Basic
import Reckon.Arithmetic
import Reckon.Decimal.Read
import Reckon.Proofs.Lexis.Scan
import Reckon.Proofs.Match.Outcome

/-!
# The words of arithmetic

`Lexeme` tells the words of arithmetic without regular expressions: identifiers, numbers with and
without a point, and the literals of the rules. They are the words of the grammar's terminals
(`word_eq_lexeme`). The first character tells what a word is (`Lexeme.kind`), so no word belongs to
two terminals (`distinct_forms`).
-/

namespace Reckon.Arithmetic

open Terminal.Form

def isLetter (c : Char) : Bool := isWord c && !isDecimalDigit c

/-- A letter, and after it letters and digits. -/
def IsIdentifier (w : List Char) : Prop :=
  ∃ c cs, w = c :: cs ∧ isLetter c = true ∧ ∀ d ∈ cs, isWord d = true

def AllDigits (w : List Char) : Prop := ∀ d ∈ w, isDecimalDigit d = true

/-- Digits, or a point with digits after it and perhaps before it. -/
def IsNumeral (w : List Char) : Prop :=
  (∃ cs ds, w = cs ++ '.' :: ds ∧ AllDigits cs ∧ ds ≠ [] ∧ AllDigits ds) ∨ w ≠ [] ∧ AllDigits w

/-- The words of each terminal. -/
def Lexeme : Terminal → List Char → Prop
  | .literal l, w => l ∈ grammar.literals ∧ w = l.toList
  | .lexical name, w => name = "IDENT" ∧ IsIdentifier w ∨ name = "NUMBER" ∧ IsNumeral w

/-! ## The patterns of the lexical rules -/

def letters : CharClass := ⟨true, [.notWord, .digit, .char '_']⟩

def letterOrDigit : CharClass := ⟨true, [.notWord, .char '_']⟩

def digits : CharClass := ⟨false, [.digit]⟩

def point : CharClass := ⟨false, [.char '.']⟩

theorem isWordOrUnderscore_of_ne {c : Char} (h : c ≠ '_') :
    ClassMember.isWordOrUnderscore c = isWord c ∧ ('_' == c) = false := by
  rw [ClassMember.isWordOrUnderscore, beq_false_of_ne h, Bool.or_false]
  exact ⟨rfl, beq_false_of_ne h.symm⟩

theorem contains_letterOrDigit (c : Char) : letterOrDigit.contains c = isWord c := by
  rcases eq_or_ne c '_' with rfl | h
  · decide
  · obtain ⟨hw, hu⟩ := isWordOrUnderscore_of_ne h
    simp [letterOrDigit, CharClass.contains, ClassMember.contains, hw, hu]

theorem contains_letters (c : Char) : letters.contains c = isLetter c := by
  rcases eq_or_ne c '_' with rfl | h
  · decide
  · obtain ⟨hw, hu⟩ := isWordOrUnderscore_of_ne h
    simp [letters, CharClass.contains, ClassMember.contains, isLetter, hw, hu]

theorem contains_digits (c : Char) : digits.contains c = isDecimalDigit c := by
  simp [digits, CharClass.contains, ClassMember.contains]

theorem contains_point (c : Char) : point.contains c = true ↔ '.' = c := by
  simp [point, CharClass.contains, ClassMember.contains]

theorem lexical_forms :
    (grammar.rules.filter (·.isLexical)).map (fun r => (r.name, Grammar.ruleForm r)) =
      [("IDENT", .alt (.seq (.seq (.one letters) (.seq (.star (.one letterOrDigit)) .empty)) .empty)
          .nothing),
        ("NUMBER", .alt (.seq (.seq (.star (.one digits)) (.seq (.one point)
            (.seq (.seq (.one digits) (.star (.one digits))) .empty))) .empty)
          (.alt (.seq (.seq (.seq (.one digits) (.star (.one digits))) .empty) .empty) .nothing))] := by
  rfl

/-! ## Words -/

/-- An empty part at the end changes nothing. -/
theorem matches_seq_empty {r : Regex} {w : List Char} : (r.seq .empty).Matches w ↔ r.Matches w := by
  simp [Regex.matches_seq_iff, Regex.matches_empty_iff]

theorem matches_digits {w : List Char} :
    (Regex.seq (.one digits) (.star (.one digits))).Matches w ↔ w ≠ [] ∧ AllDigits w := by
  simp only [Regex.matches_seq_iff, Regex.matches_one_iff, Regex.matches_star_one, contains_digits]
  constructor
  · rintro ⟨u, v, rfl, ⟨c, hc, rfl⟩, hv⟩
    exact ⟨List.cons_ne_nil _ _, List.forall_mem_cons.2 ⟨hc, hv⟩⟩
  · rintro ⟨hne, h⟩
    obtain ⟨c, v, rfl⟩ := List.exists_cons_of_ne_nil hne
    obtain ⟨hc, hv⟩ := List.forall_mem_cons.1 h
    exact ⟨[c], v, rfl, ⟨c, hc, rfl⟩, hv⟩

theorem matches_identifier {w : List Char} :
    (Regex.seq (.one letters) (.seq (.star (.one letterOrDigit)) .empty)).Matches w ↔
      IsIdentifier w := by
  rw [Regex.matches_seq_iff]
  simp only [matches_seq_empty, Regex.matches_one_iff, Regex.matches_star_one, contains_letters,
    contains_letterOrDigit]
  constructor
  · rintro ⟨u, v, rfl, ⟨c, hc, rfl⟩, hv⟩
    exact ⟨c, v, rfl, hc, hv⟩
  · rintro ⟨c, cs, rfl, hc, hcs⟩
    exact ⟨[c], cs, rfl, ⟨c, hc, rfl⟩, hcs⟩

theorem matches_fraction {w : List Char} :
    (Regex.seq (.star (.one digits)) (.seq (.one point)
      (.seq (.seq (.one digits) (.star (.one digits))) .empty))).Matches w ↔
      ∃ cs ds, w = cs ++ '.' :: ds ∧ AllDigits cs ∧ ds ≠ [] ∧ AllDigits ds := by
  rw [Regex.matches_seq_iff]
  simp only [Regex.matches_seq_iff (r := .one point), matches_seq_empty, matches_digits,
    Regex.matches_one_iff, Regex.matches_star_one, contains_digits, contains_point]
  constructor
  · rintro ⟨cs, v, rfl, hcs, u, ds, rfl, ⟨c, rfl, rfl⟩, hds⟩
    exact ⟨cs, ds, rfl, hcs, hds⟩
  · rintro ⟨cs, ds, rfl, hcs, hds⟩
    exact ⟨cs, '.' :: ds, rfl, hcs, ['.'], ds, rfl, ⟨_, rfl, rfl⟩, hds⟩

theorem word_iff_lexeme {t : Terminal} {w : List Char} : grammar.Word t w ↔ Lexeme t w := by
  have hforms : grammar.forms = grammar.literals.map (fun l => ⟨.literal l, .ofText l.toList⟩) ++
      ((grammar.rules.filter (·.isLexical)).map fun r => (r.name, Grammar.ruleForm r)).map
        fun p => ⟨.lexical p.1, p.2⟩ := by
    rw [Grammar.forms, List.map_map]
    rfl
  rw [Grammar.Word, Spells, hforms, lexical_forms]
  simp only [List.map_cons, List.map_nil, List.mem_append, List.mem_map, List.mem_cons,
    List.not_mem_nil, or_false, or_and_right, exists_or, exists_eq_left, Regex.matches_alt_iff,
    matches_seq_empty, matches_identifier, matches_fraction, matches_digits,
    Regex.not_matches_nothing]
  rcases t with l | name
  · simp only [Lexeme, reduceCtorEq, false_and, or_false]
    constructor
    · rintro ⟨f, ⟨l', hl, rfl⟩, ht, hm⟩
      obtain rfl := Terminal.literal.inj ht
      exact ⟨hl, Regex.matches_ofText.1 hm⟩
    · rintro ⟨hl, rfl⟩
      exact ⟨_, ⟨l, hl, rfl⟩, rfl, Regex.matches_ofText.2 rfl⟩
  · simp only [Lexeme, Terminal.lexical.injEq, eq_comm (a := name), IsNumeral]
    refine or_iff_right ?_
    rintro ⟨f, ⟨l', hl, rfl⟩, ht, -⟩
    cases ht

theorem word_eq_lexeme : grammar.Word = Lexeme :=
  funext fun _ => funext fun _ => propext word_iff_lexeme

/-! ## The first character -/

/-- The characters of the literals. -/
def symbols : List Char := "=+-*/^(),;".toList

theorem literals_eq : grammar.literals = symbols.map String.singleton := by rfl

theorem symbols_distinct : ∀ c ∈ symbols,
    isWord c = false ∧ isDecimalDigit c = false ∧ c ≠ '.' ∧ isGap c = false := by
  have hall : (symbols.all fun c => !isWord c && (!isDecimalDigit c && (c != '.' && !isGap c)))
      = true := by rfl
  intro c hc
  simpa using List.all_eq_true.1 hall c hc

/-- What a word can be, told by its first character. -/
theorem Lexeme.kind {t : Terminal} {c : Char} {w : List Char} (h : Lexeme t (c :: w)) :
    c ∈ symbols ∧ t = .literal (.singleton c) ∧ w = [] ∨
      isLetter c = true ∧ t = .lexical "IDENT" ∨
      (isDecimalDigit c = true ∨ c = '.') ∧ t = .lexical "NUMBER" := by
  rcases t with l | name
  · obtain ⟨hl, hw⟩ := h
    rw [literals_eq] at hl
    obtain ⟨d, hd, rfl⟩ := List.mem_map.1 hl
    rw [String.toList_singleton] at hw
    obtain ⟨rfl, rfl⟩ := List.cons.inj hw
    exact .inl ⟨hd, rfl, rfl⟩
  · rcases h with ⟨rfl, d, cs, he, hd, -⟩ | ⟨rfl, h⟩
    · obtain ⟨rfl, rfl⟩ := List.cons.inj he
      exact .inr (.inl ⟨hd, rfl⟩)
    · refine .inr (.inr ⟨?_, rfl⟩)
      rcases h with ⟨cs, ds, he, hcs, -⟩ | ⟨-, h⟩
      · rcases cs with _ | ⟨d, cs⟩
        · exact .inr (List.cons.inj he).1
        · obtain ⟨rfl, -⟩ := List.cons.inj he
          exact .inl (hcs _ List.mem_cons_self)
      · exact .inl (h _ List.mem_cons_self)

theorem isDigit_of_isLetter {c : Char} (h : isLetter c = true) : isDecimalDigit c = false := by
  simp only [isLetter, Bool.and_eq_true, Bool.not_eq_true'] at h
  exact h.2

theorem isWord_of_isLetter {c : Char} (h : isLetter c = true) : isWord c = true := by
  simp only [isLetter, Bool.and_eq_true] at h
  exact h.1

theorem Lexeme.terminal_eq {t t' : Terminal} {w : List Char} (hw : w ≠ []) (h : Lexeme t w)
    (h' : Lexeme t' w) : t = t' := by
  obtain ⟨c, w, rfl⟩ := List.exists_cons_of_ne_nil hw
  have hpoint : isWord '.' = false := by decide
  rcases h.kind with ⟨hc, rfl, -⟩ | ⟨hc, rfl⟩ | ⟨hc, rfl⟩ <;>
    rcases h'.kind with ⟨hc', rfl, -⟩ | ⟨hc', rfl⟩ | ⟨hc', rfl⟩
  · rfl
  · exact absurd (isWord_of_isLetter hc') (by simp [(symbols_distinct c hc).1])
  · exact absurd hc' (by simp [(symbols_distinct c hc).2.1, (symbols_distinct c hc).2.2.1])
  · exact absurd (isWord_of_isLetter hc) (by simp [(symbols_distinct c hc').1])
  · rfl
  · rcases hc' with hc' | rfl
    · exact absurd hc' (by simp [isDigit_of_isLetter hc])
    · exact absurd (isWord_of_isLetter hc) (by simp [hpoint])
  · exact absurd hc (by simp [(symbols_distinct c hc').2.1, (symbols_distinct c hc').2.2.1])
  · rcases hc with hc | rfl
    · exact absurd hc (by simp [isDigit_of_isLetter hc'])
    · exact absurd (isWord_of_isLetter hc') (by simp [hpoint])
  · rfl

theorem Lexeme.not_gap {t : Terminal} {c : Char} {w : List Char} (h : Lexeme t (c :: w)) :
    isGap c = false := by
  have hgaps : ([' ', '\t', '\x0c', '\r', '\n'].all fun d =>
      !isWord d && (!isDecimalDigit d && (d != '.' && !symbols.contains d))) = true := by
    rfl
  refine Bool.eq_false_iff.2 fun hg => ?_
  have hd : c ∈ [' ', '\t', '\x0c', '\r', '\n'] := by
    simpa [isGap, or_assoc] using hg
  have hnot := List.all_eq_true.1 hgaps c hd
  simp only [Bool.and_eq_true, Bool.not_eq_true', bne_iff_ne, ne_eq] at hnot
  obtain ⟨hw, hdig, hpt, hs⟩ := hnot
  rcases h.kind with ⟨hc, -⟩ | ⟨hc, -⟩ | ⟨hc | hc, -⟩
  · rw [List.contains_iff_mem.2 hc] at hs
    cases hs
  · exact absurd (isWord_of_isLetter hc) (by simp [hw])
  · exact absurd hc (by simp [hdig])
  · exact hpt hc

theorem distinct_forms : Distinct grammar.forms where
  terminal_eq hw h h' := (word_iff_lexeme.1 h).terminal_eq hw (word_iff_lexeme.1 h')
  not_gap h := (word_iff_lexeme.1 h).not_gap

/-! ## Numerals -/

theorem spanDigits_append {cs r : List Char} (h : AllDigits cs)
    (hr : ∀ c ∈ r.head?, isDecimalDigit c = false) :
    ∃ vs, Decimal.spanDigits (cs ++ r) = (vs, r) ∧ vs.length = cs.length := by
  induction cs with
  | nil =>
    refine ⟨[], ?_, rfl⟩
    rcases r with _ | ⟨c, r⟩
    · rfl
    · have hc : digitValue? c = none := by simpa [isDecimalDigit] using hr c rfl
      rw [List.nil_append, Decimal.spanDigits, hc]
  | cons c cs ih =>
    obtain ⟨hc, hcs⟩ := List.forall_mem_cons.1 h
    obtain ⟨v, hv⟩ := Option.isSome_iff_exists.1 hc
    obtain ⟨vs, hvs, hlen⟩ := ih hcs
    refine ⟨v :: vs, ?_, congrArg (· + 1) hlen⟩
    rw [List.cons_append, Decimal.spanDigits, hv, hvs]

/-- Every numeral stands for a number. -/
theorem isSome_unsigned {w : List Char} (h : IsNumeral w) : (Decimal.unsigned? w).isSome = true := by
  have hpoint : isDecimalDigit '.' = false := by decide
  rcases h with ⟨cs, ds, rfl, hcs, hne, hds⟩ | ⟨hne, hw⟩
  · obtain ⟨vs, hvs, -⟩ := spanDigits_append (r := '.' :: ds) hcs
      fun c hc => by
        obtain rfl := Option.some.inj hc
        exact hpoint
    obtain ⟨us, hus, hlen⟩ := spanDigits_append (r := []) hds nofun
    rw [List.append_nil] at hus
    have hus' : us ≠ [] := fun hn => hne (List.length_eq_zero_iff.1 (by rw [← hlen, hn]; rfl))
    simp [Decimal.unsigned?, hvs, Decimal.spanFraction, hus, hus', Decimal.exponent?]
  · obtain ⟨vs, hvs, hlen⟩ := spanDigits_append (r := []) hw nofun
    rw [List.append_nil] at hvs
    have hvs' : vs ≠ [] := fun hn => hne (List.length_eq_zero_iff.1 (by rw [← hlen, hn]; rfl))
    simp [Decimal.unsigned?, hvs, Decimal.spanFraction, hvs', Decimal.exponent?]

end Reckon.Arithmetic
