import Reckon.Proofs.Arithmetic.Lexeme
import Reckon.Proofs.Match.Outcome

/-!
# The texts of arithmetic

Reading a text by a rule of arithmetic gives a node exactly if the text is a row of tokens that the
rule derives, and the node is a syntax tree of them (`parse_ok_iff_derives`). A text that is not one
fails where it first cannot go on, with all that could come there (`exact_failure_of_parse_error`).
-/

namespace Reckon.Arithmetic

open Cfg Grammar

/-! ## The grammar can be read -/

theorem sound_grammar : grammar.Sound where
  names := by decide
  rules := by decide
  lists := by decide

theorem uniform_grammar : grammar.Uniform := by
  unfold Uniform
  decide

/-- The nonterminals of arithmetic, each before those by which it can come to an end. -/
def ranking : List Category :=
  [.rule "program", .rule "assign_exp_assign", .rule "add_exp_plus", .rule "add_exp_minus",
    .rule "mul_exp_times", .rule "mul_exp_divide", .rule "exp_exp_power", .rule "pri_exp_paren",
    .rule "pri_exp_pos", .rule "pri_exp_neg", .rule "pri_exp_call", .list "exp" ";",
    .list "exp" ",", .items "exp" ";", .items "exp" ",", .rule "exp", .rule "assign_exp",
    .rule "add_exp", .rule "mul_exp", .rule "exp_exp", .rule "pri_exp"]

theorem productive_grammar : Productive grammar.productions :=
  productive_of_grounded ranking (by decide) (by decide)

theorem readable_grammar : grammar.Readable where
  sound := sound_grammar
  distinct := distinct_forms
  productive := productive_grammar
  alternatives := by decide

theorem isSyntactic_program : grammar.isSyntactic "program" = true := by rfl

theorem isSyntactic_exp : grammar.isSyntactic "exp" = true := by rfl

/-! ## Matching -/

theorem clashing_matcher : matcher.clashing = [] := by decide +kernel

variable {start : String} {text : String}

theorem checkStart_eq (hs : grammar.isSyntactic start = true) :
    matcher.checkStart start = .ok () := by
  have hs' : matcher.grammar.isSyntactic start = true := hs
  simp [Matcher.checkStart, hs', clashing_matcher]

theorem parse_eq (hs : grammar.isSyntactic start = true) :
    parse start text = (matcher.parseFrom start text.toList).mapError .failed := by
  have hne : matcher.startOf start = start := by
    rw [Matcher.startOf, if_neg]
    rintro he
    rw [String.isEmpty_iff.1 he] at hs
    exact absurd hs (by decide)
  rw [parse, Matcher.parse, hne, checkStart_eq hs]

/-- Evaluated once, the matcher tells what holds of the tree of a text. -/
theorem exists_parse_of_map {α : Type} (hs : grammar.isSyntactic start = true) {f : Node → α} {a : α}
    (h : (matcher.parseFrom start text.toList).toOption.map f = some a) :
    ∃ n, parse start text = .ok n ∧ f n = a := by
  rw [parse_eq hs]
  rcases hp : matcher.parseFrom start text.toList with e | n <;> rw [hp] at h
  · cases h
  · exact ⟨n, rfl, Option.some.inj h⟩

/-- A text is accepted with a syntax tree or fails with an exact report. -/
theorem parse_cases (hs : grammar.isSyntactic start = true) (text : String) :
    (∃ n, parse start text = .ok n ∧ Accepts Lexeme grammar start text.toList n) ∨
      ∃ f, parse start text = .error (.failed f) ∧ Fails Lexeme grammar start text.toList f := by
  rw [parse_eq hs, ← word_eq_lexeme]
  rcases Matcher.parseFrom_cases readable_grammar hs text.toList with ⟨n, hn, h⟩ | ⟨f, hf, h⟩
  · exact .inl ⟨n, by rw [matcher, hn]; rfl, h⟩
  · exact .inr ⟨f, by rw [matcher, hf]; rfl, h⟩

theorem exists_parse_ok (hs : grammar.isSyntactic start = true) {ts : List Token}
    (hr : Reads Lexeme 0 text.toList ts text.toList.length [])
    (hd : grammar.Derives [.ref start] (ts.map (·.terminal))) : ∃ n, parse start text = .ok n := by
  rw [← word_eq_lexeme] at hr
  obtain ⟨n, hn⟩ := Matcher.exists_parseFrom_ok readable_grammar hs hr hd
  exact ⟨n, by rw [parse_eq hs, matcher, hn]; rfl⟩

theorem accepts_of_parse_ok (hs : grammar.isSyntactic start = true) {n : Node}
    (h : parse start text = .ok n) : Accepts Lexeme grammar start text.toList n := by
  rcases parse_cases hs text with ⟨m, hm, ha⟩ | ⟨f, hf, -⟩
  · rw [h] at hm
    cases hm
    exact ha
  · rw [h] at hf
    cases hf

theorem parse_ok_iff_derives (hs : grammar.isSyntactic start = true) (text : String) :
    ((∃ n, parse start text = .ok n) ↔
      ∃ ts, Reads Lexeme 0 text.toList ts text.toList.length [] ∧
        grammar.Derives [.ref start] (ts.map (·.terminal))) ∧
    ∀ n, parse start text = .ok n →
      Accepts Lexeme grammar start text.toList n ∧ ∀ m, m.Within n → grammar.Shaped m := by
  refine ⟨⟨?_, ?_⟩, fun n hn => ?_⟩
  · rintro ⟨n, hn⟩
    obtain ⟨ts, hr, hsp⟩ := accepts_of_parse_ok hs hn
    exact ⟨ts, hr, hsp.derives⟩
  · rintro ⟨ts, hr, hd⟩
    exact exists_parse_ok hs hr hd
  · obtain ⟨ts, hr, hsp⟩ := accepts_of_parse_ok hs hn
    exact ⟨⟨ts, hr, hsp⟩, hsp.shaped sound_grammar uniform_grammar n List.mem_cons_self⟩

theorem parse_ok_iff_derives_assignment :
    grammar.isSyntactic "program" = true ∧ ∃ n, parse "program" "x = 1" = .ok n ∧
      Accepts Lexeme grammar "program" "x = 1".toList n ∧ ∀ m, m.Within n → grammar.Shaped m := by
  have hs := isSyntactic_program
  have hok : (matcher.parseFrom "program" "x = 1".toList).toOption.map (fun _ => ()) = some () := by
    decide +kernel
  obtain ⟨n, hn, -⟩ := exists_parse_of_map hs hok
  exact ⟨hs, n, hn, (parse_ok_iff_derives hs "x = 1").2 n hn⟩

theorem exact_failure_of_parse_error (hs : grammar.isSyntactic start = true) {e : MatchError}
    (h : parse start text = .error e) :
    ∃ f, e = .failed f ∧ Fails Lexeme grammar start text.toList f := by
  rcases parse_cases hs text with ⟨n, hn, -⟩ | ⟨f, hf, hfails⟩
  · rw [h] at hn
    cases hn
  · rw [h] at hf
    cases hf
    exact ⟨f, rfl, hfails⟩

theorem exact_failure_after_plus :
    grammar.isSyntactic "exp" = true ∧ ∃ e, parse "exp" "1 +" = .error e ∧
      ∃ f, e = .failed f ∧ Fails Lexeme grammar "exp" "1 +".toList f := by
  have hs := isSyntactic_exp
  have hok : (matcher.parseFrom "exp" "1 +".toList).isOk = false := by decide +kernel
  rcases hp : matcher.parseFrom "exp" "1 +".toList with f | n
  · have he : parse "exp" "1 +" = .error (.failed f) := by
      rw [parse_eq hs, hp]
      rfl
    exact ⟨hs, .failed f, he, exact_failure_of_parse_error hs he⟩
  · rw [hp] at hok
    cases hok

end Reckon.Arithmetic
