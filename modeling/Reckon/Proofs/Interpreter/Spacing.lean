import Reckon.Proofs.Arithmetic.Spacing
import Reckon.Proofs.Interpreter.Sequence

/-!
# Gaps make no difference

Texts with the same words come to the same, with the same environment after them
(`respaced_alike`): matched, their trees are the same when bare, and an evaluation sees no more of a
tree than that (`blind_of_parse`). Not matched, they fail at the same token.
-/

namespace Reckon

open Arithmetic

/-- The same result; failures to match are the same if they are at the same token and expect the
same. -/
inductive SameResult (text text' : List Char) (ts us : List Token) :
    Except RunError (Option Float) → Except RunError (Option Float) → Prop
  | matched (r : Except Fault (Option Float)) :
      SameResult text text' ts us (r.mapError .fault) (r.mapError .fault)
  | failed {f f' : MatchFailure} (h : MatchFailure.AtSameToken text text' ts us f f') :
      SameResult text text' ts us (.error (.unmatched (.failed f)))
        (.error (.unmatched (.failed f')))

namespace Interpreter

/-- Trees of matched texts that are the same when bare are visited alike. -/
theorem blind_of_parse {d : Int} {start text text' : String} {n n' : Node}
    (h : parse start text = .ok n) (h' : parse start text' = .ok n') (hbare : n.bare = n'.bare) :
    Blind ((operation d).branch n).visit ((operation d).branch n').visit := by
  have hblind := (compatible_blind d).related h
  rw [hbare] at hblind
  exact hblind.trans ((compatible_blind d).related h').symm

section Words

variable {text text' : String} {ts us : List Token}
  (hr : Reads Lexeme 0 text.toList ts text.toList.length [])
  (hr' : Reads Lexeme 0 text'.toList us text'.toList.length [])
  (hw : ts.map Token.word = us.map Token.word)

include hr hr' hw

theorem process_respaced {start : String} (hs : grammar.isSyntactic start = true) (d : Int)
    (report report' : Option Float → Event) {s s' : Session} (henv : s.env = s'.env) :
    ∃ r r' i i' t t', (Interpreter.mk d 0).process start text report s = (r, i, t) ∧
      (Interpreter.mk d 0).process start text' report' s' = (r', i', t') ∧
      SameResult text.toList text'.toList ts us r r' ∧ t.env = t'.env := by
  rcases parse_respaced hs hr hr' hw with ⟨n, n', hn, hn', hbare⟩ | ⟨f, f', hf, hf', hfail⟩
  · obtain ⟨r, t, t', hrun, hrun', ht⟩ := blind_of_parse (d := d) hn hn' hbare 0
      (s.note (.matched start text n)) (s'.note (.matched start text' n')) henv
    obtain ⟨u, hu, hut⟩ := process_of_interpret hn report (interpret_eq hrun)
    obtain ⟨u', hu', hut'⟩ := process_of_interpret hn' report' (interpret_eq hrun')
    exact ⟨_, _, _, _, u, u', hu, hu', (.matched (r.map double)), hut.trans (ht.trans hut'.symm)⟩
  · refine ⟨_, _, _, _, _, _, process_of_error hf ⟨d, 0⟩ report s,
      process_of_error hf' ⟨d, 0⟩ report' s', .failed hfail, ?_⟩
    rw [env_parse, env_parse, henv]

end Words

/-- Gaps make no difference: texts with the same words are matched with the same bare nodes or fail
at the same token, and they are evaluated and run to the same result and the same environment. -/
theorem respaced_alike {text text' : String} {ts us : List Token}
    (hr : Reads Lexeme 0 text.toList ts text.toList.length [])
    (hr' : Reads Lexeme 0 text'.toList us text'.toList.length [])
    (hw : ts.map Token.word = us.map Token.word) :
    (∀ start, grammar.isSyntactic start = true →
      (∃ n n', parse start text = .ok n ∧ parse start text' = .ok n' ∧ n.bare = n'.bare) ∨
        ∃ f f', parse start text = .error (.failed f) ∧ parse start text' = .error (.failed f') ∧
          MatchFailure.AtSameToken text.toList text'.toList ts us f f') ∧
    ∀ (d : Int) (s s' : Session), s.env = s'.env →
      (SameResult text.toList text'.toList ts us (evaluate text d s).1 (evaluate text' d s').1 ∧
        (evaluate text d s).2.env = (evaluate text' d s').2.env) ∧
      SameResult text.toList text'.toList ts us (run text d s).1 (run text' d s').1 ∧
        (run text d s).2.env = (run text' d s').2.env := by
  refine ⟨fun start hs => parse_respaced hs hr hr' hw, fun d s s' henv => ⟨?_, ?_⟩⟩
  · obtain ⟨r, r', i, i', t, t', h, h', hsame, ht⟩ := process_respaced hr hr' hw isSyntactic_exp d
      (.evaluated text) (.evaluated text') henv
    rw [evaluate_of_process h, evaluate_of_process h']
    exact ⟨hsame, ht⟩
  · obtain ⟨r, r', i, i', t, t', h, h', hsame, ht⟩ := process_respaced hr hr' hw
      isSyntactic_program d (.ran text) (.ran text') henv
    rw [run_of_process h, run_of_process h']
    exact ⟨hsame, ht⟩

theorem respaced_alike_assignment :
    ∃ ts us, Reads Lexeme 0 "x=1;y".toList ts 5 [] ∧
      Reads Lexeme 0 "\n x =\t1 ; y ".toList us 12 [] ∧
      ts.map Token.word = us.map Token.word ∧ ∀ (d : Int) (s : Session),
        SameResult "x=1;y".toList "\n x =\t1 ; y ".toList ts us (run "x=1;y" d s).1
          (run "\n x =\t1 ; y " d s).1 ∧
        (run "x=1;y" d s).2.env = (run "\n x =\t1 ; y " d s).2.env := by
  have hr := reads_of_scan "x=1;y" (by decide +kernel)
  have hr' := reads_of_scan "\n x =\t1 ; y " (by decide +kernel)
  have hw : (Scan.ofText grammar.forms "x=1;y".toList).tokens.map Token.word =
      (Scan.ofText grammar.forms "\n x =\t1 ; y ".toList).tokens.map Token.word := by decide +kernel
  exact ⟨_, _, hr, hr', hw, fun d s => ((respaced_alike hr hr' hw).2 d s s rfl).2⟩

end Interpreter

end Reckon
