import Reckon.Proofs.Arithmetic.Rematch
import Reckon.Proofs.Match.Places
import Reckon.Proofs.Match.Spacing

/-!
# Gaps in the texts of arithmetic

The nodes of a text stand in order, and between its leaves there are gaps and separators of lists
only (`places_of_parse`). Gaps make no difference: texts with the same words are both matched, with
the same bare node, or both fail at the same token (`parse_respaced`).
-/

namespace Reckon

/-- The token without its place. -/
def Token.unplaced (a : Token) : Token := { a with start := 0, stop := 0 }

namespace Arithmetic

open Cfg Cfg.Tree Grammar

variable {start text : String} {n : Node}

theorem filled_grammar : grammar.Filled := by
  unfold Grammar.Filled
  decide

/-- The nodes of a text stand in order in it, and what is in none of its leaves is a gap or separates
two items of a list. -/
theorem places_of_parse (h : parse start text = .ok n) :
    (∀ m : Node, m.Within n → m.InPlace text.toList) ∧ (∀ l ∈ n.leaves, l.start < l.stop) ∧
      (n.leaves.Pairwise fun l l' => l.stop ≤ l'.start) ∧
      ∀ p c, text.toList[p]? = some c → (∀ l ∈ n.leaves, ¬ (l.start ≤ p ∧ p < l.stop)) →
        isGap c = true ∨
          ∃ start stop, start ≤ p ∧ p < stop ∧ grammar.Drops text.toList n start stop := by
  obtain ⟨rule, hs, hn⟩ := exists_start_of_parse_ok h
  obtain ⟨t, ht, hreads, hnode⟩ := exists_tree_of_parse hs hn
  have hword := hreads
  rw [← word_eq_lexeme] at hword
  have hlaid := laid_of_derives sound_grammar filled_grammar ht trivial
    (hreads.allCutFrom (faithful_of_reads hword))
  rw [hnode] at hlaid
  have hleaves : n.leaves.Sublist (t.yield.map Node.ofToken) := by simpa using hlaid.leaves
  refine ⟨hlaid.inPlace n List.mem_cons_self, fun l hl => ?_,
    hreads.inRow.pairwise.sublist hleaves, fun p c hc hout => ?_⟩
  · obtain ⟨a, ha, rfl⟩ := List.mem_map.1 (hleaves.subset hl)
    exact hreads.start_lt_stop a ha
  · have hp : p < text.toList.length := (List.getElem?_eq_some_iff.1 hc).1
    rcases hreads.isGap_or_exists p (Nat.zero_le p) hp with ⟨a, ha, hplace⟩ | ⟨d, hd, hgap⟩
    · -- the place is in a token, which is no leaf
      rcases hlaid.covered a ha with ⟨m, hm, hl⟩ | ⟨m, hm, hd⟩ | ⟨-, -, item, separator, hss, -⟩
      · exact absurd hplace (hout _ (List.mem_singleton.1 hm ▸ hl))
      · exact .inr ⟨_, _, hplace.1, hplace.2, List.mem_singleton.1 hm ▸ hd⟩
      · cases List.mem_singleton.1 hss
    · rw [Nat.sub_zero, hc] at hd
      obtain rfl := Option.some.inj hd
      exact .inl hgap

theorem places_of_parse_call :
    ∃ n, parse "exp" " f(a ,1)" = .ok n ∧ (∀ m : Node, m.Within n → m.InPlace " f(a ,1)".toList) ∧
      n.leaves.map (fun l => (l.start, l.stop)) = [(1, 2), (2, 3), (3, 4), (6, 7), (7, 8)] ∧
      ∃ start stop, start ≤ 5 ∧ 5 < stop ∧ grammar.Drops " f(a ,1)".toList n start stop := by
  have hok : ((matcher.parseFrom "exp" " f(a ,1)".toList).toOption.map fun n =>
      n.leaves.map fun l => (l.start, l.stop)) =
        some [(1, 2), (2, 3), (3, 4), (6, 7), (7, 8)] := by decide +kernel
  obtain ⟨n, hn, hleaves⟩ := exists_parse_of_map isSyntactic_exp hok
  obtain ⟨hplaces, -, -, hgaps⟩ := places_of_parse hn
  refine ⟨n, hn, hplaces, hleaves, (hgaps 5 ',' rfl fun l hl hin => ?_).resolve_left (by decide)⟩
  have hmem := List.mem_map_of_mem (f := fun l : Node => (l.start, l.stop)) hl
  rw [hleaves] at hmem
  simp only [List.mem_cons, Prod.mk.injEq, List.not_mem_nil, or_false] at hmem
  omega

/-! ## Texts with the same words -/

/-- A text in which a scan does not get stuck is read to its end. -/
theorem reads_of_scan (text : String)
    (h : (Scan.ofText grammar.forms text.toList).stuck = none) :
    Reads Lexeme 0 text.toList (Scan.ofText grammar.forms text.toList).tokens text.toList.length
      [] := by
  obtain ⟨p, rest, hreads, hends⟩ := Scan.scanFrom_reads grammar.forms text.toList 0
  rw [show Scan.scanFrom grammar.forms text.toList 0 0 = Scan.ofText grammar.forms text.toList from
    rfl] at hreads hends
  rw [h] at hends
  cases rest with
  | nil =>
    have hp := hreads.position_of_nil
    rw [Nat.zero_add] at hp
    rw [← word_eq_lexeme, ← hp]
    exact hreads
  | cons c cs => cases hends.1

theorem bare_eq_of_words {cs cs' : List Char} {t t' : Tree Token Category} {n' : Node}
    (ht : TreeOf Token.terminal start t) (ht' : TreeOf Token.terminal start t')
    (hn : (Node.ofTree cs 0 t).1 = [n]) (hn' : (Node.ofTree cs' 0 t').1 = [n'])
    (hw : t.yield.map Token.word = t'.yield.map Token.word) : n.bare = n'.bare := by
  have hunplaced : t.map Token.unplaced = t'.map Token.unplaced := by
    obtain ⟨body, hb, -⟩ := treeOf_iff.1 ht
    refine oneTree_of_mem Token.terminal hb _ _ (Derives.map (fun _ => rfl) ht)
      (Derives.map (fun _ => rfl) ht') ?_
    have hword (ts : List Token) : ts.map Token.unplaced =
        (ts.map Token.word).map fun w => ⟨w.1, w.2, 0, 0⟩ := by
      rw [List.map_map]
      rfl
    rw [yield_map, yield_map, hword, hword, hw]
  have hbare := Node.map_bare_ofTree (f := Token.unplaced) (fun _ => ⟨rfl, rfl⟩) cs [] t 0 0
  have hbare' := Node.map_bare_ofTree (f := Token.unplaced) (fun _ => ⟨rfl, rfl⟩) cs' [] t' 0 0
  rw [hunplaced, hbare', hn, hn'] at hbare
  exact (List.cons.inj hbare).1.symm

section Words

variable {text' : String} {ts us : List Token} (hs : grammar.isSyntactic start = true)
  (hr : Reads Lexeme 0 text.toList ts text.toList.length [])
  (hr' : Reads Lexeme 0 text'.toList us text'.toList.length [])
  (hw : ts.map Token.word = us.map Token.word)

include hs hr hr' hw

theorem exists_parse_of_words (h : parse start text = .ok n) :
    ∃ n', parse start text' = .ok n' ∧ n.bare = n'.bare := by
  obtain ⟨t, ht, hreads, hnode⟩ := exists_tree_of_parse hs h
  obtain rfl := tokens_unique hreads hr
  have hterminals := congrArg (List.map Prod.fst) hw
  rw [List.map_map, List.map_map] at hterminals
  have hd := (generates_start_iff sound_grammar hs).1 (Tree.generates_of_derives ht)
  obtain ⟨n', hn'⟩ := exists_parse_ok hs hr' (hterminals ▸ hd)
  obtain ⟨t', ht', hreads', hnode'⟩ := exists_tree_of_parse hs hn'
  obtain rfl := tokens_unique hreads' hr'
  exact ⟨n', hn', bare_eq_of_words ht ht' hnode hnode' hw⟩

/-- Texts with the same words are matched with the same bare node or fail at the same token. -/
theorem parse_respaced :
    (∃ n n', parse start text = .ok n ∧ parse start text' = .ok n' ∧ n.bare = n'.bare) ∨
      ∃ f f', parse start text = .error (.failed f) ∧ parse start text' = .error (.failed f') ∧
        MatchFailure.AtSameToken text.toList text'.toList ts us f f' := by
  rcases parse_cases hs text with ⟨n, hn, -⟩ | ⟨f, hf, hfails⟩
  · obtain ⟨n', hn', hbare⟩ := exists_parse_of_words hs hr hr' hw hn
    exact .inl ⟨n, n', hn, hn', hbare⟩
  rcases parse_cases hs text' with ⟨n', hn', -⟩ | ⟨f', hf', hfails'⟩
  · obtain ⟨n, hn, -⟩ := exists_parse_of_words hs hr' hr hw.symm hn'
    rw [hf] at hn
    cases hn
  · have hterminals := congrArg (List.map Prod.fst) hw
    rw [List.map_map, List.map_map] at hterminals
    rw [← word_eq_lexeme] at hr hr' hfails hfails'
    exact .inr ⟨f, f', hf, hf', hfails.atSameToken distinct_forms hr hr' hterminals hfails'⟩

end Words

end Arithmetic

end Reckon
