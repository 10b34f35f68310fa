import Mathlib.Data.List.Sort
import Reckon.Proofs.Match.Span

/-!
# Texts with the same tokens

Gaps do no more than move tokens. A derivation tree makes the same bare nodes wherever its tokens
stand (`map_bare_ofTree`), and a text that fails does so at the token after the longest part that
goes on to a sentence (`Reports.stopsAt`), so texts with the same terminals fail at the same token
(`Fails.atSameToken`).
-/

namespace Reckon

open Cfg Cfg.Tree

/-! ## Nodes -/

namespace Node

theorem bare_ofToken {a b : Token} (ht : a.terminal = b.terminal) (hx : a.text = b.text) :
    (ofToken a).bare = (ofToken b).bare := by
  obtain ⟨_, _, _, _⟩ := a
  obtain ⟨_, _, _, _⟩ := b
  subst ht hx
  rw [bare_eq, bare_eq]
  rfl

theorem bare_spanning (text : List Char) (rule : String) (parts : List Node) (last : Nat) :
    (spanning text rule parts parts last).bare = ⟨rule, parts.map bare, "", 0, 0⟩ := by
  rw [bare_eq]
  -- without parts the node spans no text
  cases parts with
  | nil => simp [spanning, slice]
  | cons n ns => simp [spanning, isLeaf]

theorem bare_spanning_list (text : List Char) (parts children : List Node) (last : Nat) :
    (spanning text iterationName parts children last).bare =
      ⟨iterationName, children.map bare, "", 0, 0⟩ := by
  rw [bare_eq]
  simp [spanning, isLeaf, isIteration]

theorem filter_map_bare (ns : List Node) :
    (ns.filter (!·.isTerminal)).map bare = (ns.map bare).filter (!·.isTerminal) := by
  rw [List.filter_map]
  simp [Function.comp_def, isTerminal]

variable {f : Token → Token}

mutual

/-- A tree makes the same bare nodes wherever its tokens stand. -/
theorem map_bare_ofTree (hf : ∀ a, (f a).terminal = a.terminal ∧ (f a).text = a.text)
    (text text' : List Char) : ∀ (t : Tree Token Category) (last last' : Nat),
      (ofTree text' last' (t.map f)).1.map bare = (ofTree text last t).1.map bare
  | .leaf a, last, last' => by
    rw [Cfg.Tree.map, ofTree, ofTree, List.map_singleton, List.map_singleton,
      bare_ofToken (hf a).1 (hf a).2]
  | .node c ts, last, last' => by
    have hparts := map_bare_ofTrees hf text text' ts last last'
    rw [Cfg.Tree.map, ofTree, ofTree]
    cases c with
    | items => exact hparts
    | list =>
      simp only [List.map_singleton, bare_spanning_list, filter_map_bare, hparts]
    | rule => simp only [List.map_singleton, bare_spanning, hparts]

theorem map_bare_ofTrees (hf : ∀ a, (f a).terminal = a.terminal ∧ (f a).text = a.text)
    (text text' : List Char) : ∀ (ts : List (Tree Token Category)) (last last' : Nat),
      (ofTrees text' last' (mapAll f ts)).1.map bare = (ofTrees text last ts).1.map bare
  | [], _, _ => by rw [mapAll, ofTrees, ofTrees]
  | t :: ts, last, last' => by
    rw [mapAll, ofTrees, ofTrees, List.map_append, List.map_append,
      map_bare_ofTree hf text text' t last last', map_bare_ofTrees hf text text' ts]

end

end Node

/-! ## Failures -/

theorem Scan.scanFrom_of_reads {forms : List Terminal.Form} (hd : Terminal.Form.Distinct forms)
    {pos pos' : Nat} {cs rest : List Char} {ts : List Token}
    (h : Reads (Terminal.Form.Spells forms) pos cs ts pos' rest) :
    scanFrom forms cs pos 0 =
      ⟨ts ++ (scanFrom forms rest pos' 0).tokens, (scanFrom forms rest pos' 0).stuck⟩ := by
  induction h with
  | done => rfl
  | gap hc _ ih => rw [scanFrom_gap hc, ih]
  | @token pos _ t u cs _ _ hu _ ih =>
    obtain ⟨c, u, rfl⟩ := List.exists_cons_of_ne_nil hu.nonempty
    have hl := hd.longest_eq hu
    rw [List.cons_append] at hl ⊢
    rw [scanFrom_token (hd.not_gap hu.word) (by simp) hl, ← List.cons_append, List.take_left,
      List.drop_left, ih]
    rfl

/-- Where the token of the given number starts, or the text ends if it has no more tokens. -/
def placeOf (text : List Char) (ts : List Token) (k : Nat) : Nat :=
  (ts[k]?.map (·.start)).getD text.length

/-- The failures are at the token of the same number, or both at the end, and expect the same. -/
def MatchFailure.AtSameToken (text text' : List Char) (ts us : List Token)
    (f f' : MatchFailure) : Prop :=
  ∃ k ≤ ts.length, f.position = placeOf text ts k ∧ f'.position = placeOf text' us k ∧
    f.expected = f'.expected

namespace Grammar

variable {g : Grammar} {start : String} {w : List Terminal} {k k' : Nat}

theorem Continues.of_append {v : List Terminal} (h : g.Continues start (w ++ v)) :
    g.Continues start w := by
  obtain ⟨u, h⟩ := h
  exact ⟨v ++ u, by rwa [← List.append_assoc]⟩

/-- Of the terminals the first `k`, and no more, go on to a sentence. -/
structure StopsAt (g : Grammar) (start : String) (w : List Terminal) (k : Nat) : Prop where
  le_length : k ≤ w.length
  continues : g.Continues start (w.take k)
  stops : k < w.length → ¬ g.Continues start (w.take (k + 1))

theorem StopsAt.le (h : g.StopsAt start w k) (h' : g.StopsAt start w k') : k' ≤ k := by
  by_contra hlt
  have hlt : k + 1 ≤ k' := Nat.not_le.1 hlt
  have hfirst : w.take (k + 1) = (w.take k').take (k + 1) := by
    rw [List.take_take, Nat.min_eq_left hlt]
  refine h.stops (hlt.trans h'.le_length) (Continues.of_append (v := (w.take k').drop (k + 1)) ?_)
  rw [hfirst, List.take_append_drop]
  exact h'.continues

/-- Where a text is a row of tokens, it stops at its end or at a token that does not go on. -/
theorem Stops.end_or_token (hd : Terminal.Form.Distinct g.forms) {p : Nat} {rest : List Char}
    {vs : List Token} (hscan : Scan.scanFrom g.forms rest p 0 = ⟨vs, none⟩)
    (h : Stops g.Word g start w rest) :
    rest = [] ∧ vs = [] ∨
      ∃ a vs', vs = a :: vs' ∧ a.start = p ∧ ¬ g.Continues start (w ++ [a.terminal]) := by
  cases h with
  | @token t u cs hu hnot =>
    obtain ⟨c, u, rfl⟩ := List.exists_cons_of_ne_nil hu.nonempty
    have hl := hd.longest_eq hu
    rw [List.cons_append] at hl hscan
    rw [Scan.scanFrom_token (hd.not_gap hu.word) (by simp) hl] at hscan
    exact .inr ⟨_, _, (Scan.mk.inj hscan).1.symm, rfl, hnot⟩
  | @noToken c cs hc hno =>
    have hl : Terminal.Form.longest g.forms (c :: cs) = none := by
      rcases hl : Terminal.Form.longest g.forms (c :: cs) with _ | ⟨t, n⟩
      · rfl
      · have htok := Terminal.Form.isToken_of_longest hl
        exact absurd (hno t _ htok.word (List.take_prefix _ _)) htok.nonempty
    rw [Scan.scanFrom_stuck hc hl] at hscan
    cases (Scan.mk.inj hscan).2
  | ending =>
    rw [Scan.scanFrom] at hscan
    exact .inl ⟨rfl, (Scan.mk.inj hscan).1.symm⟩

section Reports

variable {text : List Char} {f : MatchFailure} {us ts : List Token} {p : Nat} {ds : List String}

/-- A failure is at the first token that does not go on. -/
theorem Reports.stopsAt (hd : Terminal.Form.Distinct g.forms)
    (hr : Reads g.Word 0 text ts text.length []) (h : Reports g.Word g start text f us p ds) :
    g.StopsAt start (ts.map (·.terminal)) us.length ∧
      us.map (·.terminal) = (ts.map (·.terminal)).take us.length ∧
      p = placeOf text ts us.length := by
  have hbefore := Scan.scanFrom_of_reads hd h.reads
  rw [Scan.scanFrom_eq hd hr] at hbefore
  obtain ⟨hts, hstuck⟩ := Scan.mk.inj hbefore
  rcases hscan : Scan.scanFrom g.forms (text.drop p) p 0 with ⟨vs, stuck⟩
  rw [hscan] at hts hstuck
  subst hts hstuck
  have htake : us.map (·.terminal) = ((us ++ vs).map (·.terminal)).take us.length := by
    rw [List.map_append, List.take_left' (List.length_map _)]
  have hcontinues := h.continues
  rw [htake] at hcontinues
  have hle : us.length ≤ ((us ++ vs).map (·.terminal)).length := by simp
  rcases h.stops.end_or_token hd hscan with ⟨hrest, rfl⟩ | ⟨a, vs, rfl, rfl, hnot⟩
  · have hp : p = text.length := Nat.le_antisymm h.le_length (List.drop_eq_nil_iff.1 hrest)
    refine ⟨⟨hle, hcontinues, fun hlt => ?_⟩, htake, by simp [placeOf, hp]⟩
    exact absurd hlt (by simp)
  · refine ⟨⟨hle, hcontinues, fun _ => ?_⟩, htake, by simp [placeOf]⟩
    rwa [List.append_cons, List.map_append, List.take_left' (by simp), List.map_append]

/-- Texts with the same terminals fail at the same token, where the same is expected. -/
theorem Fails.atSameToken (hd : Terminal.Form.Distinct g.forms) {text' : List Char}
    {ts' : List Token} {f' : MatchFailure} (hr : Reads g.Word 0 text ts text.length [])
    (hr' : Reads g.Word 0 text' ts' text'.length [])
    (hw : ts.map (·.terminal) = ts'.map (·.terminal)) (h : Fails g.Word g start text f)
    (h' : Fails g.Word g start text' f') : MatchFailure.AtSameToken text text' ts ts' f f' := by
  obtain ⟨us, p, ds, h⟩ := h
  obtain ⟨us', p', ds', h'⟩ := h'
  obtain ⟨hstops, htake, hp⟩ := h.stopsAt hd hr
  obtain ⟨hstops', htake', hp'⟩ := h'.stopsAt hd hr'
  rw [← hw] at hstops' htake'
  have hk : us.length = us'.length := Nat.le_antisymm (hstops'.le hstops) (hstops.le hstops')
  rw [← hk, ← htake] at htake'
  have hds : ds = ds' := h.sorted.eq_of_mem_iff h'.sorted fun d => by
    rw [h.mem_iff, h'.mem_iff, htake']
  refine ⟨us.length, by simpa using hstops.le_length, by rw [h.position, hp], ?_, ?_⟩
  · rw [h'.position, hp', hk]
  · rw [h.expected, h'.expected, hds]

end Reports

end Grammar

end Reckon
