import Mathlib.Data.List.Basic
import Mathlib.Order.Nat
import Reckon.Proofs.Cfg.Reading
import Reckon.Proofs.Lexis.Scan
import Reckon.Proofs.Match.SyntaxTree

/-!
# What becomes of a text

A text is read into tokens and the tokens into a derivation tree. `Accepts` and `Fails` say what it
means that a text is accepted with a node, and that it fails with a report. A matcher of a grammar
that can be read (`Readable`) gives a node for exactly the texts whose tokens its rules derive
(`exists_parseFrom_ok`), and for all others a report that is exact (`parseFrom_cases`).
-/

namespace Reckon

open Cfg Terminal.Form

/-! ## Sorted texts -/

theorem pairwise_lt_eraseDups :
    ∀ {l : List String}, l.Pairwise (· ≤ ·) → l.eraseDups.Pairwise (· < ·)
  | [], _ => .nil
  | a :: l, h => by
    obtain ⟨ha, hl⟩ := List.pairwise_cons.1 h
    rw [List.eraseDups_cons]
    refine List.pairwise_cons.2 ⟨fun b hb => ?_, pairwise_lt_eraseDups (hl.filter _)⟩
    rw [List.mem_eraseDups, List.mem_filter] at hb
    exact Std.lt_of_le_of_ne (ha b hb.1) fun he => by simp [he] at hb
termination_by l => l.length
decreasing_by
  exact Nat.lt_succ_of_le (List.length_filter_le _ _)

namespace Grammar

variable {g : Grammar} {start : String} {text : List Char}

/-- What a matcher needs of its grammar: all names are declared, the terminals are told apart, and no
rule is a dead end. -/
structure Readable (g : Grammar) : Prop where
  sound : g.Sound
  distinct : Distinct g.forms
  productive : Productive g.productions
  alternatives : ∀ r ∈ g.rules, r.alternatives ≠ []

/-- The words of the terminals of a grammar. -/
abbrev Word (g : Grammar) : Terminal → List Char → Prop := Terminal.Form.Spells g.forms

/-- The node is a syntax tree of the text, `L` telling the words of the terminals. -/
def Accepts (L : Terminal → List Char → Prop) (g : Grammar) (start : String) (text : List Char)
    (n : Node) : Prop :=
  ∃ ts, Reads L 0 text ts text.length [] ∧ g.Spells [.ref start] [n] ts

/-- A literal is read from its own text. -/
theorem faithful_of_reads {ts : List Token} {p : Nat} {rest : List Char}
    (h : Reads g.Word 0 text ts p rest) : ∀ a ∈ ts, a.Faithful := by
  intro a ha l hl
  obtain ⟨f, hf, ht, hm⟩ := h.word_of_mem a ha
  rw [hl] at ht
  rcases List.mem_append.1 hf with hf | hf
  · obtain ⟨l', -, rfl⟩ := List.mem_map.1 hf
    obtain rfl := Terminal.literal.inj ht
    exact String.toList_injective (Regex.matches_ofText.1 hm)
  · obtain ⟨r, -, rfl⟩ := List.mem_map.1 hf
    cases ht

/-- Why the tokens `w` are not continued where `rest` is left of the text: a token comes that continues
no sentence, or no token, or the text ends without a sentence. -/
inductive Stops (L : Terminal → List Char → Prop) (g : Grammar) (start : String)
    (w : List Terminal) : List Char → Prop
  | token {t : Terminal} {u cs : List Char} (hu : IsToken L t u cs)
      (h : ¬ g.Continues start (w ++ [t])) : Stops L g start w (u ++ cs)
  | noToken {c : Char} {cs : List Char} (hc : isGap c = false) (h : NoToken L (c :: cs)) :
      Stops L g start w (c :: cs)
  | ending (h : ¬ g.Derives [.ref start] w) : Stops L g start w []

/-- What may be said to be expected after the tokens `w`. -/
def Expects (g : Grammar) (start : String) (w : List Terminal) (d : String) : Prop :=
  d = "end of input" ∧ g.Derives [.ref start] w ∨
    ∃ t, g.Continues start (w ++ [t]) ∧ d = g.describe t

/-- The failure names the place `p`, before which the tokens `ts` lie, and what could come there. -/
structure Reports (L : Terminal → List Char → Prop) (g : Grammar) (start : String)
    (text : List Char) (f : MatchFailure) (ts : List Token) (p : Nat) (ds : List String) :
    Prop where
  position : f.position = p
  le_length : p ≤ text.length
  reads : Reads L 0 text ts p (text.drop p)
  continues : g.Continues start (ts.map (·.terminal))
  stops : Stops L g start (ts.map (·.terminal)) (text.drop p)
  expected : f.expected = describeExpected ds
  sorted : ds.Pairwise (· < ·)
  mem_iff : ∀ d, d ∈ ds ↔ g.Expects start (ts.map (·.terminal)) d

/-- The failure is exact: it names the first place where the text cannot go on and, in order, all
that could come there. -/
def Fails (L : Terminal → List Char → Prop) (g : Grammar) (start : String) (text : List Char)
    (f : MatchFailure) : Prop := ∃ ts p ds, Reports L g start text f ts p ds

end Grammar

namespace Matcher

open Grammar

variable {g : Grammar} {start : String} {text : List Char}

theorem mem_expected {m : Matcher} {c : Column Token Terminal Category} {d : String} :
    d ∈ m.expected c ↔
      d = "end of input" ∧ c.sentence.isSome = true ∨
        ∃ t ∈ c.expected, d = m.grammar.describe t := by
  simp only [expected, List.mem_eraseDups, List.mem_mergeSort, List.mem_append, List.mem_map]
  refine or_congr ?_ (exists_congr fun t => and_congr_right fun _ => eq_comm)
  split <;> simp [*]

theorem pairwise_expected (m : Matcher) (c : Column Token Terminal Category) :
    (m.expected c).Pairwise (· < ·) := by
  refine pairwise_lt_eraseDups (List.Pairwise.imp of_decide_eq_true (List.pairwise_mergeSort ?_ ?_ _))
  · intro a b c hab hbc
    exact decide_eq_true (String.le_trans (of_decide_eq_true hab) (of_decide_eq_true hbc))
  · intro a b
    simpa using String.le_total a b

theorem mem_chart_productions {m : Matcher} {k : Nat} {p : Production Terminal Category} :
    (k, p) ∈ (m.chart start).productions ↔ m.productions[k]? = some p := by
  simp only [chart, List.mem_map, Prod.exists, Prod.swap_prod_mk, Prod.mk.injEq]
  constructor
  · rintro ⟨q, j, h, rfl, rfl⟩
    exact List.mk_mem_zipIdx_iff_getElem?.1 h
  · exact fun h => ⟨p, k, List.mk_mem_zipIdx_iff_getElem?.2 h, rfl, rfl⟩

theorem numbered_chart (m : Matcher) (start : String) : (m.chart start).Numbered := by
  intro k p q hp hq
  rw [mem_chart_productions] at hp hq
  exact Option.some.inj (hp.symm.trans hq)

theorem plain_chart (m : Matcher) (start : String) : (m.chart start).plain = m.productions := by
  rw [Chart.plain, chart, List.map_map, show Prod.snd ∘ Prod.swap = Prod.fst from rfl,
    List.zipIdx_map_fst]

section Reading

variable (hg : g.Readable) (hstart : g.isSyntactic start = true)

include hg hstart

theorem exists_sentence : ∃ w, g.Derives [.ref start] w := by
  obtain ⟨r, hr, rfl, hl⟩ := exists_of_isSyntactic hstart
  obtain ⟨a, ha⟩ := List.exists_mem_of_ne_nil _ (hg.alternatives r hr)
  have hp := rule_mem_productions hr hl ha
  obtain ⟨w, hw⟩ := hg.productive _ hp
  exact ⟨w, (generates_start_iff hg.sound hstart).1 (.of_production hp hw)⟩

/-- The chart reads the tokens as far as the rules allow it. -/
theorem read_tokens (tokens : List Token) :
    ∃ word, tokens = word ++ (((ofGrammar g).chart start).read tokens).2 ∧
      ((ofGrammar g).chart start).Outcome word (((ofGrammar g).chart start).read tokens).1
        (((ofGrammar g).chart start).read tokens).2 := by
  refine Chart.read_outcome (numbered_chart _ _) ?_ ?_ tokens
  · rw [plain_chart]
    exact hg.productive
  · rw [plain_chart]
    obtain ⟨w, hw⟩ := exists_sentence hg hstart
    exact ⟨w, (generates_start_iff hg.sound hstart).2 hw⟩

variable {word rest : List Token} {c : Column Token Terminal Category}
  (ho : ((ofGrammar g).chart start).Outcome word c rest)

include ho

theorem outcome_continues : g.Continues start (word.map (·.terminal)) := by
  have := ho.viable
  rw [plain_chart] at this
  exact (viable_iff_continues hg.sound hstart).1 this

theorem outcome_sentence_iff :
    c.sentence.isSome = true ↔ g.Derives [.ref start] (word.map (·.terminal)) := by
  have := ho.sentence_iff
  rw [plain_chart] at this
  exact this.trans (generates_start_iff hg.sound hstart)

theorem outcome_expected_iff {d : String} :
    d ∈ (ofGrammar g).expected c ↔ g.Expects start (word.map (·.terminal)) d := by
  rw [mem_expected, outcome_sentence_iff hg hstart ho]
  refine or_congr_right (exists_congr fun t => and_congr_left fun _ => ?_)
  rw [ho.expected_iff, plain_chart]
  exact viable_iff_continues hg.sound hstart

theorem outcome_stops {a : Token} {as : List Token} (hr : rest = a :: as) :
    ¬ g.Continues start (word.map (·.terminal) ++ [a.terminal]) := by
  have := ho.stops a as hr
  rw [plain_chart] at this
  exact fun hc => this ((viable_iff_continues hg.sound hstart).2 hc)

/-- The tree of a sentence gives one node, which is a syntax tree of the tokens. -/
theorem outcome_spells (text : List Char) (hword : ∀ a ∈ word, a.Faithful)
    {t : Tree Token Category} (ht : c.sentence = some t) :
    ∃ n, (Node.ofTree text 0 t).1 = [n] ∧ g.Spells [.ref start] [n] word := by
  obtain ⟨hd, rfl⟩ := ho.tree t ht
  rw [plain_chart] at hd
  obtain ⟨is, hrow, hs⟩ := spells_of_derives hg.sound text hd trivial hword 0
  obtain ⟨r, hr, rfl, hl⟩ := exists_of_isSyntactic hstart
  cases hrow with
  | rule _ hrow =>
    cases hrow
    obtain ⟨n, hn⟩ := List.length_eq_one_iff.1 hs.length_eq
    rw [hn] at hs
    exact ⟨n, hn, hs⟩

/-- A report about the place after the tokens read. -/
theorem outcome_fails {p : Nat} {cs : List Char} (hr : Reads g.Word 0 text word p cs)
    (hs : Stops g.Word g start (word.map (·.terminal)) cs) :
    Fails g.Word g start text (MatchFailure.atPosition text p ((ofGrammar g).expected c)) := by
  obtain ⟨hp, hdrop⟩ := hr.drop_eq
  refine ⟨word, p, _, rfl, hp, ?_, outcome_continues hg hstart ho, ?_, rfl, pairwise_expected _ _,
    fun _ => outcome_expected_iff hg hstart ho⟩
  · rwa [hdrop]
  · rwa [hdrop]

omit ho

/-- A text is accepted with a syntax tree or fails with an exact report. -/
theorem parseFrom_cases (text : List Char) :
    (∃ n, (ofGrammar g).parseFrom start text = .ok n ∧ Accepts g.Word g start text n) ∨
      ∃ f, (ofGrammar g).parseFrom start text = .error f ∧ Fails g.Word g start text f := by
  obtain ⟨p, cs, hreads, hends⟩ := Scan.scanFrom_reads g.forms text 0
  obtain ⟨word, htokens, ho⟩ := read_tokens hg hstart (Scan.ofText g.forms text).tokens
  rw [show (Scan.scanFrom g.forms text 0 0) = Scan.ofText g.forms text from rfl] at hreads hends
  rw [parseFrom]
  simp only [show (ofGrammar g).forms = g.forms from rfl]
  split
  · -- a token that was not read
    rename_i a as hrest
    rw [hrest] at htokens
    rw [htokens] at hreads
    obtain ⟨u, cs', hbefore, hu⟩ := hreads.exists_before
    exact .inr ⟨_, rfl, outcome_fails hg hstart ho hbefore
      (.token hu (outcome_stops hg hstart ho hrest))⟩
  · -- a character at which no token starts
    rename_i q hrest hstuck
    rw [hrest, List.append_nil] at htokens
    rw [htokens] at hreads
    rw [hstuck] at hends
    rcases cs with _ | ⟨c, cs⟩
    · exact absurd hends nofun
    · obtain ⟨hq, hc, hno⟩ := hends
      obtain rfl := Option.some.inj hq
      exact .inr ⟨_, rfl, outcome_fails hg hstart ho hreads (.noToken hc hno)⟩
  all_goals
    rename_i hrest hstuck hsentence
    rw [hrest, List.append_nil] at htokens
    rw [htokens] at hreads
    rw [hstuck] at hends
    rcases cs with _ | ⟨c, cs⟩
    rotate_left
    · exact absurd hends.1 nofun
    have hp := hreads.position_of_nil
    rw [Nat.zero_add] at hp
    subst hp
  · refine .inr ⟨_, rfl, outcome_fails hg hstart ho hreads (.ending fun hd => ?_)⟩
    have := (outcome_sentence_iff hg hstart ho).2 hd
    rw [hsentence] at this
    cases this
  · obtain ⟨n, hn, hs⟩ := outcome_spells hg hstart ho text (faithful_of_reads hreads) hsentence
    simp only [hn]
    exact .inl ⟨n, rfl, word, hreads, hs⟩

/-- A text whose tokens the rules derive is accepted. -/
theorem exists_parseFrom_ok {ts : List Token} (hr : Reads g.Word 0 text ts text.length [])
    (hd : g.Derives [.ref start] (ts.map (·.terminal))) :
    ∃ n, (ofGrammar g).parseFrom start text = .ok n := by
  have hscan : Scan.ofText g.forms text = ⟨ts, none⟩ := Scan.scanFrom_eq hg.distinct hr
  obtain ⟨word, htokens, ho⟩ := read_tokens hg hstart ts
  have hrest : (((ofGrammar g).chart start).read ts).2 = [] := by
    rcases hr : (((ofGrammar g).chart start).read ts).2 with _ | ⟨a, as⟩
    · rfl
    · refine absurd ?_ (outcome_stops hg hstart ho hr)
      rw [htokens, hr] at hd
      refine ⟨as.map (·.terminal), ?_⟩
      simpa only [List.map_append, List.map_cons, List.append_assoc, List.singleton_append] using hd
  rw [hrest, List.append_nil] at htokens
  subst htokens
  obtain ⟨t, ht⟩ := Option.isSome_iff_exists.1 ((outcome_sentence_iff hg hstart ho).2 hd)
  obtain ⟨n, hn, -⟩ := outcome_spells hg hstart ho text (faithful_of_reads hr) ht
  refine ⟨n, ?_⟩
  rw [parseFrom]
  simp only [show (ofGrammar g).forms = g.forms from rfl, hscan, hrest, ht, hn]

end Reading

end Matcher

end Reckon
