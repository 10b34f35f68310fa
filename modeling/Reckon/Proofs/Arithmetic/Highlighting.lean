import Mathlib.Data.List.TakeWhile
import Reckon.Highlight
import Reckon.Proofs.Arithmetic.Callee
import Reckon.Proofs.Arithmetic.Spacing
import Reckon.Proofs.Lexis.Blank

/-!
# Highlighted programs

Highlighting looks at a text without parsing it, with words and blanks of its own. On a text that
reads as tokens it comes to the same: but for the blanks its pieces are the tokens one by one
(`Highlight.forall₂_shows`), since a token is what the text goes on with at its longest, and after a
name it is the next token that tells whether a parenthesis opens (`opensCall_iff`). In a program that
is so exactly after the callees, so a name is coloured as that of a function if and only if it is
called (`pieces_of_parse`).
-/

namespace Reckon

namespace Highlight

open Arithmetic

variable {c : Char} {u v cs rest : List Char} {pos pos' : Nat} {ts : List Token} {t : Terminal}

/-! ## Blanks -/

theorem not_starts_of_isBlank (h : isBlank c = true) :
    isDecimalDigit c = false ∧ c ≠ '.' ∧ c ∉ symbols := by
  have hcodes : ∀ k ∈ blankCodes, isDecimalDigit (Char.ofNat k) = false ∧ Char.ofNat k ≠ '.' ∧
      Char.ofNat k ∉ symbols := by decide +kernel
  have hstarts := hcodes _ (mem_blankCodes h)
  rwa [Char.ofNat_toNat] at hstarts

/-- No token starts with a blank. -/
theorem isBlank_of_lexeme (h : Lexeme t (c :: v)) : isBlank c = false := by
  by_contra hblank
  rw [Bool.not_eq_false] at hblank
  obtain ⟨hdigit, hpoint, hsymbol⟩ := not_starts_of_isBlank hblank
  rcases h.kind with ⟨hc, -⟩ | ⟨hc, -⟩ | ⟨hc | hc, -⟩
  · exact hsymbol hc
  · rw [isBlank_of_isWord (isWord_of_isLetter hc)] at hblank
    cases hblank
  · rw [hdigit] at hc
    cases hc
  · exact hpoint hc

/-! ## The first piece -/

theorem countWhile_append {p : Char → Bool} (h : ∀ d ∈ u, p d = true) (cs : List Char) :
    countWhile p (u ++ cs) = u.length + countWhile p cs := by
  rw [countWhile, List.takeWhile_append_of_pos h, List.length_append, countWhile]

/-- A token is not continued by characters with which it would be a word. -/
theorem countWhile_eq_zero (hu : IsToken Lexeme t u cs) {p : Char → Bool}
    (h : Lexeme t (u ++ cs.takeWhile p)) : countWhile p cs = 0 := by
  have hle := hu.longest t _ h ((List.prefix_append_right_inj u).2 (List.takeWhile_prefix p))
  rw [List.length_append] at hle
  rw [countWhile]
  omega

theorem numberLength?_eq_none (hd : isDecimalDigit c = false) (hp : c ≠ '.') :
    numberLength? (c :: rest) = none := by
  have hwhole : countWhile isDecimalDigit (c :: rest) = 0 := by
    rw [countWhile, List.takeWhile_cons_of_neg (by simp [hd]), List.length_nil]
  simp only [numberLength?, hwhole, List.drop_zero]
  split
  · rename_i he
    exact absurd (List.cons.inj he).1 hp
  · rfl

theorem allDigits_takeWhile (cs : List Char) : AllDigits (cs.takeWhile isDecimalDigit) :=
  fun _ => List.mem_takeWhile_imp

theorem allDigits_append (h : AllDigits u) (h' : AllDigits v) : AllDigits (u ++ v) :=
  List.forall_mem_append.2 ⟨h, h'⟩

/-- The number at the start is the whole token, with the fraction if there is one. -/
theorem numberLength?_eq (hu : IsToken Lexeme (.lexical "NUMBER") u cs) :
    numberLength? (u ++ cs) = some u.length := by
  have hpoint : isDecimalDigit '.' = false := by decide
  obtain ⟨-, hnumeral⟩ := hu.word.resolve_left fun h => absurd h.1 (by decide)
  rcases hnumeral with ⟨ws, ds, rfl, hws, hne, hds⟩ | ⟨hne, hdigits⟩
  · have hrest : countWhile isDecimalDigit cs = 0 := countWhile_eq_zero hu <| .inr ⟨rfl, .inl
      ⟨ws, ds ++ cs.takeWhile isDecimalDigit, by simp, hws, by simp [hne],
        allDigits_append hds (allDigits_takeWhile cs)⟩⟩
    have hwhole : countWhile isDecimalDigit (ws ++ '.' :: (ds ++ cs)) = ws.length := by
      rw [countWhile_append hws, countWhile, List.takeWhile_cons_of_neg (by simp [hpoint])]
      rfl
    rw [List.append_assoc, List.cons_append, numberLength?, hwhole, List.drop_left]
    simp only [countWhile_append hds, hrest, Nat.add_zero]
    rw [if_pos (by simpa using hne), List.length_append, List.length_cons]
    congr 1
    omega
  · have hrest : countWhile isDecimalDigit cs = 0 := countWhile_eq_zero hu <| .inr ⟨rfl, .inr
      ⟨by simp [hne], allDigits_append hdigits (allDigits_takeWhile cs)⟩⟩
    -- digits after a point would make the token longer
    have hfraction : ∀ rest, cs = '.' :: rest → countWhile isDecimalDigit rest = 0 := by
      rintro rest rfl
      by_contra hne
      have hnumeral : IsNumeral (u ++ '.' :: rest.takeWhile isDecimalDigit) :=
        .inl ⟨u, _, rfl, hdigits, fun h => hne (by rw [countWhile, h, List.length_nil]),
          allDigits_takeWhile rest⟩
      have hprefix : u ++ '.' :: rest.takeWhile isDecimalDigit <+: u ++ '.' :: rest :=
        (List.prefix_append_right_inj u).2 (List.cons_prefix_cons.2
          ⟨rfl, List.takeWhile_prefix _⟩)
      have hle := hu.longest (.lexical "NUMBER") _ (.inr ⟨rfl, hnumeral⟩) hprefix
      simp only [List.length_append, List.length_cons] at hle
      omega
    rw [numberLength?, countWhile_append hdigits, hrest, Nat.add_zero, List.drop_left]
    split
    · simp [hfraction _ rfl, hne]
    · simp [hne]

theorem nameLength?_eq (hu : IsToken Lexeme (.lexical "IDENT") u cs) :
    nameLength? (u ++ cs) = some u.length := by
  obtain ⟨-, c, v, rfl, hc, hv⟩ := hu.word.resolve_right fun h => absurd h.1 (by decide)
  have hrest : countWhile isWord cs = 0 := countWhile_eq_zero hu <| .inl ⟨rfl, c,
    v ++ cs.takeWhile isWord, rfl, hc,
    List.forall_mem_append.2 ⟨hv, fun _ => List.mem_takeWhile_imp⟩⟩
  have hletter : (isWord c && !isDecimalDigit c) = true := hc
  rw [List.cons_append, nameLength?, if_pos hletter, countWhile_append hv, hrest, Nat.add_zero,
    Nat.add_comm, List.length_cons]

/-! ## Pieces of tokens -/

/-- The piece has the text and the colour of the token, `calls` telling which names are called. -/
inductive Shows (calls : Token → Prop) : Token → Piece → Prop
  | number {a : Token} (ha : a.terminal = .lexical "NUMBER") :
      Shows calls a ⟨a.start, .number, a.text⟩
  | functionName {a : Token} (ha : a.terminal = .lexical "IDENT") (hc : calls a) :
      Shows calls a ⟨a.start, .functionName, a.text⟩
  | variableName {a : Token} (ha : a.terminal = .lexical "IDENT") (hc : ¬ calls a) :
      Shows calls a ⟨a.start, .variableName, a.text⟩
  | operator {a : Token} {c : Char} (ha : a.terminal = .literal (.singleton c))
      (hc : c ∈ "+-*/^=".toList) : Shows calls a ⟨a.start, .operator, a.text⟩
  | punctuation {a : Token} {c : Char} (ha : a.terminal = .literal (.singleton c))
      (hc : c ∈ "(),;".toList) : Shows calls a ⟨a.start, .punctuation, a.text⟩

theorem symbol_cases (hc : c ∈ symbols) :
    c ∈ "+-*/^=".toList ∨ c ∉ "+-*/^=".toList ∧ c ∈ "(),;".toList := by
  have hall : (symbols.all fun c => "+-*/^=".toList.contains c ||
      (!"+-*/^=".toList.contains c && "(),;".toList.contains c)) = true := by rfl
  have hcase := List.all_eq_true.1 hall c hc
  rwa [Bool.or_eq_true, Bool.and_eq_true, Bool.not_eq_true', ← Bool.not_eq_true,
    List.contains_iff_mem, List.contains_iff_mem] at hcase

theorem next_symbol (hc : c ∈ symbols) (cs : List Char) :
    next c cs = (if c ∈ "+-*/^=".toList then .operator else .punctuation, 1) := by
  obtain ⟨-, hdigit, hpoint, -⟩ := symbols_distinct c hc
  rw [next, numberLength?_eq_none hdigit hpoint]
  simp only [List.contains_iff_mem]
  obtain hop | ⟨hop, hmark⟩ := symbol_cases hc
  · rw [if_pos hop, if_pos hop]
  · rw [if_neg hop, if_pos hmark, if_neg hop]

theorem not_mem_of_not_symbol (hc : c ∉ symbols) :
    c ∉ "+-*/^=".toList ∧ c ∉ "(),;".toList := by
  have hall : (("+-*/^=".toList ++ "(),;".toList).all symbols.contains) = true := by rfl
  have hsymbol {d : Char} (hd : d ∈ "+-*/^=".toList ++ "(),;".toList) : d ∈ symbols :=
    List.contains_iff_mem.1 (List.all_eq_true.1 hall d hd)
  exact ⟨fun h => hc (hsymbol (List.mem_append_left _ h)),
    fun h => hc (hsymbol (List.mem_append_right _ h))⟩

theorem next_number (hu : IsToken Lexeme (.lexical "NUMBER") (c :: v) cs) :
    next c (v ++ cs) = (.number, (c :: v).length) := by
  rw [next, ← List.cons_append, numberLength?_eq hu]

theorem next_name (hu : IsToken Lexeme (.lexical "IDENT") (c :: v) cs) : next c (v ++ cs) =
    (if opensCall cs then .functionName else .variableName, (c :: v).length) := by
  have hname : nameLength? (c :: (v ++ cs)) = some (c :: v).length := nameLength?_eq hu
  have hletter : isLetter c = true := by
    obtain ⟨-, d, w, hw, hd, -⟩ := hu.word.resolve_right fun h => absurd h.1 (by decide)
    exact (List.cons.inj hw).1 ▸ hd
  have hpoint : c ≠ '.' := by
    rintro rfl
    exact absurd hletter (by decide)
  have hsymbol : c ∉ symbols := fun hc => by
    have hword := isWord_of_isLetter hletter
    rw [(symbols_distinct c hc).1] at hword
    cases hword
  obtain ⟨hop, hmark⟩ := not_mem_of_not_symbol hsymbol
  rw [next, numberLength?_eq_none (isDigit_of_isLetter hletter) hpoint]
  simp only [List.contains_iff_mem]
  rw [if_neg hop, if_neg hmark, hname]
  simp only [← List.cons_append, List.drop_left]

theorem next_blank (hc : isBlank c = true) (cs : List Char) :
    next c cs = (.blank, 1 + countWhile isBlank cs) := by
  obtain ⟨hdigit, hpoint, hsymbol⟩ := not_starts_of_isBlank hc
  obtain ⟨hop, hmark⟩ := not_mem_of_not_symbol hsymbol
  have hword : isWord c = false := by
    by_contra hword
    rw [isBlank_of_isWord (Bool.not_eq_false _ ▸ hword)] at hc
    cases hc
  have hname : nameLength? (c :: cs) = none := by
    rw [nameLength?, hword]
    rfl
  rw [next, numberLength?_eq_none hdigit hpoint]
  simp only [List.contains_iff_mem]
  rw [if_neg hop, if_neg hmark, hname]
  simp only [hc, if_true]
  rw [countWhile, List.takeWhile_cons_of_pos hc, List.length_cons, Nat.add_comm, countWhile]

/-! ## Opening parentheses -/

theorem terminal_eq_opening_iff (h : Lexeme t (c :: v)) : t = .literal "(" ↔ c = '(' := by
  constructor
  · rintro rfl
    exact (List.cons.inj h.2).1
  · rintro rfl
    rcases h.kind with ⟨-, ht, -⟩ | ⟨hc, -⟩ | ⟨hc | hc, -⟩
    · exact ht
    all_goals exact absurd hc (by decide)

/-- A parenthesis opens if the next token is one. -/
theorem opensCall_iff (h : Reads Lexeme pos cs ts pos' rest) (hrest : rest = []) :
    opensCall cs = true ↔ ∃ b ∈ ts.head?, b.terminal = .literal "(" := by
  induction h with
  | done => subst hrest; simp [opensCall]
  | @gap _ _ c cs _ _ hc _ ih =>
    rw [← ih hrest, opensCall, opensCall, List.dropWhile_cons_of_pos (isBlank_of_isGap hc)]
  | @token pos _ t u cs _ _ hu _ ih =>
    obtain ⟨c, v, rfl⟩ := List.exists_cons_of_ne_nil hu.nonempty
    have hblank := isBlank_of_lexeme hu.word
    rw [opensCall, List.cons_append, List.dropWhile_cons_of_neg (by simp [hblank])]
    simp [terminal_eq_opening_iff hu.word]

theorem piecesFrom_skip : ∀ (cs : List Char) (pos skip : Nat),
    piecesFrom cs pos skip = piecesFrom (cs.drop skip) (pos + skip) 0
  | [], pos, skip => by rw [List.drop_nil, piecesFrom, piecesFrom]
  | c :: cs, pos, 0 => by rw [List.drop_zero, Nat.add_zero]
  | c :: cs, pos, skip + 1 => by
    rw [piecesFrom, piecesFrom_skip cs (pos + 1) skip, List.drop_succ_cons, Nat.add_right_comm,
      Nat.add_assoc]

/-! ## Pieces and tokens -/

theorem piecesFrom_of_next {kind : Kind} {n : Nat} (h : next c cs = (kind, n)) (pos : Nat) :
    piecesFrom (c :: cs) pos 0 = ⟨pos, kind, String.ofList ((c :: cs).take n)⟩ ::
      piecesFrom (cs.drop (n - 1)) (pos + 1 + (n - 1)) 0 := by
  rw [piecesFrom, h]
  simp only
  rw [piecesFrom_skip cs]

section Pieces

variable {calls : Token → Prop}

theorem Shows.kind_ne {a : Token} {p : Piece} (h : Shows calls a p) : p.kind ≠ .blank := by
  cases h <;> exact nofun

/-- The piece at the start of a token is that of the token, if `calls` tells the names before an
opening parenthesis. -/
theorem shows_next (calls : Token → Prop) (hu : IsToken Lexeme t (c :: v) cs) (pos : Nat)
    (hcalls : t = .lexical "IDENT" →
      (calls ⟨t, String.ofList (c :: v), pos, pos + (c :: v).length⟩ ↔ opensCall cs = true)) :
    (next c (v ++ cs)).2 = (c :: v).length ∧
      Shows calls ⟨t, String.ofList (c :: v), pos, pos + (c :: v).length⟩
        ⟨pos, (next c (v ++ cs)).1, String.ofList (c :: v)⟩ := by
  rcases hu.word.kind with ⟨hc, rfl, rfl⟩ | ⟨-, rfl⟩ | ⟨-, rfl⟩
  · rw [List.nil_append, next_symbol hc]
    refine ⟨rfl, ?_⟩
    obtain hop | ⟨hop, hmark⟩ := symbol_cases hc
    · rw [if_pos hop]
      exact .operator rfl hop
    · rw [if_neg hop]
      exact .punctuation rfl hmark
  · rw [next_name hu]
    refine ⟨rfl, ?_⟩
    cases hopens : opensCall cs with
    | true => exact .functionName rfl ((hcalls rfl).2 hopens)
    | false =>
      refine .variableName rfl fun hc => ?_
      rw [(hcalls rfl).1 hc] at hopens
      cases hopens
  · rw [next_number hu]
    exact ⟨rfl, .number rfl⟩

/-- Of a text that reads as tokens the pieces but the blanks are those of the tokens. Where a gap has
been begun, the blanks that belong to the same piece may be passed over. -/
theorem forall₂_shows (h : Reads Lexeme pos cs ts pos' rest) (hrest : rest = [])
    (hcalls : ∀ us a vs, ts = us ++ a :: vs → a.terminal = .lexical "IDENT" →
      (calls a ↔ ∃ b ∈ vs.head?, b.terminal = .literal "(")) :
    ∀ skip ≤ countWhile isBlank cs,
      List.Forall₂ (Shows calls) ts ((piecesFrom cs pos skip).filter (·.kind ≠ .blank)) := by
  -- gaps are passed over one by one, and a piece takes all the blanks there are
  induction h with
  | done =>
    subst hrest
    exact fun _ _ => .nil
  | @gap pos _ c cs _ _ hc _ ih =>
    have hblank := isBlank_of_isGap hc
    rintro (_ | skip) hskip
    · rw [piecesFrom_of_next (next_blank hblank cs), List.filter_cons_of_neg (by simp),
        ← piecesFrom_skip, Nat.add_sub_cancel_left]
      exact ih hrest hcalls _ (Nat.le_refl _)
    · rw [piecesFrom]
      rw [countWhile, List.takeWhile_cons_of_pos hblank, List.length_cons] at hskip
      exact ih hrest hcalls skip (Nat.le_of_succ_le_succ hskip)
  | @token pos _ t u cs _ ts hu h ih =>
    intro skip hskip
    obtain ⟨c, v, rfl⟩ := List.exists_cons_of_ne_nil hu.nonempty
    have hblank := isBlank_of_lexeme hu.word
    obtain rfl : skip = 0 := by
      rw [List.cons_append, countWhile, List.takeWhile_cons_of_neg (by simp [hblank])] at hskip
      exact Nat.le_zero.1 hskip
    obtain ⟨hlength, hshows⟩ := shows_next calls hu pos fun ht => by
      rw [hcalls [] _ ts rfl ht, opensCall_iff h hrest]
    have htake : (c :: (v ++ cs)).take (c :: v).length = c :: v := List.take_left
    have hdrop : (v ++ cs).drop ((c :: v).length - 1) = cs := List.drop_left
    have hplace : pos + 1 + ((c :: v).length - 1) = pos + (c :: v).length := by
      rw [List.length_cons]
      omega
    have hnext : next c (v ++ cs) = ((next c (v ++ cs)).1, (c :: v).length) := by rw [← hlength]
    rw [List.cons_append, piecesFrom_of_next hnext, htake, hdrop, hplace,
      List.filter_cons_of_pos (by simpa using hshows.kind_ne)]
    exact .cons hshows (ih hrest (fun us a vs hts => hcalls (_ :: us) a vs (by rw [hts]; rfl)) 0
      (Nat.zero_le _))

end Pieces

end Highlight

theorem Reads.nodup {L : Terminal → List Char → Prop} {pos pos' : Nat} {cs rest : List Char}
    {ts : List Token} (h : Reads L pos cs ts pos' rest) : ts.Nodup := by
  have hrow := List.pairwise_map.1 h.inRow.pairwise
  refine hrow.imp_of_mem ?_
  rintro a b ha - hle rfl
  have hlt := h.start_lt_stop a ha
  exact absurd (show a.stop ≤ a.start from hle) (Nat.not_le.2 hlt)

namespace Arithmetic

open Grammar

variable {text : String} {n : Node} {ts : List Token}

/-- The tokens that are read in a text. -/
def tokens (text : String) : List Token := (Scan.ofText grammar.forms text.toList).tokens

theorem tokens_eq {p : Nat} (h : Reads Lexeme 0 text.toList ts p []) :
    tokens text = ts := by
  rw [← word_eq_lexeme] at h
  rw [tokens, Scan.ofText, Scan.scanFrom_eq distinct_forms h]

/-- The tokens of a program are the leaves of its tree and the separators of its lists. -/
theorem leaf_or_drops_of_parse (h : parse "program" text = .ok n)
    (hr : Reads Lexeme 0 text.toList ts text.toList.length []) :
    n.leaves.Sublist (ts.map .ofToken) ∧ ∀ a ∈ ts, .ofToken a ∈ n.leaves ∨
      grammar.Drops text.toList n a.start a.stop := by
  obtain ⟨t, ht, hreads, hnode⟩ := exists_tree_of_parse isSyntactic_program h
  obtain rfl := tokens_unique hreads hr
  rw [← word_eq_lexeme] at hr
  have hlaid := laid_of_derives sound_grammar filled_grammar ht trivial
    (hreads.allCutFrom (faithful_of_reads hr))
  rw [hnode] at hlaid
  refine ⟨by simpa using hlaid.leaves, fun a ha => ?_⟩
  rcases hlaid.covered a ha with ⟨m, hm, hl⟩ | ⟨m, hm, hd⟩ | ⟨-, -, item, separator, hss, -⟩
  · exact .inl (List.mem_singleton.1 hm ▸ hl)
  · exact .inr (List.mem_singleton.1 hm ▸ hd)
  · cases List.mem_singleton.1 hss

/-- The pieces of a program but the blanks are one by one its tokens, coloured as what they are, and
the names that are called are those of functions. Its tokens are those of its tree, in which the
separators of lists are no leaves. -/
theorem pieces_of_parse (h : parse "program" text = .ok n) :
    grammar.Spells [.ref "program"] [n] (tokens text) ∧
      n.leaves.Sublist ((tokens text).map .ofToken) ∧
      (∀ a ∈ tokens text, .ofToken a ∈ n.leaves ∨
        grammar.Drops text.toList n a.start a.stop) ∧
      List.Forall₂ (Highlight.Shows n.Calls) (tokens text)
        ((Highlight.pieces text).filter (·.kind ≠ .blank)) := by
  obtain ⟨ts, hr, hsp⟩ := accepts_of_parse_ok isSyntactic_program h
  rw [tokens_eq hr]
  obtain ⟨hleaves, hcovered⟩ := leaf_or_drops_of_parse h hr
  refine ⟨hsp, hleaves, hcovered, Highlight.forall₂_shows hr rfl ?_ 0 (Nat.zero_le _)⟩
  rintro us a vs rfl ha
  exact calls_iff hsp hr.nodup ha

theorem pieces_of_parse_call :
    ∃ n, parse "program" "f (x,-.5); y = 2" = .ok n ∧
      (Highlight.pieces "f (x,-.5); y = 2").map (fun p => (p.kind, p.text)) = [
        (.functionName, "f"), (.blank, " "), (.punctuation, "("), (.variableName, "x"),
        (.punctuation, ","), (.operator, "-"), (.number, ".5"), (.punctuation, ")"),
        (.punctuation, ";"), (.blank, " "), (.variableName, "y"), (.blank, " "), (.operator, "="),
        (.blank, " "), (.number, "2")] ∧
      List.Forall₂ (Highlight.Shows n.Calls) (tokens "f (x,-.5); y = 2")
        ((Highlight.pieces "f (x,-.5); y = 2").filter (·.kind ≠ .blank)) := by
  have hok : (matcher.parseFrom "program" "f (x,-.5); y = 2".toList).toOption.map (fun _ => ()) =
      some () := by decide +kernel
  obtain ⟨n, hn, -⟩ := exists_parse_of_map isSyntactic_program hok
  exact ⟨n, hn, by decide +kernel, (pieces_of_parse hn).2.2.2⟩

end Arithmetic

end Reckon
