import Reckon.Proofs.Arithmetic.Rendering
import Reckon.Proofs.Arithmetic.Running
import Reckon.Proofs.Arithmetic.Sentence

/-!
# Parenthesized programs

The parenthesized text of a program has parentheses around each operation, but none around an
assignment. So it reads back only where no assignment is a right operand, the operand of a sign or
the value of another assignment (`Expr.writable`), and an assignment that is a left operand then takes
the whole operation as its value (`Expr.hoist`). The text runs as the program does exactly if it reads
back and this makes no difference (`parenthesize_sameRuns_iff`). Where assignments are only statements
and arguments (`Expr.plain`) nothing is hoisted: the text has the expressions of the program, and
parenthesizing it again changes nothing (`parenthesize_of_allPlain`).
-/

namespace Reckon.Arithmetic

namespace Expr

def isAssign : Expr → Bool
  | assign _ _ => true
  | _ => false

mutual

/-- No assignment is a right operand, the operand of a sign or the value of an assignment. -/
def writable : Expr → Bool
  | number _ => true
  | name _ => true
  | assign _ e => e.writable && !e.isAssign
  | sign _ e => e.writable && !e.isAssign
  | binary _ l r => l.writable && (r.writable && !r.isAssign)
  | call _ es => allWritable es

def allWritable : List Expr → Bool
  | [] => true
  | e :: es => e.writable && allWritable es

end

mutual

/-- No assignment is a part of an operation or of an assignment. -/
def plain : Expr → Bool
  | number _ => true
  | name _ => true
  | assign _ e => e.plain && !e.isAssign
  | sign _ e => e.plain && !e.isAssign
  | binary _ l r => (l.plain && !l.isAssign) && (r.plain && !r.isAssign)
  | call _ es => allPlain es

def allPlain : List Expr → Bool
  | [] => true
  | e :: es => e.plain && allPlain es

end

mutual

/-- An assignment that is a left operand gets the whole operation as its value. -/
def hoist : Expr → Expr
  | number t => number t
  | name x => name x
  | assign x e => assign x e.hoist
  | sign negative e => sign negative e.hoist
  | binary op (assign x v) r => assign x (binary op v.hoist r.hoist)
  | binary op l r => binary op l.hoist r.hoist
  | call f es => call f (hoistEach es)

def hoistEach : List Expr → List Expr
  | [] => []
  | e :: es => e.hoist :: hoistEach es

end

theorem hoist_binary {l : Expr} (h : l.isAssign = false) (op : Operator) (r : Expr) :
    (binary op l r).hoist = binary op l.hoist r.hoist := by
  cases l with
  | assign => cases h
  | number | name | sign | binary | call => simp only [hoist]

theorem exists_of_isAssign {e : Expr} (h : e.isAssign = true) : ∃ x v, e = assign x v := by
  cases e with
  | assign x v => exact ⟨x, v, rfl⟩
  | number | name | sign | binary | call => cases h

mutual

theorem writable_of_plain : ∀ {e : Expr}, e.plain = true → e.writable = true
  | number _, _ => rfl
  | name _, _ => rfl
  | assign _ e, h | sign _ e, h => by
    simp only [plain, writable, Bool.and_eq_true] at h ⊢
    exact ⟨writable_of_plain h.1, h.2⟩
  | binary _ l r, h => by
    simp only [plain, writable, Bool.and_eq_true] at h ⊢
    exact ⟨writable_of_plain h.1.1, writable_of_plain h.2.1, h.2.2⟩
  | call _ es, h => by
    rw [plain] at h
    rw [writable]
    exact allWritable_of_allPlain h

theorem allWritable_of_allPlain : ∀ {es : List Expr}, allPlain es = true → allWritable es = true
  | [], _ => rfl
  | e :: es, h => by
    simp only [allPlain, allWritable, Bool.and_eq_true] at h ⊢
    exact ⟨writable_of_plain h.1, allWritable_of_allPlain h.2⟩

end

mutual

theorem hoist_of_plain : ∀ {e : Expr}, e.plain = true → e.hoist = e
  | number _, _ => rfl
  | name _, _ => rfl
  | assign _ e, h | sign _ e, h => by
    simp only [plain, Bool.and_eq_true] at h
    rw [hoist, hoist_of_plain h.1]
  | binary _ l r, h => by
    simp only [plain, Bool.and_eq_true, Bool.not_eq_true'] at h
    rw [hoist_binary h.1.2, hoist_of_plain h.1.1, hoist_of_plain h.2.1]
  | call _ es, h => by
    rw [hoist, hoistEach_of_allPlain h]

theorem hoistEach_of_allPlain : ∀ {es : List Expr}, allPlain es = true → hoistEach es = es
  | [], _ => rfl
  | e :: es, h => by
    simp only [allPlain, Bool.and_eq_true] at h
    rw [hoistEach, hoist_of_plain h.1, hoistEach_of_allPlain h.2]

end

/-! ## Names and numerals -/

mutual

/-- The names and numerals of the expression are words of arithmetic. -/
def Spelled : Expr → Prop
  | number t => IsNumeral t.toList
  | name x => IsIdentifier x.toList
  | assign x e => IsIdentifier x.toList ∧ e.Spelled
  | sign _ e => e.Spelled
  | binary _ l r => l.Spelled ∧ r.Spelled
  | call f es => IsIdentifier f.toList ∧ AllSpelled es

def AllSpelled : List Expr → Prop
  | [] => True
  | e :: es => e.Spelled ∧ AllSpelled es

end

theorem AllSpelled.of_mem {e : Expr} : ∀ {es : List Expr}, AllSpelled es → e ∈ es → e.Spelled
  | [], _, h => absurd h List.not_mem_nil
  | f :: fs, hall, h => by
    rcases List.mem_cons.1 h with rfl | h
    · exact hall.1
    · exact AllSpelled.of_mem hall.2 h

end Expr

namespace Phrase

mutual

theorem spelled_series : ∀ {p : Phrase}, p.WellFormed → Series.All Expr.Spelled p.series
  | number _, h => ⟨h, nofun⟩
  | name _, h => ⟨h, nofun⟩
  | paren e, h => ⟨spelled_expr (p := e) h, nofun⟩
  | sign _ e, h => ⟨spelled_expr (p := e) h.1, nofun⟩
  | call f es, h => ⟨⟨h.1, spelled_exprs h.2⟩, nofun⟩
  | chain a op r, h => ⟨spelled_expr h.1, List.forall_mem_cons.2 (spelled_series h.2.2.1)⟩
  | assign x e, h => ⟨⟨h.1, spelled_expr h.2.1⟩, nofun⟩

theorem spelled_expr {p : Phrase} (h : p.WellFormed) : p.expr.Spelled :=
  sums_of_forall (fun ha hb => ⟨ha, hb⟩) (spelled_series h)

theorem spelled_exprs : ∀ {ps : List Phrase}, AllWellFormed ps → Expr.AllSpelled (exprs ps)
  | [], _ => trivial
  | p :: ps, h => ⟨spelled_expr (p := p) h.1, spelled_exprs h.2⟩

end

/-! ## Layout -/

/-- An operator and an operand after a phrase that has no parentheses around it. -/
def attach : Phrase → Operator → Phrase → Phrase
  | assign x v, op, r => assign x (chain v op r)
  | l, op, r => chain l op r

theorem words_attach (l : Phrase) (op : Operator) (r : Phrase) :
    (l.attach op r).words = l.words ++ lit op.symbol :: r.words := by
  cases l <;> simp only [attach, words, List.cons_append, List.nil_append]

theorem IsPrimary.attach_eq {l : Phrase} (h : l.IsPrimary) (op : Operator) (r : Phrase) :
    l.attach op r = chain l op r := by
  cases l with
  | chain | assign => exact h.elim
  | number | name | paren | sign | call => rfl

mutual

/-- The phrase that the text of an expression spells. -/
def layout : Expr → Phrase
  | .number t => number t
  | .name x => name x
  | .assign x e => assign x (layout e)
  | .sign negative e => paren (sign negative (layout e))
  | .binary op l r => paren ((layout l).attach op (layout r))
  | .call f es => call f (layouts es)

def layouts : List Expr → List Phrase
  | [] => []
  | e :: es => layout e :: layouts es

end

theorem isPrimary_layout {e : Expr} (h : e.isAssign = false) : (layout e).IsPrimary := by
  cases e with
  | assign => cases h
  | number | name | sign | binary | call =>
    rw [layout]
    trivial

theorem expr_chain {p q : Phrase} (hp : p.IsPrimary) (hq : q.IsPrimary) (op : Operator) :
    (chain p op q).expr = .binary op p.expr q.expr := by
  have hpt : Tight op.leftRank p.series.2 := hp.series_eq ▸ nofun
  have hqt : Tight op.rightRank q.series.2 := hq.series_eq ▸ nofun
  have hjoin : join p op q = chain p op q := by
    cases p with
    | chain | assign => exact hp.elim
    | number | name | paren | sign | call => rfl
  rw [← hjoin, expr_join hpt hqt]

mutual

theorem wellFormed_layout : ∀ {e : Expr}, e.Spelled → e.writable = true → (layout e).WellFormed
  | .number _, h, _ => h
  | .name _, h, _ => h
  | .assign x e, h, hw => by
    simp only [Expr.writable, Bool.and_eq_true, Bool.not_eq_true'] at hw
    exact ⟨h.1, wellFormed_layout h.2 hw.1, (isPrimary_layout hw.2).not_isAssign⟩
  | .sign negative e, h, hw => by
    simp only [Expr.writable, Bool.and_eq_true, Bool.not_eq_true'] at hw
    exact ⟨wellFormed_layout h hw.1, isPrimary_layout hw.2⟩
  | .binary op l r, h, hw => by
    simp only [Expr.writable, Bool.and_eq_true, Bool.not_eq_true'] at hw
    have hl := wellFormed_layout h.1 hw.1
    have hr := wellFormed_layout h.2 hw.2.1
    have hrp := isPrimary_layout hw.2.2
    rw [layout, WellFormed]
    by_cases ha : l.isAssign = true
    · -- the assignment takes the rest of the parenthesis
      obtain ⟨x, v, rfl⟩ := Expr.exists_of_isAssign ha
      have hv : v.isAssign = false := by
        simp only [Expr.writable, Bool.and_eq_true, Bool.not_eq_true'] at hw
        exact hw.1.2
      exact ⟨hl.1, ⟨hl.2.1, isPrimary_layout hv, hr, hrp.not_isAssign⟩, id⟩
    · have hlp := isPrimary_layout (Bool.eq_false_iff.2 ha)
      rw [hlp.attach_eq]
      exact ⟨hl, hlp, hr, hrp.not_isAssign⟩
  | .call f es, h, hw => ⟨h.1, wellFormed_layouts h.2 hw⟩

theorem wellFormed_layouts : ∀ {es : List Expr}, Expr.AllSpelled es →
    Expr.allWritable es = true → AllWellFormed (layouts es)
  | [], _, _ => trivial
  | e :: es, h, hw => by
    simp only [Expr.allWritable, Bool.and_eq_true] at hw
    exact ⟨wellFormed_layout h.1 hw.1, wellFormed_layouts h.2 hw.2⟩

end

mutual

/-- The text of an expression reads as the expression with its assignments hoisted. -/
theorem expr_layout : ∀ {e : Expr}, e.writable = true → (layout e).expr = e.hoist
  | .number _, _ => by rw [Expr.hoist]; rfl
  | .name _, _ => by rw [Expr.hoist]; rfl
  | .assign x e, hw => by
    simp only [Expr.writable, Bool.and_eq_true] at hw
    rw [Expr.hoist, ← expr_layout hw.1]
    rfl
  | .sign negative e, hw => by
    simp only [Expr.writable, Bool.and_eq_true] at hw
    rw [Expr.hoist, ← expr_layout hw.1]
    rfl
  | .binary op l r, hw => by
    simp only [Expr.writable, Bool.and_eq_true, Bool.not_eq_true'] at hw
    have hl := expr_layout hw.1
    have hr := expr_layout hw.2.1
    have hrp := isPrimary_layout hw.2.2
    by_cases ha : l.isAssign = true
    · obtain ⟨x, v, rfl⟩ := Expr.exists_of_isAssign ha
      have hv : v.isAssign = false := by
        simp only [Expr.writable, Bool.and_eq_true, Bool.not_eq_true'] at hw
        exact hw.1.2
      have hve : (layout v).expr = v.hoist := by
        rw [Expr.hoist] at hl
        exact (Expr.assign.inj hl).2
      rw [Expr.hoist, ← hve, ← hr, ← expr_chain (isPrimary_layout hv) hrp]
      rfl
    · have hlp := isPrimary_layout (Bool.eq_false_iff.2 ha)
      rw [Expr.hoist_binary (Bool.eq_false_iff.2 ha), ← hl, ← hr, ← expr_chain hlp hrp, layout,
        hlp.attach_eq]
      rfl
  | .call f es, hw => by
    rw [Expr.hoist, ← exprs_layouts hw]
    rfl

theorem exprs_layouts : ∀ {es : List Expr}, Expr.allWritable es = true →
    exprs (layouts es) = Expr.hoistEach es
  | [], _ => rfl
  | e :: es, hw => by
    simp only [Expr.allWritable, Bool.and_eq_true] at hw
    rw [Expr.hoistEach, ← expr_layout hw.1, ← exprs_layouts hw.2]
    rfl

end

end Phrase

/-! ## Where an assignment may stand -/

/-- What came last: the start of an expression, a name at its start, or anything else. -/
inductive Place where
  | start
  | named
  | inside
  deriving Repr, DecidableEq

/-- The place after a word. Only a name at the start of an expression can be assigned to. -/
def Place.next (q : Place) (w : Word) : Option Place :=
  if w = lit "(" ∨ w = lit "," ∨ w = lit ";" then some .start
  else if w = lit "=" then if q = .named then some .inside else none
  else if w.1 = .lexical "IDENT" ∧ q = .start then some .named
  else some .inside

/-- From no place do the words go on. -/
def Dead (ws : List Word) : Prop := ∀ q : Place, ws.foldlM Place.next q = none

/-- From the place the words go on. -/
def Alive (q : Place) (ws : List Word) : Prop := ∃ r, ws.foldlM Place.next q = some r

section Place

variable {q : Place} {w : Word} {us ws : List Word}

theorem Dead.append_right (h : Dead ws) (us : List Word) : Dead (us ++ ws) := by
  intro q
  rw [List.foldlM_append]
  rcases us.foldlM Place.next q with _ | r
  · rfl
  · exact h r

theorem Dead.append_left (h : Dead us) (ws : List Word) : Dead (us ++ ws) := by
  intro q
  rw [List.foldlM_append, h q]
  rfl

theorem Dead.cons (h : Dead ws) (w : Word) : Dead (w :: ws) := h.append_right [w]

theorem Alive.append (h : Alive q us) (h' : ∀ r, Alive r ws) : Alive q (us ++ ws) := by
  obtain ⟨r, hr⟩ := h
  rw [Alive, List.foldlM_append, hr]
  exact h' r

theorem Alive.cons {r : Place} (hw : q.next w = some r) (h : Alive r ws) : Alive q (w :: ws) := by
  rw [Alive, List.foldlM_cons, hw]
  exact h

theorem Dead.not_alive (h : Dead ws) : ¬ Alive q ws := by
  rintro ⟨r, hr⟩
  rw [h q] at hr
  cases hr

theorem alive_singleton {r : Place} (hw : q.next w = some r) : Alive q [w] := .cons hw ⟨r, rfl⟩

theorem next_opening {s : String} (h : s = "(" ∨ s = "," ∨ s = ";") (q : Place) :
    q.next (lit s) = some .start := by
  rcases h with rfl | rfl | rfl <;> exact if_pos (by simp)

theorem next_symbol (op : Operator) (q : Place) : q.next (lit op.symbol) = some .inside := by
  cases op <;> cases q <;> decide

theorem next_sign (negative : Bool) (q : Place) :
    q.next (lit (signSymbol negative)) = some .inside := by
  cases negative <;> cases q <;> decide

theorem next_closing (q : Place) : q.next (lit ")") = some .inside := by
  cases q <;> decide

theorem next_ident (x : String) (q : Place) :
    q.next (ident x) = some (if q = .start then .named else .inside) := by
  cases q <;> simp [Place.next, ident, lit]

theorem next_numeral (x : String) (q : Place) : q.next (numeral x) = some .inside := by
  simp [Place.next, numeral, lit]

/-- An assignment is no operand and no value. -/
theorem dead_assign {s x : String} (hs : ∀ q r : Place, q.next (lit s) = some r → r = .inside)
    (ws : List Word) : Dead (lit s :: ident x :: lit "=" :: ws) := by
  intro q
  rw [List.foldlM_cons]
  rcases hq : q.next (lit s) with _ | r
  · rfl
  · obtain rfl := hs q r hq
    have hx : Place.inside.next (ident x) = some .inside := next_ident x .inside
    have heq : Place.inside.next (lit "=") = none := by decide
    simp only [List.foldlM_cons, Option.bind_eq_bind, Option.bind_some, hx, heq, Option.bind_none]

end Place

namespace Phrase

mutual

theorem alive_words : ∀ {p : Phrase}, p.WellFormed → ∀ q : Place, (p.IsAssign → q = .start) →
    Alive q p.words
  | number t, _, q, _ => alive_singleton (next_numeral t q)
  | name x, _, q, _ => alive_singleton (next_ident x q)
  | paren e, h, q, _ =>
    .cons (next_opening (.inl rfl) q) ((alive_words (p := e) h .start fun _ => rfl).append
      fun r => alive_singleton (next_closing r))
  | sign negative e, h, q, _ =>
    .cons (next_sign negative q) (alive_words h.1 .inside fun ha => absurd ha h.2.not_isAssign)
  | call f es, h, q, _ =>
    .cons (next_ident f q) (.cons (next_opening (.inl rfl) _)
      ((alive_wordsOfList (.inl rfl) h.2).append fun r => alive_singleton (next_closing r)))
  | chain a op r, h, q, _ =>
    (alive_words h.1 q fun ha => absurd ha h.2.1.not_isAssign).append fun q' =>
      .cons (next_symbol op q') (alive_words h.2.2.1 .inside fun ha => absurd ha h.2.2.2)
  | assign x e, h, q, hq => by
    have hx := next_ident x q
    rw [if_pos (hq trivial)] at hx
    exact .cons hx (.cons (r := .inside) (by decide)
      (alive_words h.2.1 .inside fun ha => absurd ha h.2.2))

theorem alive_wordsOfList {s : String} (hs : s = "," ∨ s = ";") :
    ∀ {ps : List Phrase}, AllWellFormed ps → Alive .start (wordsOfList s ps)
  | [], _ => ⟨.start, rfl⟩
  | p :: _, h =>
    (alive_words (p := p) h.1 .start fun _ => rfl).append fun r => alive_wordsOfMore hs h.2 r

theorem alive_wordsOfMore {s : String} (hs : s = "," ∨ s = ";") :
    ∀ {ps : List Phrase}, AllWellFormed ps → ∀ q, Alive q (wordsOfMore s ps)
  | [], _, q => ⟨q, rfl⟩
  | p :: _, h, q =>
    .cons (next_opening (.inr hs) q) ((alive_words (p := p) h.1 .start fun _ => rfl).append
      fun r => alive_wordsOfMore hs h.2 r)

end

/-- The words of an operand that is an assignment, or has one where none may be. -/
theorem dead_operand {e : Expr} {s : String}
    (hs : ∀ q r : Place, q.next (lit s) = some r → r = .inside)
    (hd : e.writable = false → Dead (layout e).words) (h : (e.writable && !e.isAssign) = false) :
    Dead (lit s :: (layout e).words) := by
  by_cases hw : e.writable = true
  · have ha : e.isAssign = true := by simpa [hw] using h
    obtain ⟨x, v, rfl⟩ := Expr.exists_of_isAssign ha
    exact dead_assign hs _
  · exact (hd (Bool.eq_false_iff.2 hw)).cons _

mutual

theorem dead_layout : ∀ {e : Expr}, e.writable = false → Dead (layout e).words
  | .number _, h => by cases h
  | .name _, h => by cases h
  | .assign x e, h => by
    rw [Expr.writable] at h
    have hs : ∀ q r : Place, q.next (lit "=") = some r → r = .inside := by
      intro q r
      cases q <;> cases r <;> decide
    exact (dead_operand hs (fun h => dead_layout h) h).cons _
  | .sign negative e, h => by
    rw [Expr.writable] at h
    have hs (q r : Place) (hq : q.next (lit (signSymbol negative)) = some r) : r = .inside :=
      Option.some.inj (hq.symm.trans (next_sign negative q))
    exact ((dead_operand hs (fun h => dead_layout h) h).append_left _).cons _
  | .binary op l r, h => by
    have hs (q r : Place) (hq : q.next (lit op.symbol) = some r) : r = .inside :=
      Option.some.inj (hq.symm.trans (next_symbol op q))
    rw [Expr.writable] at h
    rw [layout, words, words_attach]
    refine (Dead.append_left ?_ _).cons _
    by_cases hl : l.writable = true
    · rw [hl, Bool.true_and] at h
      exact (dead_operand hs (fun h => dead_layout h) h).append_right _
    · exact (dead_layout (Bool.eq_false_iff.2 hl)).append_left _
  | .call f es, h => by
    rw [Expr.writable] at h
    exact (((dead_layouts "," h).append_left _).cons _).cons _

theorem dead_layouts (s : String) : ∀ {es : List Expr}, Expr.allWritable es = false →
    Dead (wordsOfList s (layouts es))
  | [], h => by cases h
  | e :: es, h => by
    rw [Expr.allWritable] at h
    by_cases he : e.writable = true
    · rw [he, Bool.true_and] at h
      have hmore := dead_layouts s h
      cases es with
      | nil => cases h
      | cons f fs => exact (hmore.cons (lit s)).append_right _
    · exact (dead_layout (Bool.eq_false_iff.2 he)).append_left _

end

/-! ## Spelling -/

theorem exists_sign : ∀ negative : Bool, ∃ c ∈ symbols, signSymbol negative = .singleton c
  | false => ⟨'+', by decide, by decide⟩
  | true => ⟨'-', by decide, by decide⟩

theorem spelt_closing {ws : List Word} {cs : List Char} (h : Spelt ws cs) :
    Spelt (ws ++ [lit ")"]) (cs ++ [')']) :=
  h.append (.symbol (by decide) (by decide) .nil) (breaks_symbol (by decide) _)

mutual

/-- The text of an expression spells its phrase. -/
theorem spelt_text : ∀ {e : Expr}, e.Spelled → Spelt (layout e).words e.text.toList
  | .number _, h => .lexical (.inr ⟨rfl, h⟩)
  | .name _, h => .lexical (.inl ⟨rfl, h⟩)
  | .assign x e, h => by
    have hx : Spelt [ident x] x.toList := .lexical (.inl ⟨rfl, h.1⟩)
    have he := (Spelt.symbol (s := "=") (c := '=') (by decide) (by decide) (spelt_text h.2).gap).gap
    have hall := hx.append he (breaks_gap _)
    simpa [Expr.text, layout, words] using hall
  | .sign negative e, h => by
    obtain ⟨c, hc, hs⟩ := exists_sign negative
    have he := Spelt.symbol hs hc (spelt_closing (spelt_text (e := e) h))
    have hall := Spelt.symbol (s := "(") (c := '(') (by decide) (by decide) he
    simpa [Expr.text, layout, words, hs] using hall
  | .binary op l r, h => by
    obtain ⟨c, hc, hs⟩ := exists_symbol op
    have hr := (Spelt.symbol hs hc (spelt_closing (spelt_text h.2)).gap).gap
    have hl := (spelt_text h.1).append hr (breaks_gap _)
    have hall := Spelt.symbol (s := "(") (c := '(') (by decide) (by decide) hl
    simpa [Expr.text, layout, words, words_attach, hs] using hall
  | .call f es, h => by
    have hf : Spelt [ident f] f.toList := .lexical (.inl ⟨rfl, h.1⟩)
    have hes := spelt_closing (spelt_texts (s := ",") (c := ',') (by decide) (by decide) h.2)
    have hargs := Spelt.symbol (s := "(") (c := '(') (by decide) (by decide) hes
    have hall := hf.append hargs (breaks_symbol (by decide) _)
    simpa [Expr.text, layout, words] using hall

theorem spelt_texts {s : String} {c : Char} (hs : s = .singleton c) (hc : c ∈ symbols) :
    ∀ {es : List Expr}, Expr.AllSpelled es →
      Spelt (wordsOfList s (layouts es)) ((s ++ " ").intercalate (Expr.texts es)).toList
  | [], _ => by
    rw [Expr.texts, String.intercalate_nil]
    exact .nil
  | [e], h => by
    rw [Expr.texts, Expr.texts, String.intercalate_singleton]
    have he := spelt_text h.1
    simpa [layouts, wordsOfList, wordsOfMore] using he
  | e :: f :: es, h => by
    have hrest := Spelt.symbol hs hc (spelt_texts hs hc h.2).gap
    have hall := (spelt_text h.1).append hrest (breaks_symbol hc _)
    simpa [Expr.texts, layouts, wordsOfList, wordsOfMore, hs] using hall

end

end Phrase

end Reckon.Arithmetic

namespace Reckon

open Arithmetic

theorem parenthesize_of_parse {source : String} {n : Node} (h : parse "program" source = .ok n) :
    parenthesize source = (Parenthesizer.render n).mapError .fault := by
  unfold parenthesize
  rw [h]

theorem parenthesize_cases {source : String} {n : Node} {es : List Expr}
    (h : parse "program" source = .ok n) (hes : n.statements = some es) :
    parenthesize source = .ok ("; ".intercalate (Expr.texts es)) ∨
      parenthesize source = .error (.fault (.eval (.tooDeep defaultMaxDepth))) := by
  rw [parenthesize_of_parse h]
  rcases Parenthesizer.render_cases hes with hr | hr <;> rw [hr]
  · exact .inl rfl
  · exact .inr rfl

section Texts

variable {es : List Expr} (hes : Expr.AllSpelled es)
include hes

theorem spelt_program :
    Spelt (Phrase.wordsOfList ";" (Phrase.layouts es)) ("; ".intercalate (Expr.texts es)).toList :=
  Phrase.spelt_texts (s := ";") (c := ';') (by decide) (by decide) hes

/-- The text of expressions reads back, with assignments hoisted, if they are writable. -/
theorem exists_parse_texts (hw : Expr.allWritable es = true) :
    ∃ m, parse "program" ("; ".intercalate (Expr.texts es)) = .ok m ∧
      m.statements = some (Expr.hoistEach es) := by
  rw [← Phrase.exprs_layouts hw]
  exact exists_parse (Phrase.wellFormed_layouts hes hw) (spelt_program hes)

theorem allWritable_of_parse_texts {m : Node}
    (h : parse "program" ("; ".intercalate (Expr.texts es)) = .ok m) :
    Expr.allWritable es = true := by
  by_contra hw
  obtain ⟨ps, hps, hwords, -⟩ := exists_phrases_of_spelt (spelt_program hes) h
  have hdead := Phrase.dead_layouts ";" (Bool.eq_false_iff.2 hw)
  rw [← hwords] at hdead
  exact hdead.not_alive (Phrase.alive_wordsOfList (.inr rfl) hps)

end Texts

/-- Evaluated once, the matcher and the printer tell what becomes of a text. -/
theorem exists_parenthesized {α : Type} (source out : String) {f : Node → α} {a : α}
    (h : ((matcher.parseFrom "program" source.toList).toOption.map fun n =>
      ((Parenthesizer.render n).toOption, f n)) = some (some out, a)) :
    parenthesize source = .ok out ∧ ∃ n, parse "program" source = .ok n ∧ f n = a := by
  obtain ⟨n, hn, hboth⟩ := exists_parse_of_map isSyntactic_program h
  obtain ⟨hrender, ha⟩ := Prod.mk.inj hboth
  refine ⟨?_, n, hn, ha⟩
  rw [parenthesize_of_parse hn]
  rcases hr : Parenthesizer.render n with e | out' <;> rw [hr] at hrender
  · cases hrender
  · rw [Option.some.inj hrender]
    rfl

/-- The parenthesized text is a program exactly if the expressions are writable. It then has their
hoisted expressions, and runs as the program does exactly if these come to the same. -/
theorem parenthesize_sameRuns_iff {source : String} {n : Node} (h : parse "program" source = .ok n)
    (hd : parenthesize source ≠ .error (.fault (.eval (.tooDeep defaultMaxDepth)))) :
    ∃ es out, n.statements = some es ∧ parenthesize source = .ok out ∧
      ((∃ m, parse "program" out = .ok m) ↔ Expr.allWritable es = true) ∧
      (∀ m, parse "program" out = .ok m → m.statements = some (Expr.hoistEach es)) ∧
      ((∃ m, parse "program" out = .ok m) ∧ SameRuns source out ↔
        Expr.allWritable es = true ∧
          ∀ s, (Expr.runAll es s).Alike (Expr.runAll (Expr.hoistEach es) s)) ∧
      (Expr.allPlain es = true → (∃ m, parse "program" out = .ok m) ∧ SameRuns source out) := by
  obtain ⟨ts, ps, -, hps, -, hes⟩ := exists_phrases_of_parse h
  have hspelled := Phrase.spelled_exprs hps
  generalize Phrase.exprs ps = es at hes hspelled
  have hout := (parenthesize_cases h hes).resolve_right hd
  generalize htext : "; ".intercalate (Expr.texts es) = out at hout
  have hback (hw : Expr.allWritable es = true) := exists_parse_texts hspelled hw
  have hread {m : Node} (hm : parse "program" out = .ok m) : Expr.allWritable es = true :=
    allWritable_of_parse_texts hspelled (htext ▸ hm)
  rw [htext] at hback
  have hsame (hw : Expr.allWritable es = true) : SameRuns source out ↔
      ∀ s, (Expr.runAll es s).Alike (Expr.runAll (Expr.hoistEach es) s) := by
    obtain ⟨m, hm, hms⟩ := hback hw
    exact sameRuns_iff h hes hm hms
  refine ⟨es, out, hes, hout, ⟨fun ⟨m, hm⟩ => hread hm, fun hw => ?_⟩, fun m hm => ?_,
    ⟨fun ⟨⟨m, hm⟩, hrun⟩ => ?_, fun ⟨hw, halike⟩ => ?_⟩, fun hp => ?_⟩
  · obtain ⟨m, hm, -⟩ := hback hw
    exact ⟨m, hm⟩
  · obtain ⟨m', hm', hms⟩ := hback (hread hm)
    rw [hm] at hm'
    cases hm'
    exact hms
  · exact ⟨hread hm, (hsame (hread hm)).1 hrun⟩
  · obtain ⟨m, hm, -⟩ := hback hw
    exact ⟨⟨m, hm⟩, (hsame hw).2 halike⟩
  · have hw := Expr.allWritable_of_allPlain hp
    obtain ⟨m, hm, -⟩ := hback hw
    refine ⟨⟨m, hm⟩, (hsame hw).2 fun s => ?_⟩
    rw [Expr.hoistEach_of_allPlain hp]
    exact ⟨rfl, rfl⟩

theorem parenthesize_sameRuns_iff_signed_assignment :
    ∃ n, parse "program" "+(x=1)" = .ok n ∧ parenthesize "+(x=1)" = .ok "(+x = 1)" ∧
      ¬ ((∃ m, parse "program" "(+x = 1)" = .ok m) ∧ SameRuns "+(x=1)" "(+x = 1)") := by
  obtain ⟨hout, n, hn, hw⟩ := exists_parenthesized "+(x=1)" "(+x = 1)"
    (f := fun n => n.statements.map Expr.allWritable) (a := some false) (by decide +kernel)
  obtain ⟨es, out, hes, hout', -, -, hiff, -⟩ :=
    parenthesize_sameRuns_iff hn (by rw [hout]; nofun)
  obtain rfl := Except.ok.inj (hout'.symm.trans hout)
  refine ⟨n, hn, hout, fun hsame => ?_⟩
  rw [hes, Option.map_some, (hiff.1 hsame).1] at hw
  cases hw

/-- The parenthesized text of plain expressions has the same expressions, and is its own. -/
theorem parenthesize_of_allPlain {source : String} {n : Node} (h : parse "program" source = .ok n)
    (hd : parenthesize source ≠ .error (.fault (.eval (.tooDeep defaultMaxDepth)))) :
    ∃ es, n.statements = some es ∧
      (Expr.allPlain es = true → ∃ out m, parenthesize source = .ok out ∧
        parse "program" out = .ok m ∧ m.statements = some es ∧
        (parenthesize out ≠ .error (.fault (.eval (.tooDeep defaultMaxDepth))) →
          parenthesize out = .ok out)) := by
  obtain ⟨ts, ps, -, hps, -, hes⟩ := exists_phrases_of_parse h
  refine ⟨Phrase.exprs ps, hes, fun hp => ?_⟩
  have hout := (parenthesize_cases h hes).resolve_right hd
  obtain ⟨m, hm, hms⟩ :=
    exists_parse_texts (Phrase.spelled_exprs hps) (Expr.allWritable_of_allPlain hp)
  rw [Expr.hoistEach_of_allPlain hp] at hms
  exact ⟨_, m, hout, hm, hms, (parenthesize_cases hm hms).resolve_right⟩

theorem parenthesize_of_allPlain_argument :
    ∃ n es m, parse "program" "f((x=1));-2^y" = .ok n ∧ n.statements = some es ∧
      Expr.allPlain es = true ∧ parenthesize "f((x=1));-2^y" = .ok "f(x = 1); ((-2) ^ y)" ∧
      parse "program" "f(x = 1); ((-2) ^ y)" = .ok m ∧ m.statements = some es ∧
      parenthesize "f(x = 1); ((-2) ^ y)" = .ok "f(x = 1); ((-2) ^ y)" := by
  obtain ⟨hout, n, hn, hplain⟩ := exists_parenthesized "f((x=1));-2^y" "f(x = 1); ((-2) ^ y)"
    (f := fun n => n.statements.map Expr.allPlain) (a := some true) (by decide +kernel)
  obtain ⟨hout', -⟩ := exists_parenthesized "f(x = 1); ((-2) ^ y)" "f(x = 1); ((-2) ^ y)"
    (f := fun _ => ()) (a := ()) (by decide +kernel)
  obtain ⟨es, hes, hback⟩ := parenthesize_of_allPlain hn (by rw [hout]; nofun)
  rw [hes] at hplain
  have hp := Option.some.inj hplain
  obtain ⟨out, m, hsame, hm, hms, hstable⟩ := hback hp
  obtain rfl := Except.ok.inj (hsame.symm.trans hout)
  exact ⟨n, es, m, hn, hes, hp, hout, hm, hms, hstable (by rw [hout']; nofun)⟩

end Reckon
