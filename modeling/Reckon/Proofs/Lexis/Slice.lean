import Reckon.Proofs.Lexis.Scan

/-!
# Pieces of a text

The piece of a text from the start of one token to the end of a later one reads as the tokens in
between, at places counted from its own start (`Reads.piece`). Nothing merges or splits at the cuts:
a token was the longest one with more text after it, so it is with less.
-/

namespace Reckon

variable {L : Terminal → List Char → Prop}

/-- The token in the text without its first `k` characters. -/
def Token.back (k : Nat) (a : Token) : Token := { a with start := a.start - k, stop := a.stop - k }

theorem IsToken.of_append {t : Terminal} {u cs rest : List Char} (h : IsToken L t u (cs ++ rest)) :
    IsToken L t u cs where
  nonempty := h.nonempty
  word := h.word
  longest t' v hv hpre := by
    refine h.longest t' v hv (hpre.trans ?_)
    rw [← List.append_assoc]
    exact List.prefix_append _ _

namespace Reads

variable {pos pos' : Nat} {cs rest : List Char} {ts : List Token}

theorem back {k : Nat} (h : Reads L pos cs ts pos' rest) {p : Nat} (hp : pos = p + k) :
    Reads L p cs (ts.map (·.back k)) (pos' - k) rest := by
  induction h generalizing p with
  | done pos cs =>
    rw [hp, Nat.add_sub_cancel]
    exact .done _ _
  | gap hc _ ih => exact .gap hc (ih (by omega))
  | @token pos _ t u cs _ _ hu _ ih =>
    have htoken : Token.back k ⟨t, String.ofList u, pos, pos + u.length⟩
        = ⟨t, String.ofList u, p, p + u.length⟩ := by
      simp only [Token.back, Token.mk.injEq, true_and]
      omega
    rw [List.map_cons, htoken]
    exact .token hu (ih (by omega))

/-- Reading can start at any token. -/
theorem exists_from {ws : List Token} {a : Token} (h : Reads L pos cs (ws ++ a :: ts) pos' rest) :
    ∃ mid, Reads L pos cs ws a.start mid ∧ Reads L a.start mid (a :: ts) pos' rest := by
  generalize hw : ws ++ a :: ts = us at h
  induction h generalizing ws with
  | done => exact absurd hw (by simp)
  | gap hc _ ih =>
    obtain ⟨mid, hws, hts⟩ := ih hw
    exact ⟨mid, .gap hc hws, hts⟩
  | token hu h ih =>
    rcases ws with _ | ⟨w, ws⟩
    · obtain ⟨rfl, rfl⟩ := List.cons.inj hw
      exact ⟨_, .done _ _, .token hu h⟩
    · obtain ⟨rfl, hws⟩ := List.cons.inj hw
      obtain ⟨mid, hws, hts⟩ := ih hws
      exact ⟨mid, .token hu hws, hts⟩

/-- Reading can end at any token. -/
theorem exists_upto {b : Token} {vs : List Token} (h : Reads L pos cs (ts ++ b :: vs) pos' rest) :
    ∃ mid, Reads L pos cs (ts ++ [b]) b.stop mid := by
  generalize hw : ts ++ b :: vs = us at h
  induction h generalizing ts with
  | done => exact absurd hw (by simp)
  | gap hc _ ih =>
    obtain ⟨mid, hts⟩ := ih hw
    exact ⟨mid, .gap hc hts⟩
  | token hu h ih =>
    rcases ts with _ | ⟨a, ts⟩
    · obtain ⟨rfl, rfl⟩ := List.cons.inj hw
      exact ⟨_, .token hu (.done _ _)⟩
    · obtain ⟨rfl, hts⟩ := List.cons.inj hw
      obtain ⟨mid, hts⟩ := ih hts
      exact ⟨mid, .token hu hts⟩

/-- What is read reads alike without what is left. -/
theorem exists_alone (h : Reads L pos cs ts pos' rest) :
    ∃ read, cs = read ++ rest ∧ Reads L pos read ts pos' [] := by
  induction h with
  | done => exact ⟨[], rfl, .done _ _⟩
  | gap hc _ ih =>
    obtain ⟨read, rfl, h⟩ := ih
    exact ⟨_ :: read, rfl, .gap hc h⟩
  | token hu _ ih =>
    obtain ⟨read, rfl, h⟩ := ih
    exact ⟨_, (List.append_assoc _ _ _).symm, .token hu.of_append h⟩

theorem piece {text : List Char} {us ws vs : List Token} {a b : Token}
    (h : Reads L 0 text (us ++ (ws ++ vs)) pos' rest) (ha : ws.head? = some a)
    (hb : ws.getLast? = some b) :
    Reads L 0 ((text.drop a.start).take (b.stop - a.start)) (ws.map (·.back a.start))
      ((text.drop a.start).take (b.stop - a.start)).length [] := by
  obtain ⟨ws', rfl⟩ := List.head?_eq_some_iff.1 ha
  rw [List.cons_append] at h
  obtain ⟨mid, hbefore, hfrom⟩ := h.exists_from
  obtain ⟨init, hinit⟩ := List.getLast?_eq_some_iff.1 hb
  rw [← List.cons_append, hinit, List.append_assoc] at hfrom
  obtain ⟨after, hupto⟩ := hfrom.exists_upto
  rw [← hinit] at hupto
  obtain ⟨read, rfl, halone⟩ := hupto.exists_alone
  have hstop := halone.position_of_nil
  have hpiece : (text.drop a.start).take (b.stop - a.start) = read := by
    rw [hbefore.drop_eq.2, hstop, Nat.add_sub_cancel_left, List.take_left]
  have hback := halone.back (p := 0) (k := a.start) (Nat.zero_add _).symm
  rw [hstop, Nat.add_sub_cancel_left] at hback
  rw [hpiece]
  exact hback

end Reads

end Reckon
