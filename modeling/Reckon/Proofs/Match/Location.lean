import Mathlib.Algebra.GroupWithZero.Nat
import Mathlib.Data.List.TakeWhile
import Reckon.Arithmetic
import Reckon.Proofs.Match.Moved

/-!
# Where a failure is shown

The lines of a text are what stands between its line feeds. A place in the text lies in one of them:
after the lines that end before it (`exists_earlier`) comes the line of the place, which starts with
what was read of it and goes on to the next line feed (`exists_lines`). So line and column of a
failure count these lines and characters, and the excerpt shows that line with the caret below the
place (`failures_located`).
-/

namespace Reckon

/-! ## Lines -/

namespace Location

/-- The line that a text has come to at its end. -/
def lastLine (cs : List Char) : List Char := (cs.reverse.takeWhile (· != '\n')).reverse

theorem lineBefore_eq (cs : List Char) (p : Nat) : lineBefore cs p = lastLine (cs.take p) := rfl

theorem lastLine_append_singleton (cs : List Char) (c : Char) :
    lastLine (cs ++ [c]) = if c = '\n' then [] else lastLine cs ++ [c] := by
  unfold lastLine
  rw [List.reverse_append, List.reverse_singleton, List.singleton_append, List.takeWhile_cons]
  by_cases hc : c = '\n' <;> simp [hc]

theorem not_mem_lastLine (cs : List Char) : '\n' ∉ lastLine cs := by
  intro h
  have := List.mem_takeWhile_imp (List.mem_reverse.1 h)
  simp at this

/-- The lines of a text that end before it goes on, whatever comes next. -/
theorem exists_earlier (cs : List Char) : ∃ earlier : List (List Char),
    (∀ rest, (cs ++ rest).splitOn '\n' = earlier ++ (lastLine cs ++ rest).splitOn '\n') ∧
      earlier.length = cs.count '\n' ∧
      (earlier.map (·.length + 1)).sum + (lastLine cs).length = cs.length := by
  induction cs using List.reverseRecOn with
  | nil => exact ⟨[], fun _ => rfl, rfl, rfl⟩
  | append_singleton cs c ih =>
    obtain ⟨earlier, hsplit, hlength, hsum⟩ := ih
    rw [lastLine_append_singleton]
    by_cases hc : c = '\n'
    · -- a line ends here
      refine ⟨earlier ++ [lastLine cs], fun rest => ?_, ?_, ?_⟩
      · rw [List.append_assoc, hsplit, hc, if_pos rfl, List.singleton_append,
          List.splitOn_append_cons_self_of_not_mem (not_mem_lastLine cs)]
        simp
      · simp [hlength, hc]
      · simp [hc, ← hsum]
        omega
    · refine ⟨earlier, fun rest => ?_, ?_, ?_⟩
      · rw [List.append_assoc, hsplit, if_neg hc, List.append_assoc]
      · simp [hlength, hc]
      · simp [hc, ← hsum]
        omega

/-- A line goes on up to the next line feed. -/
theorem exists_later {line : List Char} (h : '\n' ∉ line) (cs : List Char) :
    ∃ later, (line ++ cs).splitOn '\n' = (line ++ cs.takeWhile (· != '\n')) :: later := by
  have hline : '\n' ∉ line ++ cs.takeWhile (· != '\n') := by
    intro hmem
    rcases List.mem_append.1 hmem with hmem | hmem
    · exact h hmem
    · have := List.mem_takeWhile_imp hmem
      simp at this
  have hcs := List.takeWhile_append_dropWhile (p := (· != '\n')) (l := cs)
  cases hrest : cs.dropWhile (· != '\n') with
  | nil =>
    rw [hrest, List.append_nil] at hcs
    rw [hcs] at hline ⊢
    exact ⟨[], List.splitOn_eq_singleton hline⟩
  | cons c rest =>
    have hc := List.head?_dropWhile_not (· != '\n') cs
    rw [hrest] at hc
    obtain rfl : c = '\n' := by simpa using hc
    rw [hrest] at hcs
    refine ⟨rest.splitOn '\n', ?_⟩
    conv_lhs => rw [← hcs, ← List.append_assoc]
    exact List.splitOn_append_cons_self_of_not_mem hline rest

/-- The line of a place among the lines of the text. -/
theorem exists_lines {cs : List Char} {p : Nat} (hp : p ≤ cs.length) :
    ∃ earlier later : List (List Char),
      cs.splitOn '\n' = earlier ++ (lineBefore cs p ++ lineAfter cs p) :: later ∧
      earlier.length = (cs.take p).count '\n' ∧
      (earlier.map (·.length + 1)).sum + (lineBefore cs p).length = p := by
  rw [lineBefore_eq]
  obtain ⟨earlier, hsplit, hlength, hsum⟩ := exists_earlier (cs.take p)
  obtain ⟨later, hlater⟩ := exists_later (not_mem_lastLine (cs.take p)) (cs.drop p)
  have hcs := hsplit (cs.drop p)
  rw [List.take_append_drop, hlater] at hcs
  rw [List.length_take_of_le hp] at hsum
  exact ⟨earlier, later, hcs, hlength, hsum⟩

end Location

/-! ## Failures -/

namespace MatchFailure

/-- Line and column of the failure tell the place `p` of the text, and its excerpt shows it: the lines
are numbered from one, before the place lie the earlier lines with their line feeds and the characters
before the column, and the caret stands below the place in the line that is shown. -/
structure LocatedAt (f : MatchFailure) (text : List Char) (p line column : Nat)
    (shown : List Char) : Prop where
  position_eq : f.position = p
  line_eq : f.line = some (line : Int)
  column_eq : f.column = some (column : Int)
  one_le_line : 1 ≤ line
  shown_eq : (text.splitOn '\n')[line - 1]? = some shown
  place_eq : (((text.splitOn '\n').take (line - 1)).map (·.length + 1)).sum + (column - 1) = p
  one_le_column : 1 ≤ column
  column_le : column ≤ shown.length + 1
  context_eq : f.context.toList =
    "> ".toList ++ shown ++ ['\n'] ++ List.replicate (column + 1) ' ' ++ ['^']

/-- The failure tells a place of the text and shows it. -/
def Located (f : MatchFailure) (text : List Char) : Prop :=
  ∃ p line column shown, p ≤ text.length ∧ f.LocatedAt text p line column shown

theorem locatedAt_atPosition {text : List Char} {p : Nat} (hp : p ≤ text.length)
    (expected : List String) :
    ∃ line column shown, (atPosition text p expected).LocatedAt text p line column shown := by
  obtain ⟨earlier, later, hsplit, hlength, hsum⟩ := Location.exists_lines hp
  refine ⟨earlier.length + 1, (Location.lineBefore text p).length + 1,
    Location.lineBefore text p ++ Location.lineAfter text p,
    { position_eq := rfl
      line_eq := ?_
      column_eq := rfl
      one_le_line := Nat.le_add_left 1 _
      shown_eq := by rw [hsplit, Nat.add_sub_cancel, List.getElem?_append_right (Nat.le_refl _)]; simp
      place_eq := by rw [hsplit, Nat.add_sub_cancel, Nat.add_sub_cancel, List.take_left, hsum]
      one_le_column := Nat.le_add_left 1 _
      column_le := by simp
      context_eq := ?_ }⟩
  · rw [hlength]
    rfl
  · simp [atPosition, Location.ofPosition, Location.caret, List.replicate_succ]

end MatchFailure

namespace Cfg.Chart

variable {τ T N : Type} [DecidableEq T] [DecidableEq N]

/-- What is left of a row of tokens is its end. -/
theorem readFrom_suffix (g : Chart τ T N) (columns : Array (Column τ T N)) (c : Column τ T N)
    (tokens : List τ) : (g.readFrom columns c tokens).2 <:+ tokens := by
  induction tokens generalizing columns c with
  | nil => exact List.suffix_refl []
  | cons a rest ih =>
    rw [readFrom]
    split
    · exact List.suffix_refl _
    · exact (ih _ _).trans (List.suffix_cons a rest)

end Cfg.Chart

namespace Matcher

/-- A failure is told at a place of the text. -/
theorem exists_of_parseFrom_error {m : Matcher} {start : String} {text : List Char}
    {f : MatchFailure} (h : m.parseFrom start text = .error f) :
    ∃ p ≤ text.length, ∃ expected, f = .atPosition text p expected := by
  obtain ⟨p, cs, hreads, hends⟩ := Scan.scanFrom_reads m.forms text 0
  have hp := hreads.drop_eq.1
  rw [show Scan.scanFrom m.forms text 0 0 = Scan.ofText m.forms text from rfl] at hreads hends
  rw [parseFrom] at h
  simp only at h
  split at h
  · -- a token that was not read
    rename_i a as hrest
    cases h
    have hsuffix := (m.chart start).readFrom_suffix #[] (m.chart start).firstColumn
      (Scan.ofText m.forms text).tokens
    have ha := hsuffix.subset (hrest ▸ List.mem_cons_self)
    have hbounds := hreads.bounds.2 a ha
    exact ⟨a.start, by omega, _, rfl⟩
  · -- a character at which no token starts
    rename_i q hrest hstuck
    cases h
    rw [hstuck] at hends
    cases cs with
    | nil => cases hends
    | cons c cs =>
      obtain rfl := Option.some.inj hends.1
      exact ⟨q, hp, _, rfl⟩
  · cases h
    exact ⟨text.length, Nat.le_refl _, _, rfl⟩
  · split at h
    · cases h
    · cases h
      exact ⟨text.length, Nat.le_refl _, _, rfl⟩

end Matcher

/-- Wherever in a text a failure is told, at its end too, line, column and excerpt tell the place, and
every failure of a match is told at a place of the text. -/
theorem failures_located (text : List Char) :
    (∀ p ≤ text.length, ∀ expected, ∃ line column shown,
      (MatchFailure.atPosition text p expected).LocatedAt text p line column shown) ∧
    ∀ (m : Matcher) (start : String) (f : MatchFailure), m.parseFrom start text = .error f →
      f.Located text := by
  refine ⟨fun p hp expected => MatchFailure.locatedAt_atPosition hp expected, fun m start f h => ?_⟩
  obtain ⟨p, hp, expected, rfl⟩ := Matcher.exists_of_parseFrom_error h
  obtain ⟨line, column, shown, hlocated⟩ := MatchFailure.locatedAt_atPosition hp expected
  exact ⟨p, line, column, shown, hp, hlocated⟩

theorem failures_located_emptyLine :
    4 ≤ "1 +\n\n* 2".toList.length ∧
      (∃ line column shown, (MatchFailure.atPosition "1 +\n\n* 2".toList 4 ["a number"]).LocatedAt
        "1 +\n\n* 2".toList 4 line column shown) ∧
      ∃ f, Arithmetic.matcher.parseFrom "exp" "1 +\n\n* 2".toList = .error f ∧
        f.Located "1 +\n\n* 2".toList := by
  have hlength : 4 ≤ "1 +\n\n* 2".toList.length := by decide
  obtain ⟨hplace, hmatch⟩ := failures_located "1 +\n\n* 2".toList
  refine ⟨hlength, hplace 4 hlength ["a number"], ?_⟩
  have hok : (Arithmetic.matcher.parseFrom "exp" "1 +\n\n* 2".toList).isOk = false := by
    decide +kernel
  rcases hf : Arithmetic.matcher.parseFrom "exp" "1 +\n\n* 2".toList with f | n
  · exact ⟨f, rfl, hmatch _ _ f hf⟩
  · rw [hf] at hok
    cases hok

end Reckon
