import Reckon.Proofs.Arithmetic.Height
import Reckon.Proofs.Arithmetic.Parenthesized
import Reckon.Proofs.Shell.Lines

/-!
# What gets past the shell

The shell prints the errors of programs, and of texts that do not match, and takes the next line. It
does not handle the fault of a text that is only shown: that is left to the caller, whatever the
state of the shell, on the lines that ask for the grouping of a program too deep to be written
(`AsksTooDeep`). A foreign fault of a program is left to the caller too, but a program has none where
no plain number is bound, so in no shell that starts from its settings. Nothing else gets past the
shell (`fault_escapes_iff`).
-/

namespace Reckon

/-- No fault gets past the shell. -/
def Reply.Contained (r : Reply) : Prop := ∀ e, r.stop ≠ .error (.fault e)

theorem Reply.contained_printing (stop : Bool) (r : Except Console.Error String) :
    (printing stop r).Contained := by
  cases r <;> exact nofun

theorem Reply.Contained.writing {r : Reply} (h : r.Contained) (output : String) :
    ({ r with output } : Reply).Contained := h

theorem Reply.Contained.logging {r : Reply} (h : r.Contained) (records : List Record) :
    ({ r with records } : Reply).Contained := h

namespace Shell

variable {sh : Shell} {text line : String} {e : RunError}

theorem contained_say (sh : Shell) (s : String) : (sh.say s).Contained :=
  Reply.contained_printing false (sh.print s)

theorem contained_fail (h : e.isForeign = false) : (sh.fail e).Contained := by
  rw [fail_of_not_foreign h]
  exact Reply.contained_printing false _

theorem stop_fail_iff {f : Fault} :
    (sh.fail e).stop = .error (.fault f) ↔ e = .fault f ∧ f.isForeign = true := by
  by_cases h : e.isForeign = true
  · cases e with
    | unmatched => cases h
    | fault g =>
      rw [fail_of_foreign h]
      constructor
      · rintro ⟨⟩
        exact ⟨rfl, h⟩
      · rintro ⟨⟨⟩, -⟩
        rfl
  · refine ⟨fun hstop => absurd hstop (contained_fail (Bool.eq_false_iff.2 h) f), ?_⟩
    rintro ⟨rfl, hf⟩
    exact absurd hf h

/-! ## Commands -/

theorem stop_program_iff (sh : Shell) {f : Fault} : (sh.program text).2.stop = .error (.fault f) ↔
    (sh.pool.run text sh.settings.maxDepth { env := sh.env }).1 = .error (.fault f) ∧
      f.isForeign = true := by
  rcases hrun : sh.pool.run text sh.settings.maxDepth { env := sh.env } with ⟨r, p, s⟩
  obtain ⟨records, hprogram⟩ := sh.exists_program_eq text hrun
  rw [hprogram]
  rcases r with e | _ | x
  · simp [stop_fail_iff]
  · simp
  · simp only [reduceCtorEq, false_and, iff_false]
    split
    · exact (contained_say sh _).logging records f
    · exact nofun

theorem contained_set : (sh.set text).2.Contained := by
  unfold set
  split
  · split <;> simp only
    · exact Reply.contained_printing false _
    · split <;> exact fun _ => nofun
  · simp only
    exact contained_say sh Help.setTopic

theorem contained_help : (sh.help text).Contained := by
  unfold help
  split
  · exact (contained_say sh Help.guide).writing Help.overview
  · split
    · exact contained_say sh sh.env.functionHelp
    · split
      · exact contained_say sh _
      · exact fun _ => nofun

theorem contained_execute {c : Command} (hc : c ≠ .parse) : (sh.execute text c).2.Contained := by
  unfold execute
  cases c with
  | parse => exact absurd rfl hc
  | set => exact contained_set
  | help => exact contained_help
  | reset =>
    simp only
    exact contained_say sh _
  | exit =>
    simp only
    exact Reply.contained_printing true _
  | vars | quit | endOfInput => exact fun _ => nofun

theorem stop_parse_iff (sh : Shell) {e : Fault} :
    (sh.parse text).2.stop = .error (.fault e) ↔ parenthesize text = .error (.fault e) := by
  obtain ⟨records, hparse⟩ := sh.exists_parse_eq text
  rw [hparse]
  rcases parenthesize text with (f | f) | t
  · exact ⟨fun h => absurd h ((contained_fail rfl).logging records e), nofun⟩
  · simp
  · exact ⟨fun h => absurd h ((contained_say sh t).logging records e), nofun⟩

theorem parenthesize_fault_iff {e : Fault} : parenthesize text = .error (.fault e) ↔
    e = .eval (.tooDeep defaultMaxDepth) ∧
      ∃ n, Arithmetic.parse "program" text = .ok n ∧ defaultMaxDepth < n.height := by
  rcases hparse : Arithmetic.parse "program" text with f | n
  · have hunmatched : parenthesize text = .error (.unmatched f) := by
      unfold parenthesize
      rw [hparse]
    simp [hunmatched]
  · obtain ⟨ts, ps, -, -, -, hes⟩ := Arithmetic.exists_phrases_of_parse hparse
    rw [parenthesize_of_parse hparse, Parenthesizer.render_eq hparse hes]
    by_cases hn : (n.height : Int) ≤ defaultMaxDepth
    · simp [hn, Except.mapError]
    · simp [hn, Except.mapError, Int.not_le.1 hn, eq_comm]

/-! ## Lines -/

/-- The line asks for the grouping of a program that is nested too deep to be written. -/
def AsksTooDeep (line : String) : Prop := ∃ text n, Input.ofLine line = .command .parse text ∧
  Arithmetic.parse "program" text = .ok n ∧ defaultMaxDepth < n.height

/-- The line runs into the error: its program does, or showing how a program is grouped. -/
inductive RunsInto (sh : Shell) (line : String) : RunError → Prop
  | program {text : String} {e : RunError} (hl : Input.ofLine line = .program text)
      (h : (sh.pool.run text sh.settings.maxDepth { env := sh.env }).1 = .error e) :
      RunsInto sh line e
  | grouping {text : String} {e : RunError} (hl : Input.ofLine line = .command .parse text)
      (h : parenthesize text = .error e) : RunsInto sh line e

theorem trimEnd_concat (cs : List Char) {c : Char} (h : isBlank c = false) :
    trimEnd (cs ++ [c]) = cs ++ [c] := by
  simp [trimEnd, h]

theorem ofLine_parse {cs : List Char} (h : trimBlanks cs = cs)
    (hend : trimEnd ("parse ".toList ++ cs) = "parse ".toList ++ cs) :
    Input.ofLine ("parse " ++ String.ofList cs) = .command .parse (String.ofList cs) := by
  have htrim : trimBlanks ("parse " ++ String.ofList cs).toList = "parse ".toList ++ cs := by
    rw [String.toList_append, String.toList_ofList (l := cs)]
    exact hend
  have hcs : trimBlanks (' ' :: cs) = cs := h
  have hrest : ("parse ".toList ++ cs).dropWhile Input.isCommandChar = ' ' :: cs := rfl
  have hword : ("parse ".toList ++ cs).takeWhile Input.isCommandChar = "parse".toList := rfl
  unfold Input.ofLine
  rw [htrim]
  change Input.ofTrimmed ("parse ".toList ++ cs) = _
  rw [Input.ofTrimmed, hword, hrest, hcs]
  rfl

theorem asksTooDeep_signs {k : Nat} (h : defaultMaxDepth ≤ k) :
    AsksTooDeep ("parse " ++ String.ofList (List.replicate k '-' ++ ['1'])) := by
  obtain ⟨n, hn, hk⟩ := Arithmetic.exists_parse_signs k
  refine ⟨_, n, ofLine_parse ?_ ?_, hn, by omega⟩
  · have hstart : (List.replicate k '-' ++ ['1']).dropWhile isBlank = List.replicate k '-' ++ ['1'] := by
      cases k <;> rfl
    rw [trimBlanks, hstart]
    exact trimEnd_concat _ (by decide)
  · rw [← List.append_assoc]
    exact trimEnd_concat _ (by decide)

theorem asksTooDeep_iff (h : Input.ofLine line = .command .parse text) : AsksTooDeep line ↔
    ∃ n, Arithmetic.parse "program" text = .ok n ∧ defaultMaxDepth < n.height := by
  unfold AsksTooDeep
  simp [h]

theorem runsInto_program (h : Input.ofLine line = .program text) : sh.RunsInto line e ↔
    (sh.pool.run text sh.settings.maxDepth { env := sh.env }).1 = .error e := by
  refine ⟨fun hinto => ?_, .program h⟩
  cases hinto with
  | program hl hrun =>
    cases h.symm.trans hl
    exact hrun
  | grouping hl => cases h.symm.trans hl

theorem runsInto_grouping (h : Input.ofLine line = .command .parse text) : sh.RunsInto line e ↔
    parenthesize text = .error e := by
  refine ⟨fun hinto => ?_, .grouping h⟩
  cases hinto with
  | program hl => cases h.symm.trans hl
  | grouping hl hshow =>
    cases h.symm.trans hl
    exact hshow

/-- Showing a grouping runs into no foreign fault. -/
theorem isForeign_of_parenthesize (h : parenthesize text = .error e) : e.isForeign = false := by
  cases e with
  | unmatched => rfl
  | fault f =>
    obtain ⟨rfl, -⟩ := parenthesize_fault_iff.1 h
    rfl

theorem stop_step_iff (sh : Shell) (line : String) (e : Fault) :
    (sh.step line).2.stop = .error (.fault e) ↔
      e = .eval (.tooDeep defaultMaxDepth) ∧ AsksTooDeep line ∨
        e.isForeign = true ∧ sh.RunsInto line (.fault e) := by
  rcases hline : Input.ofLine line with _ | ⟨c, text⟩ | text
  · have hstop : (sh.step line).2.stop = .ok false := by simp only [step, hline]
    rw [hstop]
    refine ⟨nofun, ?_⟩
    rintro (⟨-, text, n, htext, -⟩ | ⟨-, hinto⟩)
    · cases hline.symm.trans htext
    · cases hinto with
      | program hl | grouping hl => cases hline.symm.trans hl
  · by_cases hc : c = .parse
    · subst hc
      rw [asksTooDeep_iff hline, ← parenthesize_fault_iff, runsInto_grouping hline, ← stop_parse_iff sh]
      simp only [step, hline, execute]
      rw [stop_parse_iff]
      refine ⟨.inl, ?_⟩
      rintro (h | ⟨-, h⟩) <;> exact h
    · have hcontained : (sh.step line).2.Contained := by
        simp only [step, hline]
        exact contained_execute hc
      refine ⟨fun h => absurd h (hcontained e), ?_⟩
      rintro (⟨-, text, n, htext, -⟩ | ⟨-, hinto⟩)
      · cases hline.symm.trans htext
        exact absurd rfl hc
      · cases hinto with
        | program hl => cases hline.symm.trans hl
        | grouping hl =>
          cases hline.symm.trans hl
          exact absurd rfl hc
  · have hnot : ¬ AsksTooDeep line := by
      rintro ⟨text, n, htext, -⟩
      cases hline.symm.trans htext
    rw [runsInto_program hline]
    simp only [step, hline, stop_program_iff, hnot, and_false, false_or]
    exact and_comm

theorem RunsInto.reported {e : RunError} (h : sh.RunsInto line e) (he : e.isForeign = false)
    (hline : ¬ AsksTooDeep line) : ∃ records,
      (sh.step line).2 = { Reply.printing false (sh.print (errorText e)) with records } := by
  rw [← fail_of_not_foreign he]
  unfold step
  cases h with
  | @program text e hl h =>
    rw [hl]
    rcases hrun : sh.pool.run text sh.settings.maxDepth { env := sh.env } with ⟨r, p, s⟩
    rw [hrun] at h
    obtain rfl : r = .error e := h
    obtain ⟨records, hprogram⟩ := sh.exists_program_eq text hrun
    exact ⟨records, congrArg Prod.snd hprogram⟩
  | @grouping text e hl h =>
    obtain ⟨records, hparse⟩ := sh.exists_parse_eq text
    rw [h] at hparse
    rw [hl]
    cases e with
    | unmatched f => exact ⟨records, congrArg Prod.snd hparse⟩
    | fault f => exact absurd ((asksTooDeep_iff hl).2 (parenthesize_fault_iff.1 h).2) hline

/-- Where no plain number is bound, no line runs into a foreign fault. -/
theorem RunsInto.isForeign {e : RunError} (h : sh.RunsInto line e) (hsafe : sh.env.Safe) :
    e.isForeign = false := by
  cases h with
  | program hl h => exact (Environment.Safe.run (s := { env := sh.env }) hsafe _ _ _).1.isForeign h
  | grouping hl h => exact isForeign_of_parenthesize h

/-- The faults that get past the shell are those of lines that ask for the grouping of a program too
deep to be written, of which there are any number, and the foreign faults of programs, of which there
are none where no plain number is bound. None is in a shell that starts from its settings, whatever
lines it takes. Every other error of a line is printed, and the shell goes on. -/
theorem fault_escapes_iff (sh : Shell) (line : String) :
    (∀ e, (sh.step line).2.stop = .error (.fault e) ↔
      e = .eval (.tooDeep defaultMaxDepth) ∧ AsksTooDeep line ∨
        e.isForeign = true ∧ sh.RunsInto line (.fault e)) ∧
    (∀ e, sh.RunsInto line e → e.isForeign = false → ¬ AsksTooDeep line → ∃ records,
      (sh.step line).2 = { Reply.printing false (sh.print (errorText e)) with records }) ∧
    (sh.env.Safe → ∀ e, sh.RunsInto line e → e.isForeign = false) ∧
    (∀ (settings : Settings) (width : Nat) (lines : List String),
      (({ ofSettings settings with width } : Shell).after lines).env.Safe) ∧
    ∀ k : Nat, defaultMaxDepth ≤ k →
      AsksTooDeep ("parse " ++ String.ofList (List.replicate k '-' ++ ['1'])) :=
  ⟨sh.stop_step_iff line, fun _ h he hline => h.reported he hline, fun h _ hinto => hinto.isForeign h,
    fun settings width lines => safe_after (safe_ofSettings settings width) lines,
    fun _ h => asksTooDeep_signs h⟩

theorem fault_escapes_iff_signs :
    ((Shell.ofSettings {}).step
      ("parse " ++ String.ofList (List.replicate 1000 '-' ++ ['1']))).2.stop =
      .error (.fault (.eval (.tooDeep 1000))) := by
  have hline := fault_escapes_iff (Shell.ofSettings {})
    ("parse " ++ String.ofList (List.replicate 1000 '-' ++ ['1']))
  exact (hline.1 _).2 (.inl ⟨rfl, hline.2.2.2.2 1000 (by decide)⟩)

end Shell

end Reckon
