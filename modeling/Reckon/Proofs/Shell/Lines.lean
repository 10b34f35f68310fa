import Reckon.Proofs.Environment.Plain
import Reckon.Proofs.Interpreter.Reuse
import Reckon.Shell.Step

/-!
# Lines one after another

The states of a shell are those that it comes to by lines (`Shell.after`). What a program leaves of
the shell and what the reply is are told together (`exists_program_eq`), and so are those of a text
that is only shown (`exists_parse_eq`). Only programs use the interpreters that a shell keeps, and
these are as good as new again after each line (`ready_after`). No line brings a plain number into
the environment (`safe_after`).
-/

namespace Reckon

/-- Is the error a foreign fault? -/
def RunError.isForeign : RunError → Bool
  | unmatched _ => false
  | fault e => e.isForeign

theorem Interpreter.Ordinary.isForeign {P : Option Float → Prop} {r : Except RunError (Option Float)}
    (h : Ordinary P r) {e : RunError} (he : r = .error e) : e.isForeign = false := by
  subst he
  cases h <;> rfl

namespace Shell

variable {sh : Shell}

/-- The shell after it took the lines. -/
def after (sh : Shell) (lines : List String) : Shell := lines.foldl (fun sh line => (sh.step line).1) sh

theorem pool_set (sh : Shell) (argument : String) : (sh.set argument).1.pool = sh.pool := by
  unfold set
  split
  · split
    · rfl
    · simp only
      split <;> rfl
  · rfl

/-- The reply to an error depends on how wide the console is, and on nothing else of the shell. -/
theorem fail_eq (sh sh' : Shell) (h : sh.width = sh'.width) (e : RunError) :
    sh.fail e = sh'.fail e := by
  unfold fail say print
  rw [h]

theorem fail_of_not_foreign {e : RunError} (h : e.isForeign = false) :
    sh.fail e = .printing false (sh.print (errorText e)) := by
  cases e with
  | unmatched e => rfl
  | fault e =>
    have he : e.isForeign = false := h
    simp [fail, say, he]

theorem fail_of_foreign {e : Fault} (h : e.isForeign = true) :
    sh.fail (.fault e) = { stop := .error (.fault e) } := if_pos h

/-- What comes of showing a grouping: a fault is neither handled nor printed. -/
theorem exists_parse_eq (sh : Shell) (text : String) : ∃ records, sh.parse text =
    (sh,
      match parenthesize text with
      | .ok t => { sh.say t with records }
      | .error (.unmatched e) => { sh.fail (.unmatched e) with records }
      | .error (.fault e) => { stop := .error (.fault e), records }) := by
  unfold parse parenthesize
  rcases hparse : Arithmetic.parse "program" text with e | n
  · obtain ⟨t, ht⟩ := parse_of_error hparse ⟨sh.env, []⟩
    rw [ht]
    exact ⟨_, rfl⟩
  · rw [parse_of_ok hparse]
    rcases hrender : Parenthesizer.render n with e | t <;> simp only [hrender]
    · exact ⟨_, rfl⟩
    · exact ⟨_, rfl⟩

theorem parse_shell (sh : Shell) (text : String) : (sh.parse text).1 = sh := by
  obtain ⟨records, hparse⟩ := sh.exists_parse_eq text
  rw [hparse]

theorem pool_execute (sh : Shell) (argument : String) (c : Command) :
    (sh.execute argument c).1.pool = sh.pool := by
  unfold execute
  cases c with
  | parse => simp only [parse_shell]
  | set => simp only [pool_set]
  | vars | reset | exit | quit | endOfInput | help => rfl

/-- What a program leaves of the shell is what running its text leaves. Errors are replied to, and a
value is printed if it is echoed. -/
theorem exists_program_eq (sh : Shell) (text : String) {r : Except RunError (Option Float)}
    {p : Pool} {s : Session}
    (h : sh.pool.run text sh.settings.maxDepth { env := sh.env } = (r, p, s)) :
    ∃ records, sh.program text =
      ({ sh with threshold := sh.settings.threshold, pool := p, env := s.env },
        match r with
        | .error e => { sh.fail e with records }
        | .ok (some x) =>
          if sh.settings.echo then { sh.say (Decimal.display x) with records } else { records }
        | .ok none => { records }) := by
  unfold program
  simp only [h]
  rcases r with e | _ | x
  · simp only [fail_eq { sh with threshold := sh.settings.threshold, pool := p, env := s.env } sh rfl]
    exact ⟨_, rfl⟩
  · exact ⟨_, rfl⟩
  · cases sh.settings.echo <;> exact ⟨_, rfl⟩

theorem ready_step (h : sh.pool.Ready) (line : String) : (sh.step line).1.pool.Ready := by
  unfold step
  split
  · exact h
  · rwa [pool_execute]
  · rename_i text _
    rcases hrun : sh.pool.run text sh.settings.maxDepth { env := sh.env } with ⟨r, p, s⟩
    have hready := (h.on (.run text sh.settings.maxDepth { env := sh.env })).2
    rw [Call.on, hrun] at hready
    obtain ⟨records, hprogram⟩ := sh.exists_program_eq text hrun
    rwa [hprogram]

theorem ready_after (h : sh.pool.Ready) (lines : List String) : (sh.after lines).pool.Ready := by
  induction lines generalizing sh with
  | nil => exact h
  | cons line lines ih => exact ih (ready_step h line)

theorem safe_set (h : sh.env.Safe) (argument : String) : (sh.set argument).1.env.Safe := by
  unfold set
  split
  · split
    · exact h
    · simp only
      split
      · exact h
      · exact h.protect _
  · exact h

theorem safe_execute (h : sh.env.Safe) (argument : String) (c : Command) :
    (sh.execute argument c).1.env.Safe := by
  unfold execute
  cases c with
  | vars | exit | quit | endOfInput | help => exact h
  | reset => exact Environment.safe_standard _
  | parse => exact (sh.parse_shell argument).symm ▸ h
  | set => exact safe_set h argument

theorem safe_step (h : sh.env.Safe) (line : String) : (sh.step line).1.env.Safe := by
  unfold step
  split
  · exact h
  · exact safe_execute h _ _
  · rename_i text _
    rcases hrun : sh.pool.run text sh.settings.maxDepth { env := sh.env } with ⟨r, p, s⟩
    have hsafe := (Environment.Safe.run (s := { env := sh.env }) h sh.pool text sh.settings.maxDepth).2
    rw [hrun] at hsafe
    obtain ⟨records, hprogram⟩ := sh.exists_program_eq text hrun
    rwa [hprogram]

theorem safe_after (h : sh.env.Safe) (lines : List String) : (sh.after lines).env.Safe := by
  induction lines generalizing sh with
  | nil => exact h
  | cons line lines ih => exact ih (safe_step h line)

theorem safe_ofSettings (settings : Settings) (width : Nat) :
    ({ ofSettings settings with width } : Shell).env.Safe := Environment.safe_standard _

end Shell

end Reckon
