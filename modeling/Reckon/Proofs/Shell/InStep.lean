import Reckon.Proofs.Interpreter.Related
import Reckon.Proofs.Settings.Reached
import Reckon.Proofs.Shell.Lines
import Reckon.Proofs.Shell.Printing

/-!
# Shell and settings in step

Whether built-in names are protected is told twice: by the settings of the shell, and by its
environment. A change of the settings reaches the environment only if what is said about it can be
printed (`exists_print_protection`), a program changes neither, and a new environment is made after
the settings. So the two agree in every state of the shell (`inStep_after`).
-/

namespace Reckon

/-- An assignment leaves the protection as it is. -/
theorem Environment.isProtected_assign {env env' : Environment} {name : String} {value : Number}
    (h : env.assign name value = .ok env') : env'.isProtected = env.isProtected := by
  unfold assign at h
  split at h <;> cases h
  rfl

namespace Shell

variable {sh : Shell} {settings : Settings}

/-- What is said when the protection is set is printed. -/
theorem exists_print_protection (width : Nat) (b : Bool) : ∃ text,
    Console.printMarked width ("ProtectBuiltins mode: " ++ Settings.yesNo b) = .ok text := by
  apply exists_printMarked <;> cases b <;> decide +kernel

/-- The environment is protected if and only if the settings say so, and these are valid. -/
structure InStep (sh : Shell) : Prop where
  isProtected : sh.env.isProtected = (Settings.yesNo sh.settings.protectBuiltins == "Yes")
  valid : sh.settings.Valid

theorem inStep_iff : sh.InStep ↔
    sh.env.isProtected = sh.settings.protectBuiltins ∧ sh.settings.Valid := by
  rw [← Settings.yesNo_beq_yes sh.settings.protectBuiltins]
  exact ⟨fun h => ⟨h.isProtected, h.valid⟩, fun h => ⟨h.1, h.2⟩⟩

theorem inStep_ofSettings (h : settings.Valid) (width : Nat) :
    ({ ofSettings settings with width } : Shell).InStep :=
  inStep_iff.2 ⟨rfl, h⟩

theorem InStep.set (h : sh.InStep) (argument : String) : (sh.set argument).1.InStep := by
  unfold Shell.set
  split
  · rename_i name value _
    rcases hset : sh.settings.set name (.text value) with e | ⟨settings, said⟩
    · exact h
    · have hchange := Settings.set_eq_ok_iff.1 hset
      have hvalid := h.valid.change hchange
      simp only
      split
      · rename_i hprint
        -- the protection is what it was, since setting it would have been printed
        refine inStep_iff.2 ⟨?_, hvalid⟩
        cases hchange with
        | @protectBuiltins b =>
          obtain ⟨text, htext⟩ := exists_print_protection sh.width b
          rw [htext] at hprint
          cases hprint
        | echo | log | maxDepth | style => exact (inStep_iff.1 h).1
      · exact inStep_iff.2 ⟨rfl, hvalid⟩
  · exact h

theorem InStep.execute (h : sh.InStep) (argument : String) (c : Command) :
    (sh.execute argument c).1.InStep := by
  unfold Shell.execute
  cases c with
  | vars | exit | quit | endOfInput | help => exact h
  | reset => exact inStep_iff.2 ⟨rfl, h.valid⟩
  | parse => exact (sh.parse_shell argument).symm ▸ h
  | set => exact h.set argument

theorem InStep.program (h : sh.InStep) (text : String) : (sh.program text).1.InStep := by
  rcases hrun : sh.pool.run text sh.settings.maxDepth { env := sh.env } with ⟨r, p, s⟩
  have hkeeps : s.env.isProtected = sh.env.isProtected := by
    have hpool := (Interpreter.pool_keeps (P := fun env => env.isProtected = sh.env.isProtected)
      (fun h ha => (Environment.isProtected_assign ha).trans h) sh.pool text sh.settings.maxDepth
      (s := { env := sh.env }) rfl).2
    rwa [hrun] at hpool
  obtain ⟨records, hprogram⟩ := sh.exists_program_eq text hrun
  rw [hprogram]
  exact ⟨hkeeps.trans h.isProtected, h.valid⟩

theorem InStep.step (h : sh.InStep) (line : String) : (sh.step line).1.InStep := by
  unfold Shell.step
  split
  · exact h
  · exact h.execute _ _
  · exact h.program _

theorem InStep.after (h : sh.InStep) (lines : List String) : (sh.after lines).InStep := by
  induction lines generalizing sh with
  | nil => exact h
  | cons line lines ih => exact ih (h.step line)

/-- A shell that starts with any settings that come about is in step with them, whatever lines it
takes. -/
theorem inStep_after (h : settings.Reached) (width : Nat) (lines : List String) :
    (({ ofSettings settings with width } : Shell).after lines).InStep :=
  (inStep_ofSettings h.valid width).after lines

theorem inStep_after_protect :
    Settings.set {} "ProtectBuiltins" (.text "on") =
        .ok ({ protectBuiltins := true }, "ProtectBuiltins mode: Yes") ∧
      (({ ofSettings { protectBuiltins := true } with width := 100 } : Shell).after
        ["x = 1; pi = 3", "set ProtectBuiltins maybe", "set Style [/red]", "reset",
          "set ProtectBuiltins off"]).InStep := by
  have hset : Settings.set {} "ProtectBuiltins" (.text "on") =
      .ok ({ protectBuiltins := true }, "ProtectBuiltins mode: Yes") := by decide +kernel
  exact ⟨hset, inStep_after (.set .initial hset) 100 _⟩

end Shell

end Reckon
