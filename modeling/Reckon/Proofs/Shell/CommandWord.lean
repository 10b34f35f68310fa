import Mathlib.Data.List.TakeWhile
import Reckon.Proofs.Arithmetic.Mention
import Reckon.Proofs.Arithmetic.Sentence
import Reckon.Proofs.Lexis.Blank
import Reckon.Proofs.Shell.Lines
import Reckon.Proofs.Shell.Printing
import Reckon.Proofs.Shell.Survival

/-!
# Programs that start like commands

The shell and the grammar cut a line differently: a command word ends with ASCII, a name only where
letters and digits do. So the first token of a program may start with a command word without being one,
and then the shell takes the line for the command (`step_word_append`). With every other first token
but the command words themselves the line is run (`accepted_line_taken`).

That a line which is run does not stop the shell takes more than that it is accepted: what it comes to
has to be printed. An error mentions identifiers, so it is (`Shell.program_accepted`).
-/

namespace Reckon

open Arithmetic

/-! ## Command words -/

namespace Command

/-- The word for a command. -/
def word : Command → String
  | vars => "vars"
  | reset => "reset"
  | parse => "parse"
  | set => "set"
  | exit => "exit"
  | quit => "quit"
  | endOfInput => "EOF"
  | help => "help"

theorem ofWord?_eq_some_iff {s : String} {c : Command} : ofWord? s = some c ↔ s = c.word := by
  constructor
  · intro h
    unfold ofWord? at h
    split at h <;> cases h <;> rfl
  · rintro rfl
    cases c <;> rfl

theorem letters_word (c : Command) : c.word.toList ≠ [] ∧
    ∀ a ∈ c.word.toList, isLetter a = true ∧ Input.isCommandChar a = true := by
  have hall : (c.word.toList.all fun a => isLetter a && Input.isCommandChar a) = true := by
    cases c <;> decide
  refine ⟨by cases c <;> decide, fun a ha => ?_⟩
  exact (Bool.and_eq_true _ _).mp (List.all_eq_true.1 hall a ha)

end Command

theorem isWord_of_isIdentifier {u : List Char} (h : IsIdentifier u) : ∀ x ∈ u, isWord x = true := by
  obtain ⟨a, cs, rfl, ha, hcs⟩ := h
  exact List.forall_mem_cons.2 ⟨isWord_of_isLetter ha, hcs⟩

theorem isIdentifier_of_letters {u : List Char} (hne : u ≠ []) (h : ∀ a ∈ u, isLetter a = true) :
    IsIdentifier u := by
  obtain ⟨a, u, rfl⟩ := List.exists_cons_of_ne_nil hne
  obtain ⟨ha, hu⟩ := List.forall_mem_cons.1 h
  exact ⟨a, u, rfl, ha, fun d hd => isWord_of_isLetter (hu d hd)⟩

namespace Input

/-- The command whose word the text starts with. -/
def leadingCommand? (text : String) : Option Command :=
  Command.ofWord? (String.ofList (text.toList.takeWhile isCommandChar))

theorem leadingCommand?_word (c : Command) : leadingCommand? c.word = some c := by
  have htake : c.word.toList.takeWhile isCommandChar = c.word.toList :=
    List.takeWhile_eq_self_iff.2 fun a ha => (c.letters_word.2 a ha).2
  rw [leadingCommand?, htake, String.ofList_toList]
  exact Command.ofWord?_eq_some_iff.2 rfl

/-- A text starts with the command word with which its first token does, unless the token is one. -/
theorem leadingCommand?_token {t : Terminal} {u rest : List Char} (hu : IsToken Lexeme t u rest)
    (hword : Command.ofWord? (String.ofList u) = none) :
    leadingCommand? (String.ofList (u ++ rest)) = leadingCommand? (String.ofList u) := by
  unfold leadingCommand?
  rw [String.toList_ofList, String.toList_ofList]
  by_cases hall : ∀ a ∈ u, isCommandChar a = true
  · have htake : u.takeWhile isCommandChar = u := List.takeWhile_eq_self_iff.2 hall
    rw [List.takeWhile_append_of_pos hall, htake, hword, Option.eq_none_iff_forall_ne_some]
    intro c hc
    have hc := Command.ofWord?_eq_some_iff.1 hc
    have hletters := c.letters_word.2
    rw [← hc, String.toList_ofList] at hletters
    rcases hmore : rest.takeWhile isCommandChar with _ | ⟨e, more⟩
    · rw [hmore, List.append_nil] at hc
      rw [Command.ofWord?_eq_some_iff.2 hc] at hword
      cases hword
    · -- the letter after the token would belong to it
      rw [hmore] at hletters
      have he : isLetter e = true := (hletters e (by simp)).1
      have hid : IsIdentifier (u ++ [e]) := isIdentifier_of_letters (by simp) <|
        List.forall_mem_append.2 ⟨fun a ha => (hletters a (List.mem_append_left _ ha)).1,
          (List.forall_mem_singleton (p := (isLetter · = true))).2 he⟩
      have hpre : u ++ [e] <+: u ++ rest := by
        refine (List.prefix_append_right_inj u).2 ?_
        refine List.IsPrefix.trans ?_ (List.takeWhile_prefix isCommandChar)
        rw [hmore]
        exact ⟨more, rfl⟩
      have hle := hu.longest (.lexical "IDENT") (u ++ [e]) (.inl ⟨rfl, hid⟩) hpre
      rw [List.length_append, List.length_singleton] at hle
      omega
  · have htake : (u.takeWhile isCommandChar).length ≠ u.length := fun hlen =>
      hall (List.takeWhile_eq_self_iff.1 ((List.takeWhile_prefix isCommandChar).eq_of_length hlen))
    rw [List.takeWhile_append, if_neg htake]

end Input

/-! ## Lines -/

/-- The text of the first token of a text. -/
def firstToken? (text : String) : Option String :=
  (Scan.ofText grammar.forms text.toList).tokens.head?.map (·.text)

section Lines

variable {text : String} {ts : List Token} {p : Nat}

theorem firstToken?_eq (hr : Reads Lexeme 0 text.toList ts p []) :
    firstToken? text = ts.head?.map (·.text) := by
  rw [← word_eq_lexeme] at hr
  rw [firstToken?, Scan.ofText, Scan.scanFrom_eq distinct_forms hr]

theorem length_trimEnd_le (cs : List Char) : (trimEnd cs).length ≤ cs.length := by
  have hle := (List.dropWhile_sublist (l := cs.reverse) isBlank).length_le
  rwa [List.length_reverse, ← List.length_reverse] at hle

theorem isBlank_of_trimmed {c : Char} {cs : List Char} (h : trimBlanks (c :: cs) = c :: cs) :
    isBlank c = false := by
  by_contra hblank
  rw [Bool.not_eq_false] at hblank
  have hle := length_trimEnd_le (cs.dropWhile isBlank)
  have hle' := (List.dropWhile_sublist (l := cs) isBlank).length_le
  rw [trimBlanks, List.dropWhile_cons_of_pos hblank] at h
  rw [h, List.length_cons] at hle
  omega

/-- A text that reads as tokens starts with one if it does not start with a blank. -/
theorem exists_firstToken (htrim : trimBlanks text.toList = text.toList)
    (hr : Reads Lexeme 0 text.toList ts p []) : text = "" ∨ ∃ t u rest,
      text = String.ofList (u ++ rest) ∧ IsToken Lexeme t u rest ∧
        firstToken? text = some (String.ofList u) := by
  have hfirst := firstToken?_eq hr
  rw [← String.ofList_toList (s := text)] at htrim hfirst ⊢
  rw [String.toList_ofList] at htrim
  generalize text.toList = cs at hr htrim hfirst ⊢
  cases hr with
  | done => exact .inl rfl
  | gap hc _ =>
    have hblank := isBlank_of_trimmed htrim
    rw [isBlank_of_isGap hc] at hblank
    cases hblank
  | token hu _ => exact .inr ⟨_, _, _, rfl, hu, hfirst⟩

theorem not_lexeme_question {t : Terminal} {cs : List Char} : ¬ Lexeme t ('?' :: cs) := by
  have hquestion : '?' ∉ symbols ∧ isLetter '?' = false ∧ isDecimalDigit '?' = false := by decide
  intro h
  rcases h.kind with ⟨hc, -⟩ | ⟨hc, -⟩ | ⟨hc | hc, -⟩
  · exact hquestion.1 hc
  · rw [hquestion.2.1] at hc
    cases hc
  · rw [hquestion.2.2] at hc
    cases hc
  · exact absurd hc (by decide)

/-- A line that starts with a token is a command if it starts with a command word, and else a
program. -/
theorem ofLine_token {t : Terminal} {u rest : List Char} (hu : IsToken Lexeme t u rest)
    (htrim : trimBlanks (u ++ rest) = u ++ rest) :
    Input.ofLine (String.ofList (u ++ rest)) =
      match Input.leadingCommand? (String.ofList (u ++ rest)) with
      | some c => .command c (String.ofList (trimBlanks ((u ++ rest).dropWhile Input.isCommandChar)))
      | none => .program (String.ofList (u ++ rest)) := by
  obtain ⟨a, u, rfl⟩ := List.exists_cons_of_ne_nil hu.nonempty
  have ha : a ≠ '?' := by
    rintro rfl
    exact not_lexeme_question hu.word
  rw [Input.ofLine, Input.leadingCommand?, String.toList_ofList, htrim]
  split
  · rename_i hnil
    cases hnil
  · rename_i hcons
    exact absurd (List.cons.inj hcons).1 ha
  · rfl

end Lines

/-! ## Programs -/

theorem inertText_of_isIdentifier {x : String} (h : IsIdentifier x.toList) : InertText x := by
  have hword : isWord ':' = false ∧ isWord joiner = false ∧ isWord pictureSelector = false := by
    decide +kernel
  intro c hc
  have hc := isWord_of_isIdentifier h c hc
  refine ⟨?_, ?_, ?_⟩ <;> rintro rfl
  · exact absurd hc (Bool.eq_false_iff.1 hword.1)
  · exact absurd hc (Bool.eq_false_iff.1 hword.2.1)
  · exact absurd hc (Bool.eq_false_iff.1 hword.2.2)

/-- An error that mentions identifiers has an inert message. -/
theorem inertText_message {err : EvalError} (h : err.Spelled) : InertText err.message := by
  cases err with
  | undefinedName x =>
    exact .append (.append (by decide) (inertText_of_isIdentifier h)) (by decide)
  | notCallable x kind =>
    obtain ⟨hx, b, rfl⟩ := h
    have hkinds : InertText "constant" ∧ InertText "variable" ∧ InertText "function" := by decide
    have hkind : InertText b.kind := by
      cases b
      · exact hkinds.1
      · exact hkinds.2.1
      · exact hkinds.2.2
    exact .append (.append (.append (.append (by decide) (inertText_of_isIdentifier hx)) (by decide))
      hkind) (by decide)
  | notAValue x =>
    have hx := inertText_of_isIdentifier h
    exact .append (.append (.append (.append (by decide) hx) (by decide)) hx) (by decide)
  | arityMismatch x expected actual =>
    exact .append (.append (.append (.append (.append (inertText_of_isIdentifier h) (by decide))
      (inertText_int _)) (by decide)) (inertText_int _)) (by decide)
  | readOnly x =>
    exact .append (.append (by decide) (inertText_of_isIdentifier h)) (by decide)
  | tooDeep limit => exact .append (.append (by decide) (inertText_int limit)) (by decide)

namespace Shell

variable {sh : Shell} {text : String} {n : Node}

theorem step_of_program {line : String} (h : Input.ofLine line = .program text) :
    sh.step line = sh.program text := by
  rw [step, h]

theorem step_of_command {line argument : String} {c : Command}
    (h : Input.ofLine line = .command c argument) : sh.step line = sh.execute argument c := by
  rw [step, h]

theorem stop_printing {s : String} (h : ∃ shown, Console.print sh.width s = .ok shown) :
    (Reply.printing false (sh.print s)).stop = .ok false := by
  obtain ⟨shown, hshown⟩ := h
  rw [print, hshown, Reply.printing]

theorem stop_fail {f : Fault} (h : f.Spelled) :
    (sh.fail (.fault f)).stop = .ok false ∨ (sh.fail (.fault f)).stop = .error (.fault f) := by
  cases f with
  | eval err => exact .inl (stop_printing (exists_print_error sh.width (inertText_message h)))
  | zeroDivision | unanswered => exact .inr rfl
  | registry | malformed | uncallable => exact h.elim

section Accepted

variable (hready : sh.pool.Ready)

include hready

theorem run_of_ready (text : String) : ∃ p, sh.pool.run text sh.settings.maxDepth { env := sh.env } =
    ((run text sh.settings.maxDepth { env := sh.env }).1, p,
      (run text sh.settings.maxDepth { env := sh.env }).2) := by
  obtain ⟨halone, -⟩ := hready.on (.run text sh.settings.maxDepth { env := sh.env })
  rw [Call.alone] at halone
  rw [← halone]
  exact ⟨_, rfl⟩

/-- A program leaves the shell as running its text does. -/
theorem program_left (text : String) :
    (sh.program text).1.env = (run text sh.settings.maxDepth { env := sh.env }).2.env ∧
      (sh.program text).1.settings = sh.settings := by
  obtain ⟨p, hrun⟩ := run_of_ready hready text
  obtain ⟨records, hprogram⟩ := sh.exists_program_eq text hrun
  rw [hprogram]
  exact ⟨rfl, rfl⟩

/-- A program that is accepted does not stop the shell, whatever it comes to, unless that is a fault
which gets past the shell. -/
theorem stop_program_cases (hn : Arithmetic.parse "program" text = .ok n) :
    (sh.program text).2.stop = .ok false ∨ ∃ f, (sh.program text).2.stop = .error (.fault f) := by
  obtain ⟨p, hrun⟩ := run_of_ready hready text
  obtain ⟨records, hprogram⟩ := sh.exists_program_eq text hrun
  rw [hprogram]
  rcases hr : (run text sh.settings.maxDepth { env := sh.env }).1 with e | _ | x
  · obtain ⟨f, rfl, hf⟩ := spelled_of_run_error hn hr
    exact (stop_fail hf).imp id fun hstop => ⟨f, hstop⟩
  · exact .inl rfl
  · refine .inl ?_
    simp only [say]
    split
    · exact stop_printing (exists_print_display sh.width x)
    · rfl

/-- Where no plain number is bound no fault gets past the shell. -/
theorem program_accepted (hn : Arithmetic.parse "program" text = .ok n) :
    (sh.program text).2.stop ≠ .ok true ∧ (sh.env.Safe → (sh.program text).2.stop = .ok false) ∧
      (sh.program text).1.env = (run text sh.settings.maxDepth { env := sh.env }).2.env ∧
      (sh.program text).1.settings = sh.settings := by
  refine ⟨fun htrue => ?_, fun hsafe => ?_, program_left hready text⟩
  · rcases stop_program_cases hready hn with hstop | ⟨f, hstop⟩ <;> rw [hstop] at htrue <;> cases htrue
  · refine (stop_program_cases hready hn).resolve_right fun ⟨f, hstop⟩ => ?_
    obtain ⟨hrun, hforeign⟩ := (stop_program_iff sh).1 hstop
    have hnot := (Environment.Safe.run (s := { env := sh.env }) hsafe _ _ _).1.isForeign hrun
    exact Bool.eq_false_iff.1 hnot hforeign

end Accepted

end Shell

/-! ## Empty lines -/

section Empty

variable {n : Node} {d : Int}

/-- Below zero nothing at all is visited. -/
theorem interpret_negative (hd : d < 0) (n : Node) (s : Session) :
    (Interpreter.mk d 0).interpret n s = (.error (.eval (.tooDeep d)), ⟨d, 0⟩, s) := by
  have hstop : ((Interpreter.operation d).branch n).visit.run.run ⟨0, s⟩ =
      (.error (.eval (.tooDeep d)), ⟨0, s⟩) := by
    rw [Operation.branch_visit]
    refine Operation.run_visitNode_tooDeep s ?_
    change d < _
    omega
  exact Interpreter.interpret_eq hstop

theorem statements_of_empty (hn : Arithmetic.parse "program" "" = .ok n) : n.statements = some [] := by
  have hspelt : Spelt (Phrase.wordsOfList ";" []) "".toList := Spelt.nil
  have hempty : Phrase.AllWellFormed [] := trivial
  obtain ⟨m, hm, hes⟩ := exists_parse hempty hspelt
  cases hm.symm.trans hn
  exact hes

theorem env_run_empty (hn : Arithmetic.parse "program" "" = .ok n) (d : Int) (s : Session) :
    (run "" d s).2.env = s.env := by
  have hes := statements_of_empty hn
  have hnesting : n.nesting = 0 := by
    obtain ⟨list, hrule, hch, hlist, heach⟩ := Node.statements_eq_some hes
    have hnil := List.forall₂_nil_right_iff.1 (erases_of_eraseEach heach)
    rw [Interpreter.nesting_program hrule hch hlist, hnil]
    rfl
  by_cases hd : 0 ≤ d
  · exact (run_eq_runAll hn hes (by omega) s).2
  · obtain ⟨u, hprocess, henv⟩ := Interpreter.process_of_interpret hn (.ran "")
      (interpret_negative (Int.not_le.1 hd) n (s.note (.matched "program" "" n)))
    rw [run_of_process hprocess]
    exact henv

/-- The empty line is an accepted program, which changes nothing. -/
theorem Shell.step_empty (sh : Shell) (hn : Arithmetic.parse "program" "" = .ok n) :
    (sh.step "").2.stop ≠ .ok true ∧ (sh.env.Safe → (sh.step "").2.stop = .ok false) ∧
      (sh.step "").1.env = (run "" sh.settings.maxDepth { env := sh.env }).2.env ∧
      (sh.step "").1.settings = sh.settings := by
  have hline : Input.ofLine "" = .empty := rfl
  have hstep : sh.step "" = (sh, { records := sh.logged [.emptyLine] }) := by
    rw [Shell.step, hline]
  rw [hstep, env_run_empty hn sh.settings.maxDepth { env := sh.env }]
  exact ⟨by simp, fun _ => rfl, rfl, rfl⟩

end Empty

/-! ## Identifiers that start with a command word -/

theorem trimBlanks_eq_self {cs : List Char} (h : ∀ c ∈ cs, isBlank c = false) :
    trimBlanks cs = cs := by
  have hdrop (ds : List Char) (h : ∀ c ∈ ds, isBlank c = false) : ds.dropWhile isBlank = ds := by
    cases ds with
    | nil => rfl
    | cons d ds => rw [List.dropWhile_cons_of_neg (by simp [h d List.mem_cons_self])]
  rw [trimBlanks, hdrop cs h, trimEnd, hdrop _ fun c hc => h c (List.mem_reverse.1 hc),
    List.reverse_reverse]

/-- An identifier is a line of its own: it is accepted, and its first token is all of it. -/
theorem identifier_line {x : String} (h : IsIdentifier x.toList) :
    trimBlanks x.toList = x.toList ∧ (∃ n, Arithmetic.parse "program" x = .ok n) ∧
      firstToken? x = some x := by
  have hspelt : Spelt [ident x] x.toList := Spelt.lexical (.inl ⟨rfl, h⟩)
  have hname : Phrase.AllWellFormed [.name x] := ⟨h, trivial⟩
  obtain ⟨n, hn, -⟩ := exists_parse hname hspelt
  obtain ⟨ts, hts, hr⟩ := hspelt.reads
  refine ⟨trimBlanks_eq_self fun c hc => isBlank_of_isWord (isWord_of_isIdentifier h c hc), ⟨n, hn⟩, ?_⟩
  obtain ⟨a, rfl, ha⟩ := List.map_eq_singleton_iff.1 hts
  rw [firstToken?_eq hr, List.head?_cons, Option.map_some]
  exact congrArg some (congrArg Prod.snd ha)

/-- A command word with letters and digits after it that are not of ASCII is an identifier, and an
accepted program; and the shell takes it for the command, with the rest as its argument. -/
theorem step_word_append (c : Command) {d : Char} {ds : List Char} (hd : isWord d = true)
    (hascii : Input.isCommandChar d = false) (hds : ∀ x ∈ ds, isWord x = true) {text : String}
    (htext : text = c.word ++ String.ofList (d :: ds)) :
    IsIdentifier text.toList ∧ Command.ofWord? text = none ∧ Input.leadingCommand? text = some c ∧
      ∀ sh : Shell, sh.step text = sh.execute (String.ofList (d :: ds)) c := by
  have hchars : text.toList = c.word.toList ++ d :: ds := by
    rw [htext, String.toList_append, String.toList_ofList]
  obtain ⟨hne, hletters⟩ := c.letters_word
  have hid : IsIdentifier text.toList := by
    obtain ⟨a, w, hw⟩ := List.exists_cons_of_ne_nil hne
    rw [hw] at hchars hletters
    obtain ⟨ha, hw⟩ := List.forall_mem_cons.1 hletters
    refine ⟨a, w ++ d :: ds, hchars, ha.1, List.forall_mem_append.2 ⟨fun x hx => ?_, ?_⟩⟩
    · exact isWord_of_isLetter (hw x hx).1
    · exact List.forall_mem_cons.2 ⟨hd, hds⟩
  have hcommand : ∀ a ∈ c.word.toList, Input.isCommandChar a = true := fun a ha => (hletters a ha).2
  have hnone : Command.ofWord? text = none := by
    rw [Option.eq_none_iff_forall_ne_some]
    intro c' hc'
    obtain rfl := Command.ofWord?_eq_some_iff.1 hc'
    have hmem : d ∈ c'.word.toList := hchars ▸ List.mem_append_right _ List.mem_cons_self
    rw [((c'.letters_word).2 d hmem).2] at hascii
    cases hascii
  have hleading : Input.leadingCommand? text = some c := by
    have htake : text.toList.takeWhile Input.isCommandChar = c.word.toList := by
      rw [hchars, List.takeWhile_append_of_pos hcommand,
        List.takeWhile_cons_of_neg (by simp [hascii]), List.append_nil]
    rw [Input.leadingCommand?, htake, String.ofList_toList]
    exact Command.ofWord?_eq_some_iff.2 rfl
  refine ⟨hid, hnone, hleading, fun sh => ?_⟩
  have htoken : IsToken Lexeme (.lexical "IDENT") text.toList [] :=
    isToken_lexical (.inl ⟨rfl, hid⟩) nofun
  have hdrop : text.toList.dropWhile Input.isCommandChar = d :: ds := by
    rw [hchars, List.dropWhile_append_of_pos hcommand,
      List.dropWhile_cons_of_neg (by simp [hascii])]
  have hrest : trimBlanks (d :: ds) = d :: ds := trimBlanks_eq_self fun x hx =>
    isBlank_of_isWord ((List.forall_mem_cons (p := (isWord · = true))).2 ⟨hd, hds⟩ x hx)
  have hline := ofLine_token htoken (by rw [List.append_nil]; exact (identifier_line hid).1)
  rw [List.append_nil, String.ofList_toList, hleading, hdrop, hrest] at hline
  exact Shell.step_of_command hline

/-- A line is accepted as a program. If its first token does not start with a command word, the line
does not stop the shell, and its environment is the one that running the line leaves. If it does without
being one, the shell takes the line for the command. That the shell goes on takes that no plain number
is bound at its start, and none is where it starts from its settings (`Shell.safe_ofSettings`). -/
theorem accepted_line_taken (start : Shell) (hstart : start.pool = {}) (lines : List String)
    {line : String} {n : Node} (htrim : trimBlanks line.toList = line.toList)
    (hn : Arithmetic.parse "program" line = .ok n) :
    let sh := start.after lines
    ((∀ t, firstToken? line = some t → Input.leadingCommand? t = none) →
      (sh.step line).2.stop ≠ .ok true ∧ (start.env.Safe → (sh.step line).2.stop = .ok false) ∧
      (sh.step line).1.env = (run line sh.settings.maxDepth { env := sh.env }).2.env ∧
      (sh.step line).1.settings = sh.settings) ∧
    ∀ t c, firstToken? line = some t → Command.ofWord? t = none →
      Input.leadingCommand? t = some c → sh.step line = sh.execute
        (String.ofList (trimBlanks (line.toList.dropWhile Input.isCommandChar))) c := by
  intro sh
  have hready : sh.pool.Ready := by
    refine Shell.ready_after ?_ lines
    rw [hstart]
    exact nofun
  have hsafe (h : start.env.Safe) : sh.env.Safe := Shell.safe_after h lines
  clear_value sh
  obtain ⟨ts, ps, hr, -⟩ := exists_phrases_of_parse hn
  rcases exists_firstToken htrim hr with rfl | ⟨t, u, rest, rfl, hu, hfirst⟩
  · have hread : Reads Lexeme 0 "".toList [] 0 [] := .done 0 []
    have hnone : firstToken? "" = none := firstToken?_eq hread
    refine ⟨fun _ => ?_, fun t c ht => by rw [hnone] at ht; cases ht⟩
    exact (sh.step_empty hn).imp_right (And.imp_left (· ∘ hsafe))
  · rw [String.toList_ofList] at htrim ⊢
    have hline := ofLine_token hu htrim
    constructor
    · intro hleading
      have hleading := hleading _ hfirst
      have hword : Command.ofWord? (String.ofList u) = none := by
        rw [Option.eq_none_iff_forall_ne_some]
        intro c hc
        rw [Command.ofWord?_eq_some_iff.1 hc, Input.leadingCommand?_word] at hleading
        cases hleading
      rw [Input.leadingCommand?_token hu hword, hleading] at hline
      rw [Shell.step_of_program hline]
      exact (Shell.program_accepted hready hn).imp_right (And.imp_left (· ∘ hsafe))
    · intro t c ht hword hleading
      obtain rfl := Option.some.inj (hfirst.symm.trans ht)
      rw [Input.leadingCommand?_token hu hword, hleading] at hline
      exact Shell.step_of_command hline

theorem accepted_line_taken_quit : ∃ n, Arithmetic.parse "program" "quité" = .ok n ∧
    ((Shell.ofSettings {}).step "quité").2.stop = .ok true := by
  have htext : "quité" = Command.quit.word ++ String.ofList ['é'] := rfl
  obtain ⟨hid, hword, hleading, -⟩ := step_word_append .quit (by decide +kernel) (by decide) (by simp)
    htext
  obtain ⟨htrim, ⟨n, hn⟩, hfirst⟩ := identifier_line hid
  have hline := (accepted_line_taken (Shell.ofSettings {}) rfl [] htrim hn).2 _ _ hfirst hword hleading
  refine ⟨n, hn, ?_⟩
  change (((Shell.ofSettings {}).after []).step "quité").2.stop = _
  rw [hline]
  rfl

end Reckon
