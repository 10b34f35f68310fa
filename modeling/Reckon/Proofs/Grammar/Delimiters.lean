import Mathlib.Algebra.Ring.Parity
import Mathlib.Data.List.Induction
import Reckon.Proofs.Grammar.Naming

/-!
# What stands between delimiters

The text of a grammar has literals between double quotes and regular expressions between slashes.
`Delimited.readTo` reads such a piece behind its opening delimiter: a backslash takes the next
character with it, and the first delimiter that is not taken so ends the piece.

A literal is read back, whatever follows it (`literal_read_back`). A regular expression ends at its own
slash if all slashes in it are escaped (`map_readTo_eq_some_iff`). That is so if none is escaped already
in the patterns that it is made of (`slashes_escaped_iff`): each slash gets one more backslash, and with
a second one it stands alone.
-/

namespace Reckon

namespace Delimited

/-- Does a character that follows belong to a backslash, if it did (or did not) at the start? -/
def pending (escaped : Bool) (cs : List Char) : Bool := cs.foldl (fun e c => c == '\\' && !e) escaped

/-- Reads up to the first delimiter that is not escaped: the characters before it, less the backslashes
that escape one, and what follows it. -/
def readTo (close : Char) (escaped : Bool) : List Char → Option (List Char × List Char)
  | [] => none
  | c :: cs =>
    if escaped then (readTo close false cs).map fun r => (c :: r.1, r.2)
    else if c = close then some ([], cs)
    else if c = '\\' then readTo close true cs
    else (readTo close false cs).map fun r => (c :: r.1, r.2)

/-- The number of backslashes in a row at the end. -/
def backslashes (cs : List Char) : Nat := (cs.reverse.takeWhile (· == '\\')).length

/-- What comes before a slash has the property, for each slash. -/
def EachSlash (P : List Char → Prop) (cs : List Char) : Prop :=
  ∀ before after, cs = before ++ '/' :: after → P before

/-- Before each slash stands an odd number of backslashes. -/
def SlashesEscaped (cs : List Char) : Prop := EachSlash (fun before => Odd (backslashes before)) cs

/-- Before each slash stands an even number of backslashes. -/
def SlashesBare (cs : List Char) : Prop := EachSlash (fun before => Even (backslashes before)) cs

variable {P : List Char → Prop} {e : Bool} {c : Char} {cs u v : List Char}

/-! ## Backslashes -/

theorem pending_nil : pending e [] = e := rfl

theorem pending_cons : pending e (c :: cs) = pending (c == '\\' && !e) cs := rfl

theorem pending_append : pending e (u ++ v) = pending (pending e u) v := List.foldl_append

theorem pending_concat : pending e (cs ++ [c]) = (c == '\\' && !pending e cs) := pending_append

/-- A character belongs to a backslash if and only if an odd number of them stands before it. -/
theorem pending_eq_true_iff (cs : List Char) : pending false cs = true ↔ Odd (backslashes cs) := by
  induction cs using List.reverseRecOn with
  | nil => simp [pending, backslashes]
  | append_singleton cs c ih =>
    rw [pending_concat]
    by_cases hc : c = '\\'
    · have hcount : backslashes (cs ++ [c]) = backslashes cs + 1 := by simp [backslashes, hc]
      rw [hcount, Nat.odd_add_one, ← ih]
      simp [hc]
    · have hcount : backslashes (cs ++ [c]) = 0 := by simp [backslashes, hc]
      simp [hcount, hc]

theorem pending_eq_false_iff (cs : List Char) : pending false cs = false ↔ Even (backslashes cs) := by
  rw [← Nat.not_odd_iff_even, ← pending_eq_true_iff, Bool.not_eq_true]

/-! ## Slashes -/

theorem eachSlash_nil : EachSlash P [] := by
  simp [EachSlash]

theorem eachSlash_cons :
    EachSlash P (c :: cs) ↔ (c = '/' → P []) ∧ EachSlash (fun before => P (c :: before)) cs := by
  constructor
  · intro h
    exact ⟨fun hc => h [] cs (by rw [hc, List.nil_append]),
      fun before after hcs => h (c :: before) after (by rw [hcs, List.cons_append])⟩
  · rintro ⟨hhead, htail⟩ before after hcs
    rcases before with _ | ⟨d, before⟩
    · exact hhead (List.cons.inj hcs).1
    · obtain ⟨hc, htl⟩ := List.cons.inj hcs
      rw [← hc]
      exact htail before after htl

theorem eachSlash_append :
    EachSlash P (u ++ v) ↔ EachSlash P u ∧ EachSlash (fun before => P (u ++ before)) v := by
  induction u generalizing P with
  | nil => simp [eachSlash_nil]
  | cons c u ih => rw [List.cons_append, eachSlash_cons, eachSlash_cons, ih, and_assoc]; rfl

theorem slashesEscaped_iff :
    SlashesEscaped cs ↔ EachSlash (fun before => pending false before = true) cs := by
  simp only [SlashesEscaped, pending_eq_true_iff]

theorem slashesBare_iff :
    SlashesBare cs ↔ EachSlash (fun before => pending false before = false) cs := by
  simp only [SlashesBare, pending_eq_false_iff]

/-! ## Reading -/

theorem length_lt_of_readTo {close : Char} :
    ∀ {cs : List Char} {e : Bool} {r : List Char × List Char}, readTo close e cs = some r →
      r.2.length < cs.length
  | [], _, _, h => by simp [readTo] at h
  | c :: cs, e, r, h => by
    simp only [readTo] at h
    rw [List.length_cons]
    split_ifs at h
    · obtain ⟨r', hr', rfl⟩ := Option.map_eq_some_iff.1 h
      have hlength := length_lt_of_readTo hr'
      exact Nat.lt_add_one_of_lt hlength
    · cases h
      exact Nat.lt_add_one _
    · exact Nat.lt_add_one_of_lt (length_lt_of_readTo h)
    · obtain ⟨r', hr', rfl⟩ := Option.map_eq_some_iff.1 h
      have hlength := length_lt_of_readTo hr'
      exact Nat.lt_add_one_of_lt hlength

theorem map_readTo_ne_of_length_le {close : Char} {rest : List Char} (h : cs.length ≤ rest.length) :
    (readTo close e cs).map (·.2) ≠ some rest := by
  intro hread
  obtain ⟨r, hr, rfl⟩ := Option.map_eq_some_iff.1 hread
  have := length_lt_of_readTo hr
  omega

/-- The slash behind a text ends it if and only if each slash in the text is escaped and that slash is
not. -/
theorem map_readTo_eq_some_iff (cs : List Char) (e : Bool) (rest : List Char) :
    (readTo '/' e (cs ++ '/' :: rest)).map (·.2) = some rest ↔
      EachSlash (fun before => pending e before = true) cs ∧ pending e cs = false := by
  induction cs generalizing e with
  | nil =>
    rcases e with _ | _
    · simp [readTo, eachSlash_nil, pending]
    · refine iff_of_false ?_ (by simp [pending])
      simp only [List.nil_append, readTo, if_true, Option.map_map]
      exact map_readTo_ne_of_length_le le_rfl
  | cons c cs ih =>
    simp only [List.cons_append, readTo, eachSlash_cons, pending_cons]
    rcases e with _ | _
    · by_cases hslash : c = '/'
      · refine iff_of_false (fun hread => ?_) (by simp [hslash, pending])
        have hlength := congrArg (Option.map List.length) hread
        simp [hslash] at hlength
        omega
      · by_cases hback : c = '\\'
        · simpa [hback] using ih true
        · have hplain : (c == '\\' && !false) = false := by simp [hback]
          rw [hplain]
          simpa [hslash, hback, Option.map_map, Function.comp_def] using ih false
    · simpa [Option.map_map, Function.comp_def, pending_nil] using ih false

end Delimited

namespace Grammar

open Delimited

variable {u v : List Char}

/-! ## Literals -/

/-- The text with another text in place of each occurrence of a character. -/
def replaceChar (old : Char) (new : List Char) (cs : List Char) : List Char :=
  cs.flatMap fun c => if c = old then new else [c]

/-- Reads a literal from its opening quote on. -/
def readLiteral? : List Char → Option (List Char × List Char)
  | '"' :: cs => readTo '"' false cs
  | _ => none

theorem literal_eq (cs : List Char) : literal cs =
    '"' :: cs.flatMap (fun c => if c = '\\' ∨ c = '"' then ['\\', c] else [c]) ++ ['"'] := by
  simp [literal]

/-- Backslashes are doubled first, or those that escape the quotes would be doubled too. -/
theorem literal_eq_replaceChar (cs : List Char) : literal cs =
    '"' :: replaceChar '"' ['\\', '"'] (replaceChar '\\' ['\\', '\\'] cs) ++ ['"'] := by
  rw [literal_eq, replaceChar, replaceChar, List.flatMap_assoc]
  congr 2
  refine List.flatMap_congr fun c _ => ?_
  by_cases hback : c = '\\'
  · simp [hback]
  · by_cases hquote : c = '"' <;> simp [hback, hquote]

theorem readLiteral?_append (cs rest : List Char) :
    readLiteral? (literal cs ++ rest) = some (cs, rest) := by
  rw [literal_eq, List.cons_append, List.cons_append, readLiteral?, List.append_assoc,
    List.singleton_append]
  induction cs with
  | nil => simp [readTo]
  | cons c cs ih =>
    rw [List.flatMap_cons, List.append_assoc]
    by_cases hback : c = '\\'
    · simp [readTo, hback, ih]
    · by_cases hquote : c = '"' <;> simp [readTo, hback, hquote, ih]

theorem toList_intercalate_cons (text : String) (more : List String) :
    (" ".intercalate (text :: more)).toList = text.toList ++ more.flatMap fun s => ' ' :: s.toList := by
  induction more generalizing text with
  | nil => simp
  | cons s more ih =>
    rw [String.intercalate_cons_cons, String.toList_append, ih, String.toList_append,
      List.flatMap_cons]
    simp

/-- A literal is written with two replacements, and is read back to its closing quote, whatever
follows: other items of the row, or what follows the separator of a list. -/
theorem literal_read_back (text : String) :
    literal text.toList =
      '"' :: replaceChar '"' ['\\', '"'] (replaceChar '\\' ['\\', '\\'] text.toList) ++ ['"'] ∧
    (∀ rest, readLiteral? (literal text.toList ++ rest) = some (text.toList, rest)) ∧
    (∀ (g : Grammar) (is : List Item), (Item.lit text :: is).mapM g.itemText? =
      (is.mapM g.itemText?).map (String.ofList (literal text.toList) :: ·)) ∧
    (∀ more, readLiteral? (" ".intercalate (String.ofList (literal text.toList) :: more)).toList =
      some (text.toList, more.flatMap fun s => ' ' :: s.toList)) ∧
    ∀ item name, readLiteral? ((listText ((item, text), name)).toList.drop
        (name ++ ": (" ++ item ++ " (").length) =
      some (text.toList, (" " ++ item ++ ")*)?").toList) := by
  refine ⟨literal_eq_replaceChar _, readLiteral?_append _, fun g is => ?_, fun more => ?_,
    fun item name => ?_⟩
  · rw [List.mapM_cons, itemText?]
    cases is.mapM g.itemText? <;> rfl
  · rw [toList_intercalate_cons, String.toList_ofList, readLiteral?_append]
  · have hsplit : (listText ((item, text), name)).toList = (name ++ ": (" ++ item ++ " (").toList ++
        (literal text.toList ++ (" " ++ item ++ ")*)?").toList) := by
      simp [listText]
    rw [hsplit, List.drop_left' String.length_toList, readLiteral?_append]

/-! ## Regular expressions -/

theorem slashesBare_append (hu : pending false u = false) :
    SlashesBare (u ++ v) ↔ SlashesBare u ∧ SlashesBare v := by
  simp only [slashesBare_iff, eachSlash_append, pending_append, hu]

theorem slashesBare_of_notMem (h : '/' ∉ u) : SlashesBare u := by
  rintro before after rfl
  simp at h

theorem pending_group (u : List Char) : pending false ("(?:".toList ++ u ++ [')']) = false := by
  rw [pending_concat]
  rfl

theorem slashesBare_group : SlashesBare ("(?:".toList ++ u ++ [')']) ↔ SlashesBare u := by
  have hopen : pending false "(?:".toList = false := by decide
  have hclose : SlashesBare (u ++ [')']) ↔ SlashesBare u := by
    simp only [slashesBare_iff, eachSlash_append, eachSlash_cons]
    simp [eachSlash_nil]
  rw [List.append_assoc, slashesBare_append hopen, hclose,
    and_iff_right (slashesBare_of_notMem (by decide))]

/-- Pieces that end outside an escape are put in a row. -/
theorem settled_flatMap {α : Type} {f : α → List Char} :
    ∀ {l : List α}, (∀ a ∈ l, pending false (f a) = false) →
      pending false (l.flatMap f) = false ∧
        (SlashesBare (l.flatMap f) ↔ ∀ a ∈ l, SlashesBare (f a))
  | [], _ => ⟨rfl, iff_of_true (slashesBare_of_notMem (by simp)) (by simp)⟩
  | a :: l, h => by
    obtain ⟨ha, hl⟩ := List.forall_mem_cons.1 h
    obtain ⟨hpending, hbare⟩ := settled_flatMap hl
    rw [List.flatMap_cons, List.forall_mem_cons, slashesBare_append ha, hbare, pending_append, ha]
    exact ⟨hpending, Iff.rfl⟩

theorem settled_intercalate :
    ∀ {ws : List (List Char)}, (∀ w ∈ ws, pending false w = false) →
      pending false (['|'].intercalate ws) = false ∧
        (SlashesBare (['|'].intercalate ws) ↔ ∀ w ∈ ws, SlashesBare w)
  | [], _ => ⟨rfl, iff_of_true (slashesBare_of_notMem (by simp)) (by simp)⟩
  | [w], h => by simpa using h
  | w :: w' :: ws, h => by
    obtain ⟨hw, hws⟩ := List.forall_mem_cons.1 h
    obtain ⟨hpending, hbare⟩ := settled_intercalate hws
    have hbar : pending false ['|'] = false := rfl
    have hsettled : pending false (w ++ ['|']) = false := by rw [pending_append, hw, hbar]
    rw [List.intercalate_cons_cons, List.forall_mem_cons, pending_append, hsettled,
      slashesBare_append hsettled, slashesBare_append hw, hbare]
    exact ⟨hpending, by simp [slashesBare_of_notMem (u := ['|'])]⟩

/-- A text that stands for itself has only backslashes that escape another character than a slash. -/
theorem settled_escapeRegex (cs : List Char) :
    pending false (escapeRegex cs) = false ∧ SlashesBare (escapeRegex cs) := by
  have hslash : isRegexSpecial '/' = false := by decide
  have hback : isRegexSpecial '\\' = true := by decide
  have hpiece (c : Char) : pending false (if isRegexSpecial c then ['\\', c] else [c]) = false ∧
      SlashesBare (if isRegexSpecial c then ['\\', c] else [c]) := by
    split
    · rename_i hc
      have hne : c ≠ '/' := by
        rintro rfl
        simp [hslash] at hc
      exact ⟨by simp [pending], slashesBare_of_notMem (by simp [hne.symm])⟩
    · rename_i hc
      have hne : c ≠ '\\' := by
        rintro rfl
        exact hc hback
      refine ⟨by simp [pending, hne], ?_⟩
      rw [slashesBare_iff, eachSlash_cons]
      exact ⟨fun _ => rfl, eachSlash_nil⟩
  obtain ⟨hpending, hbare⟩ := settled_flatMap (l := cs) fun c _ => (hpiece c).1
  exact ⟨hpending, hbare.2 fun c _ => (hpiece c).2⟩

theorem settled_itemRegex (i : Item) : pending false (itemRegex i) = false ∧
    (SlashesBare (itemRegex i) ↔ ∀ regex, i = .pattern regex → SlashesBare regex.toList) := by
  cases i with
  | pattern regex =>
    refine ⟨pending_group regex.toList, ?_⟩
    rw [itemRegex, slashesBare_group]
    simp
  | lit text =>
    obtain ⟨hpending, hbare⟩ := settled_escapeRegex text.toList
    exact ⟨hpending, iff_of_true hbare (by simp)⟩
  | ref _ | listOf _ _ =>
    exact ⟨rfl, iff_of_true (slashesBare_of_notMem (by simp [itemRegex])) (by simp)⟩

/-- A rule's regular expression before its slashes are escaped. -/
theorem exists_ruleRegex (r : Rule) :
    ∃ cs, ruleRegex r = escapeSlashes cs ∧ pending false cs = false ∧ (SlashesBare cs ↔
      ∀ a ∈ r.alternatives, ∀ regex, .pattern regex ∈ a.body → SlashesBare regex.toList) := by
  have hchoice (a : Alternative) : pending false (a.body.flatMap itemRegex) = false ∧
      (SlashesBare (a.body.flatMap itemRegex) ↔
        ∀ regex, .pattern regex ∈ a.body → SlashesBare regex.toList) := by
    obtain ⟨hpending, hbare⟩ := settled_flatMap (l := a.body) fun i _ => (settled_itemRegex i).1
    refine ⟨hpending, hbare.trans ?_⟩
    simp only [(settled_itemRegex _).2]
    exact ⟨fun h regex hi => h _ hi regex rfl, fun h i hi regex heq => h regex (heq ▸ hi)⟩
  have hchoices : ∀ w ∈ r.alternatives.map fun a => a.body.flatMap itemRegex,
      pending false w = false := by
    rw [List.forall_mem_map]
    exact fun a _ => (hchoice a).1
  have hbares : (∀ w ∈ r.alternatives.map fun a => a.body.flatMap itemRegex, SlashesBare w) ↔
      ∀ a ∈ r.alternatives, ∀ regex, .pattern regex ∈ a.body → SlashesBare regex.toList := by
    rw [List.forall_mem_map]
    exact forall₂_congr fun a _ => (hchoice a).2
  obtain ⟨hpending, hbare⟩ := settled_intercalate hchoices
  simp only [ruleRegex]
  rw [← hbares]
  generalize r.alternatives.map (fun a => a.body.flatMap itemRegex) = ws at *
  split
  · rename_i w
    exact ⟨w, rfl, by simpa using hchoices⟩
  · exact ⟨_, rfl, pending_group _, slashesBare_group.trans hbare⟩

theorem escapeSlashes_cons (c : Char) (cs : List Char) :
    escapeSlashes (c :: cs) = (if c = '/' then ['\\', c] else [c]) ++ escapeSlashes cs := by
  simp [escapeSlashes]

/-- The backslash before a slash makes an escaped slash of a bare one, and the other way round. -/
theorem eachSlash_escapeSlashes (cs : List Char) (e : Bool) :
    EachSlash (fun before => pending e before = true) (escapeSlashes cs) ↔
      EachSlash (fun before => pending e before = false) cs := by
  induction cs generalizing e with
  | nil => exact iff_of_true eachSlash_nil eachSlash_nil
  | cons c cs ih =>
    rw [escapeSlashes_cons]
    by_cases hc : c = '/'
    · subst hc
      simp [eachSlash_cons, pending_cons, pending_nil, ih]
    · simp [eachSlash_cons, pending_cons, hc, ih]

theorem pending_escapeSlashes (cs : List Char) (e : Bool) :
    pending e (escapeSlashes cs) = pending e cs := by
  induction cs generalizing e with
  | nil => rfl
  | cons c cs ih =>
    rw [escapeSlashes_cons]
    by_cases hc : c = '/' <;> simp [pending_cons, hc, ih]

section Line

variable {g : Grammar} {declared : List Rule} {name version start : String}

theorem intercalate_append_cons {sep line : String} {above below : List String} (ha : above ≠ [])
    (hb : below ≠ []) : sep.intercalate (above ++ line :: below) =
      sep.intercalate above ++ sep ++ line ++ sep ++ sep.intercalate below := by
  rw [String.intercalate_append_of_ne_nil ha (by simp), String.intercalate_cons_of_ne_nil hb]
  simp only [String.append_assoc]

/-- What is written for a rule is a line of the text. -/
theorem exists_line (h : build name version declared start = .ok g) {r : Rule} (hr : r ∈ g.rules)
    {line : String} (hline : g.ruleText? r = some line) :
    ∃ before after, g.render? = some (before ++ "\n" ++ line ++ "\n" ++ after) := by
  obtain ⟨above, below, hlines⟩ : ∃ above below,
      g.rules.mapM g.ruleText? = some (above ++ line :: below) := by
    choose! body hbody using fun r => exists_ruleText h (r := r)
    obtain ⟨rs, rs', hrules⟩ := List.append_of_mem hr
    rw [mapM_eq_some hbody, hrules, List.map_append, List.map_cons,
      Option.some.inj (hline.symm.trans (hbody r hr))]
    exact ⟨_, _, rfl⟩
  let head := ("// " ++ g.name ++ " grammar v" ++ g.version) :: above
  let tail := below ++ g.lists.map listText ++ ["%import common.WS", "%ignore WS"]
  have hrender : g.render? = some ("\n".intercalate (head ++ line :: tail) ++ "\n") := by
    rw [render?, hlines]
    simp [head, tail]
  refine ⟨"\n".intercalate head, "\n".intercalate tail ++ "\n", ?_⟩
  rw [hrender, intercalate_append_cons (by simp [head]) (by simp [tail])]
  simp only [String.append_assoc]

end Line

/-- A lexical rule is written with a regular expression between slashes. All slashes in it are escaped
if and only if none is escaped in the patterns of the rule, and then and only then it ends at the last
slash of its line. -/
theorem slashes_escaped_iff {g : Grammar} {declared : List Rule} {name version start : String}
    (h : build name version declared start = .ok g) {r : Rule} (hr : r ∈ g.rules)
    (hk : r.kind = .lexical) :
    (∃ before after, g.render? = some (before ++ "\n" ++
      (r.name ++ ": /" ++ String.ofList (ruleRegex r) ++ "/") ++ "\n" ++ after)) ∧
    (SlashesEscaped (ruleRegex r) ↔
      ∀ a ∈ r.alternatives, ∀ regex, .pattern regex ∈ a.body → SlashesBare regex.toList) ∧
    ∀ rest, (readTo '/' false (ruleRegex r ++ '/' :: rest)).map (·.2) = some rest ↔
      SlashesEscaped (ruleRegex r) := by
  obtain ⟨cs, hregex, hpending, hbare⟩ := exists_ruleRegex r
  refine ⟨exists_line h hr (if_pos (Rule.isLexical_eq_true hk)), ?_, fun rest => ?_⟩
  · rw [slashesEscaped_iff, hregex, eachSlash_escapeSlashes, ← slashesBare_iff, hbare]
  · rw [map_readTo_eq_some_iff, slashesEscaped_iff, hregex, pending_escapeSlashes]
    exact and_iff_left hpending

/-- Days of a month, with a slash that is left to be escaped. -/
def dayRule : Rule where
  name := "DAY"
  alternatives := [{ body := [.pattern "\\d+/\\d+"] }]

/-- Months of a year, with a slash that is escaped already. -/
def monthRule : Rule where
  name := "MONTH"
  alternatives := [{ body := [.pattern "\\d+\\/\\d+"] }, { body := [.lit "/"] }]

def dateLines : List Rule := [
  { name := "line", alternatives := [{ body := [.ref "DAY"] }, { body := [.ref "MONTH"] }] },
  dayRule, monthRule]

theorem slashes_escaped_iff_dateLines : ∃ g, build "Dates" "1" dateLines "line" = .ok g ∧
    (dayRule ∈ g.rules ∧ SlashesEscaped (ruleRegex dayRule)) ∧
    monthRule ∈ g.rules ∧ ruleRegex monthRule = "(?:(?:\\d+\\\\/\\d+)|\\/)".toList ∧
      ¬ SlashesEscaped (ruleRegex monthRule) := by
  have hbuild : build "Dates" "1" dateLines "line" = .ok (assemble "Dates" "1" dateLines "line") := by
    rfl
  have hday : dayRule ∈ (assemble "Dates" "1" dateLines "line").rules :=
    List.mem_cons_of_mem _ List.mem_cons_self
  have hmonth : monthRule ∈ (assemble "Dates" "1" dateLines "line").rules :=
    List.mem_cons_of_mem _ (List.mem_cons_of_mem _ List.mem_cons_self)
  refine ⟨_, hbuild, ⟨hday, (slashes_escaped_iff hbuild hday rfl).2.1.2 ?_⟩, hmonth, by decide,
    fun h => ?_⟩
  · intro a ha regex hregex
    obtain rfl := List.mem_singleton.1 ha
    obtain rfl : regex = "\\d+/\\d+" := by simpa using hregex
    simp [slashesBare_iff, eachSlash_cons, eachSlash_nil, pending]
  · have hbare :=
      (slashes_escaped_iff hbuild hmonth rfl).2.1.1 h _ List.mem_cons_self _ List.mem_cons_self
    exact absurd (hbare "\\d+\\".toList "\\d+".toList (by decide)) (by decide)

end Grammar

end Reckon
