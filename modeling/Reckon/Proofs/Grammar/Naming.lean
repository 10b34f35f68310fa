import Reckon.Grammar.Printer
import Reckon.Proofs.Grammar.ListNames
import Reckon.Proofs.Grammar.WellFormed

/-!
# The names of a rendered grammar

A grammar as text defines a name a line: its rules, then its lists, and at last it imports the blanks
under the name `WS`. `SoundNames` is what a parser generator asks of these names: no two are the same,
those of lexical rules are in capitals, and those of the other rules and of lists in small letters.

Every grammar has a text. What is checked when it is built does not make its names sound, though. For
that also no name may end with a line feed, none may be `WS`, and no list may be of a lexical rule, for
its name would start with that of the rule (`soundNames_iff`).
-/

namespace Reckon

/-! ## Plain names -/

namespace RuleKind

variable {k : RuleKind}

theorem isUpper_iff {c : Char} : c.isUpper = true ↔ 65 ≤ c.toNat ∧ c.toNat ≤ 90 := by
  change decide ('A'.val ≤ c.val ∧ c.val ≤ 'Z'.val) = true ↔ _
  simp [UInt32.le_iff_toNat_le, ← Char.toNat_val]

theorem isLower_iff {c : Char} : c.isLower = true ↔ 97 ≤ c.toNat ∧ c.toNat ≤ 122 := by
  change (decide ('a'.val ≤ c.val) && decide (c.val ≤ 'z'.val)) = true ↔ _
  simp [UInt32.le_iff_toNat_le, ← Char.toNat_val]

theorem isUppercase_of_isLetter {c : Char} (h : k.isLetter c = true) :
    isUppercase c = (k == .lexical) := by
  cases k with
  | syntactic =>
    have hcode := isLower_iff.1 h
    have hupper : c.isUpper = false := Bool.eq_false_iff.2 fun hupper => by
      have := isUpper_iff.1 hupper
      omega
    rw [isUppercase, if_pos (by omega), hupper]
    rfl
  | lexical =>
    have hcode := isUpper_iff.1 h
    have hupper : c.isUpper = true := h
    rw [isUppercase, if_pos (by omega), hupper]
    rfl

/-- Its first letter tells the kind of a plain name. -/
theorem IsPlain.ofName_eq {name : String} (h : k.IsPlain name.toList) : ofName name = k := by
  obtain ⟨c, rest, hname, hc, -⟩ := h
  rw [ofName, hname]
  change (if isUppercase c then lexical else syntactic) = k
  rw [isUppercase_of_isLetter hc]
  cases k <;> rfl

theorem IsName.isPlain_iff {cs : List Char} (h : k.IsName cs) : k.IsPlain cs ↔ '\n' ∉ cs := by
  refine ⟨IsPlain.not_newline, fun hnot => h.resolve_right ?_⟩
  rintro ⟨w, -, rfl⟩
  exact hnot (List.mem_append_right w List.mem_cons_self)

end RuleKind

namespace Grammar

/-- The names that the text of a grammar defines. -/
def definedNames (g : Grammar) : List String := g.ruleNames ++ g.listNames ++ ["WS"]

/-- The names are such as a parser generator takes. -/
structure SoundNames (g : Grammar) : Prop where
  nodup : g.definedNames.Nodup
  rules : ∀ r ∈ g.rules, r.kind.IsPlain r.name.toList
  lists : ∀ name ∈ g.listNames, RuleKind.syntactic.IsPlain name.toList

variable {g : Grammar} {declared : List Rule} {name version start : String}

/-! ## The text -/

section Text

theorem rules_of_build (h : build name version declared start = .ok g) :
    g.lists = nameLists g.rules ∧ ∀ r ∈ g.rules, r.Filled g.ruleNames := by
  obtain ⟨rfl, -, -, hfilled, -⟩ := build_eq_ok_iff.1 h
  refine ⟨rfl, fun s hs => ?_⟩
  obtain ⟨r, hr, hs⟩ := List.mem_flatMap.1 hs
  rw [ruleNames_assemble]
  exact hfilled r hr s hs

theorem named_of_build (h : build name version declared start = .ok g) :
    Named g.ruleNames (listItems g.rules) g.lists := by
  rw [(rules_of_build h).1]
  exact named_nameLists (nodup_of_build h)

theorem mem_listItems {rules : List Rule} {item separator : String} :
    (item, separator) ∈ listItems rules ↔
      ∃ r ∈ rules, ∃ a ∈ r.alternatives, .listOf item separator ∈ a.body := by
  simp only [listItems, List.mem_flatMap, List.mem_filterMap]
  refine exists_congr fun r => and_congr_right fun _ => exists_congr fun a => and_congr_right fun _ => ?_
  constructor
  · rintro ⟨i, hi, hkey⟩
    split at hkey
    · obtain ⟨rfl, rfl⟩ := Prod.mk.inj (Option.some.inj hkey)
      exact hi
    · cases hkey
  · exact fun hi => ⟨_, hi, rfl⟩

theorem exists_itemText (h : build name version declared start = .ok g) {r : Rule} (hr : r ∈ g.rules)
    (hs : r.kind = .syntactic) {a : Alternative} (ha : a ∈ r.alternatives) {i : Item} (hi : i ∈ a.body) :
    ∃ text, g.itemText? i = some text := by
  have hfits : i.Fits g.ruleNames :=
    (Rule.filled_of_syntactic hs).1 ((rules_of_build h).2 r hr) |>.1 a ha |>.2 i hi
  cases i with
  | ref name => exact ⟨_, rfl⟩
  | lit text => exact ⟨_, rfl⟩
  | pattern regex => exact hfits.elim
  | listOf item separator =>
    have hkey : (item, separator) ∈ g.lists.map (·.1) :=
      ((named_of_build h).mem_keys _).2 (mem_listItems.2 ⟨r, hr, a, ha, hi⟩)
    obtain ⟨l, hl, hkey⟩ := List.mem_map.1 hkey
    have hfound : (g.lists.find? (·.1 == (item, separator))).isSome :=
      List.find?_isSome.2 ⟨l, hl, beq_iff_eq.2 hkey⟩
    obtain ⟨found, hfound⟩ := Option.isSome_iff_exists.1 hfound
    exact ⟨found.2, by rw [itemText?, listName?, hfound, Option.map_some]⟩

/-- The line of a rule defines its name. -/
theorem exists_ruleText (h : build name version declared start = .ok g) {r : Rule} (hr : r ∈ g.rules) :
    ∃ body, g.ruleText? r = some (r.name ++ ": " ++ body) := by
  unfold ruleText?
  rcases hk : r.kind with _ | _
  · rw [if_neg (by simp [Rule.isLexical_eq_false_iff.2 hk])]
    have hchoices : ∀ a ∈ r.alternatives, ∃ text, a.body.mapM g.itemText? = some text := by
      intro a ha
      choose! text htext using fun i => exists_itemText h hr hk ha (i := i)
      exact ⟨_, mapM_eq_some htext⟩
    choose! texts htexts using hchoices
    rw [mapM_eq_some fun a ha => by rw [htexts a ha]; rfl]
    exact ⟨_, rfl⟩
  · rw [if_pos (Rule.isLexical_eq_true hk)]
    have hslash : ": /" = ": " ++ "/" := rfl
    exact ⟨"/" ++ String.ofList (ruleRegex r) ++ "/", by simp only [hslash, String.append_assoc]⟩

theorem exists_listText (l : ListKey × String) : ∃ body, listText l = l.2 ++ ": " ++ body := by
  obtain ⟨⟨item, separator⟩, name⟩ := l
  have hparenthesis : ": (" = ": " ++ "(" := rfl
  exact ⟨"(" ++ item ++ " (" ++ String.ofList (literal separator.toList) ++ " " ++ item ++ ")*)?",
    by simp only [listText, hparenthesis, String.append_assoc]⟩

/-- Between a heading and the import of blanks stands a definition of each name. -/
theorem exists_render (h : build name version declared start = .ok g) :
    ∃ bodies : List String, bodies.length = (g.ruleNames ++ g.listNames).length ∧
      g.render? = some ("\n".intercalate (["// " ++ name ++ " grammar v" ++ version] ++
        List.zipWith (· ++ ": " ++ ·) (g.ruleNames ++ g.listNames) bodies ++
          ["%import common.WS", "%ignore WS"]) ++ "\n") := by
  choose! ruleBody hruleBody using fun r => exists_ruleText h (r := r)
  choose listBody hlistBody using exists_listText
  have hhead : g.name = name ∧ g.version = version := by
    obtain ⟨rfl, -⟩ := build_eq_ok_iff.1 h
    exact ⟨rfl, rfl⟩
  refine ⟨g.rules.map ruleBody ++ g.lists.map listBody, by simp [ruleNames, listNames], ?_⟩
  have hlists : g.lists.map listText = g.lists.map fun l => l.2 ++ ": " ++ listBody l :=
    List.map_congr_left fun l _ => hlistBody l
  rw [render?, mapM_eq_some hruleBody, hlists, hhead.1, hhead.2, ruleNames, listNames,
    List.zipWith_append (by simp), List.zipWith_map, List.zipWith_map, List.zipWith_self,
    List.zipWith_self]
  simp

end Text

/-! ## The names -/

section Names

/-- The name of a list is plain if that of its item is. -/
theorem isPlain_listCandidate (item : String) (n : Nat) :
    RuleKind.syntactic.IsPlain (listCandidate item n).toList ↔
      RuleKind.syntactic.IsPlain item.toList := by
  obtain ⟨s, hs, htail⟩ := exists_listCandidate item n
  rw [hs]
  constructor
  · rintro ⟨c, rest, heq, hc, hrest⟩
    rcases List.append_eq_cons_iff.1 heq with ⟨hitem, hcons⟩ | ⟨rest', hitem, hrest'⟩
    · obtain ⟨rfl, -⟩ := List.cons.inj hcons
      cases hc
    · exact ⟨c, rest', hitem, hc, fun d hd => hrest d (hrest' ▸ List.mem_append_left _ hd)⟩
  · rintro ⟨c, rest, hitem, hc, hrest⟩
    refine ⟨c, rest ++ '_' :: s, by rw [hitem, List.cons_append], hc, fun d hd => ?_⟩
    rcases List.mem_append.1 hd with hd | hd
    · exact hrest d hd
    · rcases List.mem_cons.1 hd with rfl | hd
      · exact .inr (.inr rfl)
      · exact (htail d hd).imp_right .inl

theorem listCandidate_ne_blanks (item : String) (n : Nat) : listCandidate item n ≠ "WS" := by
  obtain ⟨s, hs, -⟩ := exists_listCandidate item n
  intro h
  have hmem : '_' ∈ "WS".toList := by
    rw [← h, hs]
    exact List.mem_append_right _ List.mem_cons_self
  exact absurd hmem (by decide)

/-- The lists of a grammar are those in the rules as they are written. -/
theorem mem_listItems_of_build (h : build name version declared start = .ok g)
    {item separator : String} : (item, separator) ∈ listItems g.rules ↔
      ∃ r ∈ declared, ∃ a ∈ r.alternatives, .listOf item separator ∈ a.body := by
  obtain ⟨rfl, -⟩ := build_eq_ok_iff.1 h
  rw [mem_listItems]
  constructor
  · rintro ⟨s, hs, a, ha, hi⟩
    obtain ⟨r, hr, hs⟩ := List.mem_flatMap.1 hs
    rcases List.mem_cons.1 hs with rfl | hs
    · rw [Rule.alternatives_delegating] at ha
      obtain ⟨b, hb, rfl⟩ := List.mem_map.1 ha
      rcases hl : b.label with _ | l
      · rw [Rule.delegated_of_unlabelled hl] at hi
        exact ⟨r, hr, b, hb, hi⟩
      · rw [Rule.delegated_of_label hl] at hi
        simp at hi
    · obtain ⟨b, hb, l, -, rfl⟩ := Rule.mem_inlined.1 hs
      obtain rfl := List.mem_singleton.1 ha
      exact ⟨r, hr, b, hb, hi⟩
  · rintro ⟨r, hr, a, ha, hi⟩
    rcases hl : a.label with _ | l
    · refine ⟨r.delegating, List.mem_flatMap.2 ⟨r, hr, List.mem_cons_self⟩, a, ?_, hi⟩
      rw [Rule.alternatives_delegating]
      exact List.mem_map.2 ⟨a, ha, Rule.delegated_of_unlabelled hl⟩
    · have hs := Rule.mem_inlined.2 ⟨a, ha, l, hl, rfl⟩
      exact ⟨_, List.mem_flatMap.2 ⟨r, hr, List.mem_cons_of_mem _ hs⟩, _, List.mem_cons_self, hi⟩

variable (h : build name version declared start = .ok g)

include h

theorem ruleNames_of_build : g.ruleNames = declared.flatMap Rule.names := by
  obtain ⟨rfl, -⟩ := build_eq_ok_iff.1 h
  exact ruleNames_assemble name version declared start

theorem nodup_definedNames_iff : g.definedNames.Nodup ↔ "WS" ∉ g.ruleNames := by
  have hnamed := named_of_build h
  have hlists : "WS" ∉ g.listNames := by
    intro hmem
    obtain ⟨l, hl, hname⟩ := List.mem_map.1 hmem
    obtain ⟨n, hn⟩ := hnamed.candidate l hl
    exact listCandidate_ne_blanks l.1.1 n (hn.symm.trans hname)
  rw [definedNames, ← List.concat_eq_append, List.nodup_concat, List.mem_append]
  exact ⟨fun hnodup hmem => hnodup.1 (.inl hmem), fun hnot => ⟨(Or.elim · hnot hlists), hnamed.nodup⟩⟩

/-- The names of rules are plain if no line feed ends them. -/
theorem isPlain_ruleNames_iff :
    (∀ r ∈ g.rules, r.kind.IsPlain r.name.toList) ↔ ∀ n ∈ g.ruleNames, '\n' ∉ n.toList := by
  have hwell := exists_build_iff.1 ⟨g, h⟩
  rw [ruleNames, List.forall_mem_map]
  refine forall₂_congr fun r hr => RuleKind.IsName.isPlain_iff (hwell.isName r.name ?_)
  rw [← ruleNames_of_build h]
  exact List.mem_map_of_mem hr

/-- The item of a list is a rule. -/
theorem item_mem_ruleNames {item separator : String} (hkey : (item, separator) ∈ listItems g.rules) :
    item ∈ g.ruleNames := by
  have hwell := exists_build_iff.1 ⟨g, h⟩
  obtain ⟨r, hr, a, ha, hi⟩ := (mem_listItems_of_build h).1 hkey
  rw [ruleNames_of_build h]
  rcases hk : RuleKind.ofName r.name with _ | _
  · exact ((hwell.syntactic r hr hk).1 a ha _ hi).1
  · exact absurd ((hwell.lexical r hr hk a ha).2 _ hi) Bool.false_ne_true

/-- When the names of rules are plain, those of lists are if their items are no lexical rules. -/
theorem isPlain_listNames_iff (hplain : ∀ r ∈ g.rules, r.kind.IsPlain r.name.toList) :
    (∀ n ∈ g.listNames, RuleKind.syntactic.IsPlain n.toList) ↔
      ∀ key ∈ listItems g.rules, RuleKind.ofName key.1 = .syntactic := by
  have hnamed := named_of_build h
  have hname : ∀ l ∈ g.lists,
      RuleKind.syntactic.IsPlain l.2.toList ↔ RuleKind.syntactic.IsPlain l.1.1.toList := by
    intro l hl
    obtain ⟨n, hn⟩ := hnamed.candidate l hl
    rw [hn, isPlain_listCandidate]
  constructor
  · intro hlists key hkey
    obtain ⟨l, hl, rfl⟩ := List.mem_map.1 ((hnamed.mem_keys key).2 hkey)
    exact ((hname l hl).1 (hlists _ (List.mem_map_of_mem hl))).ofName_eq
  · intro hitems n hn
    obtain ⟨l, hl, rfl⟩ := List.mem_map.1 hn
    have hkey : l.1 ∈ listItems g.rules := (hnamed.mem_keys _).1 (List.mem_map_of_mem hl)
    obtain ⟨r, hr, hitem⟩ := List.mem_map.1 (item_mem_ruleNames h hkey)
    have hkind : r.kind = .syntactic := (congrArg RuleKind.ofName hitem).trans (hitems _ hkey)
    rw [hname l hl, ← hitem, ← hkind]
    exact hplain r hr

end Names

/-- A grammar that was built has a text, in which each of its rules and lists gets a definition. The
names are sound if and only if no rule is named with a line feed or is named as the blanks are, and no
list is of a lexical rule. -/
theorem soundNames_iff (h : build name version declared start = .ok g) :
    (∃ bodies : List String, bodies.length = (g.ruleNames ++ g.listNames).length ∧
      g.render? = some ("\n".intercalate (["// " ++ name ++ " grammar v" ++ version] ++
        List.zipWith (· ++ ": " ++ ·) (g.ruleNames ++ g.listNames) bodies ++
          ["%import common.WS", "%ignore WS"]) ++ "\n")) ∧
    (g.SoundNames ↔ (∀ n ∈ declared.flatMap Rule.names, '\n' ∉ n.toList) ∧
      "WS" ∉ declared.flatMap Rule.names ∧
      ∀ r ∈ declared, ∀ a ∈ r.alternatives, ∀ item separator, .listOf item separator ∈ a.body →
        RuleKind.ofName item = .syntactic) := by
  refine ⟨exists_render h, ?_⟩
  have hlists : (∀ key ∈ listItems g.rules, RuleKind.ofName key.1 = .syntactic) ↔
      ∀ r ∈ declared, ∀ a ∈ r.alternatives, ∀ item separator, .listOf item separator ∈ a.body →
        RuleKind.ofName item = .syntactic := by
    constructor
    · exact fun hall r hr a ha item separator hi =>
        hall _ ((mem_listItems_of_build h).2 ⟨r, hr, a, ha, hi⟩)
    · rintro hall ⟨item, separator⟩ hkey
      obtain ⟨r, hr, a, ha, hi⟩ := (mem_listItems_of_build h).1 hkey
      exact hall r hr a ha item separator hi
  rw [← ruleNames_of_build h, ← hlists]
  constructor
  · intro hsound
    exact ⟨(isPlain_ruleNames_iff h).1 hsound.rules, (nodup_definedNames_iff h).1 hsound.nodup,
      (isPlain_listNames_iff h hsound.rules).1 hsound.lists⟩
  · rintro ⟨hnewline, hblanks, hitems⟩
    have hplain := (isPlain_ruleNames_iff h).2 hnewline
    exact ⟨(nodup_definedNames_iff h).2 hblanks, hplain, (isPlain_listNames_iff h hplain).2 hitems⟩

/-- Lines of words, of which the lexical rule is made a list. -/
def wordLines : List Rule := [
  { name := "line", alternatives := [{ body := [.listOf "WORD" ","] }] },
  { name := "WORD", alternatives := [{ body := [.pattern "[a-z]+"] }] }]

theorem soundNames_iff_wordLines :
    ∃ g, build "Words" "1" wordLines "line" = .ok g ∧
      g.definedNames = ["line", "WORD", "WORD_list", "WS"] ∧ ¬ g.SoundNames := by
  have hbuild : build "Words" "1" wordLines "line" =
      .ok (assemble "Words" "1" wordLines "line") := by rfl
  refine ⟨_, hbuild, by rfl, fun hsound => ?_⟩
  have hitem := ((soundNames_iff hbuild).2.1 hsound).2.2 _ List.mem_cons_self _ List.mem_cons_self
    "WORD" "," List.mem_cons_self
  exact absurd hitem (by decide)

end Grammar

end Reckon
