import Mathlib.Data.List.Pairwise
import Reckon.Proofs.Grammar.Derivation
import Reckon.Proofs.Grammar.WellFormed

/-!
# What splitting off labels leaves as it is

`DerivesAsWritten` says which words the declared rules derive as they are written. A label plays no
part there, but that the name of a rule with the label after it means this one alternative. The rules
of the grammar that is built from them derive the same words (`derives_iff_asWritten`).

Where a reference is left of an alternative, a derivation takes one more step, by the rule split off.
Back again, the name of that rule has to mean the alternative and nothing else
(`DerivesAsWritten.of_label`): no two names are the same.
-/

namespace Reckon

/-- By the rules as they are written the row of items derives the word. -/
inductive DerivesAsWritten (declared : List Rule) : List Item → List Terminal → Prop
  | nil : DerivesAsWritten declared [] []
  | lit (text : String) {is : List Item} {w : List Terminal} (h : DerivesAsWritten declared is w) :
      DerivesAsWritten declared (.lit text :: is) (.literal text :: w)
  | lexical {r : Rule} {is : List Item} {w : List Terminal} (hr : r ∈ declared)
      (hl : r.kind = .lexical) (h : DerivesAsWritten declared is w) :
      DerivesAsWritten declared (.ref r.name :: is) (.lexical r.name :: w)
  | rule {r : Rule} {a : Alternative} {is : List Item} {u w : List Terminal} (hr : r ∈ declared)
      (hs : r.kind = .syntactic) (ha : a ∈ r.alternatives) (hu : DerivesAsWritten declared a.body u)
      (h : DerivesAsWritten declared is w) :
      DerivesAsWritten declared (.ref r.name :: is) (u ++ w)
  | label {r : Rule} {a : Alternative} {l : String} {is : List Item} {u w : List Terminal}
      (hr : r ∈ declared) (hs : r.kind = .syntactic) (ha : a ∈ r.alternatives)
      (hl : a.label = some l) (hu : DerivesAsWritten declared a.body u)
      (h : DerivesAsWritten declared is w) :
      DerivesAsWritten declared (.ref (Rule.labelled r.name l) :: is) (u ++ w)
  | list {item separator : String} (k : Nat) {is : List Item} {u w : List Terminal}
      (hu : DerivesAsWritten declared (Item.repeated item separator k) u)
      (h : DerivesAsWritten declared is w) :
      DerivesAsWritten declared (.listOf item separator :: is) (u ++ w)

namespace Grammar

variable {g : Grammar} {declared : List Rule} {name version start : String} {r : Rule}
  {a : Alternative} {l : String} {is : List Item} {u w : List Terminal}

theorem mem_rules_of_build (h : build name version declared start = .ok g) {s : Rule} :
    s ∈ g.rules ↔ ∃ r ∈ declared, s ∈ r.expand := by
  obtain ⟨rfl, -⟩ := build_eq_ok_iff.1 h
  exact List.mem_flatMap

/-! ## From the rules as they are written -/

section Forth

variable (h : build name version declared start = .ok g) (hr : r ∈ declared)
  (hs : r.kind = .syntactic) (ha : a ∈ r.alternatives)

include h hr hs ha

/-- The rule split off derives what its alternative does. -/
theorem derives_label (hl : a.label = some l) (hu : g.Derives a.body u) (hw : g.Derives is w) :
    g.Derives (.ref (Rule.labelled r.name l) :: is) (u ++ w) := by
  have hmem : r.splitOff l a ∈ g.rules :=
    (mem_rules_of_build h).2 ⟨r, hr, List.mem_cons_of_mem _ (Rule.mem_inlined.2 ⟨a, ha, l, hl, rfl⟩)⟩
  exact .rule hmem (Rule.isLexical_eq_false_iff.2 ((Rule.kind_splitOff l a).trans hs))
    List.mem_cons_self hu hw

theorem derives_delegating (hu : g.Derives a.body u) (hw : g.Derives is w) :
    g.Derives (.ref r.name :: is) (u ++ w) := by
  have hmem : r.delegating ∈ g.rules := (mem_rules_of_build h).2 ⟨r, hr, List.mem_cons_self⟩
  have hleft : Rule.delegated r.name a ∈ r.delegating.alternatives := List.mem_map_of_mem ha
  refine .rule (r := r.delegating) hmem (Rule.isLexical_eq_false_iff.2 hs) hleft ?_ hw
  rcases hl : a.label with _ | l
  · rwa [Rule.delegated_of_unlabelled hl]
  · rw [Rule.delegated_of_label hl, ← List.append_nil u]
    exact derives_label h hr hs ha hl hu .nil

end Forth

/-- A lexical rule of a grammar is one that is declared. -/
theorem mem_lexicalNames_of_build (h : build name version declared start = .ok g) {n : String} :
    n ∈ g.lexicalNames ↔ ∃ r ∈ declared, r.kind = .lexical ∧ r.name = n := by
  have hwell := exists_build_iff.1 ⟨g, h⟩
  have hexpand {r : Rule} (hr : r ∈ declared) (hl : r.kind = .lexical) : r.expand = [r] :=
    Rule.expand_of_unlabelled fun a ha => (hwell.lexical r hr hl a ha).1
  simp only [lexicalNames, List.mem_map, List.mem_filter, mem_rules_of_build h]
  constructor
  · rintro ⟨s, ⟨⟨r, hr, hs⟩, hl⟩, rfl⟩
    have hl : s.kind = .lexical := eq_of_beq hl
    have hkind : r.kind = .lexical := by
      rcases List.mem_cons.1 hs with rfl | hs
      · exact hl
      · obtain ⟨a, -, l, -, rfl⟩ := Rule.mem_inlined.1 hs
        exact (Rule.kind_splitOff l a).symm.trans hl
    rw [hexpand hr hkind, List.mem_singleton] at hs
    exact ⟨r, hr, hkind, hs ▸ rfl⟩
  · rintro ⟨r, hr, hl, rfl⟩
    exact ⟨r, ⟨⟨r, hr, hexpand hr hl ▸ List.mem_cons_self⟩, beq_iff_eq.2 hl⟩, rfl⟩

end Grammar

open Grammar

variable {g : Grammar} {declared : List Rule} {name version start : String} {r : Rule}
  {a : Alternative} {l : String} {is : List Item} {u w : List Terminal}

theorem DerivesAsWritten.derives (h : build name version declared start = .ok g)
    (hw : DerivesAsWritten declared is w) : g.Derives is w := by
  induction hw with
  | nil => exact .nil
  | lit text _ ih => exact .lit text ih
  | lexical hr hl _ ih => exact .lexical ((mem_lexicalNames_of_build h).2 ⟨_, hr, hl, rfl⟩) ih
  | rule hr hs ha _ _ ihu ih => exact derives_delegating h hr hs ha ihu ih
  | label hr hs ha hl _ _ ihu ih => exact derives_label h hr hs ha hl ihu ih
  | list k _ _ ihu ih => exact .list k ihu ih

/-! ## Back to the rules as they are written -/

theorem Rule.labelled_ne (name label : String) : labelled name label ≠ name := by
  intro h
  have hlength := congrArg String.length h
  have hone : "_".length = 1 := rfl
  rw [labelled, String.length_append, String.length_append, hone] at hlength
  omega

theorem Rule.labelled_inj {name l l' : String} (h : labelled name l = labelled name l') : l = l' := by
  simpa [labelled] using h

theorem Rule.labelled_mem_names (ha : a ∈ r.alternatives) (hl : a.label = some l) :
    labelled r.name l ∈ r.names :=
  List.mem_cons_of_mem _ (List.mem_map_of_mem (List.mem_filterMap.2 ⟨a, ha, hl⟩))

/-- A name is brought by one rule only. -/
theorem WellFormed.rule_eq (h : WellFormed declared start) {s : Rule} {n : String} (hr : r ∈ declared)
    (hs : s ∈ declared) (hn : n ∈ r.names) (hn' : n ∈ s.names) : r = s := by
  by_contra hne
  have hsymm : Std.Symm (Function.onFun List.Disjoint Rule.names) :=
    ⟨fun _ _ hd _ hn hn' => hd hn' hn⟩
  exact (List.nodup_flatMap.1 h.nodup).2.forall hr hs hne hn hn'

/-- A label is given to one alternative of a rule only. -/
theorem WellFormed.body_eq (h : WellFormed declared start) {b : Alternative} (hr : r ∈ declared)
    (ha : a ∈ r.alternatives) (hb : b ∈ r.alternatives) (hla : a.label = some l)
    (hlb : b.label = some l) : a.body = b.body := by
  have hnodup : (r.inlined.map (·.name)).Nodup := by
    have hnames := (List.nodup_flatMap.1 h.nodup).1 r hr
    rw [← Rule.map_name_expand] at hnames
    exact hnames.of_cons
  have hrule := List.inj_on_of_nodup_map hnodup (Rule.mem_inlined.2 ⟨a, ha, l, hla, rfl⟩)
    (Rule.mem_inlined.2 ⟨b, hb, l, hlb, rfl⟩) rfl
  simpa [Rule.splitOff] using hrule

/-- The name of a rule with a label means the alternative with this label. -/
theorem DerivesAsWritten.of_label (h : WellFormed declared start) (hr : r ∈ declared)
    (hs : r.kind = .syntactic) (ha : a ∈ r.alternatives) (hl : a.label = some l)
    (hw : DerivesAsWritten declared [.ref (Rule.labelled r.name l)] w) :
    DerivesAsWritten declared a.body w := by
  have hname := Rule.labelled_mem_names ha hl
  generalize hn : Rule.labelled r.name l = n at hw hname
  cases hw with
  | @lexical s _ _ hs' hl' =>
    have hkind := (Rule.ofName_labelled r.name l).trans hs
    rw [hn] at hkind
    cases hkind.symm.trans hl'
  | @rule s b _ u v hs' _ hb hu hnil =>
    obtain rfl := h.rule_eq hr hs' hname List.mem_cons_self
    exact absurd hn (Rule.labelled_ne r.name l)
  | @label s b l' _ u v hs' _ hb hlb hu hnil =>
    obtain rfl := h.rule_eq hr hs' hname (Rule.labelled_mem_names hb hlb)
    obtain rfl := Rule.labelled_inj hn
    cases hnil
    rwa [List.append_nil, h.body_eq hr ha hb hl hlb]

theorem Grammar.Derives.asWritten (h : build name version declared start = .ok g)
    (hw : g.Derives is w) : DerivesAsWritten declared is w := by
  have hwell := exists_build_iff.1 ⟨g, h⟩
  induction hw with
  | nil => exact .nil
  | lit text _ ih => exact .lit text ih
  | lexical hn _ ih =>
    obtain ⟨r, hr, hl, rfl⟩ := (mem_lexicalNames_of_build h).1 hn
    exact .lexical hr hl ih
  | @rule s b _ _ _ hs hk hb _ _ ihu ih =>
    obtain ⟨r, hr, hs⟩ := (mem_rules_of_build h).1 hs
    have hkind := Rule.isLexical_eq_false_iff.1 hk
    rcases List.mem_cons.1 hs with rfl | hs
    · rw [Rule.alternatives_delegating] at hb
      obtain ⟨a, ha, rfl⟩ := List.mem_map.1 hb
      rcases hl : a.label with _ | l
      · rw [Rule.delegated_of_unlabelled hl] at ihu
        exact .rule (r := r) hr hkind ha ihu ih
      · rw [Rule.delegated_of_label hl] at ihu
        exact .rule (r := r) hr hkind ha (ihu.of_label hwell hr hkind ha hl) ih
    · obtain ⟨a, ha, l, hl, rfl⟩ := Rule.mem_inlined.1 hs
      obtain rfl := List.mem_singleton.1 hb
      exact .label hr ((Rule.kind_splitOff l a).symm.trans hkind) ha hl ihu ih
  | list k _ _ ihu ih => exact .list k ihu ih

/-- The rules of a grammar derive from a declared rule what this rule derives as it is written, and
from a rule split off what the alternative with its label does. -/
theorem derives_iff_asWritten (h : build name version declared start = .ok g) (hr : r ∈ declared)
    (hs : r.kind = .syntactic) (w : List Terminal) :
    (g.Derives [.ref r.name] w ↔ DerivesAsWritten declared [.ref r.name] w) ∧
      ∀ a ∈ r.alternatives, ∀ l, a.label = some l →
        (g.Derives [.ref (Rule.labelled r.name l)] w ↔ DerivesAsWritten declared a.body w) := by
  refine ⟨⟨fun hw => hw.asWritten h, fun hw => hw.derives h⟩, fun a ha l hl => ⟨fun hw => ?_, fun hw => ?_⟩⟩
  · exact (hw.asWritten h).of_label (exists_build_iff.1 ⟨g, h⟩) hr hs ha hl
  · rw [← List.append_nil w]
    exact derives_label h hr hs ha hl (hw.derives h) .nil

def sumRule : Rule where
  name := "sum"
  alternatives := [
    { body := [.ref "sum", .lit "+", .ref "NUMBER"], label := some "plus" },
    { body := [.ref "NUMBER"] }]

/-- Sums, and lists of the sums that end with an addition. -/
def sumLists : List Rule := [
  sumRule,
  { name := "lists", alternatives := [{ body := [.listOf "sum_plus" ","] }] },
  { name := "NUMBER", alternatives := [{ body := [.pattern "[0-9]+"] }] }]

theorem derives_iff_asWritten_sumLists :
    ∃ g, build "Sums" "1" sumLists "lists" = .ok g ∧ sumRule ∈ sumLists ∧ sumRule.kind = .syntactic ∧
      g.Derives [.ref "sum"] [.lexical "NUMBER", .literal "+", .lexical "NUMBER"] ∧
      g.Derives [.ref "sum_plus"] [.lexical "NUMBER", .literal "+", .lexical "NUMBER"] := by
  have hbuild : build "Sums" "1" sumLists "lists" = .ok (assemble "Sums" "1" sumLists "lists") := by
    rfl
  have hrule : sumRule ∈ sumLists := List.mem_cons_self
  have hnumber : DerivesAsWritten sumLists [.ref "NUMBER"] [.lexical "NUMBER"] :=
    .lexical (r := ⟨"NUMBER", [⟨[.pattern "[0-9]+"], none⟩], none⟩) (by simp [sumLists]) rfl .nil
  have hbody : DerivesAsWritten sumLists [.ref "sum", .lit "+", .ref "NUMBER"]
      [.lexical "NUMBER", .literal "+", .lexical "NUMBER"] :=
    .rule (r := sumRule) (u := [.lexical "NUMBER"]) hrule rfl (List.mem_cons_of_mem _ List.mem_cons_self)
      hnumber (.lit "+" hnumber)
  obtain ⟨hsum, hplus⟩ := derives_iff_asWritten hbuild hrule rfl
    [.lexical "NUMBER", .literal "+", .lexical "NUMBER"]
  refine ⟨_, hbuild, hrule, rfl, hsum.2 ?_, (hplus _ List.mem_cons_self "plus" rfl).2 hbody⟩
  exact .rule (r := sumRule) (w := []) hrule rfl List.mem_cons_self hbody .nil

end Reckon
