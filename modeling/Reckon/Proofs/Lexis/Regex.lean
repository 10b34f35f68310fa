import Mathlib.Data.List.Basic
import Reckon.Lexis.Regex

/-!
# The words of a regular expression

`matches_deriv` is what makes matching by derivatives right: the derivative after `c` matches the
words that, with `c` before them, the expression itself matches. So `longest` finds the longest
prefix of a text that is a word of the expression (`longest_eq_some_iff`), and fails only where no
prefix is one (`longest_eq_none_iff`).
-/

namespace Reckon.Regex

variable {r s : Regex} {c : Char} {w : List Char}

theorem not_matches_nothing : ¬ nothing.Matches w := nofun

theorem matches_empty_iff : empty.Matches w ↔ w = [] :=
  ⟨fun h => by cases h; rfl, fun h => h ▸ .empty⟩

theorem matches_one_iff {k : CharClass} : (one k).Matches w ↔ ∃ c, k.contains c = true ∧ w = [c] :=
  ⟨fun h => by cases h with | one h => exact ⟨_, h, rfl⟩, fun ⟨_, hc, h⟩ => h ▸ .one hc⟩

theorem matches_seq_iff :
    (seq r s).Matches w ↔ ∃ u v, w = u ++ v ∧ r.Matches u ∧ s.Matches v :=
  ⟨fun h => by cases h with | seq hr hs => exact ⟨_, _, rfl, hr, hs⟩,
    fun ⟨_, _, h, hr, hs⟩ => h ▸ .seq hr hs⟩

theorem matches_alt_iff : (alt r s).Matches w ↔ r.Matches w ∨ s.Matches w := by
  constructor
  · intro h
    cases h with
    | altLeft h => exact .inl h
    | altRight h => exact .inr h
  · rintro (h | h)
    · exact .altLeft h
    · exact .altRight h

theorem matches_thenDo : (r.thenDo s).Matches w ↔ (seq r s).Matches w := by
  unfold thenDo
  split
  · simp [matches_seq_iff, not_matches_nothing]
  · simp [matches_seq_iff, matches_empty_iff]
  · rfl

theorem matches_orElse : (r.orElse s).Matches w ↔ (alt r s).Matches w := by
  unfold orElse
  split <;> simp [matches_alt_iff, not_matches_nothing]

theorem matches_ofText {cs : List Char} : (ofText cs).Matches w ↔ w = cs := by
  induction cs generalizing w with
  | nil => exact matches_empty_iff
  | cons c cs ih =>
    have hc : ∀ d, CharClass.contains ⟨false, [.char c]⟩ d = true ↔ c = d := by
      simp [CharClass.contains, ClassMember.contains]
    rw [show ofText (c :: cs) = seq (one ⟨false, [.char c]⟩) (ofText cs) from rfl, matches_seq_iff]
    constructor
    · rintro ⟨u, v, rfl, hu, hv⟩
      obtain ⟨d, hd, rfl⟩ := matches_one_iff.1 hu
      rw [ih.1 hv, (hc d).1 hd, List.singleton_append]
    · rintro rfl
      exact ⟨[c], cs, rfl, .one ((hc c).2 rfl), ih.2 rfl⟩

theorem nullable_iff (r : Regex) : r.nullable = true ↔ r.Matches [] := by
  induction r with
  | nothing => simp [nullable, not_matches_nothing]
  | empty => simp [nullable, matches_empty_iff]
  | one k => simp [nullable, matches_one_iff]
  | seq r s ihr ihs =>
    simp only [nullable, Bool.and_eq_true, ihr, ihs, matches_seq_iff]
    constructor
    · rintro ⟨hr, hs⟩
      exact ⟨[], [], rfl, hr, hs⟩
    · rintro ⟨u, v, h, hr, hs⟩
      obtain ⟨rfl, rfl⟩ := List.append_eq_nil_iff.1 h.symm
      exact ⟨hr, hs⟩
  | alt r s ihr ihs => simp only [nullable, Bool.or_eq_true, ihr, ihs, matches_alt_iff]
  | star r _ => exact ⟨fun _ => .starNil, fun _ => rfl⟩

/-- A repetition that is not empty begins with a part that is not empty. -/
theorem matches_star_cons :
    (star r).Matches (c :: w) ↔ ∃ u v, w = u ++ v ∧ r.Matches (c :: u) ∧ (star r).Matches v := by
  constructor
  · intro h
    generalize hr : star r = r' at h
    generalize hw : c :: w = w' at h
    induction h with
    | @starAppend r' u v hu hv _ ih =>
      obtain rfl := star.inj hr
      rcases u with _ | ⟨d, u⟩
      · exact ih rfl hw
      · obtain ⟨rfl, rfl⟩ := List.cons.inj hw
        exact ⟨u, v, rfl, hu, hv⟩
    | starNil => exact absurd hw (List.cons_ne_nil _ _)
    | empty | one | seq | altLeft | altRight => exact absurd hr nofun
  · rintro ⟨u, v, rfl, hu, hv⟩
    exact .starAppend hu hv

/-- The repetition of a class has the words over this class. -/
theorem matches_star_one {k : CharClass} :
    (star (one k)).Matches w ↔ ∀ c ∈ w, k.contains c = true := by
  induction w with
  | nil => exact ⟨fun _ => nofun, fun _ => .starNil⟩
  | cons c w ih =>
    rw [matches_star_cons, List.forall_mem_cons, ← ih]
    constructor
    · rintro ⟨u, v, rfl, hu, hv⟩
      obtain ⟨d, hd, he⟩ := matches_one_iff.1 hu
      obtain ⟨rfl, rfl⟩ := List.cons.inj he
      exact ⟨hd, hv⟩
    · rintro ⟨hc, hw⟩
      exact ⟨[], w, rfl, .one hc, hw⟩

/-- A sequence before a character: the first part begins with it, or is empty and the second
does. -/
theorem matches_seq_cons :
    (seq r s).Matches (c :: w) ↔
      (∃ u v, w = u ++ v ∧ r.Matches (c :: u) ∧ s.Matches v) ∨
        r.Matches [] ∧ s.Matches (c :: w) := by
  rw [matches_seq_iff]
  constructor
  · rintro ⟨u, v, h, hu, hv⟩
    rcases u with _ | ⟨d, u⟩
    · exact .inr ⟨hu, (show c :: w = v from h) ▸ hv⟩
    · obtain ⟨rfl, rfl⟩ := List.cons.inj h
      exact .inl ⟨u, v, rfl, hu, hv⟩
  · rintro (⟨u, v, rfl, hu, hv⟩ | ⟨hr, hs⟩)
    · exact ⟨c :: u, v, rfl, hu, hv⟩
    · exact ⟨[], c :: w, rfl, hr, hs⟩

theorem matches_deriv : (r.deriv c).Matches w ↔ r.Matches (c :: w) := by
  induction r generalizing w with
  | nothing => simp [deriv, not_matches_nothing]
  | empty => simp [deriv, not_matches_nothing, matches_empty_iff]
  | one k =>
    rw [deriv]
    split
    · rename_i h
      simp [matches_empty_iff, matches_one_iff, h]
    · rename_i h
      simp [not_matches_nothing, matches_one_iff, h]
  | seq r s ihr ihs =>
    rw [matches_seq_cons, deriv, ← nullable_iff]
    split
    · rename_i h
      simp only [matches_orElse, matches_alt_iff, matches_thenDo, matches_seq_iff, ihr, ihs, h,
        true_and]
    · rename_i h
      simp only [matches_thenDo, matches_seq_iff, ihr, h, Bool.false_eq_true, false_and, or_false]
  | alt r s ihr ihs =>
    rw [deriv, matches_orElse, matches_alt_iff, matches_alt_iff, ihr, ihs]
  | star r ih =>
    rw [deriv, matches_thenDo, matches_seq_iff, matches_star_cons]
    simp only [ih]

/-! ## The longest match -/

/-- The first `k` characters are the longest prefix that matches. -/
def IsLongest (r : Regex) (cs : List Char) (k : Nat) : Prop :=
  k ≤ cs.length ∧ r.Matches (cs.take k) ∧ ∀ j ≤ cs.length, r.Matches (cs.take j) → j ≤ k

theorem IsLongest.eq {cs : List Char} {j k : Nat} (hj : r.IsLongest cs j) (hk : r.IsLongest cs k) :
    j = k :=
  Nat.le_antisymm (hk.2.2 j hj.1 hj.2.1) (hj.2.2 k hk.1 hk.2.1)

theorem isLongest_cons {cs : List Char} {k : Nat} (h : (r.deriv c).IsLongest cs k) :
    r.IsLongest (c :: cs) (k + 1) := by
  obtain ⟨hk, hm, hmax⟩ := h
  refine ⟨Nat.succ_le_succ hk, by rwa [List.take_succ_cons, ← matches_deriv], ?_⟩
  rintro (_ | j) hj hr
  · exact Nat.zero_le _
  · rw [List.take_succ_cons, ← matches_deriv] at hr
    exact Nat.succ_le_succ (hmax j (Nat.le_of_succ_le_succ hj) hr)

/-- Where nothing matches after the next character, only the empty word is left to match. -/
theorem longest_of_stopped {cs : List Char} (n : Nat) (best : Option Nat)
    (h : ∀ j, ¬ (r.deriv c).Matches (cs.take j)) :
    (∃ k, r.IsLongest (c :: cs) k ∧ (if r.nullable then some n else best) = some (n + k)) ∨
      (∀ j, ¬ r.Matches ((c :: cs).take j)) ∧ (if r.nullable then some n else best) = best := by
  have hstop (j : Nat) : ¬ r.Matches ((c :: cs).take (j + 1)) := by
    rw [List.take_succ_cons, ← matches_deriv]
    exact h j
  split
  · rename_i hn
    refine .inl ⟨0, ⟨Nat.zero_le _, (nullable_iff r).1 hn, ?_⟩, rfl⟩
    rintro (_ | j) _ hr
    · exact Nat.le_refl 0
    · exact absurd hr (hstop j)
  · rename_i hn
    refine .inr ⟨?_, rfl⟩
    rintro (_ | j)
    · exact fun hr => hn ((nullable_iff r).2 hr)
    · exact hstop j

/-- After `n` characters, of which the first `best` matched, the longest match is the one that goes
on over the next `k` characters, or `best` if none does. -/
theorem longestFrom_cases (r : Regex) (cs : List Char) (n : Nat) (best : Option Nat) :
    (∃ k, r.IsLongest cs k ∧ r.longestFrom n best cs = some (n + k)) ∨
      (∀ j, ¬ r.Matches (cs.take j)) ∧ r.longestFrom n best cs = best := by
  induction cs generalizing r n best with
  | nil =>
    rw [longestFrom]
    split
    · rename_i h
      exact .inl ⟨0, ⟨Nat.le_refl 0, (nullable_iff r).1 h, fun j hj _ => hj⟩, rfl⟩
    · rename_i h
      refine .inr ⟨fun j hj => h ((nullable_iff r).2 ?_), rfl⟩
      rwa [List.take_nil] at hj
  | cons c cs ih =>
    rw [longestFrom]
    split
    · rename_i hd
      exact longest_of_stopped n best fun j => hd ▸ not_matches_nothing
    · rcases ih (r.deriv c) (n + 1) (if r.nullable then some n else best) with ⟨k, hk, he⟩ | ⟨h, he⟩
      · exact .inl ⟨k + 1, isLongest_cons hk, he.trans (by rw [Nat.add_right_comm, Nat.add_assoc])⟩
      · simp only [he]
        exact longest_of_stopped n best h

theorem longest_eq_some_iff {cs : List Char} {k : Nat} :
    r.longest cs = some k ↔ r.IsLongest cs k := by
  unfold longest
  rcases longestFrom_cases r cs 0 none with ⟨j, hj, he⟩ | ⟨h, he⟩ <;> rw [he]
  · rw [Nat.zero_add, Option.some_inj]
    exact ⟨fun h => h ▸ hj, fun h => hj.eq h⟩
  · exact ⟨nofun, fun hk => absurd hk.2.1 (h k)⟩

theorem longest_eq_none_iff {cs : List Char} :
    r.longest cs = none ↔ ∀ j, ¬ r.Matches (cs.take j) := by
  unfold longest
  rcases longestFrom_cases r cs 0 none with ⟨j, hj, he⟩ | ⟨h, he⟩ <;> rw [he]
  · exact ⟨nofun, fun h => absurd hj.2.1 (h j)⟩
  · exact ⟨fun _ => h, fun _ => rfl⟩

end Reckon.Regex
