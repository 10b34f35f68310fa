import Mathlib.Data.List.Nodup
import Reckon.Grammar.Check

/-!
# The names of lists

A list gets the first of its candidates that is not taken. The candidates of an item differ from each
other, so of one more than there are names taken one is free (`freshListName_notMem`).

`Named` is what holds whenever some of the lists have names: these are candidates of their items, and
none of them is the name of a rule or of another list. Giving a name to one more list keeps it
(`Named.nameList`), so it holds when all have names (`named_nameLists`).
-/

namespace Reckon.Grammar

/-! ## Candidates -/

theorem toString_injective {m n : Nat} (h : toString m = toString n) : m = n := by
  have hdigits := congrArg (fun s => Nat.ofDigitChars 10 s.toList 0) h
  simpa only [Nat.toString_eq_repr, Nat.toList_repr, Nat.ofDigitChars_ten_toDigits] using hdigits

theorem listCandidate_injective (item : String) : Function.Injective (listCandidate item) := by
  have hne (n : Nat) : listCandidate item 0 ≠ listCandidate item (n + 1) := by
    intro h
    have happend : item ++ "_list" ++ "" = item ++ "_list" ++ toString (n + 2) := by
      rw [String.append_empty]
      exact h
    exact Nat.repr_ne_empty ((String.append_right_inj _).1 happend).symm
  intro m n h
  rcases m with _ | m <;> rcases n with _ | n
  · rfl
  · exact absurd h (hne n)
  · exact absurd h.symm (hne m)
  · have := toString_injective ((String.append_right_inj _).1 h)
    omega

/-- A candidate is the item, an underscore, and then small letters and digits. -/
theorem exists_listCandidate (item : String) (k : Nat) :
    ∃ s, (listCandidate item k).toList = item.toList ++ '_' :: s ∧
      ∀ c ∈ s, c.isLower = true ∨ c.isDigit = true := by
  have hlist : ∀ c ∈ "list".toList, c.isLower = true := List.all_eq_true.1 (by decide)
  rcases k with _ | k
  · exact ⟨"list".toList, by simp [listCandidate], fun c hc => .inl (hlist c hc)⟩
  · refine ⟨"list".toList ++ (toString (k + 2)).toList, by simp [listCandidate], fun c hc => ?_⟩
    rcases List.mem_append.1 hc with hc | hc
    · exact .inl (hlist c hc)
    · rw [Nat.toString_eq_repr, Nat.toList_repr] at hc
      exact .inr (Nat.isDigit_of_mem_toDigits (by decide) (by decide) hc)

section Fresh

variable (taken : List String) (item : String)

/-- Not all of the candidates looked at are taken, for there are more of them. -/
theorem exists_listCandidate_notMem :
    ∃ name ∈ (List.range (taken.length + 1)).map (listCandidate item), name ∉ taken := by
  by_contra! hall
  have hnodup : ((List.range (taken.length + 1)).map (listCandidate item)).Nodup :=
    List.nodup_range.map (listCandidate_injective item)
  have hle := hnodup.length_le_of_subset hall
  rw [List.length_map, List.length_range] at hle
  omega

/-- The name is the first of the candidates that is not taken. -/
theorem freshListName_first : ∃ k, freshListName taken item = listCandidate item k ∧
    listCandidate item k ∉ taken ∧ ∀ j < k, listCandidate item j ∈ taken := by
  obtain ⟨name, hname, hfree⟩ := exists_listCandidate_notMem taken item
  have hfound : (((List.range (taken.length + 1)).map (listCandidate item)).find?
      (!taken.contains ·)).isSome := List.find?_isSome.2 ⟨name, hname, by simpa using hfree⟩
  rw [List.find?_map, Option.isSome_map] at hfound
  obtain ⟨k, hk⟩ := Option.isSome_iff_exists.1 hfound
  refine ⟨k, by rw [freshListName, List.find?_map, hk, Option.map_some, Option.getD_some], ?_⟩
  obtain ⟨hfree, -, htaken⟩ := List.find?_range_eq_some.1 hk
  exact ⟨by simpa using hfree, fun j hj => by simpa using htaken j hj⟩

theorem freshListName_notMem : freshListName taken item ∉ taken := by
  obtain ⟨k, hk, hfree, -⟩ := freshListName_first taken item
  rwa [hk]

end Fresh

/-! ## Naming -/

/-- The lists have names: each is a candidate of its item, and no rule or other list has it. -/
structure Named (ruleNames : List String) (keys : List ListKey) (lists : List (ListKey × String)) :
    Prop where
  mem_keys : ∀ key, key ∈ lists.map (·.1) ↔ key ∈ keys
  nodup_keys : (lists.map (·.1)).Nodup
  nodup : (ruleNames ++ lists.map (·.2)).Nodup
  candidate : ∀ l ∈ lists, ∃ k, l.2 = listCandidate l.1.1 k

variable {ruleNames : List String} {keys : List ListKey} {lists : List (ListKey × String)}

theorem Named.nameList (h : Named ruleNames keys lists) (key : ListKey) :
    Named ruleNames (keys ++ [key]) (nameList ruleNames lists key) := by
  unfold Grammar.nameList
  have hany : lists.any (·.1 == key) = true ↔ key ∈ lists.map (·.1) := by
    simp [List.any_eq_true, List.mem_map]
  split
  · rename_i hnamed
    refine { h with mem_keys := fun other => ?_ }
    rw [h.mem_keys, List.mem_append, List.mem_singleton]
    exact ⟨.inl, (Or.elim · id fun heq => heq ▸ (h.mem_keys key).1 (hany.1 hnamed))⟩
  · rename_i hnew
    have hnew : key ∉ lists.map (·.1) := mt hany.2 hnew
    have hfree := freshListName_notMem (ruleNames ++ lists.map (·.2)) key.1
    refine ⟨fun other => ?_, ?_, ?_, fun l hl => ?_⟩
    · rw [List.map_append, List.mem_append, h.mem_keys, List.mem_append]
      rfl
    · rw [List.map_append]
      exact List.concat_eq_append ▸ h.nodup_keys.concat hnew
    · rw [List.map_append, ← List.append_assoc]
      exact List.concat_eq_append ▸ h.nodup.concat hfree
    · rcases List.mem_append.1 hl with hl | hl
      · exact h.candidate l hl
      · rw [List.mem_singleton.1 hl]
        exact (freshListName_first _ _).imp fun _ hk => hk.1

theorem Named.foldl (h : Named ruleNames keys lists) (more : List ListKey) :
    Named ruleNames (keys ++ more) (more.foldl (Grammar.nameList ruleNames) lists) := by
  induction more generalizing keys lists with
  | nil => rwa [List.append_nil]
  | cons key more ih =>
    rw [List.append_cons]
    exact ih (h.nameList key)

/-- When rules have different names, then all of their lists have names that differ from these and from
each other. -/
theorem named_nameLists {rules : List Rule} (h : (rules.map (·.name)).Nodup) :
    Named (rules.map (·.name)) (listItems rules) (nameLists rules) := by
  have hnil : Named (rules.map (·.name)) [] [] :=
    ⟨fun _ => Iff.rfl, List.nodup_nil, by rwa [List.map_nil, List.append_nil], by simp⟩
  exact hnil.foldl (listItems rules)

end Reckon.Grammar
