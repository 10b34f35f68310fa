import Mathlib.Data.List.Basic

/-!
# Tables

What is looked up in a row of names with something under each. If no name stands there twice, every
entry is found under its name (`lookup_eq_some_iff`).
-/

namespace Reckon

variable {β : Type} {table : List (String × β)} {name : String} {b : β}

theorem lookup_cons (q : String × β) :
    (q :: table).lookup name = if name = q.1 then some q.2 else table.lookup name := by
  rw [List.lookup_cons]
  by_cases hn : name = q.1
  · simp [hn]
  · simp [hn, beq_false_of_ne hn]

theorem mem_of_lookup (h : table.lookup name = some b) : (name, b) ∈ table := by
  induction table with
  | nil => cases h
  | cons q rest ih =>
    rw [lookup_cons] at h
    split at h
    · rename_i hq
      cases h
      rw [hq]
      exact List.mem_cons_self
    · exact List.mem_cons_of_mem _ (ih h)

theorem lookup_of_mem (h : (table.map (·.1)).Nodup) (hb : (name, b) ∈ table) :
    table.lookup name = some b := by
  induction table with
  | nil => cases hb
  | cons q rest ih =>
    rw [List.map_cons, List.nodup_cons] at h
    rcases List.mem_cons.1 hb with rfl | hb
    · exact List.lookup_cons_self
    · have hne : name ≠ q.1 := fun he => h.1 (he ▸ List.mem_map_of_mem hb)
      rw [lookup_cons, if_neg hne]
      exact ih h.2 hb

theorem lookup_eq_some_iff (h : (table.map (·.1)).Nodup) :
    table.lookup name = some b ↔ (name, b) ∈ table :=
  ⟨mem_of_lookup, lookup_of_mem h⟩

theorem isSome_lookup_iff : (table.lookup name).isSome = true ↔ name ∈ table.map (·.1) := by
  rw [List.lookup_isSome_iff, List.mem_map]
  exact exists_congr fun p => and_congr_right fun _ => by rw [beq_iff_eq, eq_comm]

end Reckon
