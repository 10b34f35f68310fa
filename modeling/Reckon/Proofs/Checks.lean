import Mathlib.Data.List.Basic

/-!
# Checks in a row

When several steps succeed, each of which may fail: one after another, and one for each member of a
row.
-/

namespace Reckon

section Checks

variable {ε α β : Type}

theorem bind_eq_ok_iff {x : Except ε α} {f : α → Except ε β} {b : β} :
    x >>= f = .ok b ↔ ∃ a, x = .ok a ∧ f a = .ok b := by
  cases x <;> simp [bind, Except.bind]

theorem andThen_eq_ok_iff {x : Except ε Unit} {f : Unit → Except ε β} {b : β} :
    x >>= f = .ok b ↔ x = .ok () ∧ f () = .ok b :=
  bind_eq_ok_iff.trans ⟨fun ⟨_, hx, hf⟩ => ⟨hx, hf⟩, fun ⟨hx, hf⟩ => ⟨(), hx, hf⟩⟩

theorem mapError_eq_ok_iff {ε' : Type} {x : Except ε α} {f : ε → ε'} {a : α} :
    x.mapError f = .ok a ↔ x = .ok a := by
  cases x <;> simp [Except.mapError]

theorem forM_eq_ok_iff {f : α → Except ε Unit} : ∀ {l : List α},
    l.forM f = .ok () ↔ ∀ a ∈ l, f a = .ok ()
  | [] => by simp [pure, Except.pure]
  | a :: l => by
    change (f a >>= fun _ => l.forM f) = .ok () ↔ _
    rw [andThen_eq_ok_iff, List.forall_mem_cons, forM_eq_ok_iff]

/-- What each step keeps, a row of steps keeps. -/
theorem foldlM_keeps {f : β → α → Except ε β} {P : β → Prop}
    (hf : ∀ b a b', P b → f b a = .ok b' → P b') :
    ∀ {l : List α} {b r : β}, P b → l.foldlM f b = .ok r → P r
  | [], b, r, hb, h => by
    cases h
    exact hb
  | a :: l, b, r, hb, h => by
    rw [List.foldlM_cons] at h
    obtain ⟨b', hb', h⟩ := bind_eq_ok_iff.1 h
    exact foldlM_keeps hf (hf b a b' hb hb') h

theorem foldlM_cons_of_ok {f : β → α → Except ε β} {a : α} {l : List α} {b b' : β}
    (h : f b a = .ok b') : (a :: l).foldlM f b = l.foldlM f b' := by
  rw [List.foldlM_cons, h]
  rfl

theorem foldlM_cons_of_error {f : β → α → Except ε β} {a : α} {l : List α} {b : β} {e : ε}
    (h : f b a = .error e) : (a :: l).foldlM f b = .error e := by
  rw [List.foldlM_cons, h]
  rfl

/-- A row of steps fails with the first step that does. -/
theorem foldlM_eq_error_iff {f : β → α → Except ε β} {e : ε} :
    ∀ {l : List α} {b : β}, l.foldlM f b = .error e ↔
      ∃ before a after b', l = before ++ a :: after ∧ before.foldlM f b = .ok b' ∧ f b' a = .error e
  | [], b => by simp [pure, Except.pure]
  | a :: l, b => by
    rcases ha : f b a with e' | b'
    · rw [foldlM_cons_of_error ha]
      constructor
      · intro h
        cases h
        exact ⟨[], a, l, b, rfl, rfl, ha⟩
      · rintro ⟨_ | ⟨c, before⟩, a', after, b', heq, hbefore, h⟩
        · cases hbefore
          rw [← (List.cons.inj heq).1, ha] at h
          exact h
        · rw [← (List.cons.inj heq).1, foldlM_cons_of_error ha] at hbefore
          cases hbefore
    · rw [foldlM_cons_of_ok ha, foldlM_eq_error_iff]
      constructor
      · rintro ⟨before, a', after, b'', rfl, hbefore, h⟩
        exact ⟨a :: before, a', after, b'', rfl, by rwa [foldlM_cons_of_ok ha], h⟩
      · rintro ⟨_ | ⟨c, before⟩, a', after, b'', heq, hbefore, h⟩
        · cases hbefore
          rw [← (List.cons.inj heq).1, ha] at h
          cases h
        · obtain ⟨rfl, hl⟩ := List.cons.inj heq
          rw [foldlM_cons_of_ok ha] at hbefore
          exact ⟨before, a', after, b'', hl, hbefore, h⟩

/-- Each member of a row that has `P` comes to something with `Q`. -/
theorem exists_mapM {f : α → Except ε β} {P : α → Prop} {Q : β → Prop}
    (hf : ∀ a, P a → ∃ b, f a = .ok b ∧ Q b) :
    ∀ {l : List α}, (∀ a ∈ l, P a) → ∃ bs, l.mapM f = .ok bs ∧ ∀ b ∈ bs, Q b
  | [], _ => ⟨[], rfl, nofun⟩
  | a :: l, h => by
    obtain ⟨ha, hl⟩ := List.forall_mem_cons.1 h
    obtain ⟨b, hb, hq⟩ := hf a ha
    obtain ⟨bs, hbs, hqs⟩ := exists_mapM hf hl
    refine ⟨b :: bs, ?_, List.forall_mem_cons.2 ⟨hq, hqs⟩⟩
    rw [List.mapM_cons, hb, hbs]
    rfl

theorem mapM_eq_some {f : α → Option β} {f' : α → β} :
    ∀ {l : List α}, (∀ a ∈ l, f a = some (f' a)) → l.mapM f = some (l.map f')
  | [], _ => rfl
  | a :: l, h => by
    rw [List.mapM_cons, h a List.mem_cons_self, mapM_eq_some fun b hb => h b (List.mem_cons_of_mem a hb)]
    rfl

end Checks

end Reckon
