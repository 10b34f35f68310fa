import Mathlib.Data.List.Basic
import Mathlib.Order.Nat
import Reckon.Cfg.Chart
import Reckon.Proofs.Cfg.Language

/-!
# The agenda of a column

A partial use in a column has a key, by which the column knows it. Adding a use to a draft makes its
key seen (`Draft.saw_push`) and puts it on the agenda if the key is new; nothing else changes.

Looking at one use after another ends. Every use looked at leaves the agenda, and a use comes onto it
only with a key not seen before, of which there are no more than the column has fuel for
(`Chart.exists_closed`). So the column that results is that of a draft with an empty agenda, and has
every property that looking at a use preserves.
-/

namespace Reckon.Cfg

variable {τ T N : Type}

/-- The production and the place of the dot, and the origin. -/
def Partial.key (x : Partial τ T N) : (Nat × Nat) × Nat := (x.dot, x.origin)

theorem Partial.key_advance (x : Partial τ T N) (t : Tree τ N) :
    (x.advance t).key = ((x.number, x.rest.length - 1), x.origin) := by
  simp [key, dot, advance]

namespace Draft

variable {d e : Draft τ T N} {x y : Partial τ T N}

/-- Has a use with this key been added? -/
def Saw (d : Draft τ T N) (k : (Nat × Nat) × Nat) : Prop := k.1 ∈ d.seen.getD k.2 []

instance (d : Draft τ T N) (k : (Nat × Nat) × Nat) : Decidable (d.Saw k) :=
  inferInstanceAs (Decidable (_ ∈ _))

theorem push_of_saw (h : d.Saw x.key) : d.push x = d := by
  have hany : (d.seen.getD x.origin []).any (fun e => e.1 == x.number && e.2 == x.rest.length) := by
    rw [List.any_eq_true]
    exact ⟨x.dot, h, by simp [Partial.dot]⟩
  simp only [push, Partial.dot, hany, if_true]

theorem push_of_not_saw (h : ¬ d.Saw x.key) :
    d.push x = { d with
      agenda := x :: d.agenda
      seen := d.seen.setIfInBounds x.origin (x.dot :: d.seen.getD x.origin []) } := by
  have hany : (d.seen.getD x.origin []).any
      (fun e => e.1 == x.number && e.2 == x.rest.length) = false := by
    rw [Bool.eq_false_iff, ne_eq, List.any_eq_true]
    rintro ⟨⟨k, m⟩, he, hkm⟩
    simp only [Bool.and_eq_true, beq_iff_eq] at hkm
    obtain ⟨rfl, rfl⟩ := hkm
    exact h he
  simp only [push, Partial.dot, hany, Bool.false_eq_true, if_false]

theorem seen_size_push (d : Draft τ T N) (x : Partial τ T N) :
    (d.push x).seen.size = d.seen.size := by
  by_cases h : d.Saw x.key
  · rw [push_of_saw h]
  · rw [push_of_not_saw h]
    exact Array.size_setIfInBounds

/-- With a use the draft sees its key, and no other one. -/
theorem saw_push_iff (hx : x.origin < d.seen.size) {k : (Nat × Nat) × Nat} :
    (d.push x).Saw k ↔ d.Saw k ∨ k = x.key := by
  by_cases h : d.Saw x.key
  · rw [push_of_saw h]
    exact ⟨.inl, fun hk => hk.elim id fun hk => hk ▸ h⟩
  · rw [push_of_not_saw h]
    rcases k with ⟨e, o⟩
    by_cases ho : o = x.origin
    · subst ho
      simp only [Saw, Array.getD_eq_getD_getElem?, Array.getElem?_setIfInBounds_self, hx, if_true,
        Option.getD_some, List.mem_cons, Partial.key, Prod.mk.injEq, and_true]
      exact Or.comm
    · have hk : (e, o) ≠ x.key := fun hk => ho (congrArg Prod.snd hk)
      simp only [Saw, Array.getD_eq_getD_getElem?, Array.getElem?_setIfInBounds_ne (Ne.symm ho),
        hk, or_false]

theorem column_push (d : Draft τ T N) (x : Partial τ T N) : (d.push x).column = d.column := by
  by_cases h : d.Saw x.key
  · rw [push_of_saw h]
  · rw [push_of_not_saw h]

theorem emptied_push (d : Draft τ T N) (x : Partial τ T N) : (d.push x).emptied = d.emptied := by
  by_cases h : d.Saw x.key
  · rw [push_of_saw h]
  · rw [push_of_not_saw h]

/-- The agenda grows by the use, unless its key was seen before. -/
theorem agenda_push (d : Draft τ T N) (x : Partial τ T N) :
    d.Saw x.key ∧ (d.push x).agenda = d.agenda
      ∨ ¬ d.Saw x.key ∧ (d.push x).agenda = x :: d.agenda := by
  by_cases h : d.Saw x.key
  · exact .inl ⟨h, by rw [push_of_saw h]⟩
  · exact .inr ⟨h, by rw [push_of_not_saw h]⟩

theorem column_pushAll : ∀ (xs : List (Partial τ T N)) (d : Draft τ T N),
    (d.pushAll xs).column = d.column
  | [], _ => rfl
  | x :: xs, d => (column_pushAll xs (d.push x)).trans (column_push d x)

theorem emptied_pushAll : ∀ (xs : List (Partial τ T N)) (d : Draft τ T N),
    (d.pushAll xs).emptied = d.emptied
  | [], _ => rfl
  | x :: xs, d => (emptied_pushAll xs (d.push x)).trans (emptied_push d x)

theorem seen_size_pushAll : ∀ (xs : List (Partial τ T N)) (d : Draft τ T N),
    (d.pushAll xs).seen.size = d.seen.size
  | [], _ => rfl
  | x :: xs, d => (seen_size_pushAll xs (d.push x)).trans (seen_size_push d x)

theorem saw_pushAll_iff : ∀ (xs : List (Partial τ T N)) {d : Draft τ T N},
    (∀ x ∈ xs, x.origin < d.seen.size) → ∀ {k : (Nat × Nat) × Nat},
    ((d.pushAll xs).Saw k ↔ d.Saw k ∨ ∃ x ∈ xs, k = x.key)
  | [], d, _, k => by simp [pushAll]
  | x :: xs, d, h, k => by
    have hxs : ∀ y ∈ xs, y.origin < (d.push x).seen.size := by
      rw [seen_size_push]
      exact fun y hy => h y (List.mem_cons_of_mem _ hy)
    have hd : d.pushAll (x :: xs) = (d.push x).pushAll xs := rfl
    rw [hd, saw_pushAll_iff xs hxs, saw_push_iff (h x List.mem_cons_self)]
    simp only [List.mem_cons, exists_eq_or_imp, or_assoc]

/-- What is on the agenda was there or was added, and what was there stays. -/
theorem mem_agenda_pushAll : ∀ (xs : List (Partial τ T N)) (d : Draft τ T N) (y : Partial τ T N),
    (y ∈ (d.pushAll xs).agenda → y ∈ d.agenda ∨ y ∈ xs) ∧
      (y ∈ d.agenda → y ∈ (d.pushAll xs).agenda)
  | [], _, _ => ⟨.inl, id⟩
  | x :: xs, d, y => by
    have ih := mem_agenda_pushAll xs (d.push x) y
    rcases agenda_push d x with ⟨-, hx⟩ | ⟨-, hx⟩ <;> rw [hx] at ih
    · exact ⟨fun h => (ih.1 h).imp_right (List.mem_cons_of_mem _), ih.2⟩
    · refine ⟨fun h => ?_, fun h => ih.2 (List.mem_cons_of_mem _ h)⟩
      rcases ih.1 h with h | h
      · rcases List.mem_cons.1 h with rfl | h
        · exact .inr List.mem_cons_self
        · exact .inl h
      · exact .inr (List.mem_cons_of_mem _ h)

/-- A key that adding uses makes seen belongs to a use on the agenda. -/
theorem exists_agenda_of_saw_pushAll : ∀ (xs : List (Partial τ T N)) {d : Draft τ T N},
    (∀ x ∈ xs, x.origin < d.seen.size) → ∀ {k : (Nat × Nat) × Nat},
    (d.pushAll xs).Saw k → d.Saw k ∨ ∃ y ∈ (d.pushAll xs).agenda, y.key = k
  | [], _, _, _, h => .inl h
  | x :: xs, d, hx, k, h => by
    have hxs : ∀ y ∈ xs, y.origin < (d.push x).seen.size := by
      rw [seen_size_push]
      exact fun y hy => hx y (List.mem_cons_of_mem _ hy)
    rcases exists_agenda_of_saw_pushAll xs hxs h with hk | hk
    · rcases (saw_push_iff (hx x List.mem_cons_self)).1 hk with hk | rfl
      · exact .inl hk
      · rcases agenda_push d x with ⟨hs, -⟩ | ⟨-, ha⟩
        · exact .inl hs
        · exact .inr ⟨x, (mem_agenda_pushAll xs (d.push x) x).2 (ha ▸ List.mem_cons_self), rfl⟩
    · exact .inr hk

/-! ## The load of a draft -/

/-- The uses on the agenda and those of the given keys that may still come onto it. -/
def load (keys : List ((Nat × Nat) × Nat)) (d : Draft τ T N) : Nat :=
  d.agenda.length + keys.countP fun k => !d.Saw k

theorem load_congr {keys : List ((Nat × Nat) × Nat)} (ha : d.agenda = e.agenda)
    (hs : d.seen = e.seen) : d.load keys = e.load keys := by
  rcases d with ⟨c, a, s, m⟩
  rcases e with ⟨c', a', s', m'⟩
  obtain rfl : a = a' := ha
  obtain rfl : s = s' := hs
  rfl

theorem countP_lt_of_mem {α : Type} {p q : α → Bool} {a : α} (hpq : ∀ b, p b → q b) (hp : ¬ p a)
    (hq : q a) : ∀ l : List α, a ∈ l → l.countP p < l.countP q
  | b :: l, h => by
    have hle : l.countP p ≤ l.countP q := List.countP_mono_left fun b _ => hpq b
    rw [List.countP_cons, List.countP_cons]
    rcases List.mem_cons.1 h with rfl | h
    · rw [if_neg hp, if_pos hq]
      omega
    · have ih := countP_lt_of_mem hpq hp hq l h
      have := hpq b
      split_ifs <;> first | omega | simp_all

theorem load_push {keys : List ((Nat × Nat) × Nat)} (hx : x.key ∈ keys)
    (hs : x.origin < d.seen.size) : (d.push x).load keys ≤ d.load keys := by
  rcases agenda_push d x with ⟨h, ha⟩ | ⟨h, ha⟩
  · exact (congrArg (load keys) (push_of_saw h)).le
  · have hlt : (keys.countP fun k => !(d.push x).Saw k) < keys.countP fun k => !d.Saw k := by
      refine countP_lt_of_mem (a := x.key) (fun k hk => ?_) ?_ (by simpa using h) keys hx
      · simp only [Bool.not_eq_true', decide_eq_false_iff_not, saw_push_iff hs, not_or] at hk ⊢
        exact hk.1
      · simp [saw_push_iff hs]
    rw [load, load, ha, List.length_cons]
    omega

theorem load_pushAll {keys : List ((Nat × Nat) × Nat)} :
    ∀ (xs : List (Partial τ T N)) {d : Draft τ T N},
    (∀ x ∈ xs, x.key ∈ keys ∧ x.origin < d.seen.size) → (d.pushAll xs).load keys ≤ d.load keys
  | [], _, _ => le_rfl
  | x :: xs, d, h => by
    have hx := h x List.mem_cons_self
    refine (load_pushAll xs fun y hy => ?_).trans (load_push hx.1 hx.2)
    rw [seen_size_push]
    exact h y (List.mem_cons_of_mem _ hy)

theorem load_tail (keys : List ((Nat × Nat) × Nat)) {rest : List (Partial τ T N)}
    (h : d.agenda = x :: rest) :
    ({ d with agenda := rest } : Draft τ T N).load keys < d.load keys := by
  have hl : ({ d with agenda := rest } : Draft τ T N).load keys
      = rest.length + keys.countP fun k => !d.Saw k := rfl
  rw [hl, load, h, List.length_cons]
  omega

end Draft

namespace Chart

variable [DecidableEq N] (g : Chart τ T N)

/-- If looking at a use preserves `P` and adds only uses of the given keys, the column that a draft
closes to is that of a draft with `P` and an empty agenda. -/
theorem exists_closed (columns : Array (Column τ T N)) (i : Nat) (keys : List ((Nat × Nat) × Nat))
    (P : Draft τ T N → Prop)
    (hP : ∀ d x rest, P d → d.agenda = x :: rest →
      P (g.process columns i { d with agenda := rest } x)
        ∧ (g.process columns i { d with agenda := rest } x).load keys
          ≤ ({ d with agenda := rest } : Draft τ T N).load keys) :
    ∀ (fuel : Nat) (d : Draft τ T N), P d → d.load keys < fuel →
      ∃ e, P e ∧ e.agenda = [] ∧ g.close columns i fuel d = e.column
  | 0, _, _, h => absurd h (Nat.not_lt_zero _)
  | fuel + 1, d, hd, h => by
    rcases ha : d.agenda with _ | ⟨x, rest⟩
    · exact ⟨d, hd, ha, by rw [close, ha]⟩
    · obtain ⟨hp, hl⟩ := hP d x rest hd ha
      have hlt : (g.process columns i { d with agenda := rest } x).load keys < fuel := by
        have := Draft.load_tail keys ha
        omega
      obtain ⟨e, he, hea, hec⟩ := exists_closed columns i keys P hP fuel _ hp hlt
      exact ⟨e, he, hea, by rw [close, ha]; exact hec⟩

end Chart

end Reckon.Cfg
