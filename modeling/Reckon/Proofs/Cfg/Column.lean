import Mathlib.Data.List.Basic
import Mathlib.Order.Nat
import Reckon.Proofs.Cfg.Agenda

/-!
# The columns of a chart

A partial use in the column after the tokens `word` fits them (`Partial.Fits`): the trees behind its
dot derive what its production has there, they spell the tokens since its origin, and its left side
may begin at its origin.

Looking at a use does two things: it settles the use in the draft, and adds the uses that follow from
it (`Chart.process_eq`). A column that is closed (`Column.Closed`) holds only uses that fit, and with
each use all that follow from it (`Chart.columnOf_closed`).
-/

namespace Reckon.Cfg

open Cfg.Tree

variable {τ T N : Type}

namespace Chart

/-- The productions without their numbers. -/
def plain (g : Chart τ T N) : List (Production T N) := g.productions.map Prod.snd

/-- A number belongs to one production only. -/
def Numbered (g : Chart τ T N) : Prop :=
  ∀ k p q, (k, p) ∈ g.productions → (k, q) ∈ g.productions → p = q

theorem mem_plain {g : Chart τ T N} {k : Nat} {p : Production T N} (h : (k, p) ∈ g.productions) :
    p ∈ g.plain := List.mem_map_of_mem h

theorem exists_number {g : Chart τ T N} {p : Production T N} (h : p ∈ g.plain) :
    ∃ k, (k, p) ∈ g.productions := by
  obtain ⟨⟨k, q⟩, hq, rfl⟩ := List.mem_map.1 h
  exact ⟨k, hq⟩

/-- The keys of all uses that column `i` can hold. -/
def keys (g : Chart τ T N) (i : Nat) : List ((Nat × Nat) × Nat) :=
  (List.range (i + 1)).flatMap fun o =>
    g.productions.flatMap fun (k, p) => (List.range (p.rhs.length + 1)).map fun m => ((k, m), o)

theorem length_keys (g : Chart τ T N) (i : Nat) : (g.keys i).length = g.dots * (i + 1) := by
  have hdots : ∀ o : Nat, (g.productions.flatMap fun (k, p) =>
      (List.range (p.rhs.length + 1)).map fun m => ((k, m), o)).length = g.dots := by
    intro o
    rw [List.length_flatMap, dots]
    refine congrArg List.sum (List.map_congr_left fun kp _ => ?_)
    rw [List.length_map, List.length_range]
  rw [keys, List.length_flatMap]
  simp only [hdots, List.map_const', List.sum_replicate_nat, List.length_range]
  exact Nat.mul_comm _ _

theorem mem_keys {g : Chart τ T N} {i k m o : Nat} {p : Production T N}
    (hp : (k, p) ∈ g.productions) (hm : m ≤ p.rhs.length) (ho : o ≤ i) :
    ((k, m), o) ∈ g.keys i := by
  refine List.mem_flatMap.2 ⟨o, List.mem_range.2 (by omega), ?_⟩
  exact List.mem_flatMap.2 ⟨(k, p), hp, List.mem_map.2 ⟨m, List.mem_range.2 (by omega), rfl⟩⟩

end Chart

/-! ## What a partial use means -/

/-- The use is one of a production, at a dot up to which its trees derive the tokens of `word` since
its origin, and its left side may begin there. -/
structure Partial.Fits (g : Chart τ T N) (word : List τ) (x : Partial τ T N) : Prop where
  behind : ∃ p ss, (x.number, p) ∈ g.productions ∧ p.lhs = x.lhs ∧ p.rhs = ss ++ x.rest
    ∧ DerivesAll g.plain g.kind ss x.done.reverse
  origin_le : x.origin ≤ word.length
  yield_eq : yieldAll x.done.reverse = word.drop x.origin
  begins : Begins g.plain g.start x.lhs ((word.take x.origin).map g.kind)

namespace Partial.Fits

variable {g : Chart τ T N} {word : List τ} {x y z : Partial τ T N}

theorem key_mem (h : x.Fits g word) : x.key ∈ g.keys word.length := by
  obtain ⟨p, ss, hp, -, hr, -⟩ := h.behind
  refine Chart.mem_keys hp ?_ h.origin_le
  rw [hr, List.length_append]
  omega

/-- A use with the key of one that has moved on has moved on likewise. -/
theorem eq_of_key (hg : g.Numbered) {word' : List τ} (hx : x.Fits g word) (hz : z.Fits g word')
    {s : Symbol T N} {rest : List (Symbol T N)} (hs : x.rest = s :: rest)
    (hk : z.key = ((x.number, x.rest.length - 1), x.origin)) :
    z.number = x.number ∧ z.lhs = x.lhs ∧ z.rest = rest ∧ z.origin = x.origin := by
  obtain ⟨p, ss, hp, hl, hr, -⟩ := hx.behind
  obtain ⟨q, rs, hq, hl', hr', -⟩ := hz.behind
  simp only [key, dot, Prod.mk.injEq, hs, List.length_cons, Nat.add_sub_cancel] at hk
  obtain ⟨⟨hn, hlen⟩, ho⟩ := hk
  rw [hn] at hq
  obtain rfl := hg _ _ _ hp hq
  refine ⟨hn, hl'.symm.trans hl, ?_, ho⟩
  rw [hs, List.append_cons, hr'] at hr
  exact (List.append_inj' hr hlen).2

/-- Moving over a symbol that derived a tree keeps a use fitting, the word grown by the leaves. -/
theorem advance (h : x.Fits g word) {s : Symbol T N} {rest : List (Symbol T N)}
    (hs : x.rest = s :: rest) {t : Tree τ N} (ht : Derives g.plain g.kind s t) :
    (x.advance t).Fits g (word ++ t.yield) := by
  obtain ⟨p, ss, hp, hl, hr, hd⟩ := h.behind
  have ho := h.origin_le
  refine ⟨⟨p, ss ++ [s], hp, hl, ?_, ?_⟩, ?_, ?_, ?_⟩
  · rw [hr, hs]
    simp [Partial.advance, hs]
  · simpa [Partial.advance] using hd.append (.cons ht .nil)
  · simp only [Partial.advance, List.length_append]
    omega
  · simp only [Partial.advance, List.reverse_cons, yieldAll_append, yieldAll_singleton, h.yield_eq,
      List.drop_append_of_le_length ho]
  · rw [Partial.advance, List.take_append_of_le_length ho]
    exact h.begins

/-- A use of a production of an awaited nonterminal fits where it begins. -/
theorem predict [DecidableEq N] (h : x.Fits g word) {n : N} {rest : List (Symbol T N)}
    (hs : x.rest = .nonterminal n :: rest) (hz : z ∈ g.predict n word.length) : z.Fits g word := by
  obtain ⟨p, ss, hp, hl, hr, hd⟩ := h.behind
  have hgen := generates_of_derivesAll hd
  rw [h.yield_eq] at hgen
  rw [hs] at hr
  have hb : Begins g.plain g.start n (word.map g.kind) := by
    have := Begins.inside (Chart.mem_plain hp) (hl ▸ h.begins) hr hgen
    rwa [← List.map_append, List.take_append_drop] at this
  obtain ⟨⟨k, q⟩, hq, hz⟩ := List.mem_filterMap.1 hz
  simp only [Option.ite_none_right_eq_some, Option.some.injEq] at hz
  obtain ⟨hqn, rfl⟩ := hz
  refine ⟨⟨q, [], hq, hqn, rfl, .nil⟩, Nat.le_refl _, ?_, ?_⟩
  · simp [yieldAll]
  · simpa using hb

/-- The tree of a completed use derives its left side and spells the tokens since its origin. -/
theorem tree (h : x.Fits g word) (hs : x.rest = []) :
    Derives g.plain g.kind (.nonterminal x.lhs) x.tree ∧ x.tree.yield = word.drop x.origin := by
  obtain ⟨p, ss, hp, hl, hr, hd⟩ := h.behind
  rw [hs, List.append_nil] at hr
  subst hr
  refine ⟨?_, ?_⟩
  · rw [Partial.tree, ← hl]
    exact .node (Chart.mem_plain hp) hd
  · rw [Partial.tree, Tree.yield, h.yield_eq]

/-- A completed use moves the uses on that waited for it where it began. -/
theorem resume (hx : x.Fits g word) (hs : x.rest = []) {n : N} (hn : x.lhs = n)
    (hy : y.Fits g (word.take x.origin)) {rest : List (Symbol T N)}
    (hr : y.rest = .nonterminal n :: rest) : (y.advance x.tree).Fits g word := by
  obtain ⟨hd, hw⟩ := hx.tree hs
  subst hn
  have := hy.advance hr hd
  rwa [hw, List.take_append_drop] at this

end Partial.Fits

theorem Partial.awaits_iff [DecidableEq N] {y : Partial τ T N} {n : N} :
    y.awaits n = true ↔ ∃ rest, y.rest = .nonterminal n :: rest := by
  unfold awaits
  split
  · rename_i m rest h
    simp [h]
  · rename_i h
    simp only [Bool.false_eq_true, false_iff]
    rintro ⟨rest, hr⟩
    exact h _ _ hr

theorem Partial.reads_iff [DecidableEq T] {y : Partial τ T N} {t : T} :
    y.reads t = true ↔ ∃ rest, y.rest = .terminal t :: rest := by
  unfold reads
  split
  · rename_i m rest h
    simp [h]
  · rename_i h
    simp only [Bool.false_eq_true, false_iff]
    rintro ⟨rest, hr⟩
    exact h _ _ hr

/-! ## One step -/

namespace Chart

variable [DecidableEq N] (g : Chart τ T N)

/-- The draft with the use in its place: completed, reading or waiting. -/
def settle (i : Nat) (d : Draft τ T N) (x : Partial τ T N) : Draft τ T N :=
  match x.rest with
  | [] =>
    { d with
      column.sentence :=
        if x.origin = 0 ∧ x.lhs = g.start ∧ d.column.sentence.isNone then some x.tree
        else d.column.sentence
      emptied := if x.origin = i then (x.tree, x.lhs) :: d.emptied else d.emptied }
  | .terminal _ :: _ => { d with column.reading := x :: d.column.reading }
  | .nonterminal _ :: _ => { d with column.waiting := x :: d.column.waiting }

/-- The uses that follow from a use. -/
def followers (columns : Array (Column τ T N)) (i : Nat) (d : Draft τ T N) (x : Partial τ T N) :
    List (Partial τ T N) :=
  match x.rest with
  | [] =>
    if x.origin = i then resume d.column.waiting x.lhs x.tree
    else
      match columns[x.origin]? with
      | some c => resume c.waiting x.lhs x.tree
      | none => []
  | .terminal _ :: _ => []
  | .nonterminal n :: _ =>
    g.predict n i
      ++ d.emptied.filterMap fun (t, m) => if m = n then some (x.advance t) else none

theorem process_eq (columns : Array (Column τ T N)) (i : Nat) (d : Draft τ T N)
    (x : Partial τ T N) :
    g.process columns i d x = (g.settle i d x).pushAll (g.followers columns i d x) := by
  unfold process settle followers
  rcases x.rest with _ | ⟨_ | n, rest⟩
  · by_cases hs : x.origin = 0 ∧ x.lhs = g.start ∧ d.column.sentence.isNone
    · by_cases ho : x.origin = i
      · simp only [if_pos hs, if_pos ho]
      · simp only [if_pos hs, if_neg ho]
        rcases columns[x.origin]? with _ | c <;> rfl
    · by_cases ho : x.origin = i
      · simp only [if_neg hs, if_pos ho]
      · simp only [if_neg hs, if_neg ho]
        rcases columns[x.origin]? with _ | c <;> rfl
  · rfl
  · simp only [Draft.pushAll, List.foldl_append]

theorem mem_resume {ws : List (Partial τ T N)} {n : N} {t : Tree τ N} {z : Partial τ T N} :
    z ∈ resume ws n t ↔ ∃ y ∈ ws, y.awaits n = true ∧ z = y.advance t := by
  simp only [resume, List.mem_filterMap, Option.ite_none_right_eq_some, Option.some.injEq]
  exact exists_congr fun y => and_congr_right fun _ => and_congr_right fun _ => eq_comm

variable {g} {columns : Array (Column τ T N)} {i : Nat} {d : Draft τ T N} {x : Partial τ T N}

theorem settle_seen : (g.settle i d x).seen = d.seen := by
  unfold settle
  split <;> rfl

theorem settle_agenda : (g.settle i d x).agenda = d.agenda := by
  unfold settle
  split <;> rfl

theorem settle_nil (hx : x.rest = []) :
    (g.settle i d x).column.waiting = d.column.waiting
      ∧ (g.settle i d x).column.reading = d.column.reading
      ∧ (x.origin = i → (x.tree, x.lhs) ∈ (g.settle i d x).emptied)
      ∧ (x.origin = 0 → x.lhs = g.start → (g.settle i d x).column.sentence.isSome) := by
  unfold settle
  rw [hx]
  refine ⟨rfl, rfl, fun ho => by simp [ho], fun ho hl => ?_⟩
  rcases hs : d.column.sentence with _ | t <;> simp [ho, hl]

/-- What the draft has more for the use. -/
theorem settle_cases :
    (∀ y ∈ (g.settle i d x).column.waiting, y = x ∨ y ∈ d.column.waiting)
      ∧ (∀ y ∈ (g.settle i d x).column.reading, y = x ∨ y ∈ d.column.reading)
      ∧ (∀ p ∈ (g.settle i d x).emptied,
          p ∈ d.emptied ∨ x.rest = [] ∧ x.origin = i ∧ p = (x.tree, x.lhs))
      ∧ ∀ t, (g.settle i d x).column.sentence = some t → d.column.sentence = some t
          ∨ x.rest = [] ∧ x.origin = 0 ∧ x.lhs = g.start ∧ t = x.tree := by
  unfold settle
  rcases x.rest with _ | ⟨t | n, rest⟩
  · refine ⟨fun y => .inr, fun y => .inr, fun p hp => ?_, fun t ht => ?_⟩
    · dsimp only at hp
      split_ifs at hp with ho
      · exact (List.mem_cons.1 hp).symm.imp_right fun h => ⟨rfl, ho, h⟩
      · exact .inl hp
    · dsimp only at ht
      split_ifs at ht with hs
      · exact .inr ⟨rfl, hs.1, hs.2.1, (Option.some.inj ht).symm⟩
      · exact .inl ht
  · exact ⟨fun y => .inr, fun y => List.mem_cons.1, fun p => .inl, fun t => .inl⟩
  · exact ⟨fun y => List.mem_cons.1, fun y => .inr, fun p => .inl, fun t => .inl⟩

theorem settle_terminal {t : T} {rest : List (Symbol T N)} (hx : x.rest = .terminal t :: rest) :
    g.settle i d x = { d with column.reading := x :: d.column.reading } := by
  unfold settle
  rw [hx]

theorem settle_nonterminal {n : N} {rest : List (Symbol T N)}
    (hx : x.rest = .nonterminal n :: rest) :
    g.settle i d x = { d with column.waiting := x :: d.column.waiting } := by
  unfold settle
  rw [hx]

end Chart

/-! ## Closing a column -/

/-- All that a draft holds is kept in another. -/
structure Draft.Extends (d e : Draft τ T N) : Prop where
  waiting : ∀ x ∈ d.column.waiting, x ∈ e.column.waiting
  reading : ∀ x ∈ d.column.reading, x ∈ e.column.reading
  emptied : ∀ p ∈ d.emptied, p ∈ e.emptied
  sentence : d.column.sentence.isSome → e.column.sentence.isSome
  saw : ∀ k, d.Saw k → e.Saw k

theorem Draft.Extends.trans {d e f : Draft τ T N} (h : d.Extends e) (h' : e.Extends f) :
    d.Extends f where
  waiting x hx := h'.waiting x (h.waiting x hx)
  reading x hx := h'.reading x (h.reading x hx)
  emptied p hp := h'.emptied p (h.emptied p hp)
  sentence hs := h'.sentence (h.sentence hs)
  saw k hk := h'.saw k (h.saw k hk)

theorem Draft.extends_pushAll {d : Draft τ T N} {xs : List (Partial τ T N)}
    (h : ∀ z ∈ xs, z.origin < d.seen.size) :
    d.Extends (d.pushAll xs) := by
  refine ⟨fun y hy => ?_, fun y hy => ?_, fun p hp => ?_, fun hs => ?_, fun k hk => ?_⟩
  · rwa [Draft.column_pushAll]
  · rwa [Draft.column_pushAll]
  · rwa [Draft.emptied_pushAll]
  · rwa [Draft.column_pushAll]
  · exact (Draft.saw_pushAll_iff xs h).2 (.inl hk)

section Closing

variable [DecidableEq N] (g : Chart τ T N) (word : List τ) (columns : Array (Column τ T N))

/-- The draft of the column after `word` has done what a use asks for by itself. -/
structure Draft.Handled (d : Draft τ T N) (x : Partial τ T N) : Prop where
  reads : ∀ t rest, x.rest = .terminal t :: rest → x ∈ d.column.reading
  waits : ∀ n rest, x.rest = .nonterminal n :: rest → x ∈ d.column.waiting
  predicts : ∀ n rest, x.rest = .nonterminal n :: rest →
    ∀ q ∈ g.predict n word.length, d.Saw q.key
  empties : x.rest = [] → x.origin = word.length → ∃ t, (t, x.lhs) ∈ d.emptied
  resumes : x.rest = [] → x.origin ≠ word.length → ∀ c, columns[x.origin]? = some c →
    ∀ y ∈ c.waiting, y.awaits x.lhs = true → d.Saw (y.advance x.tree).key
  ends : x.rest = [] → x.origin = 0 → x.lhs = g.start → d.column.sentence.isSome

/-- The draft has moved `y` over `x`, if `x` was completed in the column in which it began. -/
def Draft.Joined (d : Draft τ T N) (x y : Partial τ T N) : Prop :=
  x.rest = [] → x.origin = word.length → y.awaits x.lhs = true → d.Saw (y.advance x.tree).key

/-- The draft of the column after `word`, the uses in `U` having been looked at. -/
structure Draft.Inv (U : Partial τ T N → Prop) (d : Draft τ T N) : Prop where
  size : d.seen.size = word.length + 1
  fits : ∀ x, U x ∨ x ∈ d.agenda → x.Fits g word
  waiting : ∀ x ∈ d.column.waiting, U x
  reading : ∀ x ∈ d.column.reading, U x
  emptied : ∀ t n, (t, n) ∈ d.emptied → Derives g.plain g.kind (.nonterminal n) t ∧ t.yield = []
  sentence : ∀ t, d.column.sentence = some t →
    Derives g.plain g.kind (.nonterminal g.start) t ∧ t.yield = word
  saw : ∀ k, d.Saw k → ∃ x, (U x ∨ x ∈ d.agenda) ∧ x.key = k
  handled : ∀ x, U x → d.Handled g word columns x
  joined : ∀ x y, U x → U y → d.Joined word x y

variable {g word columns} {d e : Draft τ T N} {x y : Partial τ T N} {U : Partial τ T N → Prop}

theorem Draft.Handled.mono (h : d.Extends e) (hx : d.Handled g word columns x) :
    e.Handled g word columns x where
  reads t rest hr := h.reading x (hx.reads t rest hr)
  waits n rest hr := h.waiting x (hx.waits n rest hr)
  predicts n rest hr q hq := h.saw _ (hx.predicts n rest hr q hq)
  empties hr ho := (hx.empties hr ho).imp fun _ => h.emptied _
  resumes hr ho c hc y hy ha := h.saw _ (hx.resumes hr ho c hc y hy ha)
  ends hr ho hl := h.sentence (hx.ends hr ho hl)

theorem Draft.Joined.mono (h : d.Extends e) (hx : d.Joined word x y) : e.Joined word x y :=
  fun hr ho ha => h.saw _ (hx hr ho ha)

theorem extends_settle (i : Nat) : d.Extends (g.settle i d x) := by
  have hsaw : ∀ k, d.Saw k → (g.settle i d x).Saw k := by
    intro k hk
    rwa [Draft.Saw, Chart.settle_seen]
  rcases hr : x.rest with _ | ⟨t | n, rest⟩
  · obtain ⟨hw, hd, -, -⟩ := Chart.settle_nil (g := g) (i := i) (d := d) hr
    refine ⟨fun y hy => hw ▸ hy, fun y hy => hd ▸ hy, fun p hp => ?_, fun hs => ?_, hsaw⟩
    · simp only [Chart.settle, hr]
      split_ifs
      · exact List.mem_cons_of_mem _ hp
      · exact hp
    · simp only [Chart.settle, hr]
      split_ifs
      · rfl
      · exact hs
  · rw [Chart.settle_terminal hr] at hsaw ⊢
    exact ⟨fun _ h => h, fun _ h => List.mem_cons_of_mem _ h, fun _ h => h, id, hsaw⟩
  · rw [Chart.settle_nonterminal hr] at hsaw ⊢
    exact ⟨fun _ h => List.mem_cons_of_mem _ h, fun _ h => h, fun _ h => h, id, hsaw⟩

/-- The uses that follow from one that fits do so too. -/
theorem followers_fits
    (hcols : ∀ (o : Nat) (c : Column τ T N), columns[o]? = some c →
      ∀ y ∈ c.waiting, y.Fits g (word.take o))
    (hwait : ∀ y ∈ d.column.waiting, y.Fits g word)
    (hempt : ∀ t n, (t, n) ∈ d.emptied →
      Derives g.plain g.kind (.nonterminal n) t ∧ t.yield = [])
    (hx : x.Fits g word) {z : Partial τ T N}
    (hz : z ∈ g.followers columns word.length d x) : z.Fits g word := by
  unfold Chart.followers at hz
  rcases hr : x.rest with _ | ⟨t | n, rest⟩ <;> simp only [hr] at hz
  · split_ifs at hz with ho
    · obtain ⟨y, hy, ha, rfl⟩ := Chart.mem_resume.1 hz
      obtain ⟨rest, hrest⟩ := Partial.awaits_iff.1 ha
      refine hx.resume hr rfl ?_ hrest
      rw [ho, List.take_length]
      exact hwait y hy
    · rcases hc : columns[x.origin]? with _ | c <;> simp only [hc] at hz
      · exact absurd hz (List.not_mem_nil)
      · obtain ⟨y, hy, ha, rfl⟩ := Chart.mem_resume.1 hz
        obtain ⟨rest, hrest⟩ := Partial.awaits_iff.1 ha
        exact hx.resume hr rfl (hcols _ c hc y hy) hrest
  · exact absurd hz (List.not_mem_nil)
  · rcases List.mem_append.1 hz with hz | hz
    · exact hx.predict hr hz
    · obtain ⟨⟨t, m⟩, ht, hz⟩ := List.mem_filterMap.1 hz
      simp only [Option.ite_none_right_eq_some, Option.some.injEq] at hz
      obtain ⟨rfl, rfl⟩ := hz
      obtain ⟨hd, hw⟩ := hempt _ _ ht
      have := hx.advance hr hd
      rwa [hw, List.append_nil] at this

section Step

variable (hcols : ∀ (o : Nat) (c : Column τ T N), columns[o]? = some c →
    ∀ y ∈ c.waiting, y.Fits g (word.take o))
  (h : d.Inv g word columns U) {rest : List (Partial τ T N)} (ha : d.agenda = x :: rest)

include hcols h ha

theorem Draft.Inv.followers_fits :
    ∀ z ∈ g.followers columns word.length { d with agenda := rest } x, z.Fits g word := by
  intro z hz
  have hx : x.Fits g word := h.fits x (.inr (ha ▸ List.mem_cons_self))
  have hwait : ∀ y ∈ d.column.waiting, y.Fits g word := fun y hy =>
    h.fits y (.inl (h.waiting y hy))
  exact Cfg.followers_fits hcols hwait h.emptied hx hz

theorem Draft.Inv.followers_bound :
    ∀ z ∈ g.followers columns word.length { d with agenda := rest } x,
      z.origin < (g.settle word.length { d with agenda := rest } x).seen.size := by
  intro z hz
  have hz := h.followers_fits hcols ha z hz
  rw [Chart.settle_seen, h.size]
  exact Nat.lt_succ_of_le hz.origin_le

theorem Draft.Inv.extends_process :
    d.Extends (g.process columns word.length { d with agenda := rest } x) := by
  rw [Chart.process_eq]
  have h₀ : d.Extends { d with agenda := rest } :=
    ⟨fun _ => id, fun _ => id, fun _ => id, id, fun _ => id⟩
  exact h₀.trans ((extends_settle _).trans
    (Draft.extends_pushAll (h.followers_bound hcols ha)))

theorem Draft.Inv.load_process :
    (g.process columns word.length { d with agenda := rest } x).load (g.keys word.length)
      ≤ ({ d with agenda := rest } : Draft τ T N).load (g.keys word.length) := by
  rw [Chart.process_eq]
  refine (Draft.load_pushAll _ fun z hz => ?_).trans ?_
  · exact ⟨(h.followers_fits hcols ha z hz).key_mem, h.followers_bound hcols ha z hz⟩
  · exact (Draft.load_congr Chart.settle_agenda Chart.settle_seen).le

theorem Draft.Inv.saw_follower {z : Partial τ T N}
    (hz : z ∈ g.followers columns word.length { d with agenda := rest } x) :
    (g.process columns word.length { d with agenda := rest } x).Saw z.key := by
  rw [Chart.process_eq]
  exact (Draft.saw_pushAll_iff _ (h.followers_bound hcols ha)).2 (.inr ⟨z, hz, rfl⟩)

/-- A use is handled as soon as it has been looked at. -/
theorem Draft.Inv.handled_process :
    (g.process columns word.length { d with agenda := rest } x).Handled g word columns x := by
  have hF := fun z => h.saw_follower hcols ha (z := z)
  have hse := Draft.extends_pushAll (h.followers_bound hcols ha)
  have hcol := Draft.column_pushAll
    (g.followers columns word.length { d with agenda := rest } x)
    (g.settle word.length { d with agenda := rest } x)
  rw [← Chart.process_eq] at hse hcol
  refine ⟨fun t rs hrest => ?_, fun n rs hrest => ?_, fun n rs hrest q hq => hF q ?_,
    fun hrest ho => ?_, fun hrest ho c hc y hy hya => hF _ ?_, fun hrest ho hl => ?_⟩
  · rw [hcol, Chart.settle_terminal hrest]
    exact List.mem_cons_self
  · rw [hcol, Chart.settle_nonterminal hrest]
    exact List.mem_cons_self
  · simp only [Chart.followers, hrest]
    exact List.mem_append_left _ hq
  · exact ⟨x.tree, hse.emptied _ ((Chart.settle_nil hrest).2.2.1 ho)⟩
  · simp only [Chart.followers, hrest, if_neg ho, hc]
    exact Chart.mem_resume.2 ⟨y, hy, hya, rfl⟩
  · exact hse.sentence ((Chart.settle_nil hrest).2.2.2 ho hl)

/-- Two uses looked at before are joined already; else the later one finds the earlier one. -/
theorem Draft.Inv.joined_process {y z : Partial τ T N} (hy : U y ∨ y = x) (hz : U z ∨ z = x) :
    (g.process columns word.length { d with agenda := rest } x).Joined word y z := by
  have hF := fun w => h.saw_follower hcols ha (z := w)
  rcases hy with hy | rfl <;> rcases hz with hz | rfl
  · exact (h.joined y z hy hz).mono (h.extends_process hcols ha)
  · intro hrest ho hya
    obtain ⟨rs, hzr⟩ := Partial.awaits_iff.1 hya
    obtain ⟨t, ht⟩ := (h.handled y hy).empties hrest ho
    rw [Partial.key_advance, ← Partial.key_advance z t]
    refine hF _ ?_
    simp only [Chart.followers, hzr]
    exact List.mem_append_right _ (List.mem_filterMap.2 ⟨(t, y.lhs), ht, if_pos rfl⟩)
  · intro hrest ho hya
    obtain ⟨rs, hzr⟩ := Partial.awaits_iff.1 hya
    refine hF _ ?_
    simp only [Chart.followers, hrest, if_pos ho]
    exact Chart.mem_resume.2 ⟨z, (h.handled z hz).waits _ rs hzr, hya, rfl⟩
  · intro hrest _ hya
    obtain ⟨rs, hzr⟩ := Partial.awaits_iff.1 hya
    rw [hrest] at hzr
    exact absurd hzr (List.cons_ne_nil _ _).symm

/-- Looking at a use handles it and joins it to those looked at before. -/
theorem Draft.Inv.process :
    (g.process columns word.length { d with agenda := rest } x).Inv g word columns
      fun y => U y ∨ y = x := by
  have hx : x.Fits g word := h.fits x (.inr (ha ▸ List.mem_cons_self))
  have hF := h.followers_fits hcols ha
  have hbound := h.followers_bound hcols ha
  have hde := h.extends_process hcols ha
  have hhandled := h.handled_process hcols ha
  have hjoined := fun y z => h.joined_process hcols ha (y := y) (z := z)
  rw [Chart.process_eq] at hde hhandled hjoined ⊢
  set d₀ : Draft τ T N := { d with agenda := rest }
  set e := (g.settle word.length d₀ x).pushAll (g.followers columns word.length d₀ x)
  have hcol : e.column = (g.settle word.length d₀ x).column := Draft.column_pushAll _ _
  obtain ⟨hw, hr, hem, hsen⟩ := Chart.settle_cases (g := g) (i := word.length) (d := d₀) (x := x)
  have hagenda : ∀ y, (y ∈ e.agenda → y ∈ rest ∨ y ∈ g.followers columns word.length d₀ x)
      ∧ (y ∈ rest → y ∈ e.agenda) := by
    intro y
    have := Draft.mem_agenda_pushAll (g.followers columns word.length d₀ x)
      (g.settle word.length d₀ x) y
    rwa [Chart.settle_agenda] at this
  refine ⟨?_, fun y hy => ?_, fun y hy => ?_, fun y hy => ?_, fun t n ht => ?_, fun t ht => ?_,
    fun k hk => ?_, fun y hy => ?_, hjoined⟩
  · rw [Draft.seen_size_pushAll, Chart.settle_seen]
    exact h.size
  · rcases hy with (hy | rfl) | hy
    · exact h.fits y (.inl hy)
    · exact hx
    · rcases (hagenda y).1 hy with hy | hy
      · exact h.fits y (.inr (ha ▸ List.mem_cons_of_mem _ hy))
      · exact hF y hy
  · rw [hcol] at hy
    exact (hw y hy).symm.imp_left (h.waiting y)
  · rw [hcol] at hy
    exact (hr y hy).symm.imp_left (h.reading y)
  · rw [Draft.emptied_pushAll] at ht
    rcases hem _ ht with ht | ⟨hrest, ho, ht⟩
    · exact h.emptied t n ht
    · obtain ⟨rfl, rfl⟩ := Prod.mk.inj ht
      have := hx.tree hrest
      rwa [ho, List.drop_length] at this
  · rw [hcol] at ht
    rcases hsen t ht with ht | ⟨hrest, ho, hl, rfl⟩
    · exact h.sentence t ht
    · have := hx.tree hrest
      rwa [ho, hl, List.drop_zero] at this
  · rcases Draft.exists_agenda_of_saw_pushAll _ hbound hk with hk | ⟨y, hy, rfl⟩
    · rw [Draft.Saw, Chart.settle_seen] at hk
      obtain ⟨y, hy, rfl⟩ := h.saw k hk
      rw [ha, List.mem_cons] at hy
      rcases hy with hy | rfl | hy
      · exact ⟨y, .inl (.inl hy), rfl⟩
      · exact ⟨y, .inl (.inr rfl), rfl⟩
      · exact ⟨y, .inr ((hagenda y).2 hy), rfl⟩
    · exact ⟨y, .inr hy, rfl⟩
  · rcases hy with hy | rfl
    · exact (h.handled y hy).mono hde
    · exact hhandled

end Step

/-- The column after `word` holds the uses in `U`, which fit, and with each of them those that follow
from it. The columns are given by their places. -/
structure Column.Closed (g : Chart τ T N) (word : List τ) (column? : Nat → Option (Column τ T N))
    (U : Partial τ T N → Prop) (c : Column τ T N) : Prop where
  fits : ∀ x, U x → x.Fits g word
  waiting : ∀ x ∈ c.waiting, U x
  reading : ∀ x ∈ c.reading, U x
  sentence : ∀ t, c.sentence = some t →
    Derives g.plain g.kind (.nonterminal g.start) t ∧ t.yield = word
  reads : ∀ x t rest, U x → x.rest = .terminal t :: rest → x ∈ c.reading
  waits : ∀ x n rest, U x → x.rest = .nonterminal n :: rest → x ∈ c.waiting
  predicts : ∀ x n rest, U x → x.rest = .nonterminal n :: rest →
    ∀ q ∈ g.predict n word.length, ∃ z, U z ∧ z.key = q.key
  resumes : ∀ x y b, U x → x.rest = [] → column? x.origin = some b → y ∈ b.waiting →
    y.awaits x.lhs = true → ∃ z, U z ∧ z.key = ((y.number, y.rest.length - 1), y.origin)
  ends : ∀ x, U x → x.rest = [] → x.origin = 0 → x.lhs = g.start → c.sentence.isSome

/-- Only the columns up to its own matter to a column. -/
theorem Column.Closed.congr {c : Column τ T N} {column? column?' : Nat → Option (Column τ T N)}
    (h : c.Closed g word column? U) (he : ∀ o, o ≤ word.length → column?' o = column? o) :
    c.Closed g word column?' U :=
  { h with
    resumes := fun x y b hx hr hb => h.resumes x y b hx hr (by
      rwa [he _ (h.fits x hx).origin_le] at hb) }

/-- A draft with an empty agenda holds a closed column. -/
theorem Draft.Inv.closed (h : d.Inv g word columns U) (ha : d.agenda = [])
    (hsize : columns.size = word.length) :
    d.column.Closed g word ((columns.push d.column)[·]?) U := by
  have hsaw : ∀ k, d.Saw k → ∃ x, U x ∧ x.key = k := by
    intro k hk
    obtain ⟨x, hx, hxk⟩ := h.saw k hk
    rw [ha] at hx
    exact ⟨x, hx.resolve_right List.not_mem_nil, hxk⟩
  refine ⟨fun x hx => h.fits x (.inl hx), h.waiting, h.reading, h.sentence,
    fun x t rest hx => (h.handled x hx).reads t rest,
    fun x n rest hx => (h.handled x hx).waits n rest,
    fun x n rest hx hr q hq => hsaw _ ((h.handled x hx).predicts n rest hr q hq),
    fun x y b hx hr hb hy hya => ?_, fun x hx => (h.handled x hx).ends⟩
  rw [← Partial.key_advance y x.tree]
  refine hsaw _ ?_
  by_cases ho : x.origin = word.length
  · rw [ho, ← hsize, Array.getElem?_push_size] at hb
    obtain rfl := Option.some.inj hb
    exact h.joined x y hx (h.waiting y hy) hr ho hya
  · have hlt : x.origin < columns.size := by
      have := (h.fits x (.inl hx)).origin_le
      omega
    rw [Array.getElem?_push_lt hlt] at hb
    exact (h.handled x hx).resumes hr ho b (by rw [← hb]; exact Array.getElem?_eq_getElem hlt)
      y hy hya

omit [DecidableEq N] in
theorem Partial.Fits.origin_lt_size (hx : x.Fits g word) :
    x.origin < ({ seen := Array.replicate (word.length + 1) [] } : Draft τ T N).seen.size := by
  simpa using Nat.lt_succ_of_le hx.origin_le

theorem Draft.Inv.start (seeds : List (Partial τ T N)) (hseeds : ∀ z ∈ seeds, z.Fits g word) :
    (({ seen := Array.replicate (word.length + 1) [] } : Draft τ T N).pushAll seeds).Inv g word
      columns fun _ => False := by
  set d₀ : Draft τ T N := { seen := Array.replicate (word.length + 1) [] }
  have hbound : ∀ z ∈ seeds, z.origin < d₀.seen.size := fun z hz => (hseeds z hz).origin_lt_size
  have hnone : ∀ k, ¬ d₀.Saw k := by
    intro k
    simp only [Draft.Saw, d₀, Array.getD_eq_getD_getElem?, Array.getElem?_replicate]
    split_ifs <;> simp
  refine ⟨?_, fun x hx => ?_, fun x hx => ?_, fun x hx => ?_, fun t n ht => ?_, fun t ht => ?_,
    fun k hk => ?_, fun x hx => hx.elim, fun x y hx => hx.elim⟩
  · rw [Draft.seen_size_pushAll]
    simp [d₀]
  · rcases (Draft.mem_agenda_pushAll seeds d₀ x).1 (hx.resolve_left id) with hx | hx
    · exact absurd hx List.not_mem_nil
    · exact hseeds x hx
  · rw [Draft.column_pushAll] at hx
    exact absurd hx List.not_mem_nil
  · rw [Draft.column_pushAll] at hx
    exact absurd hx List.not_mem_nil
  · rw [Draft.emptied_pushAll] at ht
    exact absurd ht List.not_mem_nil
  · rw [Draft.column_pushAll] at ht
    exact absurd ht (Option.some_ne_none t).symm
  · rcases Draft.exists_agenda_of_saw_pushAll seeds hbound hk with hk | ⟨y, hy, rfl⟩
    · exact absurd hk (hnone k)
    · exact ⟨y, .inr hy, rfl⟩

/-- The column that uses begin is closed and holds them. -/
theorem Chart.columnOf_closed (hsize : columns.size = word.length)
    (hcols : ∀ (o : Nat) (c : Column τ T N), columns[o]? = some c →
      ∀ y ∈ c.waiting, y.Fits g (word.take o))
    {seeds : List (Partial τ T N)} (hseeds : ∀ z ∈ seeds, z.Fits g word) :
    ∃ U, (g.columnOf columns word.length seeds).Closed g word
        ((columns.push (g.columnOf columns word.length seeds))[·]?) U
      ∧ ∀ z ∈ seeds, ∃ y, U y ∧ y.key = z.key := by
  set d₀ : Draft τ T N := { seen := Array.replicate (word.length + 1) [] }
  have hbound : ∀ z ∈ seeds, z.origin < d₀.seen.size := fun z hz => (hseeds z hz).origin_lt_size
  have hload : (d₀.pushAll seeds).load (g.keys word.length) < g.dots * (word.length + 1) + 1 := by
    refine Nat.lt_succ_of_le ((Draft.load_pushAll seeds fun z hz =>
      ⟨(hseeds z hz).key_mem, hbound z hz⟩).trans ?_)
    rw [← g.length_keys]
    have : d₀.load (g.keys word.length) = 0 + (g.keys word.length).countP fun k => !d₀.Saw k := rfl
    rw [this, Nat.zero_add]
    exact List.countP_le_length
  obtain ⟨e, ⟨⟨U, hU⟩, hsaw⟩, hea, hec⟩ := g.exists_closed columns word.length (g.keys word.length)
    (fun d => (∃ U, d.Inv g word columns U) ∧ ∀ z ∈ seeds, d.Saw z.key)
    (fun d x rest ⟨⟨U, hU⟩, hsaw⟩ ha =>
      ⟨⟨⟨_, hU.process hcols ha⟩, fun z hz => (hU.extends_process hcols ha).saw _ (hsaw z hz)⟩,
        hU.load_process hcols ha⟩)
    _ _ ⟨⟨_, Draft.Inv.start seeds hseeds⟩,
      fun z hz => (Draft.saw_pushAll_iff seeds hbound).2 (.inr ⟨z, hz, rfl⟩)⟩ hload
  have hcol : g.columnOf columns word.length seeds = e.column := hec
  rw [hcol]
  refine ⟨U, hU.closed hea hsize, fun z hz => ?_⟩
  obtain ⟨y, hy, hk⟩ := hU.saw _ (hsaw z hz)
  rw [hea] at hy
  exact ⟨y, hy.resolve_right List.not_mem_nil, hk⟩

end Closing

end Reckon.Cfg
