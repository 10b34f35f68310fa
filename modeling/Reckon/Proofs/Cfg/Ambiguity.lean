import Mathlib.Data.List.Induction
import Reckon.Proofs.Cfg.Language

/-!
# Trees told by their leaves

A grammar is unambiguous if the leaves of a derivation tree tell the tree. What is proved of a part
of a sentence has to say what may follow it: trees are `Told` if the leaves, together with what
follows them, tell both the tree and where it ends.

Left recursion hides where the first item ends. The trees of a left-recursive rule are a stem that
grows at its end (`Stem.Grown`); read from the left they are a first item with further items
after it, so they are told by their leaves if the items are (`Told.grown`).
-/

namespace Reckon.Cfg.Tree

variable {τ υ T N : Type} {ps : List (Production T N)} {kind : τ → T}

attribute [simp] yield yieldAll

/-! ## Inversion -/

@[simp] theorem derives_terminal_iff {a : T} {t : Tree τ N} :
    Derives ps kind (.terminal a) t ↔ ∃ b, kind b = a ∧ t = .leaf b := by
  constructor
  · rintro ⟨b⟩
    exact ⟨b, rfl, rfl⟩
  · rintro ⟨b, rfl, rfl⟩
    exact .leaf b

@[simp] theorem derivesAll_nil_iff {ts : List (Tree τ N)} : DerivesAll ps kind [] ts ↔ ts = [] := by
  constructor
  · rintro ⟨⟩
    rfl
  · rintro rfl
    exact .nil

@[simp] theorem derivesAll_cons_iff {s : Symbol T N} {ss : List (Symbol T N)}
    {ts : List (Tree τ N)} : DerivesAll ps kind (s :: ss) ts ↔
      ∃ t, Derives ps kind s t ∧ ∃ us, DerivesAll ps kind ss us ∧ ts = t :: us := by
  constructor
  · rintro ⟨⟩
    rename_i h hs
    exact ⟨_, h, _, hs, rfl⟩
  · rintro ⟨t, h, us, hs, rfl⟩
    exact .cons h hs

/-- The tree of a nonterminal is a use of one of its productions. -/
theorem derives_nonterminal_iff {n : N} {t : Tree τ N} :
    Derives ps kind (.nonterminal n) t ↔
      ∃ p ∈ ps, p.lhs = n ∧ ∃ ts, DerivesAll ps kind p.rhs ts ∧ t = .node n ts := by
  constructor
  · intro h
    cases h with
    | node hp hts => exact ⟨_, hp, rfl, _, hts, rfl⟩
  · rintro ⟨p, hp, rfl, ts, hts, rfl⟩
    exact .node hp hts

/-! ## Other tokens -/

mutual

/-- The tree with other tokens at its leaves. -/
def map (f : τ → υ) : Tree τ N → Tree υ N
  | leaf a => leaf (f a)
  | node n ts => node n (mapAll f ts)

def mapAll (f : τ → υ) : List (Tree τ N) → List (Tree υ N)
  | [] => []
  | t :: ts => t.map f :: mapAll f ts

end

mutual

theorem yield_map (f : τ → υ) : ∀ t : Tree τ N, (t.map f).yield = t.yield.map f
  | leaf a => by rw [map, yield, yield, List.map_singleton]
  | node n ts => by rw [map, yield, yield, yieldAll_mapAll f ts]

theorem yieldAll_mapAll (f : τ → υ) :
    ∀ ts : List (Tree τ N), yieldAll (mapAll f ts) = (yieldAll ts).map f
  | [] => by rw [mapAll, yieldAll, yieldAll, List.map_nil]
  | t :: ts => by rw [mapAll, yieldAll, yieldAll, yield_map f t, yieldAll_mapAll f ts,
      List.map_append]

end

mutual

theorem map_map {ω : Type} (f : τ → υ) (g : υ → ω) : ∀ t : Tree τ N, (t.map f).map g = t.map (g ∘ f)
  | leaf a => by rw [map, map, map, Function.comp]
  | node n ts => by rw [map, map, map, mapAll_mapAll f g ts]

theorem mapAll_mapAll {ω : Type} (f : τ → υ) (g : υ → ω) :
    ∀ ts : List (Tree τ N), mapAll g (mapAll f ts) = mapAll (g ∘ f) ts
  | [] => by rw [mapAll, mapAll, mapAll]
  | t :: ts => by rw [mapAll, mapAll, mapAll, map_map f g t, mapAll_mapAll f g ts]

end

mutual

theorem map_eq_self {f : τ → τ} : ∀ {t : Tree τ N}, (∀ a ∈ t.yield, f a = a) → t.map f = t
  | leaf a, h => by
    rw [map, h a (by rw [yield]; exact List.mem_cons_self)]
  | node n ts, h => by
    rw [yield] at h
    rw [map, mapAll_eq_self h]

theorem mapAll_eq_self {f : τ → τ} : ∀ {ts : List (Tree τ N)}, (∀ a ∈ yieldAll ts, f a = a) →
    mapAll f ts = ts
  | [], _ => by rw [mapAll]
  | t :: ts, h => by
    rw [yieldAll] at h
    obtain ⟨ht, hts⟩ := List.forall_mem_append.1 h
    rw [mapAll, map_eq_self ht, mapAll_eq_self hts]

end

mutual

theorem Derives.map {f : τ → υ} {kind' : υ → T} (hf : ∀ a, kind' (f a) = kind a)
    {s : Symbol T N} {t : Tree τ N} :
    Derives ps kind s t → Derives ps kind' s (t.map f)
  | .leaf a => by
    rw [Tree.map, ← hf a]
    exact .leaf (f a)
  | .node hp hts => by
    rw [Tree.map]
    exact .node hp (DerivesAll.mapAll hf hts)

theorem DerivesAll.mapAll {f : τ → υ} {kind' : υ → T} (hf : ∀ a, kind' (f a) = kind a)
    {ss : List (Symbol T N)} {ts : List (Tree τ N)} :
    DerivesAll ps kind ss ts → DerivesAll ps kind' ss (mapAll f ts)
  | .nil => by
    rw [Tree.mapAll]
    exact .nil
  | .cons h hs => by
    rw [Tree.mapAll]
    exact .cons (Derives.map hf h) (DerivesAll.mapAll hf hs)

end

/-! ## The first token -/

/-- Is the symbol a terminal in `F` or a nonterminal in `E`? -/
def begins (E : N → Bool) (F : T → Bool) : Symbol T N → Bool
  | .terminal t => F t
  | .nonterminal n => E n

mutual

/-- If every right side of the nonterminals in `E` begins with one of these or a terminal in `F`,
then every tree of them begins with a token of `F`. -/
theorem exists_first {E : N → Bool} {F : T → Bool}
    (hps : ∀ p ∈ ps, E p.lhs = true → p.rhs.head?.any (begins E F) = true) {s : Symbol T N}
    {t : Tree τ N} :
    Derives ps kind s t → begins E F s = true → ∃ a ∈ t.yield.head?, F (kind a) = true
  | .leaf a, hs => ⟨a, by rw [yield]; rfl, hs⟩
  | .node hp hts, hs => by
    rw [yield]
    exact exists_firstOfAll hps hts (hps _ hp hs)

theorem exists_firstOfAll {E : N → Bool} {F : T → Bool}
    (hps : ∀ p ∈ ps, E p.lhs = true → p.rhs.head?.any (begins E F) = true)
    {ss : List (Symbol T N)} {ts : List (Tree τ N)} :
    DerivesAll ps kind ss ts → ss.head?.any (begins E F) = true →
      ∃ a ∈ (yieldAll ts).head?, F (kind a) = true
  | .nil, hs => by cases hs
  | .cons h _, hs => by
    obtain ⟨a, ha, hF⟩ := exists_first hps h hs
    refine ⟨a, ?_, hF⟩
    rw [yieldAll, List.head?_append, ha]
    rfl

end

/-! ## Trees and what follows them -/

/-- Trees in `P` of fewer than `m` leaves, followed by what `F` allows, are told by their leaves. -/
def Told (m : Nat) (P : Tree τ N → Prop) (F : List τ → Prop) : Prop :=
  ∀ ⦃t t' : Tree τ N⦄ ⦃u v : List τ⦄, P t → P t' → t.yield.length < m → F u → F v →
    t.yield ++ u = t'.yield ++ v → t = t' ∧ u = v

theorem Told.mono {m : Nat} {P : Tree τ N → Prop} {F F' : List τ → Prop} (h : Told m P F)
    (hF : ∀ u, F' u → F u) : Told m P F' :=
  fun _ _ u v ht ht' hlen hu hv he => h ht ht' hlen (hF u hu) (hF v hv) he

/-- How a tree of one item is made, and how one grows by a token and a further item. -/
structure Stem (τ N : Type) where
  one : Tree τ N → Tree τ N
  more : Tree τ N → τ → Tree τ N → Tree τ N
  yield_one : ∀ x, (one x).yield = x.yield
  yield_more : ∀ t a x, (more t a x).yield = t.yield ++ a :: x.yield

namespace Stem

variable {S : Stem τ N} {items P : Tree τ N → Prop} {joins : τ → Prop}

/-- A first item and further ones, each after a token that joins it. -/
def grow (S : Stem τ N) (x : Tree τ N) (l : List (τ × Tree τ N)) : Tree τ N :=
  l.foldl (fun t p => S.more t p.1 p.2) (S.one x)

/-- The tokens of the further items. -/
def further (l : List (τ × Tree τ N)) : List τ := l.flatMap fun p => p.1 :: p.2.yield

theorem yield_grow (x : Tree τ N) (l : List (τ × Tree τ N)) :
    (S.grow x l).yield = x.yield ++ further l := by
  induction l using List.reverseRecOn with
  | nil => rw [grow, List.foldl_nil, S.yield_one, further, List.flatMap_nil, List.append_nil]
  | append_singleton l p ih =>
    rw [grow] at ih
    rw [grow, List.foldl_append, List.foldl_cons, List.foldl_nil, S.yield_more, ih, further,
      further, List.flatMap_append, List.flatMap_singleton, List.append_assoc]

/-- All trees in `P` are grown from items, joined by tokens that may join them. -/
def Grown (S : Stem τ N) (items : Tree τ N → Prop) (joins : τ → Prop)
    (P : Tree τ N → Prop) : Prop :=
  ∀ t, P t → (∃ x, items x ∧ t = S.one x) ∨
    ∃ t' a x, P t' ∧ joins a ∧ items x ∧ t = S.more t' a x

theorem Grown.exists_grow (h : S.Grown items joins P) {t : Tree τ N} (ht : P t) :
    ∃ x l, items x ∧ (∀ p ∈ l, joins p.1 ∧ items p.2) ∧ t = S.grow x l := by
  induction hlen : t.yield.length using Nat.strongRecOn generalizing t with
  | _ m ih =>
  obtain ⟨x, hx, rfl⟩ | ⟨t', a, x, ht', ha, hx, rfl⟩ := h t ht
  · exact ⟨x, [], hx, nofun, rfl⟩
  · have hlt : t'.yield.length < m := by
      rw [← hlen, S.yield_more, List.length_append, List.length_cons]
      omega
    obtain ⟨y, l, hy, hl, rfl⟩ := ih _ hlt ht' rfl
    refine ⟨y, l ++ [(a, x)], hy, ?_, ?_⟩
    · exact List.forall_mem_append.2 ⟨hl, List.forall_mem_singleton.2 ⟨ha, hx⟩⟩
    · rw [grow, grow, List.foldl_append]
      rfl

end Stem

section Grown

variable {S : Stem τ N} {items P : Tree τ N → Prop} {joins : τ → Prop} {F : List τ → Prop} {m : Nat}

/-- Nothing comes that joins a further item. -/
def Unjoined (joins : τ → Prop) (u : List τ) : Prop := ∀ a ∈ u.head?, ¬ joins a

/-- Items that are told one by one are told in a row. -/
theorem Told.row (h : Told m items F) (hF : ∀ a u, joins a → F (a :: u)) {u v : List τ} (hu : F u)
    (hv : F v) (huj : Unjoined joins u) (hvj : Unjoined joins v) :
    ∀ {l l' : List (τ × Tree τ N)} {x x' : Tree τ N}, items x → items x' →
      (∀ p ∈ l, joins p.1 ∧ items p.2) → (∀ p ∈ l', joins p.1 ∧ items p.2) →
      (x.yield ++ Stem.further l).length < m →
      x.yield ++ (Stem.further l ++ u) = x'.yield ++ (Stem.further l' ++ v) →
      x = x' ∧ l = l' ∧ u = v := by
  have hfollow : ∀ {l : List (τ × Tree τ N)} {w : List τ}, (∀ p ∈ l, joins p.1 ∧ items p.2) → F w →
      F (Stem.further l ++ w) := by
    intro l w hl hw
    cases l with
    | nil => exact hw
    | cons p l => exact hF _ _ (hl p List.mem_cons_self).1
  intro l
  induction l with
  | nil =>
    intro l' x x' hx hx' hl hl' hlen he
    rw [List.length_append] at hlen
    obtain ⟨rfl, hrest⟩ := h hx hx' (by omega) (hfollow hl hu) (hfollow hl' hv) he
    cases l' with
    | nil => exact ⟨rfl, rfl, hrest⟩
    | cons q l' =>
      refine absurd (hl' q List.mem_cons_self).1 (huj q.1 ?_)
      rw [Stem.further, List.flatMap_nil, List.nil_append] at hrest
      rw [hrest]
      rfl
  | cons p l ih =>
    intro l' x x' hx hx' hl hl' hlen he
    rw [List.length_append] at hlen
    obtain ⟨rfl, hrest⟩ := h hx hx' (by omega) (hfollow hl hu) (hfollow hl' hv) he
    cases l' with
    | nil =>
      refine absurd (hl p List.mem_cons_self).1 (hvj p.1 ?_)
      rw [Stem.further, Stem.further, List.flatMap_nil, List.nil_append] at hrest
      rw [← hrest]
      rfl
    | cons q l' =>
      obtain ⟨hp, hl⟩ := List.forall_mem_cons.1 hl
      obtain ⟨hq, hl'⟩ := List.forall_mem_cons.1 hl'
      simp only [Stem.further, List.flatMap_cons, List.cons_append, List.append_assoc,
        List.length_cons, List.length_append, List.cons.injEq] at hrest hlen
      obtain ⟨hy, rfl, huv⟩ := ih hp.2 hq.2 hl hl'
        (by rw [List.length_append, Stem.further]; omega) hrest.2
      exact ⟨rfl, by rw [Prod.ext hrest.1 hy], huv⟩

/-- The trees of a stem are told where nothing comes that would let it grow. -/
theorem Told.grown (h : Told m items F) (hP : S.Grown items joins P)
    (hF : ∀ a u, joins a → F (a :: u)) : Told m P fun u => F u ∧ Unjoined joins u := by
  intro t t' u v ht ht' hlen hu hv he
  obtain ⟨x, l, hx, hl, rfl⟩ := hP.exists_grow ht
  obtain ⟨x', l', hx', hl', rfl⟩ := hP.exists_grow ht'
  rw [Stem.yield_grow] at hlen
  rw [Stem.yield_grow, Stem.yield_grow, List.append_assoc, List.append_assoc] at he
  obtain ⟨rfl, rfl, rfl⟩ := h.row hF hu.1 hv.1 hu.2 hv.2 hx hx' hl hl' hlen he
  exact ⟨rfl, rfl⟩

end Grown

end Reckon.Cfg.Tree
