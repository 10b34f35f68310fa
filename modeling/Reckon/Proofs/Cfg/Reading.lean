import Mathlib.Data.List.Basic
import Mathlib.Order.Nat
import Reckon.Proofs.Cfg.Column

/-!
# Reading with a chart

While tokens are read, all columns so far are closed, and each holds what the one before it hands on
over the token between them (`History`). So a use moves on over every word that its next symbols
generate (`History.exists_use`), and where such a word goes beyond the tokens read, a use waits to
read its next terminal (`History.exists_reading`).

Therefore a chart reads the tokens exactly as long as they are the beginning of a sentence, tells in
the end whether they are one, and expects exactly the terminals that may come next
(`Chart.read_outcome`).
-/

namespace Reckon.Cfg

open Cfg.Tree

variable {τ T N : Type}

theorem Column.mem_expected {c : Column τ T N} {t : T} :
    t ∈ c.expected ↔ ∃ x ∈ c.reading, ∃ rest, x.rest = .terminal t :: rest := by
  simp only [expected, List.mem_filterMap]
  refine exists_congr fun x => and_congr_right fun _ => ?_
  split
  · rename_i u rest h
    simp [h]
  · rename_i h
    simp only [reduceCtorEq, false_iff, not_exists]
    exact fun rest hr => h _ _ hr

variable [DecidableEq T] [DecidableEq N]

/-- The columns after the beginnings of `word`, with the uses that each holds. -/
structure History (g : Chart τ T N) (word : List τ) (cols : Array (Column τ T N))
    (U : Nat → Partial τ T N → Prop) : Prop where
  size : cols.size = word.length + 1
  closed : ∀ (j : Nat) (c : Column τ T N), cols[j]? = some c →
    c.Closed g (word.take j) (cols[·]?) (U j)
  first : ∀ q ∈ g.predict g.start 0, ∃ z, U 0 z ∧ z.key = q.key
  next : ∀ (j : Nat) (c : Column τ T N) (a : τ) (x : Partial τ T N), cols[j]? = some c →
    word[j]? = some a → x ∈ c.reading → x.reads (g.kind a) = true →
    ∃ z, U (j + 1) z ∧ z.key = (x.advance (.leaf a)).key

namespace History

variable {g : Chart τ T N} {word : List τ} {cols : Array (Column τ T N)}
  {U : Nat → Partial τ T N → Prop}

theorem exists_column (h : History g word cols U) {j : Nat} (hj : j ≤ word.length) :
    ∃ c, cols[j]? = some c ∧ c.Closed g (word.take j) (cols[·]?) (U j) := by
  have hlt : j < cols.size := by
    have := h.size
    omega
  exact ⟨cols[j], Array.getElem?_eq_getElem hlt, h.closed j _ (Array.getElem?_eq_getElem hlt)⟩

theorem place_le (h : History g word cols U) {j : Nat} {c : Column τ T N} (hc : cols[j]? = some c) :
    j ≤ word.length := by
  have := (Array.getElem?_eq_some_iff.1 hc).1
  rw [h.size] at this
  omega

theorem waiting_fits (h : History g word cols U) {j : Nat} {c : Column τ T N}
    (hc : cols[j]? = some c) {y : Partial τ T N} (hy : y ∈ c.waiting) : y.Fits g (word.take j) :=
  (h.closed j c hc).fits y ((h.closed j c hc).waiting y hy)

/-- Where a nonterminal is awaited, every production of it is begun. -/
theorem exists_predicted (h : History g word cols U) (hg : g.Numbered) {j : Nat}
    (hj : j ≤ word.length) {p : Production T N} (hp : p ∈ g.plain)
    (hsaw : ∀ q ∈ g.predict p.lhs j, ∃ z, U j z ∧ z.key = q.key) :
    ∃ z, U j z ∧ z.lhs = p.lhs ∧ z.rest = p.rhs ∧ z.origin = j := by
  obtain ⟨k, hk⟩ := Chart.exists_number hp
  have hq : (⟨k, p.lhs, [], p.rhs, j⟩ : Partial τ T N) ∈ g.predict p.lhs j :=
    List.mem_filterMap.2 ⟨(k, p), hk, if_pos rfl⟩
  obtain ⟨z, hz, hzk⟩ := hsaw _ hq
  obtain ⟨c, hc, hcl⟩ := h.exists_column hj
  obtain ⟨q, ss, hqk, hl, hr, -⟩ := (hcl.fits z hz).behind
  simp only [Partial.key, Partial.dot, Prod.mk.injEq] at hzk
  obtain ⟨⟨hn, hlen⟩, ho⟩ := hzk
  rw [hn] at hqk
  obtain rfl := hg _ _ _ hk hqk
  refine ⟨z, hz, hl.symm, ?_, ho⟩
  exact (List.append_inj' (show ss ++ z.rest = [] ++ p.rhs from hr.symm) hlen).2

/-- The productions of the nonterminal that a use awaits are begun where it waits. -/
theorem exists_begun (h : History g word cols U) (hg : g.Numbered) {j : Nat} {x : Partial τ T N}
    {p : Production T N} {rest : List (Symbol T N)} (hx : U j x) (hj : j ≤ word.length)
    (hp : p ∈ g.plain) (hr : x.rest = .nonterminal p.lhs :: rest) :
    ∃ z, U j z ∧ z.lhs = p.lhs ∧ z.rest = p.rhs ∧ z.origin = j := by
  obtain ⟨c, -, hcl⟩ := h.exists_column hj
  have hlen : (word.take j).length = j := List.length_take_of_le hj
  exact h.exists_predicted hg hj hp fun q hq => hcl.predicts x _ _ hx hr q (hlen.symm ▸ hq)

/-- A use moves on over the token that it reads. -/
theorem exists_shifted (h : History g word cols U) (hg : g.Numbered) {j : Nat} {x : Partial τ T N}
    {a : τ} {rest : List (Symbol T N)} (hx : U j x) (ha : word[j]? = some a)
    (hr : x.rest = .terminal (g.kind a) :: rest) :
    ∃ z, U (j + 1) z ∧ z.lhs = x.lhs ∧ z.rest = rest ∧ z.origin = x.origin := by
  have hj : j < word.length := (List.getElem?_eq_some_iff.1 ha).1
  obtain ⟨c, hc, hcl⟩ := h.exists_column hj.le
  obtain ⟨z, hz, hzk⟩ :=
    h.next j c a x hc ha (hcl.reads x _ _ hx hr) (Partial.reads_iff.2 ⟨_, hr⟩)
  rw [Partial.key_advance] at hzk
  obtain ⟨c', -, hcl'⟩ := h.exists_column (j := j + 1) hj
  exact ⟨z, hz, ((hcl.fits x hx).eq_of_key hg (hcl'.fits z hz) hr hzk).2⟩

/-- A use moves on over what it awaits, if that was begun where it waits and is completed. -/
theorem exists_resumed (h : History g word cols U) (hg : g.Numbered) {j k : Nat}
    {x y : Partial τ T N} {rest : List (Symbol T N)} (hx : U j x) (hj : j ≤ word.length)
    (hr : x.rest = .nonterminal y.lhs :: rest) (hy : U k y) (hk : k ≤ word.length)
    (hyr : y.rest = []) (hyo : y.origin = j) :
    ∃ z, U k z ∧ z.lhs = x.lhs ∧ z.rest = rest ∧ z.origin = x.origin := by
  obtain ⟨c, hc, hcl⟩ := h.exists_column hj
  obtain ⟨c', -, hcl'⟩ := h.exists_column hk
  obtain ⟨z, hz, hzk⟩ := hcl'.resumes y x c hy hyr (by rw [hyo]; exact hc)
    (hcl.waits x _ _ hx hr) (Partial.awaits_iff.2 ⟨_, hr⟩)
  exact ⟨z, hz, ((hcl.fits x hx).eq_of_key hg (hcl'.fits z hz) hr hzk).2⟩

/-- A use moves on over every word that its next symbols generate and that comes next. -/
theorem exists_use (h : History g word cols U) (hg : g.Numbered) {ss : List (Symbol T N)}
    {w : List T} (hw : Generates g.plain ss w) :
    ∀ {j : Nat} {x : Partial τ T N} {rest : List (Symbol T N)} {v : List T}, U j x →
      j ≤ word.length → x.rest = ss ++ rest → (word.drop j).map g.kind = w ++ v →
      ∃ z, U (j + w.length) z ∧ z.lhs = x.lhs ∧ z.rest = rest ∧ z.origin = x.origin := by
  induction hw with
  | nil => exact fun {j x rest v} hx _ hr _ => ⟨x, hx, rfl, hr, rfl⟩
  | @terminal t ss w _ ih =>
    intro j x rest v hx hj hr hv
    rcases hd : word.drop j with _ | ⟨a, as⟩ <;> rw [hd] at hv
    · exact absurd hv (by simp)
    obtain ⟨rfl, htail⟩ := List.cons.inj hv
    have ha : word[j]? = some a := by
      rw [← List.head?_drop, hd, List.head?_cons]
    have hjlt : j < word.length := (List.getElem?_eq_some_iff.1 ha).1
    obtain ⟨z, hz, hzl, hzr, hzo⟩ := h.exists_shifted hg hx ha hr
    have hdrop : (word.drop (j + 1)).map g.kind = w ++ v := by
      rw [← List.drop_drop, hd]
      exact htail
    obtain ⟨y, hy, hyl, hyr, hyo⟩ := ih hz hjlt hzr hdrop
    refine ⟨y, ?_, hyl.trans hzl, hyr, hyo.trans hzo⟩
    rwa [List.length_cons, Nat.add_comm w.length, ← Nat.add_assoc]
  | @nonterminal p ss u v' hp hu _ ihu ihv =>
    intro j x rest v hx hj hr hv
    -- the production is begun here and completed after `u`
    obtain ⟨z, hz, hzl, hzr, hzo⟩ := h.exists_begun hg hx hj hp hr
    rw [List.append_assoc] at hv
    obtain ⟨y, hy, hyl, hyr, hyo⟩ := ihu hz hj (hzr.trans (List.append_nil _).symm) hv
    have hlu := congrArg List.length hv
    simp only [List.length_map, List.length_drop, List.length_append] at hlu
    -- so what waited for it here moves on there
    obtain ⟨x', hx', hxl, hxr, hxo⟩ := h.exists_resumed hg hx hj (by rw [hyl, hzl]; exact hr) hy
      (by omega) hyr (hyo.trans hzo)
    have hdrop : (word.drop (j + u.length)).map g.kind = v' ++ v := by
      rw [← List.drop_drop, List.map_drop, hv]
      exact List.drop_left
    obtain ⟨x'', hx'', hl'', hr'', ho''⟩ := ihv hx' (by omega) hxr hdrop
    refine ⟨x'', ?_, hl''.trans hxl, hr'', ho''.trans hxo⟩
    rwa [List.length_append, ← Nat.add_assoc]

/-- Where the next symbols of a use generate a word that goes beyond the tokens read, its next
terminal is read by a use in the last column. -/
theorem exists_reading (h : History g word cols U) (hg : g.Numbered) {ss : List (Symbol T N)}
    {w : List T} (hw : Generates g.plain ss w) :
    ∀ {j : Nat} {x : Partial τ T N} {rest : List (Symbol T N)} {t : T} {v : List T}, U j x →
      j ≤ word.length → x.rest = ss ++ rest → w = (word.drop j).map g.kind ++ t :: v →
      ∃ z rest, U word.length z ∧ z.rest = .terminal t :: rest := by
  induction hw with
  | nil => exact fun _ _ _ hv => absurd hv (by simp)
  | @terminal t' ss w hw ih =>
    intro j x rest t v hx hj hr hv
    rcases hd : word.drop j with _ | ⟨a, as⟩ <;> rw [hd] at hv
    · obtain ⟨rfl, -⟩ := List.cons.inj hv
      obtain rfl : j = word.length := by
        have := List.drop_eq_nil_iff.1 hd
        omega
      exact ⟨x, _, hx, hr⟩
    · obtain ⟨rfl, htail⟩ := List.cons.inj hv
      have hdrop : word.drop (j + 1) = as := by
        rw [← List.drop_drop, hd]
        rfl
      have hjlt : j < word.length := by
        have := congrArg List.length hd
        simp only [List.length_drop, List.length_cons] at this
        omega
      obtain ⟨z, hz, -, hzr, -⟩ := h.exists_use hg (.terminal (g.kind a) .nil) hx hj hr
        (v := as.map g.kind) (by rw [hd]; rfl)
      exact ih hz hjlt hzr (by rw [List.length_singleton, hdrop]; exact htail)
  | @nonterminal p ss u v' hp hu hv' ihu ihv =>
    intro j x rest t v hx hj hr hv
    -- the tokens end after `u`, or within it
    have hsplit : (∃ w₁, (word.drop j).map g.kind = u ++ w₁ ∧ v' = w₁ ++ t :: v)
        ∨ ∃ w₁, u = (word.drop j).map g.kind ++ t :: w₁ := by
      rcases List.append_eq_append_iff.1 hv with h₁ | ⟨_ | ⟨t₁, w₁⟩, hu₁, hv₁⟩
      · exact .inl h₁
      · exact .inl ⟨[], by rw [hu₁, List.append_nil, List.append_nil], hv₁.symm⟩
      · obtain ⟨rfl, -⟩ := List.cons.inj hv₁
        exact .inr ⟨w₁, hu₁⟩
    rcases hsplit with ⟨w₁, hw₁, hv₁⟩ | ⟨w₁, hu₁⟩
    · obtain ⟨z, hz, -, hzr, -⟩ := h.exists_use hg (.of_production hp hu) hx hj hr hw₁
      have hlen := congrArg List.length hw₁
      simp only [List.length_map, List.length_drop, List.length_append] at hlen
      refine ihv hz (by omega) hzr (v := v) ?_
      rw [hv₁, ← List.drop_drop, List.map_drop, hw₁, List.drop_left]
    · obtain ⟨z, hz, -, hzr, -⟩ := h.exists_begun hg hx hj hp hr
      exact ihu hz hj (hzr.trans (List.append_nil _).symm) hu₁

/-! ## What the last column tells -/

section Last

variable (h : History g word cols U) (hg : g.Numbered) {c : Column τ T N}
  (hc : cols[word.length]? = some c)

include h hc

theorem closed_last : c.Closed g word (cols[·]?) (U word.length) := by
  have := h.closed _ c hc
  rwa [List.take_length] at this

include hg

/-- The last column has a tree if the tokens are a sentence. -/
theorem sentence_isSome_iff :
    c.sentence.isSome ↔ Generates g.plain [.nonterminal g.start] (word.map g.kind) := by
  have hcl := h.closed_last hc
  constructor
  · intro hs
    obtain ⟨t, ht⟩ := Option.isSome_iff_exists.1 hs
    obtain ⟨hd, rfl⟩ := hcl.sentence t ht
    exact generates_of_derives hd
  · intro hgen
    obtain ⟨p, hp, hl, hu⟩ := hgen.exists_production
    obtain ⟨x, hx, hxl, hxr, hxo⟩ := h.exists_predicted hg (Nat.zero_le _) hp (hl ▸ h.first)
    obtain ⟨z, hz, hzl, hzr, hzo⟩ := h.exists_use hg hu hx (Nat.zero_le _)
      (hxr.trans (List.append_nil _).symm) (v := []) (by rw [List.drop_zero, List.append_nil])
    rw [List.length_map, Nat.zero_add] at hz
    exact hcl.ends z hz hzr (hzo.trans hxo) (hzl.trans (hxl.trans hl))

/-- The last column expects the terminals that may come next. -/
theorem mem_expected_iff (hps : Productive g.plain) {t : T} :
    t ∈ c.expected ↔ Viable g.plain g.start (word.map g.kind ++ [t]) := by
  have hcl := h.closed_last hc
  rw [Column.mem_expected]
  constructor
  · rintro ⟨x, hx, rest, hr⟩
    have hfit := hcl.fits x (hcl.reading x hx)
    obtain ⟨p, ss, hp, hl, hrhs, hd⟩ := hfit.behind
    have hgen := generates_of_derivesAll hd
    rw [hfit.yield_eq] at hgen
    rw [hr, List.append_cons] at hrhs
    have hv := (hl ▸ hfit.begins).viable_use hps (Chart.mem_plain hp) hrhs hgen
      (.terminal t .nil)
    rwa [← List.append_assoc, ← List.map_append, List.take_append_drop] at hv
  · rintro ⟨v, hgen⟩
    rw [List.append_assoc, List.singleton_append] at hgen
    obtain ⟨p, hp, hl, hu⟩ := hgen.exists_production
    obtain ⟨x, hx, -, hxr, -⟩ := h.exists_predicted hg (Nat.zero_le _) hp (hl ▸ h.first)
    obtain ⟨z, rest, hz, hzr⟩ := h.exists_reading hg hu hx (Nat.zero_le _)
      (hxr.trans (List.append_nil _).symm) (t := t) (v := v) (by rw [List.drop_zero])
    exact ⟨z, hcl.reads z t rest hz hzr, rest, hzr⟩

end Last

end History

/-! ## Reading tokens -/

/-- A chart has read the tokens `word`, with `c` for the last column, and stops before `rest`. -/
structure Chart.Outcome (g : Chart τ T N) (word : List τ) (c : Column τ T N) (rest : List τ) :
    Prop where
  viable : Viable g.plain g.start (word.map g.kind)
  tree : ∀ t, c.sentence = some t →
    Derives g.plain g.kind (.nonterminal g.start) t ∧ t.yield = word
  sentence_iff : c.sentence.isSome ↔ Generates g.plain [.nonterminal g.start] (word.map g.kind)
  expected_iff : ∀ t, t ∈ c.expected ↔ Viable g.plain g.start (word.map g.kind ++ [t])
  stops : ∀ a as, rest = a :: as → ¬ Viable g.plain g.start (word.map g.kind ++ [g.kind a])

namespace Chart

variable {g : Chart τ T N} {word : List τ} {columns : Array (Column τ T N)} {c : Column τ T N}
  {U : Nat → Partial τ T N → Prop}

omit [DecidableEq N] in
theorem mem_shift {a : τ} {z : Partial τ T N} :
    z ∈ g.shift c a ↔ ∃ x ∈ c.reading, x.reads (g.kind a) = true ∧ z = x.advance (.leaf a) := by
  simp only [shift, List.mem_filterMap, Option.ite_none_right_eq_some, Option.some.injEq]
  exact exists_congr fun x => and_congr_right fun _ => and_congr_right fun _ => eq_comm

omit [DecidableEq N] in
theorem shift_eq_nil_iff {a : τ} : g.shift c a = [] ↔ g.kind a ∉ c.expected := by
  rw [List.eq_nil_iff_forall_not_mem, Column.mem_expected]
  constructor
  · rintro h ⟨x, hx, rest, hr⟩
    exact h _ (mem_shift.2 ⟨x, hx, Partial.reads_iff.2 ⟨rest, hr⟩, rfl⟩)
  · intro h z hz
    obtain ⟨x, hx, hr, -⟩ := mem_shift.1 hz
    exact h ⟨x, hx, Partial.reads_iff.1 hr⟩

/-- The uses that the last column hands on over a token fit the tokens with it. -/
theorem shift_fits {column? : Nat → Option (Column τ T N)} {U : Partial τ T N → Prop}
    (hc : c.Closed g word column? U) (a : τ) : ∀ z ∈ g.shift c a, z.Fits g (word ++ [a]) := by
  intro z hz
  obtain ⟨x, hx, hr, rfl⟩ := mem_shift.1 hz
  obtain ⟨rest, hrest⟩ := Partial.reads_iff.1 hr
  exact (hc.fits x (hc.reading x hx)).advance hrest (.leaf a)

theorem history_first : ∃ U, History g [] #[g.firstColumn] U := by
  have hseeds : ∀ z ∈ g.predict g.start 0, z.Fits g [] := by
    intro z hz
    obtain ⟨⟨k, q⟩, hq, hz⟩ := List.mem_filterMap.1 hz
    simp only [Option.ite_none_right_eq_some, Option.some.injEq] at hz
    obtain ⟨hl, rfl⟩ := hz
    exact ⟨⟨q, [], hq, hl, rfl, .nil⟩, Nat.le_refl _, by simp [yieldAll], .start⟩
  have hsize : (#[] : Array (Column τ T N)).size = ([] : List τ).length := rfl
  obtain ⟨U, hU, hsaw⟩ := columnOf_closed hsize (fun o c hc => by simp at hc) hseeds
  refine ⟨fun _ => U, rfl, fun j d hd => ?_, hsaw, fun j d a x _ ha => by simp at ha⟩
  have hj : j = 0 := by
    have := (Array.getElem?_eq_some_iff.1 hd).1
    simp only [List.size_toArray, List.length_cons, List.length_nil] at this
    omega
  subst hj
  simp only [List.getElem?_toArray, List.getElem?_cons_zero, Option.some.injEq] at hd
  subst hd
  exact hU

/-- Reading a token that the last column expects adds a column. -/
theorem history_next (h : History g word (columns.push c) U) (hsize : columns.size = word.length)
    (a : τ) :
    ∃ V, History g (word ++ [a]) ((columns.push c).push
      (g.columnOf (columns.push c) (columns.push c).size (g.shift c a))) V := by
  have hlast : (columns.push c)[word.length]? = some c := by
    rw [← hsize, Array.getElem?_push_size]
  have hcl := h.closed_last hlast
  have hlen : (columns.push c).size = (word ++ [a]).length := by
    rw [Array.size_push, hsize, List.length_append, List.length_singleton]
  have hcols : ∀ (o : Nat) (b : Column τ T N), (columns.push c)[o]? = some b →
      ∀ y ∈ b.waiting, y.Fits g ((word ++ [a]).take o) := by
    intro o b hb y hy
    rw [List.take_append_of_le_length (h.place_le hb)]
    exact h.waiting_fits hb hy
  obtain ⟨V, hV, hsaw⟩ := columnOf_closed hlen hcols (shift_fits hcl a)
  rw [← hlen] at hV
  set c' := g.columnOf (columns.push c) (columns.push c).size (g.shift c a)
  have hold : ∀ o, o ≤ word.length → ((columns.push c).push c')[o]? = (columns.push c)[o]? := by
    intro o ho
    rw [Array.getElem?_push_lt (by rw [Array.size_push]; omega)]
    exact (Array.getElem?_eq_getElem _).symm
  refine ⟨fun j => if j = word.length + 1 then V else U j, ?_, fun j b hb => ?_, fun q hq => ?_,
    fun j b a' x hb ha' hx hr => ?_⟩
  · rw [Array.size_push, hlen]
  · split_ifs with hj
    · rw [hj, ← List.length_singleton (a := a), ← List.length_append, List.take_length]
      rw [hj, ← hsize, ← Array.size_push (v := c), Array.getElem?_push_size] at hb
      obtain rfl := Option.some.inj hb
      exact hV
    · have hjle : j ≤ word.length := by
        have := (Array.getElem?_eq_some_iff.1 hb).1
        simp only [Array.size_push, hsize] at this
        omega
      rw [hold j hjle] at hb
      rw [List.take_append_of_le_length hjle]
      exact (h.closed j b hb).congr fun o ho => hold o (by
        rw [List.length_take] at ho
        omega)
  · rw [if_neg (by omega)]
    exact h.first q hq
  · have hjle : j ≤ word.length := by
      have := (List.getElem?_eq_some_iff.1 ha').1
      rw [List.length_append, List.length_singleton] at this
      omega
    rw [hold j hjle] at hb
    rcases Nat.lt_or_eq_of_le hjle with hj | rfl
    · rw [List.getElem?_append_left hj] at ha'
      rw [if_neg (by omega)]
      exact h.next j b a' x hb ha' hx hr
    · rw [List.getElem?_concat_length] at ha'
      obtain rfl := Option.some.inj ha'
      obtain rfl := Option.some.inj (hlast.symm.trans hb)
      rw [if_pos rfl]
      exact hsaw _ (mem_shift.2 ⟨x, hx, hr, rfl⟩)

/-- Reading goes on while the tokens are the beginning of a sentence. -/
theorem readFrom_outcome (hg : g.Numbered) (hps : Productive g.plain) :
    ∀ (tokens : List τ) {word : List τ} {columns : Array (Column τ T N)} {c : Column τ T N}
      {U : Nat → Partial τ T N → Prop}, History g word (columns.push c) U →
      columns.size = word.length → Viable g.plain g.start (word.map g.kind) →
      ∃ more, tokens = more ++ (g.readFrom columns c tokens).2
        ∧ g.Outcome (word ++ more) (g.readFrom columns c tokens).1 (g.readFrom columns c tokens).2
  | tokens, word, columns, c, U, h, hsize, hv => by
    have hlast : (columns.push c)[word.length]? = some c := by
      rw [← hsize, Array.getElem?_push_size]
    have hexp := fun t => h.mem_expected_iff hg hlast hps (t := t)
    have hstop : ∀ rest : List τ,
        (∀ a as, rest = a :: as → ¬ Viable g.plain g.start (word.map g.kind ++ [g.kind a])) →
        g.Outcome (word ++ []) c rest := by
      rw [List.append_nil]
      exact fun rest hrest => ⟨hv, (h.closed_last hlast).sentence, h.sentence_isSome_iff hg hlast,
        hexp, hrest⟩
    rcases tokens with _ | ⟨a, tokens⟩
    · exact ⟨[], rfl, hstop [] fun a as ha => absurd ha (List.cons_ne_nil _ _).symm⟩
    · rcases hs : g.shift c a with _ | ⟨z, zs⟩
      · have hr : g.readFrom columns c (a :: tokens) = (c, a :: tokens) := by rw [readFrom, hs]
        rw [hr]
        refine ⟨[], rfl, hstop _ fun b bs hb => ?_⟩
        obtain ⟨rfl, -⟩ := List.cons.inj hb
        rw [← hexp]
        exact shift_eq_nil_iff.1 hs
      · have hr : g.readFrom columns c (a :: tokens)
            = g.readFrom (columns.push c)
                (g.columnOf (columns.push c) (columns.push c).size (g.shift c a)) tokens := by
          rw [readFrom, hs]
        have hva : Viable g.plain g.start ((word ++ [a]).map g.kind) := by
          rw [List.map_append]
          refine (hexp _).1 (Classical.byContradiction fun hn => ?_)
          rw [shift_eq_nil_iff.2 hn] at hs
          exact absurd hs (List.cons_ne_nil _ _).symm
        obtain ⟨V, hV⟩ := history_next h hsize a
        obtain ⟨more, hmore, ho⟩ := readFrom_outcome hg hps tokens hV
          (by rw [Array.size_push, hsize, List.length_append, List.length_singleton]) hva
        rw [hr]
        refine ⟨a :: more, by rw [List.cons_append, ← hmore], ?_⟩
        rwa [List.append_assoc, List.singleton_append] at ho

/-- A chart reads the tokens up to the first one that continues no sentence. -/
theorem read_outcome (hg : g.Numbered) (hps : Productive g.plain)
    (hstart : ∃ w, Generates g.plain [.nonterminal g.start] w) (tokens : List τ) :
    ∃ word, tokens = word ++ (g.read tokens).2
      ∧ g.Outcome word (g.read tokens).1 (g.read tokens).2 := by
  obtain ⟨U, hU⟩ := history_first (g := g)
  exact @readFrom_outcome _ _ _ _ _ g hg hps tokens [] #[] _ U hU rfl hstart

end Chart

end Reckon.Cfg
