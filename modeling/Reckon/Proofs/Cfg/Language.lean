import Reckon.Cfg.Basic

/-!
# The language of a grammar

A row of symbols generates words of terminals (`Generates`). The leaves of a derivation tree spell
a word that its symbol generates (`generates_of_derives`).

A nonterminal may begin after a word (`Begins`) if some use of a production that began earlier has
come so far. Where no production is a dead end (`Productive`), whatever begins after a word can be
carried through to the end of a sentence (`Begins.viable`).
-/

namespace Reckon.Cfg

variable {τ T N : Type} {ps : List (Production T N)}

/-- By the productions `ps` the row of symbols generates the word. -/
inductive Generates (ps : List (Production T N)) : List (Symbol T N) → List T → Prop
  | nil : Generates ps [] []
  | terminal (t : T) {ss : List (Symbol T N)} {w : List T} (h : Generates ps ss w) :
      Generates ps (.terminal t :: ss) (t :: w)
  | nonterminal {p : Production T N} {ss : List (Symbol T N)} {u v : List T} (hp : p ∈ ps)
      (hu : Generates ps p.rhs u) (hv : Generates ps ss v) :
      Generates ps (.nonterminal p.lhs :: ss) (u ++ v)

/-- The word is the beginning of a sentence. -/
def Viable (ps : List (Production T N)) (start : N) (w : List T) : Prop :=
  ∃ v, Generates ps [.nonterminal start] (w ++ v)

/-- Every right side generates some word. -/
def Productive (ps : List (Production T N)) : Prop := ∀ p ∈ ps, ∃ w, Generates ps p.rhs w

namespace Generates

theorem append {ss rs : List (Symbol T N)} {u v : List T} (hu : Generates ps ss u)
    (hv : Generates ps rs v) : Generates ps (ss ++ rs) (u ++ v) := by
  induction hu with
  | nil => exact hv
  | terminal t _ ih => exact .terminal t ih
  | nonterminal hp hu _ _ ih =>
    rw [List.append_assoc]
    exact .nonterminal hp hu ih

theorem exists_of_append {ss rs : List (Symbol T N)} {w : List T}
    (h : Generates ps (ss ++ rs) w) :
    ∃ u v, w = u ++ v ∧ Generates ps ss u ∧ Generates ps rs v := by
  induction ss generalizing w with
  | nil => exact ⟨[], w, rfl, .nil, h⟩
  | cons s ss ih =>
    rw [List.cons_append] at h
    cases h with
    | terminal t h =>
      obtain ⟨u, v, rfl, hu, hv⟩ := ih h
      exact ⟨t :: u, v, rfl, .terminal t hu, hv⟩
    | nonterminal hp hx h =>
      obtain ⟨u, v, rfl, hu, hv⟩ := ih h
      exact ⟨_, v, (List.append_assoc _ _ _).symm, .nonterminal hp hx hu, hv⟩

/-- A production carries what its right side generates over to its left side. -/
theorem of_production {p : Production T N} {w : List T} (hp : p ∈ ps)
    (h : Generates ps p.rhs w) : Generates ps [.nonterminal p.lhs] w := by
  have := Generates.nonterminal hp h .nil
  rwa [List.append_nil] at this

/-- What a nonterminal generates, the right side of one of its productions does. -/
theorem exists_production {n : N} {w : List T} (h : Generates ps [.nonterminal n] w) :
    ∃ p ∈ ps, p.lhs = n ∧ Generates ps p.rhs w := by
  generalize hs : [Symbol.nonterminal n] = ss at h
  rcases h with _ | _ | @⟨p, _, u, v, hp, hu, hv⟩
  · exact absurd hs (List.cons_ne_nil _ _)
  · exact absurd (List.cons.inj hs).1 (by simp)
  · obtain ⟨hn, rfl⟩ := List.cons.inj hs
    cases hv
    rw [List.append_nil]
    exact ⟨p, hp, (Symbol.nonterminal.inj hn).symm, hu⟩

end Generates

/-- Every row of symbols at the end of a right side generates some word. -/
theorem Productive.exists_suffix (hps : Productive ps) {p : Production T N} (hp : p ∈ ps)
    {ss rs : List (Symbol T N)} (h : p.rhs = ss ++ rs) : ∃ w, Generates ps rs w := by
  obtain ⟨w, hw⟩ := hps p hp
  rw [h] at hw
  obtain ⟨-, v, -, -, hv⟩ := hw.exists_of_append
  exact ⟨v, hv⟩

/-! ## Dead ends -/

section Grounded

variable [DecidableEq N]

/-- Is the symbol a terminal or one of the nonterminals? -/
def Symbol.among (ns : List N) : Symbol T N → Bool
  | .terminal _ => true
  | .nonterminal n => decide (n ∈ ns)

/-- Has each nonterminal of the row a production that refers only to those after it? -/
def grounded (ps : List (Production T N)) : List N → Bool
  | [] => true
  | n :: ns => grounded ps ns && ps.any fun p => decide (p.lhs = n) && p.rhs.all (·.among ns)

theorem exists_generates_of_among {ns : List N}
    (hns : ∀ n ∈ ns, ∃ w, Generates ps [.nonterminal n] w) {ss : List (Symbol T N)}
    (hss : ∀ s ∈ ss, s.among ns = true) : ∃ w, Generates ps ss w := by
  induction ss with
  | nil => exact ⟨[], .nil⟩
  | cons s ss ih =>
    obtain ⟨hs, hss⟩ := List.forall_mem_cons.1 hss
    obtain ⟨v, hv⟩ := ih hss
    rcases s with t | n
    · exact ⟨t :: v, .terminal t hv⟩
    · obtain ⟨u, hu⟩ := hns n (of_decide_eq_true hs)
      exact ⟨u ++ v, hu.append hv⟩

theorem exists_generates_of_grounded : ∀ {ns : List N}, grounded ps ns = true →
    ∀ n ∈ ns, ∃ w, Generates ps [.nonterminal n] w
  | [], _, n, hn => absurd hn List.not_mem_nil
  | m :: ns, h, n, hn => by
    obtain ⟨hns, hm⟩ := Bool.and_eq_true_iff.1 h
    rcases List.mem_cons.1 hn with rfl | hn
    · obtain ⟨p, hp, hrhs⟩ := List.any_eq_true.1 hm
      obtain ⟨hl, hall⟩ := Bool.and_eq_true_iff.1 hrhs
      obtain rfl := of_decide_eq_true hl
      obtain ⟨w, hw⟩ := exists_generates_of_among (exists_generates_of_grounded hns)
        (List.all_eq_true.1 hall)
      exact ⟨w, .of_production hp hw⟩
    · exact exists_generates_of_grounded hns n hn

theorem productive_of_grounded (ns : List N) (h : grounded ps ns = true)
    (hps : ∀ p ∈ ps, ∀ s ∈ p.rhs, s.among ns = true) : Productive ps :=
  fun p hp => exists_generates_of_among (exists_generates_of_grounded h) (hps p hp)

end Grounded

/-! ## Derivation trees -/

namespace Tree

variable {kind : τ → T}

theorem yieldAll_append (ts us : List (Tree τ N)) :
    yieldAll (ts ++ us) = yieldAll ts ++ yieldAll us := by
  induction ts with
  | nil => rfl
  | cons t ts ih => rw [List.cons_append, yieldAll, yieldAll, ih, List.append_assoc]

theorem yieldAll_singleton (t : Tree τ N) : yieldAll [t] = t.yield := by
  rw [yieldAll, yieldAll, List.append_nil]

theorem DerivesAll.append {ss rs : List (Symbol T N)} {ts us : List (Tree τ N)}
    (hs : DerivesAll ps kind ss ts) (hr : DerivesAll ps kind rs us) :
    DerivesAll ps kind (ss ++ rs) (ts ++ us) := by
  induction ss generalizing ts with
  | nil =>
    cases hs
    exact hr
  | cons s ss ih =>
    cases hs with
    | cons h hs => exact .cons h (ih hs)

mutual

theorem generates_of_derives {s : Symbol T N} {t : Tree τ N} :
    Derives ps kind s t → Generates ps [s] (t.yield.map kind)
  | .leaf a => by
    rw [yield]
    exact .terminal (kind a) .nil
  | .node hp hts => by
    rw [yield]
    exact .of_production hp (generates_of_derivesAll hts)

theorem generates_of_derivesAll {ss : List (Symbol T N)} {ts : List (Tree τ N)} :
    DerivesAll ps kind ss ts → Generates ps ss ((yieldAll ts).map kind)
  | .nil => by
    rw [yieldAll]
    exact .nil
  | .cons h hs => by
    rw [yieldAll, List.map_append]
    exact (generates_of_derives h).append (generates_of_derivesAll hs)

end

/-- Every word that is generated is spelled by the leaves of derivation trees. -/
theorem exists_derivesAll {ss : List (Symbol T N)} {w : List T} (h : Generates ps ss w) :
    ∀ as : List τ, as.map kind = w → ∃ ts, DerivesAll ps kind ss ts ∧ yieldAll ts = as := by
  induction h with
  | nil =>
    intro as has
    exact ⟨[], .nil, by rw [yieldAll, List.map_eq_nil_iff.1 has]⟩
  | terminal t _ ih =>
    intro as has
    obtain ⟨a, as, rfl, rfl, hw⟩ := List.map_eq_cons_iff.1 has
    obtain ⟨ts, hts, rfl⟩ := ih as hw
    exact ⟨.leaf a :: ts, .cons (.leaf a) hts, by rw [yieldAll, yield, List.singleton_append]⟩
  | @nonterminal p _ _ _ hp _ _ ihu ihv =>
    intro as has
    obtain ⟨as, bs, rfl, hu, hv⟩ := List.map_eq_append_iff.1 has
    obtain ⟨us, hus, rfl⟩ := ihu as hu
    obtain ⟨ts, hts, rfl⟩ := ihv bs hv
    exact ⟨.node p.lhs us :: ts, .cons (.node hp hus) hts, by rw [yieldAll, yield]⟩

end Tree

/-! ## Beginnings -/

/-- After the word a use of a production of the nonterminal may begin. -/
inductive Begins (ps : List (Production T N)) (start : N) : N → List T → Prop
  | start : Begins ps start start []
  | inside {p : Production T N} {n : N} {ss rs : List (Symbol T N)} {u v : List T} (hp : p ∈ ps)
      (hb : Begins ps start p.lhs u) (hr : p.rhs = ss ++ .nonterminal n :: rs)
      (hv : Generates ps ss v) : Begins ps start n (u ++ v)

variable {start : N}

/-- What begins after a word goes on to the end of a sentence. -/
theorem Begins.viable (hps : Productive ps) {n : N} {u : List T} (h : Begins ps start n u)
    {w : List T} (hw : Generates ps [.nonterminal n] w) : Viable ps start (u ++ w) := by
  induction h generalizing w with
  | start => exact ⟨[], by rwa [List.append_nil]⟩
  | inside hp _ hr hv ih =>
    obtain ⟨z, hz⟩ := hps.exists_suffix hp
      (hr.trans (List.append_cons _ _ _))
    have hrhs := hv.append (hw.append hz)
    rw [List.singleton_append, ← hr] at hrhs
    obtain ⟨y, hy⟩ := ih (.of_production hp hrhs)
    exact ⟨z ++ y, by simpa only [List.append_assoc] using hy⟩

/-- A use of a production whose symbols so far generate `v` and whose next symbols are `rs` leaves
the word so far, followed by a word of `rs`, the beginning of a sentence. -/
theorem Begins.viable_use (hps : Productive ps) {p : Production T N} (hp : p ∈ ps) {u v w : List T}
    (hb : Begins ps start p.lhs u) {ss rs qs : List (Symbol T N)} (hr : p.rhs = ss ++ rs ++ qs)
    (hv : Generates ps ss v) (hw : Generates ps rs w) : Viable ps start (u ++ (v ++ w)) := by
  obtain ⟨z, hz⟩ := hps.exists_suffix hp hr
  have hrhs := (hv.append hw).append hz
  rw [← hr] at hrhs
  obtain ⟨y, hy⟩ := hb.viable hps (.of_production hp hrhs)
  exact ⟨z ++ y, by simpa only [List.append_assoc] using hy⟩

end Reckon.Cfg
