import Mathlib.Data.List.Induction
import Reckon.Lexis.Token
import Reckon.Proofs.Lexis.Regex

/-!
# Cutting a text into tokens

`Reads L pos cs ts pos' rest` says what it means to cut a text: gaps are passed over, and a token is
the longest prefix of what is left that is a word of some terminal, `L` telling the words of each.
The judgment keeps the text that is left, so that a token is judged with what follows it.

`Scan.scanFrom_reads` says that a scan reads the text so, up to its end or to a character at which
no token starts. Where the terminals are told apart by their words (`Distinct`), there is only one
way to cut a text, and the scan finds it (`Scan.scanFrom_eq`).
-/

namespace Reckon

variable {L : Terminal → List Char → Prop} {forms : List Terminal.Form}

/-- `u` is the longest word at the start of `u ++ rest`, a word of `t`. -/
structure IsToken (L : Terminal → List Char → Prop) (t : Terminal) (u rest : List Char) : Prop where
  nonempty : u ≠ []
  word : L t u
  longest : ∀ t' v, L t' v → v <+: u ++ rest → v.length ≤ u.length

/-- No token starts here. -/
def NoToken (L : Terminal → List Char → Prop) (cs : List Char) : Prop :=
  ∀ t v, L t v → v <+: cs → v = []

/-- From place `pos` on the text `cs` reads as the tokens, up to `pos'`, where `rest` is left. -/
inductive Reads (L : Terminal → List Char → Prop) :
    Nat → List Char → List Token → Nat → List Char → Prop
  | done (pos : Nat) (cs : List Char) : Reads L pos cs [] pos cs
  | gap {pos pos' : Nat} {c : Char} {cs rest : List Char} {ts : List Token} (hc : isGap c = true)
      (h : Reads L (pos + 1) cs ts pos' rest) : Reads L pos (c :: cs) ts pos' rest
  | token {pos pos' : Nat} {t : Terminal} {u cs rest : List Char} {ts : List Token}
      (hu : IsToken L t u cs) (h : Reads L (pos + u.length) cs ts pos' rest) :
      Reads L pos (u ++ cs) (⟨t, String.ofList u, pos, pos + u.length⟩ :: ts) pos' rest

namespace Reads

variable {pos pos' : Nat} {cs rest : List Char} {ts : List Token}

theorem append {pos'' : Nat} {rest' : List Char} {us : List Token} (h : Reads L pos cs ts pos' rest)
    (h' : Reads L pos' rest us pos'' rest') : Reads L pos cs (ts ++ us) pos'' rest' := by
  induction h with
  | done => exact h'
  | gap hc _ ih => exact .gap hc (ih h')
  | token hu _ ih => exact .token hu (ih h')

/-- A token of `n` characters comes first. -/
theorem take {t : Terminal} {n : Nat} (hn : n ≤ cs.length) (hu : IsToken L t (cs.take n) (cs.drop n))
    (h : Reads L (pos + n) (cs.drop n) ts pos' rest) :
    Reads L pos cs (⟨t, String.ofList (cs.take n), pos, pos + n⟩ :: ts) pos' rest := by
  have hlen : (cs.take n).length = n := List.length_take_of_le hn
  have hread : Reads L pos (cs.take n ++ cs.drop n) _ pos' rest := .token hu (by rwa [hlen])
  rwa [List.take_append_drop, hlen] at hread

/-- What is left is a part of the text, and the place tells which. -/
theorem exists_read (h : Reads L pos cs ts pos' rest) :
    ∃ read, cs = read ++ rest ∧ pos' = pos + read.length := by
  induction h with
  | done => exact ⟨[], rfl, rfl⟩
  | @gap pos _ c cs _ _ _ _ ih =>
    obtain ⟨read, rfl, rfl⟩ := ih
    refine ⟨c :: read, rfl, ?_⟩
    rw [List.length_cons, Nat.add_right_comm, Nat.add_assoc]
  | @token pos _ _ u cs _ _ _ _ ih =>
    obtain ⟨read, rfl, rfl⟩ := ih
    refine ⟨u ++ read, (List.append_assoc _ _ _).symm, ?_⟩
    rw [List.length_append, Nat.add_assoc]

theorem drop_eq {text : List Char} (h : Reads L 0 text ts pos' rest) :
    pos' ≤ text.length ∧ text.drop pos' = rest := by
  obtain ⟨read, rfl, rfl⟩ := h.exists_read
  rw [Nat.zero_add, List.drop_left, List.length_append]
  exact ⟨Nat.le_add_right _ _, rfl⟩

theorem position_of_nil (h : Reads L pos cs ts pos' []) : pos' = pos + cs.length := by
  obtain ⟨read, rfl, rfl⟩ := h.exists_read
  rw [List.append_nil]

/-- The text before a token reads as the tokens before it. -/
theorem exists_before {ws : List Token} {a : Token} (h : Reads L pos cs (ws ++ a :: ts) pos' rest) :
    ∃ u cs', Reads L pos cs ws a.start (u ++ cs') ∧ IsToken L a.terminal u cs' := by
  generalize hw : ws ++ a :: ts = us at h
  induction h generalizing ws with
  | done => exact absurd hw (by simp)
  | gap hc _ ih =>
    obtain ⟨u, cs', h, hu⟩ := ih hw
    exact ⟨u, cs', .gap hc h, hu⟩
  | @token pos _ t u cs _ _ hu _ ih =>
    rcases ws with _ | ⟨w, ws⟩
    · obtain ⟨rfl, rfl⟩ := List.cons.inj hw
      exact ⟨u, cs, .done _ _, hu⟩
    · obtain ⟨rfl, hws⟩ := List.cons.inj hw
      obtain ⟨u', cs', h, hu'⟩ := ih hws
      exact ⟨u', cs', .token hu h, hu'⟩

/-- The text of a token is a word of its terminal. -/
theorem word_of_mem (h : Reads L pos cs ts pos' rest) : ∀ a ∈ ts, L a.terminal a.text.toList := by
  induction h with
  | done => exact nofun
  | gap _ _ ih => exact ih
  | token hu _ ih =>
    refine List.forall_mem_cons.2 ⟨?_, ih⟩
    rw [String.toList_ofList]
    exact hu.word

end Reads

/-! ## The longest token -/

namespace Terminal.Form

/-- `w` is a word of the terminal. -/
def Spells (forms : List Terminal.Form) (t : Terminal) (w : List Char) : Prop :=
  ∃ f ∈ forms, f.terminal = t ∧ f.regex.Matches w

/-- No two terminals have a word in common, and no word begins with a gap. -/
structure Distinct (forms : List Terminal.Form) : Prop where
  terminal_eq : ∀ {t t' : Terminal} {w : List Char}, w ≠ [] → Spells forms t w →
    Spells forms t' w → t = t'
  not_gap : ∀ {t : Terminal} {c : Char} {w : List Char}, Spells forms t (c :: w) → isGap c = false

/-- The length of a candidate. -/
def extent (best : Option (Terminal × Nat)) : Nat := (best.map (·.2)).getD 0

theorem extent_le_longer (best : Option (Terminal × Nat)) (t : Terminal) (m : Option Nat) :
    extent best ≤ extent (longer best t m) ∧ ∀ n, m = some n → n ≤ extent (longer best t m) := by
  rcases m with _ | _ | n
  · exact ⟨Nat.le_refl _, nofun⟩
  · exact ⟨Nat.le_refl _, fun n hn => by cases hn; exact Nat.zero_le _⟩
  · rcases best with _ | ⟨t', k⟩
    · exact ⟨Nat.zero_le _, fun j hj => by cases hj; exact Nat.le_refl _⟩
    · simp only [longer]
      split
      · rename_i h
        exact ⟨Nat.le_of_lt h, fun j hj => by cases hj; exact Nat.le_refl _⟩
      · rename_i h
        exact ⟨Nat.le_refl _, fun j hj => by cases hj; exact Nat.not_lt.1 h⟩

theorem longer_eq_some {best : Option (Terminal × Nat)} {t t' : Terminal} {m : Option Nat} {n : Nat}
    (h : longer best t m = some (t', n)) :
    best = some (t', n) ∨ t' = t ∧ m = some n ∧ 0 < n := by
  rcases m with _ | _ | k
  · exact .inl h
  · exact .inl h
  · rcases best with _ | ⟨t'', j⟩ <;> simp only [longer] at h
    · cases h
      exact .inr ⟨rfl, rfl, Nat.succ_pos k⟩
    · split at h
      · cases h
        exact .inr ⟨rfl, rfl, Nat.succ_pos k⟩
      · exact .inl h

theorem spells_append_singleton {f : Terminal.Form} {t : Terminal} {w : List Char} :
    Spells (forms ++ [f]) t w ↔ Spells forms t w ∨ f.terminal = t ∧ f.regex.Matches w := by
  simp only [Spells, List.mem_append, List.mem_singleton, or_and_right, exists_or, exists_eq_left]

theorem longest_append_singleton (f : Terminal.Form) (cs : List Char) :
    longest (forms ++ [f]) cs = longer (longest forms cs) f.terminal (f.regex.longest cs) := by
  simp only [longest, List.foldl_append, List.foldl_cons, List.foldl_nil]

/-- No word at the start of the text is longer than the answer. -/
theorem le_extent_longest {cs : List Char} {t : Terminal} {j : Nat} (hj : j ≤ cs.length)
    (h : Spells forms t (cs.take j)) : j ≤ extent (longest forms cs) := by
  induction forms using List.reverseRecOn with
  | nil =>
    obtain ⟨f, hf, -⟩ := h
    exact absurd hf List.not_mem_nil
  | append_singleton forms f ih =>
    rw [longest_append_singleton]
    obtain ⟨hbest, hform⟩ :=
      extent_le_longer (longest forms cs) f.terminal (f.regex.longest cs)
    rcases spells_append_singleton.1 h with h | ⟨-, hm⟩
    · exact Nat.le_trans (ih h) hbest
    · rcases hl : f.regex.longest cs with _ | k
      · exact absurd hm (Regex.longest_eq_none_iff.1 hl j)
      · have hk := Regex.longest_eq_some_iff.1 hl
        rw [hl] at hform
        exact Nat.le_trans (hk.2.2 j hj hm) (hform k rfl)

/-- The answer is a word of its terminal. -/
theorem spells_longest {cs : List Char} {t : Terminal} {n : Nat}
    (h : longest forms cs = some (t, n)) : 0 < n ∧ n ≤ cs.length ∧ Spells forms t (cs.take n) := by
  induction forms using List.reverseRecOn with
  | nil => exact absurd h nofun
  | append_singleton forms f ih =>
    rw [longest_append_singleton] at h
    rcases longer_eq_some h with h | ⟨rfl, h, hn⟩
    · obtain ⟨hn, hlen, hs⟩ := ih h
      exact ⟨hn, hlen, spells_append_singleton.2 (.inl hs)⟩
    · obtain ⟨hlen, hm, -⟩ := Regex.longest_eq_some_iff.1 h
      exact ⟨hn, hlen, spells_append_singleton.2 (.inr ⟨rfl, hm⟩)⟩

theorem prefix_length_le {cs v : List Char} {t : Terminal} (hv : Spells forms t v) (h : v <+: cs) :
    v.length ≤ extent (longest forms cs) := by
  rw [List.prefix_iff_eq_take.1 h] at hv
  exact le_extent_longest h.length_le hv

theorem isToken_of_longest {cs : List Char} {t : Terminal} {n : Nat}
    (h : longest forms cs = some (t, n)) : IsToken (Spells forms) t (cs.take n) (cs.drop n) := by
  obtain ⟨hn, hlen, hs⟩ := spells_longest h
  refine ⟨fun he => ?_, hs, fun t' v hv hpre => ?_⟩
  · rw [List.take_eq_nil_iff] at he
    rcases he with rfl | rfl
    · exact Nat.lt_irrefl 0 hn
    · exact Nat.lt_irrefl 0 (Nat.lt_of_lt_of_le hn hlen)
  · rw [List.take_append_drop] at hpre
    have := prefix_length_le hv hpre
    rw [h] at this
    rwa [List.length_take_of_le hlen]

theorem noToken_of_longest {cs : List Char} (h : longest forms cs = none) :
    NoToken (Spells forms) cs := by
  intro t v hv hpre
  have := prefix_length_le hv hpre
  rw [h] at this
  exact List.eq_nil_of_length_eq_zero (Nat.le_zero.1 this)

/-- Where the terminals are told apart, there is only one token at the start of a text. -/
theorem Distinct.longest_eq (hd : Distinct forms) {t : Terminal} {u cs : List Char}
    (h : IsToken (Spells forms) t u cs) : longest forms (u ++ cs) = some (t, u.length) := by
  rcases hl : longest forms (u ++ cs) with _ | ⟨t', n⟩
  · exact absurd (noToken_of_longest hl t u h.word (List.prefix_append _ _)) h.nonempty
  · have htok := isToken_of_longest hl
    obtain ⟨hn, hlen, -⟩ := spells_longest hl
    have hle := h.longest _ _ htok.word (List.take_prefix _ _)
    have hge := htok.longest t u h.word (by
      rw [List.take_append_drop]
      exact List.prefix_append _ _)
    rw [List.length_take_of_le hlen] at hle hge
    obtain rfl := Nat.le_antisymm hle hge
    rw [List.take_left] at htok
    rw [hd.terminal_eq h.nonempty htok.word h.word]

end Terminal.Form

/-! ## Scanning -/

namespace Scan

open Terminal.Form

theorem scanFrom_skip (forms : List Terminal.Form) :
    ∀ (cs : List Char) (pos skip : Nat),
      scanFrom forms cs pos skip = scanFrom forms (cs.drop skip) (pos + skip) 0
  | [], pos, skip => by rw [List.drop_nil, scanFrom, scanFrom]
  | c :: cs, pos, 0 => by rw [List.drop_zero, Nat.add_zero]
  | c :: cs, pos, skip + 1 => by
    rw [scanFrom, scanFrom_skip forms cs (pos + 1) skip, List.drop_succ_cons, Nat.add_right_comm,
      Nat.add_assoc]

theorem scanFrom_gap {c : Char} {cs : List Char} {pos : Nat} (hc : isGap c = true) :
    scanFrom forms (c :: cs) pos 0 = scanFrom forms cs (pos + 1) 0 := by
  rw [scanFrom, if_pos hc]

theorem scanFrom_stuck {c : Char} {cs : List Char} {pos : Nat} (hc : isGap c = false)
    (h : longest forms (c :: cs) = none) : scanFrom forms (c :: cs) pos 0 = ⟨[], some pos⟩ := by
  rw [scanFrom, if_neg (by simp [hc]), h]

theorem scanFrom_token {c : Char} {cs : List Char} {pos n : Nat} {t : Terminal}
    (hc : isGap c = false) (hn : 0 < n) (h : longest forms (c :: cs) = some (t, n)) :
    scanFrom forms (c :: cs) pos 0 =
      ⟨⟨t, String.ofList ((c :: cs).take n), pos, pos + n⟩
          :: (scanFrom forms ((c :: cs).drop n) (pos + n) 0).tokens,
        (scanFrom forms ((c :: cs).drop n) (pos + n) 0).stuck⟩ := by
  obtain ⟨n, rfl⟩ := Nat.exists_eq_succ_of_ne_zero (Nat.ne_of_gt hn)
  rw [scanFrom, if_neg (by simp [hc]), h]
  simp only [Nat.succ_eq_add_one, Nat.add_sub_cancel, List.drop_succ_cons]
  rw [scanFrom_skip, Nat.add_assoc, Nat.add_comm 1]

/-- A scan ends with the text, or at a character at which no token starts. -/
def Ends (L : Terminal → List Char → Prop) (pos : Nat) : List Char → Option Nat → Prop
  | [], stuck => stuck = none
  | c :: cs, stuck => stuck = some pos ∧ isGap c = false ∧ NoToken L (c :: cs)

theorem scanFrom_reads (forms : List Terminal.Form) (cs : List Char) (pos : Nat) :
    ∃ pos' rest, Reads (Spells forms) pos cs (scanFrom forms cs pos 0).tokens pos' rest ∧
      Ends (Spells forms) pos' rest (scanFrom forms cs pos 0).stuck := by
  induction hlen : cs.length using Nat.strongRecOn generalizing cs pos with
  | _ m ih =>
  rcases cs with _ | ⟨c, cs⟩
  · exact ⟨pos, [], .done _ _, rfl⟩
  rcases hc : isGap c with _ | _
  · rcases hl : longest forms (c :: cs) with _ | ⟨t, n⟩
    · rw [scanFrom_stuck hc hl]
      exact ⟨pos, c :: cs, .done _ _, rfl, hc, noToken_of_longest hl⟩
    · obtain ⟨hn, hle, -⟩ := spells_longest hl
      obtain ⟨pos', rest, h, he⟩ := ih _ (by
        rw [← hlen, List.length_drop]
        simp only [List.length_cons] at hle ⊢
        omega) ((c :: cs).drop n) (pos + n) rfl
      rw [scanFrom_token hc hn hl]
      exact ⟨pos', rest, .take hle (isToken_of_longest hl) h, he⟩
  · obtain ⟨pos', rest, h, he⟩ := ih cs.length (by simp [← hlen]) cs (pos + 1) rfl
    rw [scanFrom_gap hc]
    exact ⟨pos', rest, .gap hc h, he⟩

theorem scanFrom_eq (hd : Distinct forms) {pos pos' : Nat} {cs : List Char} {ts : List Token}
    (h : Reads (Spells forms) pos cs ts pos' []) : scanFrom forms cs pos 0 = ⟨ts, none⟩ := by
  generalize hr : ([] : List Char) = rest at h
  induction h with
  | done =>
    rw [← hr, scanFrom]
  | gap hc _ ih => rw [scanFrom_gap hc, ih hr]
  | @token pos _ t u cs _ _ hu _ ih =>
    obtain ⟨c, u, rfl⟩ := List.exists_cons_of_ne_nil hu.nonempty
    have hl := hd.longest_eq hu
    rw [List.cons_append] at hl ⊢
    rw [scanFrom_token (hd.not_gap hu.word) (by simp) hl, ← List.cons_append, List.take_left,
      List.drop_left, ih hr]

end Scan

end Reckon
