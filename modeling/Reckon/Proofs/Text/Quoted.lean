import Mathlib.Algebra.GroupWithZero.Nat
import Mathlib.Data.List.Basic
import Reckon.Text.Quoted

/-!
# What a quoted text tells

Every character of a quoted text prints, so it stands on one line (`isPrintable_of_mem_quoted`).
What is written for a character is never the start of what is written for another one, since the
letter after a backslash fixes how many digits come (`Written.append_inj`). So a quoted text tells
the text between its quotes (`quoted_injective`).
-/

namespace Reckon

namespace Quoted

/-! ## Codes in hexadecimal -/

section Hex

variable {m n width : Nat}

theorem hex_one (h : n < 16) : hex 1 n = [n.digitChar] := by
  simp [hex, Nat.toDigits_of_lt_base h]

theorem hex_add_two (width n : Nat) :
    hex (width + 2) n = hex (width + 1) (n / 16) ++ [(n % 16).digitChar] := by
  by_cases hn : n < 16
  · -- the number has one digit, and zeros stand before it
    simp [hex, Nat.toDigits_of_lt_base hn, Nat.div_eq_of_lt hn, Nat.mod_eq_of_lt hn,
      List.replicate_succ']
  · simp [hex, Nat.toDigits_of_base_le (by omega) (Nat.le_of_not_lt hn)]

theorem digitChar_inj (hm : m < 16) (hn : n < 16) (h : m.digitChar = n.digitChar) : m = n := by
  have hdigits : ∀ m < 16, ∀ n < 16, m.digitChar = n.digitChar → m = n := by decide
  exact hdigits m hm n hn h

theorem isPrintable_digitChar (h : n < 16) : isPrintable n.digitChar = true := by
  have hdigits : ∀ n < 16, isPrintable n.digitChar = true := by decide
  exact hdigits n h

theorem length_hex (h : n < 16 ^ (width + 1)) : (hex (width + 1) n).length = width + 1 := by
  have hlength := (Nat.length_toDigits_le_iff (b := 16) (by omega) (Nat.succ_pos width)).2 h
  rw [hex, List.length_append, List.length_replicate]
  omega

/-- A number with no more digits than there is room for is told by them. -/
theorem hex_inj : ∀ {width m n : Nat}, m < 16 ^ (width + 1) → n < 16 ^ (width + 1) →
    hex (width + 1) m = hex (width + 1) n → m = n
  | 0, m, n, hm, hn, h => by
    rw [hex_one hm, hex_one hn] at h
    exact digitChar_inj hm hn (List.singleton_inj.1 h)
  | width + 1, m, n, hm, hn, h => by
    rw [hex_add_two, hex_add_two] at h
    obtain ⟨hhigh, hlow⟩ := List.append_inj' h rfl
    have hdiv : m / 16 = n / 16 := hex_inj (by omega) (by omega) hhigh
    have hmod : m % 16 = n % 16 :=
      digitChar_inj (by omega) (by omega) (List.singleton_inj.1 hlow)
    omega

theorem isPrintable_of_mem_hex : ∀ {width n : Nat}, n < 16 ^ (width + 1) →
    ∀ c ∈ hex (width + 1) n, isPrintable c = true
  | 0, n, h => by
    rw [hex_one h, List.forall_mem_singleton]
    exact isPrintable_digitChar h
  | width + 1, n, h => by
    rw [hex_add_two, List.forall_mem_append, List.forall_mem_singleton]
    exact ⟨isPrintable_of_mem_hex (by omega), isPrintable_digitChar (by omega)⟩

end Hex

/-! ## One character -/

/-- The letters that a backslash goes before, each with the character that the two stand for. -/
def letters : List (Char × Char) :=
  [(apostrophe, apostrophe), ('"', '"'), ('\\', '\\'), ('n', '\n'), ('r', '\r'), ('t', '\t')]

/-- The letters between a backslash and a code, each with how many digits follow the first one. -/
def codes : List (Char × Nat) := [('x', 1), ('u', 3), ('U', 7)]

/-- What may be written for a character. -/
inductive Written : Char → List Char → Prop
  | plain {c : Char} (hc : c ≠ '\\') (hp : isPrintable c = true) : Written c [c]
  | letter {e c : Char} (he : (e, c) ∈ letters) : Written c ['\\', e]
  | code {e c : Char} {width : Nat} (he : (e, width) ∈ codes) (hc : c.toNat < 16 ^ (width + 1)) :
      Written c ('\\' :: e :: hex (width + 1) c.toNat)

theorem mark_eq (cs : List Char) : mark cs = apostrophe ∨ mark cs = '"' := by
  unfold mark
  split
  · exact .inr rfl
  · exact .inl rfl

theorem toNat_lt (c : Char) : c.toNat < 0x110000 := by
  have hvalid := c.valid
  simp only [UInt32.isValidChar, Nat.isValidChar] at hvalid
  change c.val.toNat < _
  omega

theorem written_escapeCode (c : Char) : Written c (escapeCode c.toNat) := by
  have hc := toNat_lt c
  unfold escapeCode
  split
  · exact .code (by simp [codes]) (by omega)
  · split
    · exact .code (by simp [codes]) (by omega)
    · exact .code (by simp [codes]) (by omega)

theorem written_encodeChar {quote : Char} (hq : quote = apostrophe ∨ quote = '"') (c : Char) :
    Written c (encodeChar quote c) := by
  unfold encodeChar
  split_ifs with hself hfeed hreturn htab hp
  · -- a quote or a backslash
    simp only [Bool.or_eq_true, beq_iff_eq] at hself
    refine .letter ?_
    rcases hself with rfl | rfl
    · rcases hq with rfl | rfl <;> simp [letters]
    · simp [letters]
  · rw [beq_iff_eq] at hfeed
    exact .letter (by simp [letters, hfeed])
  · rw [beq_iff_eq] at hreturn
    exact .letter (by simp [letters, hreturn])
  · rw [beq_iff_eq] at htab
    exact .letter (by simp [letters, htab])
  · simp only [Bool.or_eq_true, beq_iff_eq, not_or] at hself
    exact .plain hself.2 hp
  · exact written_escapeCode c

theorem Written.ne_nil {c : Char} {u : List Char} (h : Written c u) : u ≠ [] := by
  cases h <;> simp

theorem Written.isPrintable {c : Char} {u : List Char} (h : Written c u) :
    ∀ d ∈ u, isPrintable d = true := by
  have hback : Reckon.isPrintable '\\' = true := by decide
  cases h with
  | plain _ hp => exact List.forall_mem_singleton.2 hp
  | @letter e _ he =>
    have hletters : ∀ p ∈ letters, Reckon.isPrintable p.1 = true := by decide
    simp [hback, hletters _ he]
  | @code e _ _ he hc =>
    have hcodes : ∀ p ∈ codes, Reckon.isPrintable p.1 = true := by decide
    exact List.forall_mem_cons.2 ⟨hback, List.forall_mem_cons.2
      ⟨hcodes _ he, isPrintable_of_mem_hex hc⟩⟩

/-- What is written for a character tells it, and where it ends. -/
theorem Written.append_inj {c d : Char} {u v r s : List Char} (hc : Written c u)
    (hd : Written d v) (h : u ++ r = v ++ s) : c = d ∧ r = s := by
  -- no letter goes before a code, and the letter alone tells the character or the width
  have hapart : ∀ p ∈ letters, ∀ q ∈ codes, p.1 ≠ q.1 := by decide
  have hletters : ∀ p ∈ letters, ∀ q ∈ letters, p.1 = q.1 → p.2 = q.2 := by decide
  have hcodes : ∀ p ∈ codes, ∀ q ∈ codes, p.1 = q.1 → p.2 = q.2 := by decide
  cases hc with
  | plain hc _ =>
    cases hd with
    | plain => simpa using h
    | letter => exact absurd (List.cons.inj h).1 hc
    | code => exact absurd (List.cons.inj h).1 hc
  | letter he =>
    cases hd with
    | plain hd _ => exact absurd (List.cons.inj h).1.symm hd
    | letter he' =>
      simp only [List.cons_append, List.nil_append, List.cons.injEq, true_and] at h
      exact ⟨hletters _ he _ he' h.1, h.2⟩
    | code he' =>
      simp only [List.cons_append, List.cons.injEq, true_and] at h
      exact absurd h.1 (hapart _ he _ he')
  | code he hc =>
    cases hd with
    | plain hd _ => exact absurd (List.cons.inj h).1.symm hd
    | letter he' =>
      simp only [List.cons_append, List.cons.injEq, true_and] at h
      exact absurd h.1.symm (hapart _ he' _ he)
    | code he' hd =>
      simp only [List.cons_append, List.cons.injEq, true_and] at h
      obtain ⟨he', hrest⟩ := h
      obtain rfl := hcodes _ he _ ‹_› he'
      obtain ⟨hdigits, hrest⟩ := List.append_inj hrest (by rw [length_hex hc, length_hex hd])
      exact ⟨Char.toNat_inj.1 (hex_inj hc hd hdigits), hrest⟩

/-! ## The whole text -/

theorem flatMap_encodeChar_inj {quote : Char} (hq : quote = apostrophe ∨ quote = '"') :
    ∀ {cs ds : List Char}, cs.flatMap (encodeChar quote) = ds.flatMap (encodeChar quote) → cs = ds
  | [], [], _ => rfl
  | [], d :: ds, h =>
    absurd (List.append_eq_nil_iff.1 h.symm).1 (written_encodeChar hq d).ne_nil
  | c :: cs, [], h => absurd (List.append_eq_nil_iff.1 h).1 (written_encodeChar hq c).ne_nil
  | c :: cs, d :: ds, h => by
    rw [List.flatMap_cons, List.flatMap_cons] at h
    obtain ⟨rfl, hrest⟩ := (written_encodeChar hq c).append_inj (written_encodeChar hq d) h
    rw [flatMap_encodeChar_inj hq hrest]

theorem isPrintable_of_mem_encode (cs : List Char) : ∀ c ∈ encode cs, isPrintable c = true := by
  have hquote : isPrintable (mark cs) = true := by
    rcases mark_eq cs with h | h <;> rw [h] <;> decide
  intro c hc
  simp only [encode, List.mem_append, List.mem_cons, List.mem_flatMap, List.not_mem_nil,
    or_false] at hc
  rcases hc with (rfl | ⟨d, -, hd⟩) | rfl
  · exact hquote
  · exact (written_encodeChar (mark_eq cs) d).isPrintable c hd
  · exact hquote

theorem encode_injective : Function.Injective encode := by
  intro cs ds h
  obtain ⟨hmark, hrest⟩ := List.cons.inj h
  rw [hmark] at hrest
  exact flatMap_encodeChar_inj (mark_eq ds) (List.append_inj' hrest rfl).1

end Quoted

theorem isPrintable_of_mem_quoted {s : String} {c : Char} (h : c ∈ (quoted s).toList) :
    isPrintable c = true := by
  rw [quoted, String.toList_ofList] at h
  exact Quoted.isPrintable_of_mem_encode _ c h

theorem quoted_injective : Function.Injective quoted := fun _ _ h =>
  String.toList_injective (Quoted.encode_injective (String.ofList_injective h))

end Reckon
