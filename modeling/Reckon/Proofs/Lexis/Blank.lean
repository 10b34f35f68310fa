import Mathlib.Data.List.Basic
import Reckon.Text.Blank
import Reckon.Text.Word

/-!
# Blanks

The characters that may stand between tokens are blanks, and no blank is a letter or a numeral.
-/

namespace Reckon

theorem isBlank_of_isGap {c : Char} (h : isGap c = true) : isBlank c = true := by
  have hgaps : [' ', '\t', '\x0c', '\r', '\n'].all isBlank = true := by decide
  exact List.all_eq_true.1 hgaps c (by simpa [isGap, or_assoc] using h)

/-- The code points of blanks. -/
def blankCodes : List Nat := List.range' 0x09 5 ++ List.range' 0x1c 5 ++ [0x85, 0xa0, 0x1680] ++
  List.range' 0x2000 11 ++ [0x2028, 0x2029, 0x202f, 0x205f, 0x3000]

theorem mem_blankCodes {c : Char} (h : isBlank c = true) : c.toNat ∈ blankCodes := by
  simp only [isBlank, Bool.or_eq_true, Bool.and_eq_true, decide_eq_true_eq, beq_iff_eq] at h
  simp only [blankCodes, List.mem_append, List.mem_range'_1, List.mem_cons, List.not_mem_nil]
  omega

theorem isBlank_of_isWord {c : Char} (h : isWord c = true) : isBlank c = false := by
  have hcodes : ∀ k ∈ blankCodes, isWord (Char.ofNat k) = false := by decide +kernel
  by_contra hblank
  have hword := hcodes _ (mem_blankCodes (Bool.not_eq_false _ ▸ hblank))
  rw [Char.ofNat_toNat, h] at hword
  cases hword

end Reckon
