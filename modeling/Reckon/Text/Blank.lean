/-!
# Blank characters

Two notions of blank: any character that Unicode counts as space, and the five characters that
may stand between tokens.
-/

namespace Reckon

/-- The space, tab and line characters of every script, the four ASCII separators U+001C to U+001F
included. -/
def isBlank (c : Char) : Bool :=
  let n := c.toNat
  (0x09 ≤ n && n ≤ 0x0d) || (0x1c ≤ n && n ≤ 0x20) || n == 0x85 || n == 0xa0 || n == 0x1680
    || (0x2000 ≤ n && n ≤ 0x200a) || n == 0x2028 || n == 0x2029 || n == 0x202f || n == 0x205f
    || n == 0x3000

/-- The characters that may stand between tokens: space, tab, form feed and the two line ends. -/
def isGap (c : Char) : Bool :=
  c == ' ' || c == '\t' || c == '\x0c' || c == '\r' || c == '\n'

/-- The text without the blanks at its end. -/
def trimEnd (cs : List Char) : List Char := (cs.reverse.dropWhile isBlank).reverse

/-- The text without the blanks at its two ends. -/
def trimBlanks (cs : List Char) : List Char := trimEnd (cs.dropWhile isBlank)

end Reckon
