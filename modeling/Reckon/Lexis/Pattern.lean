import Reckon.Lexis.Regex

/-!
# The notation of patterns

A pattern is a row of characters and character classes, each with an optional `*`, `+` or `?`.
A backslash before one of `d w s` (or `D W S`) stands for the digits, word characters or blanks
(or all others), before any other character for that character.
-/

namespace Reckon

namespace Pattern

/-- A character of a pattern, with or without a backslash. -/
inductive Mark where
  | plain (c : Char)
  | escaped (c : Char)
  deriving Repr, DecidableEq

def marks : List Char → List Mark
  | [] => []
  | '\\' :: c :: rest => .escaped c :: marks rest
  | c :: rest => .plain c :: marks rest

def escapedMember : Char → ClassMember
  | 'd' => .digit
  | 'w' => .word
  | 's' => .blank
  | 'D' => .notDigit
  | 'W' => .notWord
  | 'S' => .notBlank
  | c => .char c

def single (m : ClassMember) : Regex := .one ⟨false, [m]⟩

/-- The characters that mean something else outside a class. -/
def isReserved (c : Char) : Bool := "()|.^$*+?\x7b\x7d[]".toList.contains c

/-- Reads the marks, `row` being what was read so far, latest first, and `inside` the open class. -/
def read (row : List Regex) : Option (Bool × List ClassMember) → List Mark → Option (List Regex)
  | none, [] => some row.reverse
  | some _, [] => none
  | some (negated, ms), .plain ']' :: rest => read (.one ⟨negated, ms.reverse⟩ :: row) none rest
  | some (negated, ms), .plain a :: .plain '-' :: .plain b :: rest =>
    if b = ']' then read (.one ⟨negated, (.char '-' :: .char a :: ms).reverse⟩ :: row) none rest
    else read row (some (negated, .range a b :: ms)) rest
  | some (negated, ms), .plain c :: rest => read row (some (negated, .char c :: ms)) rest
  | some (negated, ms), .escaped c :: rest => read row (some (negated, escapedMember c :: ms)) rest
  | none, .plain '[' :: .plain '^' :: rest => read row (some (true, [])) rest
  | none, .plain '[' :: rest => read row (some (false, [])) rest
  | none, .plain '*' :: rest =>
    match row with
    | r :: row => read (.star r :: row) none rest
    | [] => none
  | none, .plain '+' :: rest =>
    match row with
    | r :: row => read (.seq r (.star r) :: row) none rest
    | [] => none
  | none, .plain '?' :: rest =>
    match row with
    | r :: row => read (.alt r .empty :: row) none rest
    | [] => none
  | none, .plain c :: rest =>
    if isReserved c then none else read (single (.char c) :: row) none rest
  | none, .escaped c :: rest => read (single (escapedMember c) :: row) none rest

/-- The regular expression of a pattern, if it is written in this notation. -/
def toRegex? (pattern : String) : Option Regex :=
  (read [] none (marks pattern.toList)).map (·.foldr Regex.seq .empty)

end Pattern

end Reckon
