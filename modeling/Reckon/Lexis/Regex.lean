import Reckon.Text.Word
import Reckon.Text.Digit
import Reckon.Text.Blank

/-!
# Regular expressions over characters

A regular expression is matched by derivatives: after a character `c` the words left to match are
those of `r.deriv c`. The constructors are wrapped so that what can match nothing disappears, and
`longest` stops at the first character after which nothing is left.
-/

namespace Reckon

/-- A member of a character class. -/
inductive ClassMember where
  | char (c : Char)
  | range (first last : Char)
  | digit
  | word
  | blank
  | notDigit
  | notWord
  | notBlank
  deriving Repr, DecidableEq

namespace ClassMember

/-- Letters, numerals and the underscore. -/
def isWordOrUnderscore (c : Char) : Bool := isWord c || c == '_'

def contains : ClassMember → Char → Bool
  | char a, c => a == c
  | range a b, c => a.toNat ≤ c.toNat && c.toNat ≤ b.toNat
  | digit, c => isDecimalDigit c
  | word, c => isWordOrUnderscore c
  | blank, c => isBlank c
  | notDigit, c => !isDecimalDigit c
  | notWord, c => !isWordOrUnderscore c
  | notBlank, c => !isBlank c

end ClassMember

/-- A character class: the characters that are in one of the members, or those that are in none. -/
structure CharClass where
  negated : Bool
  members : List ClassMember
  deriving Repr, DecidableEq

def CharClass.contains (k : CharClass) (c : Char) : Bool :=
  k.members.any (·.contains c) != k.negated

inductive Regex where
  | nothing
  | empty
  | one (k : CharClass)
  | seq (r s : Regex)
  | alt (r s : Regex)
  | star (r : Regex)
  deriving Repr, DecidableEq

namespace Regex

/-- The words of a regular expression. -/
inductive Matches : Regex → List Char → Prop
  | empty : Matches .empty []
  | one {k : CharClass} {c : Char} (h : k.contains c = true) : Matches (.one k) [c]
  | seq {r s : Regex} {u v : List Char} (hr : Matches r u) (hs : Matches s v) :
      Matches (.seq r s) (u ++ v)
  | altLeft {r s : Regex} {u : List Char} (h : Matches r u) : Matches (.alt r s) u
  | altRight {r s : Regex} {u : List Char} (h : Matches s u) : Matches (.alt r s) u
  | starNil {r : Regex} : Matches (.star r) []
  | starAppend {r : Regex} {u v : List Char} (hr : Matches r u) (hs : Matches (.star r) v) :
      Matches (.star r) (u ++ v)

/-- `seq` without parts that match nothing. -/
def thenDo : Regex → Regex → Regex
  | nothing, _ => nothing
  | empty, s => s
  | r, s => seq r s

/-- `alt` without parts that match nothing. -/
def orElse : Regex → Regex → Regex
  | nothing, s => s
  | r, nothing => r
  | r, s => alt r s

/-- The regular expression of one text. -/
def ofText (cs : List Char) : Regex :=
  cs.foldr (fun c r => seq (one ⟨false, [.char c]⟩) r) empty

/-- Does the empty word match? -/
def nullable : Regex → Bool
  | nothing => false
  | empty => true
  | one _ => false
  | seq r s => r.nullable && s.nullable
  | alt r s => r.nullable || s.nullable
  | star _ => true

/-- What is left to match after `c`. -/
def deriv (c : Char) : Regex → Regex
  | nothing => nothing
  | empty => nothing
  | one k => if k.contains c then empty else nothing
  | seq r s =>
    if r.nullable then ((r.deriv c).thenDo s).orElse (s.deriv c) else (r.deriv c).thenDo s
  | alt r s => (r.deriv c).orElse (s.deriv c)
  | star r => (r.deriv c).thenDo (star r)

/-- The length of the longest prefix that matches, `n` characters having been read and `best` being
the longest so far. -/
def longestFrom (r : Regex) (n : Nat) (best : Option Nat) : List Char → Option Nat
  | [] => if r.nullable then some n else best
  | c :: rest =>
    let best := if r.nullable then some n else best
    match r.deriv c with
    | nothing => best
    | d => d.longestFrom (n + 1) best rest

/-- The length of the longest prefix that matches. -/
def longest (r : Regex) (cs : List Char) : Option Nat := r.longestFrom 0 none cs

end Regex

end Reckon
