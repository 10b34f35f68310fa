import Reckon.Text.CharacterName
import Reckon.Text.Digit
import Reckon.Text.Parts

/-!
# The lexemes of literals

A literal is written with numbers, quoted texts, quoted bytes, a few words, and brackets, signs,
commas and colons between them. No blanks stand between these, and a `#` ends the literal. What is
kept of a lexeme is what decides whether the literal can be read: the value of an integer, and the
kind of everything else.
-/

namespace Reckon.Literal

inductive Bracket where
  | round
  | curly
  deriving Repr, DecidableEq

/-- A number without a sign. -/
inductive Number where
  | integer (n : Nat)
  | real
  | imaginary
  deriving Repr, DecidableEq

/-- A lexeme. The words are `None`, `True`, `False` and `...`; the name `set` makes an empty set
when brackets follow. -/
inductive Lexeme where
  | number (n : Number)
  | text
  | bytes
  | word
  | setName
  | sign
  | comma
  | colon
  | opening (b : Bracket)
  | closing (b : Bracket)
  deriving Repr, DecidableEq

/-! ## Numbers -/

/-- The value of an ASCII digit in a base up to sixteen. -/
def digitIn? (base : Nat) (c : Char) : Option Nat :=
  let value :=
    if c.isDigit then c.toNat - 0x30
    else if c.isAlpha then c.toLower.toNat - 0x61 + 10
    else base
  if value < base then some value else none

def isDigitIn (base : Nat) (c : Char) : Bool := (digitIn? base c).isSome

/-- The digits at the start of a text and what follows. One underscore may divide two digits. -/
def digitRun? (base : Nat) (cs : List Char) : Option (List Nat × List Char) :=
  let isPart (c : Char) : Bool := isDigitIn base c || c == '_'
  let groups := parts (· == '_') (cs.takeWhile isPart)
  if groups.any (·.isEmpty) then none
  else some (groups.flatten.filterMap (digitIn? base), cs.dropWhile isPart)

def startsWithDigit (cs : List Char) : Bool := cs.head?.any (isDigitIn 10)

/-- The base that the letter after a zero stands for. -/
def baseOf? (c : Char) : Option Nat := [('x', 16), ('o', 8), ('b', 2)].lookup c.toLower

def ofDigits (base : Nat) (digits : List Nat) : Nat := digits.foldl (fun n d => base * n + d) 0

/-- An integer in another base; an underscore may come before its digits. -/
def basedInteger? (base : Nat) (cs : List Char) : Option (Number × List Char) := do
  let (digits, rest) ← digitRun? base (if cs.head? = some '_' then cs.tail else cs)
  return (.integer (ofDigits base digits), rest)

/-- What follows a fraction, if there is one; it may be a mere point. -/
def skipFraction? : List Char → Option (List Char)
  | '.' :: rest => if startsWithDigit rest then (digitRun? 10 rest).map (·.2) else some rest
  | cs => some cs

/-- What follows an exponent, if there is one; a sign may come before its digits. -/
def skipExponent? : List Char → Option (List Char)
  | [] => some []
  | c :: rest =>
    if c.toLower = 'e' then
      let digits := if rest.head?.any (fun s => s == '+' || s == '-') then rest.tail else rest
      if startsWithDigit digits then (digitRun? 10 digits).map (·.2) else none
    else some (c :: rest)

/-- An integer in base ten. It starts with a zero only if it is zero, and then may be of any
length. -/
def decimalInteger? (digits : List Nat) : Option Number :=
  if digits.all (· == 0) then some (.integer 0)
  else if digits.head? = some 0 ∨ mostDigits < digits.length then none
  else some (.integer (ofDigits 10 digits))

/-- A number in base ten. -/
def decimal? (cs : List Char) : Option (Number × List Char) := do
  let (digits, afterWhole) ← if startsWithDigit cs then digitRun? 10 cs else some ([], cs)
  let rest ← skipExponent? (← skipFraction? afterWhole)
  match rest with
  | 'j' :: rest => return (.imaginary, rest)
  | 'J' :: rest => return (.imaginary, rest)
  | _ =>
    if rest.length < afterWhole.length then return (.real, rest)
    else return (← decimalInteger? digits, rest)

/-- The number at the start of a text. -/
def number? (cs : List Char) : Option (Number × List Char) :=
  match cs with
  | '0' :: c :: rest =>
    match baseOf? c with
    | some base => basedInteger? base rest
    | none => decimal? cs
  | _ => decimal? cs

/-! ## Quoted texts and bytes -/

/-- What the letters before a quotation mark ask for: bytes in place of a text, and backslashes
that stand for themselves. -/
structure Quotation where
  isBytes : Bool
  isRaw : Bool

def Quotation.ofLetters? (letters : List Char) : Option Quotation :=
  match String.ofList (letters.map Char.toLower) with
  | "" => some ⟨false, false⟩
  | "u" => some ⟨false, false⟩
  | "r" => some ⟨false, true⟩
  | "b" => some ⟨true, false⟩
  | "br" => some ⟨true, true⟩
  | "rb" => some ⟨true, true⟩
  | _ => none

/-- What stands before the closing marks, and what follows them. A backslash hides what comes after
it. -/
def untilMarks (marks : List Char) : List Char → Option (List Char × List Char)
  | [] => none
  | '\\' :: c :: rest => (untilMarks marks rest).map fun (inner, rest) => ('\\' :: c :: inner, rest)
  | c :: rest =>
    if marks.isPrefixOf (c :: rest) then some ([], (c :: rest).drop marks.length)
    else (untilMarks marks rest).map fun (inner, rest) => (c :: inner, rest)

/-- The inside of a quotation behind its first mark. Three marks may open it, and then three close
it. -/
def quoted? (mark : Char) (cs : List Char) : Option (List Char × List Char) :=
  if [mark, mark].isPrefixOf cs then untilMarks [mark, mark, mark] (cs.drop 2)
  else untilMarks [mark] cs

/-- Does the text start with so many hexadecimal digits, with at most the greatest value? -/
def startsWithHex (count greatest : Nat) (cs : List Char) : Bool :=
  let digits := (cs.take count).filterMap (digitIn? 16)
  digits.length == count && ofDigits 16 digits ≤ greatest

/-- Does the text start with the name of a character in curly brackets? -/
def startsWithName : List Char → Bool
  | '\x7b' :: rest =>
    rest.contains '\x7d' && CharacterName.isOneWord (rest.takeWhile (· != '\x7d'))
  | _ => false

/-- The greatest code of a character. -/
def greatestCode : Nat := 0x10ffff

/-- Are the characters that backslashes spell by code or by name all there? Bytes are spelt by code
only. -/
def escapesHold (isBytes : Bool) : List Char → Bool
  | [] => true
  | '\\' :: c :: rest =>
    let holds :=
      match c with
      | 'x' => startsWithHex 2 greatestCode rest
      | 'u' => isBytes || startsWithHex 4 greatestCode rest
      | 'U' => isBytes || startsWithHex 8 greatestCode rest
      | 'N' => isBytes || startsWithName rest
      | _ => true
    holds && escapesHold isBytes rest
  | _ :: rest => escapesHold isBytes rest

def isAscii (c : Char) : Bool := c.toNat < 0x80

/-- A quoted text or bytes at the start of a text. Bytes are written in ASCII. -/
def quotation? (cs : List Char) : Option (Lexeme × List Char) := do
  let q ← Quotation.ofLetters? (cs.takeWhile Char.isAlpha)
  match cs.dropWhile Char.isAlpha with
  | [] => none
  | mark :: rest =>
    if mark = '"' ∨ mark = '\x27' then
      let (inner, rest) ← quoted? mark rest
      if (!q.isBytes || inner.all isAscii) && (q.isRaw || escapesHold q.isBytes inner) then
        return (if q.isBytes then .bytes else .text, rest)
      else none
    else none

/-! ## Words -/

/-- The letters of `set` in other styles, which count as the same letters. -/
def styledLetters : List (Char × String) := [
  ('s', "ſˢₛｓ𝐬𝑠𝒔𝓈𝓼𝔰𝕤𝖘𝗌𝘀𝘴𝙨𝚜"),
  ('e', "ᵉₑℯⅇｅ𝐞𝑒𝒆𝓮𝔢𝕖𝖊𝖾𝗲𝘦𝙚𝚎"),
  ('t', "ᵗₜｔ𝐭𝑡𝒕𝓉𝓽𝔱𝕥𝖙𝗍𝘁𝘵𝙩𝚝")]

/-- The letter in plain style. -/
def plainLetter (c : Char) : Char :=
  ((styledLetters.find? (·.2.toList.contains c)).map (·.1)).getD c

def isNameChar (c : Char) : Bool := c.isAlphanum || c == '_' || !isAscii c

/-- A word at the start of a text. -/
def word? (cs : List Char) : Option (Lexeme × List Char) :=
  let name := cs.takeWhile isNameChar
  let rest := cs.dropWhile isNameChar
  if ["None", "True", "False"].contains (String.ofList name) then some (.word, rest)
  else if name.map plainLetter = "set".toList then some (.setName, rest)
  else none

/-! ## All lexemes -/

def punctuation? : Char → Option Lexeme
  | '+' => some .sign
  | '-' => some .sign
  | ',' => some .comma
  | ':' => some .colon
  | '(' => some (.opening .round)
  | ')' => some (.closing .round)
  | '\x7b' => some (.opening .curly)
  | '\x7d' => some (.closing .curly)
  | _ => none

/-- The lexeme at the start of a text, and what follows it. -/
def lexeme? (cs : List Char) : Option (Lexeme × List Char) :=
  match cs with
  | [] => none
  | '.' :: '.' :: '.' :: rest => some (.word, rest)
  | c :: rest =>
    match punctuation? c with
    | some l => some (l, rest)
    | none =>
      if c.isDigit || (c == '.' && startsWithDigit rest) then
        (number? cs).map fun (n, rest) => (.number n, rest)
      else (quotation? cs).or (word? cs)

/-- The lexemes of a text, the next `skip` characters of which belong to one already seen. -/
def lexemesAfter : Nat → List Char → Option (List Lexeme)
  | _, [] => some []
  | skip + 1, _ :: rest => lexemesAfter skip rest
  | 0, c :: rest => do
    if c = '#' then return []
    let (l, after) ← lexeme? (c :: rest)
    return l :: (← lexemesAfter (rest.length - after.length) rest)

/-- The lexemes of a text. There are none if it holds the character with code zero, or something
that is no lexeme. -/
def lexemes? (cs : List Char) : Option (List Lexeme) :=
  if cs.any (·.toNat == 0) then none else lexemesAfter 0 cs

end Reckon.Literal
