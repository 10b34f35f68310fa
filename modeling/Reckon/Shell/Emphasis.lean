import Reckon.Lexis.Template
import Reckon.Shell.StyledText
import Reckon.Text.Width

/-!
# Emphasis

When a message is printed, values in it are emphasised: tags in angle brackets, assigned values,
brackets, addresses, calls, truth values, numbers, paths and quotations. Each of these is a stretch
of the text.
-/

namespace Reckon

namespace Emphasis

open Template

/-! ## Characters -/

def digit : ClassMember := .range '0' '9'

/-- Hexadecimal digits. -/
def hexDigits : List ClassMember := [digit, .range 'a' 'f', .range 'A' 'F']

/-- All but line ends. -/
def inLine : Template := one ⟨true, [.char '\n']⟩

/-- Characters of a step in a path. -/
def pathMembers : List ClassMember := [.char '-', .word, .char '.', .char '+']

/-- Characters of a web address. -/
def addressMembers : List ClassMember :=
  .range '0' '9' :: .range 'a' 'z' :: .range 'A' 'Z'
    :: "-$_+!\x60(),.?/;:&=%#~@".toList.map .char

/-- A place that is not within a word. -/
def notInWord : Template := notAfter ⟨false, [.word]⟩

/-! ## Tags, assignments and brackets -/

/-- A tag in angle brackets, up to the last that closes: its start, its name, its contents and its
end. -/
def tag : Template := row [
  part (ofText "<"),
  part (many (among [.char '-', .word, .char '.', .char ':', .char '|'])),
  part (many (one ⟨true, []⟩)),
  part (ofText ">")]

/-- A name that something is assigned to, and the word behind the equals sign. -/
def assignment : Template := row [
  part ((among [.word]).times 1 50),
  ofText "=",
  optional (part (row [optional (ofText "\""), (among [.word]).oneOrMore, optional (ofText "\"")]))]

def bracket : Template := part (among ("[]\x7b\x7d()".toList.map .char))

/-! ## Addresses -/

/-- So many groups with a mark between them. -/
def groups (count : Nat) (group : Template) (mark : String) : Template :=
  row [(row [group, ofText mark]).times (count - 1) (count - 1), group]

/-- Four numbers with points between them. -/
def pointedAddress : Template := part (groups 4 ((among [digit]).times 1 3) ".")

/-- Up to eight hexadecimal numbers with one or two colons between them. -/
def colonAddress : Template :=
  let group := (among hexDigits).times 1 4
  part (row [(row [group, ofText ":", optional (ofText ":")]).times 1 7, group])

/-- So many bytes, one by one or two by two. -/
def byteAddress (count : Nat) : Template :=
  let group := (among hexDigits).times 1 2
  part (firstOf [
    groups count group "-",
    groups count group ":",
    groups (count / 2) ((among hexDigits).times 4 4) "."])

/-- Five groups of hexadecimal digits that make up a unique identifier. -/
def identifier : Template :=
  let group (n : Nat) : Template := (among hexDigits).times n n
  part (row [group 8, ofText "-", groups 3 (group 4) "-", ofText "-", group 12])

/-! ## Values -/

/-- A name with dots before a round bracket. -/
def call : Template :=
  row [part ((among [.word, .char '.']).repeated 0 none false), ofText "("]

def truthValue : Template := firstOf (["True", "False", "None"].map fun s =>
  row [wordEdge true, part (ofText s), wordEdge true])

def ellipsis : Template := part (ofText "...")

/-- Digits, with a point somewhere behind the first or without. -/
def mantissa : Template :=
  row [(among [digit]).oneOrMore, optional (ofText "."), many (among [digit])]

/-- An exponent with as many or as few digits as lead to a match. -/
def exponent (greedy : Bool) : Template := optional (row [
  ofText "e", optional (among [.char '-', .char '+']), (among [.digit]).repeated 1 none greedy])

/-- A number with an imaginary part. -/
def complexNumber : Template := part (row [
  notInWord, optional (ofText "-"), mantissa, exponent false,
  optional (row [among [.char '-', .char '+'], mantissa, exponent true]),
  ofText "j"])

def number : Template := part (firstOf [
  row [notInWord, optional (ofText "-"), mantissa, exponent false, wordEdge true],
  row [ofText "0x", many (among hexDigits)]])

/-- The folders of a path, and the file in the last of them. -/
def path : Template := row [
  part (row [wordEdge false, many (row [ofText "/", (among pathMembers).oneOrMore]), ofText "/"]),
  optional (part (many (among pathMembers)))]

/-- What stands between two equal quotes, of which the second has no backslash before it. -/
def between (quote : String) : Template := row [
  optional (ofText "b"), ofText quote, inLine.repeated 0 none false,
  notAfter ⟨false, [.char '\\']⟩, ofText quote]

def quotation : Template := row [
  notAfter ⟨false, [.char '\\', .word]⟩,
  part (firstOf (["'''", "'", "\"\"\"", "\""].map between))]

def webAddress : Template := part (row [
  firstOf (["file", "https", "http", "ws", "wss"].map ofText),
  ofText "://",
  many (among addressMembers)])

def value : Template := firstOf [
  pointedAddress, colonAddress, byteAddress 8, byteAddress 6, identifier, call, truthValue, ellipsis,
  complexNumber, number, path, quotation, webAddress]

/-! ## Stretches -/

/-- The stretches that are emphasised in a text. -/
def spans (cs : List Char) : List Span :=
  ([tag, assignment, bracket, value].flatMap (·.find cs)).filterMap fun (start, stop) =>
    if start < stop then some { start, stop } else none

/-- Does the text hold a character that acts on its neighbours? -/
def hasJoint (cs : List Char) : Bool := cs.any fun c => c == joiner || c == pictureSelector

end Emphasis

/-- Adds the stretches that are emphasised, before those there are. The columns of a text depend on
its segments only if a character acts on its neighbours; in all other texts nothing is emphasised. -/
def emphasise (t : StyledText) : StyledText :=
  if Emphasis.hasJoint t.chars then { t with spans := Emphasis.spans t.chars ++ t.spans } else t

end Reckon
