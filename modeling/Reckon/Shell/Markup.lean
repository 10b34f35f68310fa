import Reckon.Text.Printable
import Reckon.Text.Word
import Reckon.Literal.Reader
import Reckon.Shell.Shortcode
import Reckon.Shell.Style
import Reckon.Shell.StyledText

/-!
# Marked up text

Text for the console may hold tags in square brackets, which open and close styles: `[bold]` opens
one, `[/bold]` closes it, and `[/]` closes the one opened last. A tag may carry a value behind an
equals sign. Backslashes before a tag stand for half as many, and one that is left over makes the
tag plain text. Tags are not shown, and what a tag closes must be open. A tag that starts with `@`
names what a click does, and when it is closed its value must be a call with literal arguments, or a
literal. All other values belong to the styles of their tags.
-/

namespace Reckon.Markup

/-- A part of a marked up text: plain text, or what stands between the brackets of a tag. -/
inductive Piece where
  | text (cs : List Char)
  | tag (cs : List Char)
  deriving Repr, DecidableEq

/-- Why a marked up text cannot be shown. -/
inductive Error where
  | notOpen (style : String)
  | nothingOpen
  | badArguments (value : String)
  | colour (e : Colour.Error)
  deriving Repr, DecidableEq

namespace Error

def message : Error → String
  | notOpen style => "closing tag '[/" ++ style ++ "]' doesn't match any open tag"
  | nothingOpen => "closing tag '[/]' has nothing to close"
  | badArguments value => "error parsing '" ++ value ++ "'"
  | colour e => e.message

end Error

/-! ## Tags -/

/-- Can the character come first in a tag? -/
def opensTag (c : Char) : Bool := ('a' ≤ c && c ≤ 'z') || c == '#' || c == '/' || c == '@'

/-- What stands before the first closing bracket, unless a bracket opens before it. -/
def untilBracket : List Char → Option (List Char)
  | [] => none
  | c :: rest =>
    if c = ']' then some []
    else if c = '[' then none
    else (untilBracket rest).map (c :: ·)

/-- The tag that a text behind an opening bracket starts with. -/
def tagAt? : List Char → Option (List Char)
  | [] => none
  | c :: rest => if opensTag c then (untilBracket rest).map (c :: ·) else none

/-! ## Pieces -/

/-- Plain text that was read in reverse, if there is any. -/
def plain (cs : List Char) : List Piece := if cs.isEmpty then [] else [.text cs.reverse]

/-- The pieces of a text. The next `skip` characters belong to a tag already seen, `slashes` counts
the backslashes just before, and `read` is the reverse of the plain text before these. A backslash
before a bracket that opens no tag is dropped. -/
def piecesAfter (skip slashes : Nat) (read : List Char) : List Char → List Piece
  | [] => plain (List.replicate slashes '\\' ++ read)
  | c :: rest =>
    if 0 < skip then piecesAfter (skip - 1) 0 [] rest
    else if c = '\\' then piecesAfter 0 (slashes + 1) read rest
    else if c = '[' then
      match tagAt? rest with
      | some t =>
        let tag : Piece := if slashes % 2 = 1 then .text ('[' :: t ++ [']']) else .tag t
        plain read ++ plain (List.replicate (slashes / 2) '\\')
          ++ tag :: piecesAfter (t.length + 1) 0 [] rest
      | none => piecesAfter 0 0 ('[' :: List.replicate (slashes - 1) '\\' ++ read) rest
    else piecesAfter 0 0 (c :: List.replicate slashes '\\' ++ read) rest

def pieces (cs : List Char) : List Piece := piecesAfter 0 0 [] cs

/-! ## Tags that are open -/

/-- An opened tag: its style, its value, and where the text in that style starts. -/
structure Tag where
  style : String
  value : Option (List Char)
  start : Nat
  deriving Repr, DecidableEq

/-- What has been shown, the tags that are open, the last one first, and the stretches of those that
were closed, the last one first. -/
structure Canvas where
  shown : List Char := []
  opened : List Tag := []
  closed : List Span := []

/-- Turns an error in a colour into one of the text. -/
def ofColour {α : Type} (r : Except Colour.Error α) : Except Error α := r.mapError .colour

/-- The name and the value of a tag. -/
def splitValue (tag : List Char) : List Char × Option (List Char) :=
  match tag.dropWhile (· != '=') with
  | [] => (tag, none)
  | _ :: value => (tag.takeWhile (· != '='), some value)

namespace Tag

/-- Does the tag name what a click does? -/
def isAction (t : Tag) : Bool := t.style.toList.head? == some '@'

/-- A character of a name with dots. -/
def isPathChar (c : Char) : Bool := isWord c || c == '_' || c == '.'

/-- The literal that is in the value of an action: the arguments in round brackets behind a name,
which are left out if there are none, or else all of it. -/
def arguments (value : List Char) : List Char :=
  match value.dropWhile isPathChar with
  | [] => ['(', ')']
  | '(' :: rest => if rest.getLast? = some ')' then '(' :: rest else value
  | _ => value

/-- May the tag be closed? -/
def checkAction (t : Tag) : Except Error Unit :=
  let value := t.value.getD []
  if t.isAction && !value.isEmpty && !Literal.isLiteral (arguments value) then
    .error (.badArguments (String.ofList value))
  else .ok ()

/-- The stretch of an open tag that ends at a place. -/
def span (t : Tag) (stop : Nat) : Span where
  start := t.start
  stop
  style := t.style.toList :: t.value.toList

/-- The stretch of a tag that is closed at a place. What a click does is no style. -/
def closedSpan (t : Tag) (stop : Nat) : Span :=
  let s := t.span stop
  if t.isAction then { s with style := [] } else s

end Tag

/-! ## The text that is shown -/

namespace Canvas

/-- Adds plain text. -/
def write (c : Canvas) (cs : List Char) : Canvas :=
  { c with shown := c.shown ++ (Shortcode.expand none cs).filter (!isConsoleControl ·) }

def openTag (c : Canvas) (name : List Char) (value : Option (List Char)) : Except Error Canvas := do
  let style ← ofColour (Style.nameOf name)
  return { c with opened := ⟨style, value, c.shown.length⟩ :: c.opened }

/-- Closes one of the open tags. -/
def closeTag (c : Canvas) (t : Tag) : Except Error Canvas := do
  t.checkAction
  return { c with opened := c.opened.erase t, closed := t.closedSpan c.shown.length :: c.closed }

/-- Closes the last tag with the style of a name, or the last of all. -/
def closeNamed (c : Canvas) (name : List Char) : Except Error Canvas := do
  if name.isEmpty then
    match c.opened with
    | [] => .error .nothingOpen
    | t :: _ => c.closeTag t
  else
    let style ← ofColour (Style.nameOf name)
    match c.opened.find? (·.style == style) with
    | none => .error (.notOpen style)
    | some t => c.closeTag t

def step (c : Canvas) : Piece → Except Error Canvas
  | .text cs => .ok (c.write cs)
  | .tag t =>
    match splitValue t with
    | ('/' :: name, _) => c.closeNamed (trimBlanks name)
    | (name, value) => c.openTag name value

/-- The stretches of the tags, by where they start. Tags that are still open end with the text. -/
def spans (c : Canvas) : List Span :=
  (c.opened.reverse.map (·.span c.shown.length) ++ c.closed).mergeSort
    fun s t => s.start ≤ t.start

end Canvas

/-- What is shown of a marked up text, with its styles. -/
def styled (cs : List Char) : Except Error StyledText := do
  let c ← (pieces cs).foldlM Canvas.step {}
  return { chars := c.shown, spans := c.spans }

end Reckon.Markup
