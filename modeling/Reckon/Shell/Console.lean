import Reckon.Shell.Emphasis
import Reckon.Shell.Markup
import Reckon.Shell.Wrap

/-!
# Text on the console

Printed text ends with a line end, and pictures take the place of their shortcodes. Some control
characters are not printed, a tab fills up to the next multiple of eight columns, and lines are
broken to fit the width of the console.
-/

namespace Reckon.Console

/-- Why a text cannot be printed. -/
inductive Error where
  | markup (e : Markup.Error)
  | wrap (e : Wrap.Error)
  deriving Repr, DecidableEq

namespace Error

def message : Error → String
  | markup e => e.message
  | wrap e => e.message

end Error

def tabStop : Nat := 8

/-- Replaces tabs by spaces. The text since the last tab or line end is `cell`, in reverse, and it
starts in `column`. A tab is at least one space, which is measured with the text before it. -/
def expandTabs (column : Nat) (cell : List Char) : List Char → List Char
  | [] => cell.reverse
  | c :: rest =>
    if c = '\n' then cell.reverse ++ '\n' :: expandTabs 0 [] rest
    else if c = '\t' then
      let filled := cell.reverse ++ [' ']
      let place := column + textColumns filled
      let more := (tabStop - place % tabStop) % tabStop
      filled ++ List.replicate more ' ' ++ expandTabs (place + more) [] rest
    else expandTabs column (c :: cell) rest

/-- Are the numbers of the colours in a style readable? -/
def checkStyle (s : Span) : Except Error Unit :=
  ((Style.recognise s.style).mapError (.markup ∘ .colour)).map fun _ => ()

/-- Text as it is laid out. First it is broken into lines, then its styles are read, and last the
lines are cut to the width. -/
def layOut (width : Nat) (t : StyledText) : Except Error String := do
  let lines ← (t.lines.mapM (Wrap.wrap width)).mapError .wrap
  let lines := lines.flatten
  lines.forM fun line => line.spans.forM checkStyle
  let rows ← (lines.mapM (Wrap.row width)).mapError .wrap
  return String.join (rows.map fun row => String.ofList row ++ "\n")

/-- The characters of a plain text that are shown. -/
def shown (s : String) : List Char :=
  (Shortcode.expand none s.toList).filter (!isConsoleControl ·)

/-- Plain text as it appears. -/
def print (width : Nat) (s : String) : Except Error String :=
  layOut width { chars := expandTabs 0 [] (shown s) }

/-- Plain text without tabs as it appears when its values are emphasised. -/
def printEmphasised (width : Nat) (s : String) : Except Error String :=
  layOut width (emphasise { chars := shown s })

/-- Marked up text without tabs as it appears; its values are emphasised. -/
def printMarked (width : Nat) (s : String) : Except Error String := do
  let t ← (Markup.styled s.toList).mapError .markup
  layOut width (emphasise t)

end Reckon.Console
