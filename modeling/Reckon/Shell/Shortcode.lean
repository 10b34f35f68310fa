import Reckon.Text.Blank
import Reckon.Text.Emoji
import Reckon.Text.Lowercase

/-!
# Shortcodes

A shortcode is the name of a picture between two colons, in any case, as `:smile:`. An ending
`-text` or `-emoji` of the name asks for the picture in black and white or in colour. There is no
blank in a shortcode, and one that names no picture stays as it is.
-/

namespace Reckon.Shortcode

/-- The ways to show a picture, and the characters that ask for them. -/
def variants : List (List Char × Char) := [
  ("-text".toList, '\ufe0e'),
  ("-emoji".toList, '\ufe0f')]

/-- The name of a picture apart from its ending, and what the ending asks for. -/
def splitVariant (name : List Char) : List Char × List Char :=
  match variants.find? (·.1.isSuffixOf name) with
  | some (ending, selector) => (name.take (name.length - ending.length), [selector])
  | none => (name, [])

/-- The picture that a name between colons stands for. -/
def picture? (name : List Char) : Option (List Char) :=
  let (name, selector) := splitVariant name
  (Emoji.named? (String.ofList (lowercase name))).map (·.toList ++ selector)

/-- Replaces the shortcodes of a text; `name` is the reverse of what follows the last colon, if that
colon can open a shortcode. -/
def expand (name : Option (List Char)) : List Char → List Char
  | [] =>
    match name with
    | none => []
    | some name => ':' :: name.reverse
  | c :: rest =>
    match name with
    | none => if c = ':' then expand (some []) rest else c :: expand none rest
    | some name =>
      if c = ':' then
        (picture? name.reverse).getD (':' :: name.reverse ++ [':']) ++ expand none rest
      else if isBlank c then ':' :: name.reverse ++ c :: expand none rest
      else expand (some (c :: name)) rest

end Reckon.Shortcode
