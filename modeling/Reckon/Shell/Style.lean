import Reckon.Shell.Colour

/-!
# Styles

A style is given by words: attributes such as `bold`, which may be short or taken back by `not`, a
colour, a colour behind `on` for the background, and an address behind `link`. Case does not matter.
-/

namespace Reckon.Style

/-- Short names of attributes. -/
def abbreviations : List (String × String) := [
  ("b", "bold"), ("c", "conceal"), ("d", "dim"), ("i", "italic"), ("o", "overline"),
  ("r", "reverse"), ("s", "strike"), ("u", "underline"), ("uu", "underline2")]

/-- The attributes that have no short names. -/
def otherAttributes : List String := ["blink", "blink2", "encircle", "frame"]

def isAttribute (word : String) : Bool :=
  abbreviations.any (fun (short, long) => word == short || word == long)
    || otherAttributes.contains word

/-- Can the words be read as a style? The words are read up to the first that does not fit, and the
numbers of colours must be readable. -/
def recognise : List (List Char) → Except Colour.Error Bool
  | [] => .ok true
  | word :: rest =>
    match String.ofList (lowercase word), rest with
    | "on", colour :: rest => do
      if ← Colour.recognise colour then recognise rest else return false
    | "not", word :: rest =>
      if isAttribute (String.ofList word) then recognise rest else .ok false
    | "link", _ :: rest => recognise rest
    | word, rest => do
      if isAttribute word then recognise rest
      else if ← Colour.recognise word.toList then recognise rest
      else return false

/-- The style of one word, by its full name. A word that is no style stands for itself. -/
def nameOf (word : List Char) : Except Colour.Error String := do
  let _ ← recognise [word]
  let small := String.ofList (lowercase word)
  return (abbreviations.lookup small).getD small

end Reckon.Style
