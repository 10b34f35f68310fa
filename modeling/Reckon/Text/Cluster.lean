import Reckon.Text.Width

/-!
# Clusters of characters

Text is cut between clusters only. A cluster is a character that takes columns, with those after it
that take none or are joined to it. A text may start with a cluster that takes no columns. A joiner
at the start of a text has nothing before it to join, so it is a cluster of its own, while it is
measured like any other; so the clusters of such a text may take more or fewer columns than the
text does.
-/

namespace Reckon

structure Cluster where
  chars : List Char
  columns : Nat
  deriving Repr, DecidableEq

namespace Cluster

/-- The clusters of a text. The reverse of the first so far is `read`, and it takes `width` columns.
The next character is part of it if it is `joined`, and `last` is the last character with columns of
its own since a picture was selected. -/
def ofCharsAfter (read : List Char) (width : Nat) (joined : Bool) (last : Option Char) :
    List Char → List Cluster
  | [] => [⟨read.reverse, width⟩]
  | c :: rest =>
    if joined || c == joiner then ofCharsAfter (c :: read) width (!joined) last rest
    else if c == pictureSelector && last.any narrowPictureSet.contains then
      ofCharsAfter (c :: read) (width + 1) false none rest
    else if Reckon.columns c = 0 then ofCharsAfter (c :: read) width false last rest
    else ⟨read.reverse, width⟩ :: ofCharsAfter [c] (Reckon.columns c) false (some c) rest

/-- The clusters of a text. -/
def ofChars : List Char → List Cluster
  | [] => []
  | c :: rest =>
    let width := Reckon.columns c
    ofCharsAfter [c] width false (if width = 0 then none else some c) rest

/-- The text of clusters. -/
def text (ks : List Cluster) : List Char := ks.flatMap chars

/-- The columns that clusters take. -/
def totalColumns (ks : List Cluster) : Nat := (ks.map columns).foldr (· + ·) 0

theorem text_ofCharsAfter (read : List Char) (width : Nat) (joined : Bool) (last : Option Char)
    (cs : List Char) : text (ofCharsAfter read width joined last cs) = read.reverse ++ cs := by
  induction cs generalizing read width joined last with
  | nil => simp [ofCharsAfter, text]
  | cons c rest ih =>
    simp only [text] at ih
    simp only [ofCharsAfter, text]
    split
    · simp [ih]
    · split
      · simp [ih]
      · split <;> simp [ih]

/-- No character of a text is lost in its clusters. -/
theorem text_ofChars (cs : List Char) : text (ofChars cs) = cs := by
  cases cs with
  | nil => rfl
  | cons c rest => simp [ofChars, text_ofCharsAfter]

/-- The pieces of a text that are as long as the width allows. The reverse of the first so far is
`read`, and it takes `column` columns. -/
def piecesAfter (width : Nat) (read : List Char) (column : Nat) : List Cluster → List (List Char)
  | [] => if column = 0 then [] else [read.reverse]
  | k :: rest =>
    if width < column + k.columns then
      read.reverse :: piecesAfter width k.chars.reverse k.columns rest
    else piecesAfter width (k.chars.reverse ++ read) (column + k.columns) rest

/-- The pieces of a text that are as long as the width allows. -/
def pieces (width : Nat) (ks : List Cluster) : List (List Char) := piecesAfter width [] 0 ks

/-- The start of a text that takes so many columns, filled up with a space where a wide cluster
would be cut. -/
def crop (width : Nat) : List Cluster → List Char
  | [] => []
  | k :: rest =>
    if k.columns ≤ width then k.chars ++ crop (width - k.columns) rest
    else List.replicate width ' '

end Cluster

end Reckon
