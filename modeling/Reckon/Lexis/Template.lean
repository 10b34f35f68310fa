import Reckon.Lexis.Regex

/-!
# Templates

A template describes a run of characters and says which parts of it are reported. It is tried at a
place of a text, and where it leaves a choice, the first way that leads to a whole match is taken. A
text is searched from its start, and the search goes on behind each match.
-/

namespace Reckon

inductive Template where
  | nothing
  | one (k : CharClass)
  | seq (s t : Template)
  /-- The first of two, or else the second. -/
  | choice (s t : Template)
  /-- At least so many in a row, and as many or as few more as lead to a match, up to a limit. -/
  | repeated (t : Template) (least : Nat) (more : Option Nat) (greedy : Bool)
  /-- A part that is reported. -/
  | part (t : Template)
  /-- A place where no character of the class comes before. -/
  | notAfter (k : CharClass)
  /-- A place where a word starts or ends, or one where none does. -/
  | wordEdge (is : Bool)

namespace Template

/-- A place in a text: the character before it, the text from there on, its number, and the parts
reported before it. -/
structure Place where
  before : Option Char := none
  rest : List Char
  index : Nat := 0
  parts : List (Nat × Nat) := []

/-- A way to go on from a place. The second argument tells whether the rest matches from where this
leads, and the result is the end of the whole match. -/
abbrev Attempt : Type := Place → (Place → Option Place) → Option Place

namespace Place

def atWordEdge (p : Place) : Bool :=
  p.before.any ClassMember.isWordOrUnderscore != p.rest.head?.any ClassMember.isWordOrUnderscore

end Place

/-! ## Repetition -/

/-- So many times in a row. -/
def exactly (a : Attempt) : Nat → Attempt
  | 0, p, go => go p
  | n + 1, p, go => a p fun q => exactly a n q go

/-- As many times as possible, but at most so many. -/
def most (a : Attempt) : Nat → Attempt
  | 0, p, go => go p
  | n + 1, p, go =>
    match a p fun q => most a n q go with
    | some q => some q
    | none => go p

/-- As few times as possible, but at most so many. -/
def fewest (a : Attempt) : Nat → Attempt
  | 0, p, go => go p
  | n + 1, p, go =>
    match go p with
    | some q => some q
    | none => a p fun q => fewest a n q go

/-! ## Matching -/

/-- Tries a template. What is repeated takes characters, so without a limit there are no more
repetitions than characters. -/
def attempt : Template → Attempt
  | nothing, p, go => go p
  | one k, p, go =>
    match p.rest with
    | c :: rest =>
      if k.contains c then go { p with before := some c, rest, index := p.index + 1 } else none
    | [] => none
  | seq s t, p, go => s.attempt p fun q => t.attempt q go
  | choice s t, p, go =>
    match s.attempt p go with
    | some q => some q
    | none => t.attempt p go
  | repeated t least more greedy, p, go =>
    exactly t.attempt least p fun q =>
      let limit := more.getD q.rest.length
      if greedy then most t.attempt limit q go else fewest t.attempt limit q go
  | part t, p, go =>
    t.attempt p fun q => go { q with parts := (p.index, q.index) :: q.parts }
  | notAfter k, p, go => if p.before.any k.contains then none else go p
  | wordEdge is, p, go => if p.atWordEdge == is then go p else none

/-- Where the match of a template ends. -/
def match? (t : Template) (p : Place) : Option Place := t.attempt p some

/-! ## Searching -/

/-- The parts reported by the matches in a text from a place on. The next `skip` characters belong
to a match already found. -/
def findAfter (t : Template) (skip : Nat) (before : Option Char) (index : Nat) :
    List Char → List (Nat × Nat)
  | [] => []
  | c :: rest =>
    if 0 < skip then t.findAfter (skip - 1) (some c) (index + 1) rest
    else
      match t.match? { before, rest := c :: rest, index } with
      | some q => q.parts ++ t.findAfter (q.index - index - 1) (some c) (index + 1) rest
      | none => t.findAfter 0 (some c) (index + 1) rest

/-- The parts reported by the matches in a text. -/
def find (t : Template) (cs : List Char) : List (Nat × Nat) := t.findAfter 0 none 0 cs

/-! ## Building templates -/

/-- A character of a class with these members. -/
def among (members : List ClassMember) : Template := one ⟨false, members⟩

def ofText (s : String) : Template := s.toList.foldr (fun c t => seq (among [.char c]) t) nothing

def row (ts : List Template) : Template := ts.foldr seq nothing

/-- The first of several that matches. Of none, none does. -/
def firstOf : List Template → Template
  | [] => among []
  | [t] => t
  | t :: ts => choice t (firstOf ts)

def many (t : Template) : Template := t.repeated 0 none true

def oneOrMore (t : Template) : Template := t.repeated 1 none true

def optional (t : Template) : Template := t.repeated 0 (some 1) true

/-- From `least` to `greatest` times. -/
def times (least greatest : Nat) (t : Template) : Template :=
  t.repeated least (some (greatest - least)) true

end Template

end Reckon
