import Reckon.Text.Parts

/-!
# Typed lines

A line is typed at a cursor. Control characters are keys: they move the cursor, erase a part of the
line or give it up, and most do nothing; they do not become part of it. The key that erases the
character under the cursor ends the input when it is pressed on an empty line.
-/

namespace Reckon

/-- What is typed. -/
inductive Key where
  | char (c : Char)
  | start
  | stop
  | left
  | right
  | eraseLeft
  | eraseRight
  | eraseToStart
  | eraseToStop
  | giveUp
  | idle
  deriving Repr, DecidableEq

/-- The key that sends a character. -/
def Key.ofChar (c : Char) : Key :=
  match c.toNat with
  | 0x01 => start
  | 0x02 => left
  | 0x03 => giveUp
  | 0x04 => eraseRight
  | 0x05 => stop
  | 0x06 => right
  | 0x08 => eraseLeft
  | 0x0b => eraseToStop
  | 0x15 => eraseToStart
  | 0x1a => char c
  | 0x7f => eraseLeft
  | n => if n < 0x20 then idle else char c

/-- A line on the way: the text before the cursor, in reverse, and the text after it. -/
structure TypedLine where
  before : List Char := []
  after : List Char := []
  deriving Repr, DecidableEq

namespace TypedLine

def text (t : TypedLine) : List Char := t.before.reverse ++ t.after

def isEmpty (t : TypedLine) : Bool := t.before.isEmpty && t.after.isEmpty

/-- What a key does. The character under the cursor is erased only behind the start of the line. -/
def press (t : TypedLine) : Key → TypedLine
  | .char c => { t with before := c :: t.before }
  | .start => { after := t.text }
  | .stop => { before := t.text.reverse }
  | .left =>
    match t.before with
    | c :: before => { before, after := c :: t.after }
    | [] => t
  | .right =>
    match t.after with
    | c :: after => { before := c :: t.before, after }
    | [] => t
  | .eraseLeft => { t with before := t.before.tail }
  | .eraseRight => if t.before.isEmpty then t else { t with after := t.after.tail }
  | .eraseToStart => { t with before := [] }
  | .eraseToStop => { t with after := [] }
  | .giveUp => {}
  | .idle => t

/-- Types characters, unless the input ends with one of them. -/
def type (t : TypedLine) : List Char → Option TypedLine
  | [] => some t
  | c :: rest =>
    let key := Key.ofChar c
    if key = .eraseRight && t.isEmpty then none else (t.press key).type rest

/-- The line that is typed with these characters, unless the input ends with one of them. -/
def ofChars? (cs : List Char) : Option (List Char) := (({} : TypedLine).type cs).map text

/-- The lines that are typed; a line end within one of them ends it. -/
def split (lines : List String) : List (List Char) :=
  lines.flatMap fun line => parts (fun c => c == '\n' || c == '\r') line.toList

end TypedLine

end Reckon
