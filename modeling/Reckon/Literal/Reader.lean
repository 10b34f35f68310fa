import Reckon.Literal.Lexeme

/-!
# Literals

A literal is a number, a quoted text, bytes, one of a few words, or a collection of literals: a
tuple in round brackets or none, a set or a mapping in curly ones. A number may have one sign, and a
real number may have an imaginary one added. The elements of a set and the keys of a mapping must
not be sets or mappings, nor hold any. The reader takes the lexemes one by one and keeps the
brackets that are open on a stack.
-/

namespace Reckon.Literal

/-- What is known of a part that has been read. -/
inductive Value where
  | number (signed : Bool) (n : Number)
  /-- A quoted text, which another one may continue. -/
  | text
  /-- Quoted bytes, which others may continue. -/
  | bytes
  /-- Anything else that may be a key. -/
  | constant
  /-- What may not be a key. -/
  | collection
  | setName
  deriving Repr, DecidableEq

namespace Value

def ofLexeme? : Lexeme → Option Value
  | .number n => some (number false n)
  | .text => some text
  | .bytes => some bytes
  | .word => some constant
  | .setName => some setName
  | _ => none

def isLiteral (v : Value) : Bool := v != setName

def isKey (v : Value) : Bool := v.isLiteral && v != collection

/-- A part in brackets of its own: nothing continues it. -/
def enclosed : Value → Value
  | text => constant
  | bytes => constant
  | v => v

/-- A tuple is a key if all its items are. -/
def tuple (items : List Value) : Value := if items.all isKey then constant else collection

end Value

/-- The least integer to which no imaginary number can be added: it is no longer a double when it is
rounded. -/
def leastUnbounded : Nat := Nat.pow 2 1024 - Nat.pow 2 970

namespace Number

/-- Can an imaginary number be added? -/
def isRealPart : Number → Bool
  | integer n => n < leastUnbounded
  | real => true
  | imaginary => false

end Number

/-- How far the current item is read. -/
inductive Progress where
  | start
  | afterSign
  /-- A real number and a sign are read. -/
  | afterRealPart
  | done (v : Value)
  deriving Repr, DecidableEq

namespace Progress

/-- Goes on with a part. -/
def put? (p : Progress) (v : Value) : Option Progress :=
  match p, v with
  | start, v => some (done v)
  | afterSign, .number false n => some (done (.number true n))
  | afterRealPart, .number false .imaginary => some (done .constant)
  | done .text, .text => some (done .text)
  | done .bytes, .bytes => some (done .bytes)
  | _, _ => none

/-- Goes on with a sign. -/
def sign? : Progress → Option Progress
  | start => some afterSign
  | done (.number _ n) => if n.isRealPart then some afterRealPart else none
  | _ => none

end Progress

/-- What opened a layer: the text itself, a bracket, or the brackets of a call. -/
inductive Opening where
  | whole
  | bracket (b : Bracket)
  | call
  deriving Repr, DecidableEq

/-- A layer of nesting: its finished items, whether they are the values of a mapping, whether the key
of the current one is read, and how far that is. -/
structure Layer where
  opening : Opening
  items : List Value := []
  isMapping : Bool := false
  hasKey : Bool := false
  progress : Progress := .start

namespace Layer

def isCurly (l : Layer) : Bool := l.opening == .bracket .curly

def put? (l : Layer) (v : Value) : Option Layer :=
  if l.opening = .call then none
  else (l.progress.put? v).map fun progress => { l with progress }

def sign? (l : Layer) : Option Layer :=
  if l.opening = .call then none else l.progress.sign?.map fun progress => { l with progress }

/-- May the current item end with this part? The items of a set are keys, and a key comes before
every value of a mapping. -/
def accepts (l : Layer) (v : Value) : Bool :=
  if l.isMapping then l.hasKey && v.isLiteral
  else if l.isCurly then v.isKey
  else v.isLiteral

/-- Ends the current item at a comma. -/
def comma? (l : Layer) : Option Layer :=
  match l.progress with
  | .done v =>
    if l.accepts v then
      some { l with items := v :: l.items, hasKey := false, progress := .start }
    else none
  | _ => none

/-- Ends a key at a colon. -/
def colon? (l : Layer) : Option Layer :=
  match l.progress with
  | .done v =>
    if l.isCurly && v.isKey && !l.hasKey && (l.isMapping || l.items.isEmpty) then
      some { l with isMapping := true, hasKey := true, progress := .start }
    else none
  | _ => none

/-- The items when the layer ends; a comma may stand after the last one. -/
def allItems? (l : Layer) : Option (List Value) :=
  match l.progress with
  | .start => if l.hasKey then none else some l.items
  | .done v => if l.accepts v then some (v :: l.items) else none
  | _ => none

/-- What the layer amounts to when it ends. A single part in round brackets is that part. -/
def close? (l : Layer) : Option Value :=
  match l.opening, l.items, l.progress with
  | .bracket .round, [], .done v => some v.enclosed
  | .whole, [], .start => none
  | .bracket .curly, _, _ => l.allItems?.map fun _ => .collection
  | .call, _, _ => some .collection
  | _, _, _ => l.allItems?.map Value.tuple

end Layer

/-- The innermost layer, and those around it from the inside out. -/
structure Reader where
  layer : Layer := { opening := .whole }
  outer : List Layer := []

/-- How many brackets may be open at a time. -/
def deepest : Nat := 200

namespace Reader

/-- Opens a bracket. Round ones behind the name `set` make a call. -/
def open? (r : Reader) (b : Bracket) : Option Reader :=
  if deepest ≤ r.outer.length then none
  else if b = .round ∧ r.layer.progress = .done .setName then
    some ⟨{ opening := .call }, { r.layer with progress := .start } :: r.outer⟩
  else some ⟨{ opening := .bracket b }, r.layer :: r.outer⟩

/-- Does the bracket close the innermost layer? -/
def closes (r : Reader) (b : Bracket) : Bool :=
  r.layer.opening == .bracket b || (b == .round && r.layer.opening == .call)

/-- Closes a bracket. -/
def close? (r : Reader) (b : Bracket) : Option Reader :=
  match r.outer with
  | [] => none
  | layer :: outer => do
    if r.closes b then
      let layer ← layer.put? (← r.layer.close?)
      return ⟨layer, outer⟩
    else none

def step? (r : Reader) (l : Lexeme) : Option Reader :=
  match l with
  | .opening b => if r.layer.opening = .call then none else r.open? b
  | .closing b => r.close? b
  | .sign => r.layer.sign?.map fun layer => { r with layer }
  | .comma => r.layer.comma?.map fun layer => { r with layer }
  | .colon => r.layer.colon?.map fun layer => { r with layer }
  | l => do
    let layer ← r.layer.put? (← Value.ofLexeme? l)
    return { r with layer }

/-- Has all been read to the end? -/
def isComplete (r : Reader) : Bool := r.outer.isEmpty && r.layer.close?.isSome

end Reader

/-- Is the text a literal? -/
def isLiteral (cs : List Char) : Bool :=
  ((lexemes? cs).bind (·.foldlM Reader.step? ({} : Reader))).any Reader.isComplete

end Reckon.Literal
