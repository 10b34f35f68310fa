import Reckon.Text.Printable

/-!
# Quoted text

A text is shown between quotes on one line. The quote is the apostrophe, unless the text holds one
and no double quote. The quote itself, the backslash, line ends and tabs are written with a
backslash, and so is every character that does not print, by its code in hexadecimal.
-/

namespace Reckon

namespace Quoted

def apostrophe : Char := '\x27'

/-- The quote that encloses the text. -/
def mark (cs : List Char) : Char :=
  if cs.contains apostrophe && !cs.contains '"' then '"' else apostrophe

/-- `n` in hexadecimal with at least `width` digits. -/
def hex (width n : Nat) : List Char :=
  let ds := Nat.toDigits 16 n
  List.replicate (width - ds.length) '0' ++ ds

/-- The code of a character that does not print. -/
def escapeCode (n : Nat) : List Char :=
  if n < 0x100 then '\\' :: 'x' :: hex 2 n
  else if n < 0x10000 then '\\' :: 'u' :: hex 4 n
  else '\\' :: 'U' :: hex 8 n

def encodeChar (quote c : Char) : List Char :=
  if c == quote || c == '\\' then ['\\', c]
  else if c == '\n' then ['\\', 'n']
  else if c == '\r' then ['\\', 'r']
  else if c == '\t' then ['\\', 't']
  else if isPrintable c then [c]
  else escapeCode c.toNat

def encode (cs : List Char) : List Char :=
  let quote := mark cs
  quote :: cs.flatMap (encodeChar quote) ++ [quote]

end Quoted

/-- The text between quotes, with what does not print escaped. -/
def quoted (s : String) : String := String.ofList (Quoted.encode s.toList)

end Reckon
