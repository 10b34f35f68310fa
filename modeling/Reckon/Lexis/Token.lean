import Reckon.Lexis.Regex

/-!
# Tokens

A text is cut into tokens from left to right. Between tokens there may be gaps; a token is the
longest prefix that one of the terminals matches, and of terminals that match equally much the
first in the list wins. Scanning stops at a character at which no token starts.
-/

namespace Reckon

/-- A terminal: a text that stands for itself, or a lexical rule. -/
inductive Terminal where
  | literal (text : String)
  | lexical (rule : String)
  deriving Repr, DecidableEq

/-- A terminal with the words that it matches. -/
structure Terminal.Form where
  terminal : Terminal
  regex : Regex

/-- A piece of a text: the characters from `start` up to `stop`. -/
structure Token where
  terminal : Terminal
  text : String
  start : Nat
  stop : Nat
  deriving Repr, DecidableEq

/-- The tokens of a text, and the place where scanning stopped before its end. -/
structure Scan where
  tokens : List Token
  stuck : Option Nat

namespace Terminal.Form

/-- The longer of two candidates, the first of two equally long ones. -/
def longer (best : Option (Terminal × Nat)) (t : Terminal) : Option Nat → Option (Terminal × Nat)
  | none => best
  | some 0 => best
  | some n =>
    match best with
    | none => some (t, n)
    | some (t', m) => if m < n then some (t, n) else some (t', m)

/-- The longest nonempty token at the start of the text. -/
def longest (forms : List Terminal.Form) (cs : List Char) : Option (Terminal × Nat) :=
  forms.foldl (fun best f => longer best f.terminal (f.regex.longest cs)) none

end Terminal.Form

namespace Scan

/-- Scans the text from place `pos` on, its first `skip` characters belonging to the last token. -/
def scanFrom (forms : List Terminal.Form) : List Char → (pos skip : Nat) → Scan
  | [], _, _ => ⟨[], none⟩
  | _ :: rest, pos, skip + 1 => scanFrom forms rest (pos + 1) skip
  | c :: rest, pos, 0 =>
    if isGap c then scanFrom forms rest (pos + 1) 0
    else
      match Terminal.Form.longest forms (c :: rest) with
      | none => ⟨[], some pos⟩
      | some (t, n) =>
        let s := scanFrom forms rest (pos + 1) (n - 1)
        ⟨⟨t, String.ofList ((c :: rest).take n), pos, pos + n⟩ :: s.tokens, s.stuck⟩

def ofText (forms : List Terminal.Form) (cs : List Char) : Scan := scanFrom forms cs 0 0

end Scan

end Reckon
