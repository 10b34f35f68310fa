import Reckon.Match.Matcher

/-!
# The grammar of arithmetic

Each level of precedence is a rule that refers to the next tighter one: assignment, sums, products,
powers, primaries. Sums and products lean to the left, powers to the right. A program is a list of
expressions with `;` between them.
-/

namespace Reckon.Arithmetic

def rules : List Rule := [
  { name := "exp"
    alternatives := [{ body := [.ref "assign_exp"] }] },
  { name := "assign_exp"
    alternatives := [
      { body := [.ref "IDENT", .lit "=", .ref "add_exp"], label := some "assign" },
      { body := [.ref "add_exp"] }] },
  { name := "add_exp"
    alternatives := [
      { body := [.ref "add_exp", .lit "+", .ref "mul_exp"], label := some "plus" },
      { body := [.ref "add_exp", .lit "-", .ref "mul_exp"], label := some "minus" },
      { body := [.ref "mul_exp"] }] },
  { name := "mul_exp"
    alternatives := [
      { body := [.ref "mul_exp", .lit "*", .ref "exp_exp"], label := some "times" },
      { body := [.ref "mul_exp", .lit "/", .ref "exp_exp"], label := some "divide" },
      { body := [.ref "exp_exp"] }] },
  { name := "exp_exp"
    alternatives := [
      { body := [.ref "pri_exp", .lit "^", .ref "exp_exp"], label := some "power" },
      { body := [.ref "pri_exp"] }] },
  { name := "pri_exp"
    alternatives := [
      { body := [.lit "(", .ref "exp", .lit ")"], label := some "paren" },
      { body := [.lit "+", .ref "pri_exp"], label := some "pos" },
      { body := [.lit "-", .ref "pri_exp"], label := some "neg" },
      { body := [.ref "IDENT", .lit "(", .listOf "exp" ",", .lit ")"], label := some "call" },
      { body := [.ref "IDENT"] },
      { body := [.ref "NUMBER"] }] },
  { name := "program"
    alternatives := [{ body := [.listOf "exp" ";"] }] },
  { name := "IDENT"
    alternatives := [{ body := [.pattern "[^\\W\\d_][^\\W_]*"] }]
    description := some "an identifier" },
  { name := "NUMBER"
    alternatives := [{ body := [.pattern "\\d*\\.\\d+"] }, { body := [.pattern "\\d+"] }]
    description := some "a number" }]

def grammar : Grammar := .assemble "Arithmetic" "1.0" rules "exp"

def matcher : Matcher := .ofGrammar grammar

/-- Matches a text against a rule of arithmetic. -/
def parse (start : String) (text : String) : Except MatchError Node := matcher.parse start text

end Reckon.Arithmetic
