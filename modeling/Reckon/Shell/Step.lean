import Reckon.Interpreter.Run
import Reckon.Parenthesizer
import Reckon.Settings.Basic
import Reckon.Shell.Command
import Reckon.Shell.Console
import Reckon.Shell.Help
import Reckon.Shell.Table

/-!
# The shell

The shell takes a line, changes its settings and its environment, and replies with what is printed
and logged. Events are logged from a threshold on, which is set anew before every program from the
settings. A program that fails prints its error, unless the fault is a foreign one, and what it
assigned before stays.
-/

namespace Reckon

structure Shell where
  settings : Settings := {}
  env : Environment
  threshold : Level := .warning
  pool : Pool := {}
  /-- The width of the console. -/
  width : Nat := 120

/-- What the shell does not handle: a fault in a text that is only shown, a foreign fault, and a text
that cannot be printed. -/
inductive ShellError where
  | fault (e : Fault)
  | console (e : Console.Error)

/-- What a line leads to: whether the shell stops, or an error that it does not handle; the text on
the console and after it that on the standard output; and the records logged. -/
structure Reply where
  stop : Except ShellError Bool := .ok false
  console : String := ""
  output : String := ""
  records : List Record := []

namespace Reply

/-- The reply that prints a text on the console, and stops the shell or not. -/
def printing (stop : Bool) : Except Console.Error String → Reply
  | .ok console => { stop := .ok stop, console }
  | .error e => { stop := .error (.console e) }

end Reply

namespace Shell

def ofSettings (settings : Settings) : Shell := { settings, env := settings.newEnvironment }

/-- Text on the console of the shell. -/
def print (sh : Shell) (s : String) : Except Console.Error String := Console.print sh.width s

/-- The reply that prints a text. -/
def say (sh : Shell) (s : String) : Reply := .printing false (sh.print s)

/-- The records of events at the current threshold. -/
def logged (sh : Shell) (events : List Event) : List Record := recordsAt sh.threshold events

/-- What is printed when a text fails. -/
def errorText : RunError → String
  | .unmatched (.failed f) => "Syntax Error: " ++ f.message
  | .unmatched (.refused e) => "Error: " ++ e.message
  | .fault (.eval e) => "Error: " ++ e.message
  | .fault (.registry e) => "Error: " ++ e.message
  | .fault (.malformed rule) => "Error: " ++ rule
  | .fault (.uncallable name) => "Error: " ++ name
  | .fault .zeroDivision => "Error: division by zero"
  | .fault (.unanswered name) => "Error: " ++ name

end Shell

namespace ShellError

def message : ShellError → String
  | fault e => Shell.errorText (.fault e)
  | console e => e.message

end ShellError

namespace Shell

/-- The reply to an error: it is printed, but a foreign fault is left to the caller. -/
def fail (sh : Shell) : RunError → Reply
  | .unmatched e => sh.say (errorText (.unmatched e))
  | .fault e =>
    if e.isForeign then { stop := .error (.fault e) } else sh.say (errorText (.fault e))

/-- Runs a program. -/
def program (sh : Shell) (text : String) : Shell × Reply :=
  let entered := sh.logged [.lineEntered text]
  let sh := { sh with threshold := sh.settings.threshold }
  let (r, pool, s) := sh.pool.run text sh.settings.maxDepth { env := sh.env }
  let sh := { sh with pool, env := s.env }
  match r with
  | .error e =>
    (sh, { sh.fail e with records := entered ++ sh.logged s.events })
  | .ok v =>
    let reply : Reply :=
      match v with
      | some x => if sh.settings.echo then sh.say (Decimal.display x) else {}
      | none => {}
    (sh, { reply with records := entered ++ sh.logged (s.events ++ [.answered v]) })

/-- A row of the table of bindings. -/
def bindingRow (b : Binding) : List String :=
  let value :=
    match b with
    | .function f => "arity " ++ toString f.arity
    | .constant _ a => Decimal.display a.toFloat
    | .var _ a => Decimal.display a.toFloat
  [b.name, b.kind, value]

/-- The table of the variables, or of all bindings. -/
def bindingTable (env : Environment) (all : Bool) : Table :=
  { title := "束縛の一覧"
    headers := [("名前", .left), ("種類", .left), ("値", .right)]
    rows := (env.bound.filter fun b => all || b.isVariable).map bindingRow }

/-- Shows how a program is grouped. Only a text that does not match is reported; a fault is left to
the caller. -/
def parse (sh : Shell) (text : String) : Shell × Reply :=
  let (r, s) := (⟨sh.env, []⟩ : Session).parse "program" text
  let records := sh.logged s.events
  match r with
  | .error e => (sh, { sh.say (errorText (.unmatched e)) with records })
  | .ok n =>
    match Parenthesizer.render n with
    | .ok t => (sh, { sh.say t with records })
    | .error e => (sh, { stop := .error (.fault e), records })

/-- Changes a setting. The message that confirms it is marked up text, and values are emphasised in
it and in the error. -/
def set (sh : Shell) (argument : String) : Shell × Reply :=
  match blankWords argument.toList with
  | [name, value] =>
    match sh.settings.set name (.text value) with
    | .error e =>
      (sh, .printing false (Console.printEmphasised sh.width ("Error: " ++ e.message)))
    | .ok (settings, message) =>
      match Console.printMarked sh.width message with
      | .error e => ({ sh with settings }, { stop := .error (.console e) })
      | .ok console =>
        let env := { sh.env with isProtected := settings.protectBuiltins }
        ({ sh with settings, env }, { console })
  | _ => (sh, sh.say Help.setTopic)

def help (sh : Shell) (argument : String) : Reply :=
  if argument.isEmpty then { sh.say Help.guide with output := Help.overview }
  else if argument = "functions" then sh.say sh.env.functionHelp
  else
    match Help.topics.lookup argument with
    | some t => sh.say t
    | none => { output := Help.describe argument }

def execute (sh : Shell) (argument : String) : Command → Shell × Reply
  | .vars => (sh, { console := (bindingTable sh.env (argument = "all")).render sh.width })
  | .reset =>
    ({ sh with env := sh.settings.newEnvironment }, sh.say "環境を初期化しました")
  | .parse => sh.parse argument
  | .set => sh.set argument
  | .exit => (sh, .printing true (sh.print "arithを終了します"))
  | .quit => (sh, { stop := .ok true })
  | .endOfInput => (sh, { stop := .ok true, output := "\n" })
  | .help => (sh, sh.help argument)

/-- Takes one line. -/
def step (sh : Shell) (line : String) : Shell × Reply :=
  match Input.ofLine line with
  | .empty => (sh, { records := sh.logged [.emptyLine] })
  | .command c argument => sh.execute argument c
  | .program text => sh.program text

end Shell

end Reckon
