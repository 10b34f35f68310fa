import Reckon.Text.Blank

/-!
# Settings files

A settings file has sections with options, an option a line: a name, `=` or `:`, and a value. A line
that starts with `#` or `;` is a comment. A line indented deeper than its option continues the
value. No section and no option may occur twice; the options of the section `DEFAULT` belong to all
sections and come after their own. In a value `%(name)s` stands for the value of another option and
`%%` for a percent sign.
-/

namespace Reckon.Ini

/-- Why a settings file cannot be read. -/
inductive IniError where
  | missingHeader
  | duplicateSection
  | duplicateOption
  | unparsable
  | badReference
  | missingOption
  | tooDeep
  deriving Repr, DecidableEq

namespace IniError

def message : IniError → String
  | missingHeader => "an option stands before the first section"
  | duplicateSection => "a section occurs twice"
  | duplicateOption => "an option occurs twice in its section"
  | unparsable => "a line is neither a section nor an option"
  | badReference => "a percent sign starts no reference"
  | missingOption => "a reference names no option"
  | tooDeep => "references lead on too deep"

end IniError

/-- Options and the lines of their values, in order. -/
abbrev Options := List (String × List String)

/-- A file on the way: its sections, the current section and option, the indentation of the latest
header or option, and whether a line could not be read. -/
structure Reader where
  sections : List (String × Options) := []
  current : Option String := none
  option : Option String := none
  indent : Nat := 0
  faulty : Bool := false

/-- The name of the section whose options belong to all. -/
def defaultSection : String := "DEFAULT"

/-! ## Lines -/

/-- The text with every line end as a line feed. -/
def unifyLineEnds : List Char → List Char
  | [] => []
  | '\r' :: '\n' :: rest => '\n' :: unifyLineEnds rest
  | '\r' :: rest => '\n' :: unifyLineEnds rest
  | c :: rest => c :: unifyLineEnds rest

/-- The lines of a text, `line` being the start of the first, latest character first. -/
def linesFrom (line : List Char) : List Char → List (List Char)
  | [] => if line.isEmpty then [] else [line.reverse]
  | '\n' :: rest => line.reverse :: linesFrom [] rest
  | c :: rest => linesFrom (c :: line) rest

/-- The name in a section header: what stands between `[` and the last `]`. -/
def header? : List Char → Option String
  | '[' :: rest =>
    match rest.reverse.dropWhile (· != ']') with
    | _ :: c :: name => some (String.ofList (c :: name).reverse)
    | _ => none
  | _ => none

/-- The name and the value on an option line. -/
def option? (cs : List Char) : Option (String × String) :=
  let isDelimiter (c : Char) : Bool := c == '=' || c == ':'
  match cs.dropWhile (!isDelimiter ·) with
  | [] => none
  | _ :: value =>
    let name := trimEnd (cs.takeWhile (!isDelimiter ·))
    some (String.ofList name, String.ofList (trimBlanks value))

/-! ## Reading -/

namespace Reader

/-- The options of the current section. -/
def options (r : Reader) : Options := (r.current.bind fun name => r.sections.lookup name).getD []

/-- Changes the options of the current section. -/
def update (r : Reader) (f : Options → Options) : Reader :=
  { r with
    sections := r.sections.map fun (name, os) =>
      if some name = r.current then (name, f os) else (name, os) }

/-- Adds a line to the value of an option. -/
def continueValue (r : Reader) (name line : String) : Reader :=
  r.update fun os => os.map fun (n, ls) => if n = name then (n, ls ++ [line]) else (n, ls)

/-- The option that a line may continue. -/
def openOption (r : Reader) : Option String := r.option.filter (!·.isEmpty)

def startSection (r : Reader) (name : String) : Except IniError Reader :=
  let r := { r with current := some name, option := none }
  if r.sections.any (·.1 == name) then
    if name = defaultSection then .ok r else .error .duplicateSection
  else .ok { r with sections := r.sections ++ [(name, [])] }

/-- Adds an option; one without a name makes the file unreadable. -/
def addOption (r : Reader) (name value : String) : Except IniError Reader :=
  if r.options.any (·.1 == name) then .error .duplicateOption
  else
    .ok { r.update (· ++ [(name, [value])]) with
      option := some name, faulty := r.faulty || name.isEmpty }

/-- Reads a line. -/
def line (r : Reader) (cs : List Char) : Except IniError Reader :=
  let value := trimBlanks cs
  match value with
  | [] =>
    match r.openOption with
    | some name => .ok (r.continueValue name "")
    | none => .ok r
  | c :: _ =>
    if c == '#' || c == ';' then .ok r
    else
      let indent := (cs.takeWhile isBlank).length
      match r.openOption.filter (fun _ => r.indent < indent) with
      | some name => .ok (r.continueValue name (String.ofList value))
      | none =>
        let r := { r with indent }
        match header? value with
        | some name => r.startSection name
        | none =>
          if r.current.isNone then .error .missingHeader
          else
            match option? value with
            | some (name, v) => r.addOption name v
            | none => .ok { r with faulty := true }

end Reader

/-- The value of an option: its lines, without blanks at the end. -/
def joinLines (ls : List String) : String :=
  String.ofList (trimEnd ("\n".intercalate ls).toList)

/-- A file: its sections with their options and values. -/
abbrev File := List (String × List (String × String))

/-- Reads a file. -/
def read (text : String) : Except IniError File := do
  let r ← (linesFrom [] (unifyLineEnds text.toList)).foldlM Reader.line {}
  if r.faulty then .error .unparsable
  else return r.sections.map fun (name, os) => (name, os.map fun (n, ls) => (n, joinLines ls))

/-! ## Values -/

/-- A piece of a value: a character, the name of an option, or a percent sign out of place. -/
inductive Piece where
  | char (c : Char)
  | reference (name : String)
  | bad

/-- The pieces of a value, `name` being the start of a reference, latest character first. -/
def pieces : Option (List Char) → List Char → List Piece
  | none, [] => []
  | none, '%' :: '%' :: rest => .char '%' :: pieces none rest
  | none, '%' :: '(' :: rest => pieces (some []) rest
  | none, '%' :: _ => [.bad]
  | none, c :: rest => .char c :: pieces none rest
  | some _, [] => [.bad]
  | some (c :: name), ')' :: 's' :: rest =>
    .reference (String.ofList (c :: name).reverse) :: pieces none rest
  | some _, ')' :: _ => [.bad]
  | some name, c :: rest => pieces (some (c :: name)) rest

/-- How deep references may lead to values with references. -/
def greatestDepth : Nat := 10

/-- The value with its references replaced. -/
def expand (options : List (String × String)) : Nat → List Char → Except IniError (List Char)
  | 0, _ => .error .tooDeep
  | depth + 1, value =>
    (pieces none value).foldlM (fun done piece =>
      match piece with
      | .char c => .ok (done ++ [c])
      | .bad => .error .badReference
      | .reference name =>
        match options.lookup name with
        | none => .error .missingOption
        | some v =>
          if v.toList.contains '%' then do return done ++ (← expand options depth v.toList)
          else .ok (done ++ v.toList)) []

/-- The options of a section, its own before those of all sections; none if it does not occur. -/
def section? (f : File) (name : String) : Option (List (String × String)) :=
  (f.lookup name).map fun own =>
    let shared := (f.lookup defaultSection).getD []
    own ++ shared.filter fun o => !own.any (·.1 == o.1)

end Reckon.Ini
