import Reckon.Environment.Standard
import Reckon.Journal
import Reckon.Settings.Given

/-!
# Settings

Five settings: whether results are echoed, whether events are logged, the limit of nesting, whether
built-in names are protected, and the name of a colour scheme. A setting is changed by its name and
a value; a value that does not fit leaves all settings as they are.
-/

namespace Reckon

structure Settings where
  echo : Bool := true
  log : Bool := false
  maxDepth : Int := defaultMaxDepth
  protectBuiltins : Bool := false
  style : String := "paraiso-dark"
  deriving Repr, DecidableEq

/-- Why a setting cannot be changed. -/
inductive SettingError where
  | unknown (name : String)
  | notYesNo
  | notDepth
  deriving Repr, DecidableEq

/-- The greatest limit of nesting that can be set. -/
def greatestMaxDepth : Int := 5000

namespace SettingError

def message : SettingError → String
  | unknown name => "設定項目がありません: " ++ name
  | notYesNo => "Yes/No (on/off, true/false, 1/0) で指定してください。"
  | notDepth => "MaxDepthは1から" ++ toString greatestMaxDepth ++ "の整数で指定してください。"

end SettingError

/-- The text without the double quotes at its two ends. -/
def trimQuotes (s : String) : String :=
  let cs := s.toList.dropWhile (· == '"')
  String.ofList (cs.reverse.dropWhile (· == '"')).reverse

/-- Reads one of the words for yes and no, in any case and between quotes. The words are ASCII, and
no other letter has one of theirs as its small letter. -/
def Given.toBool (v : Given) : Except SettingError Bool :=
  let word := String.ofList ((trimQuotes v.toText).toList.map Char.toLower)
  if ["0", "off", "false", "no"].contains word then .ok false
  else if ["1", "on", "true", "yes"].contains word then .ok true
  else .error .notYesNo

namespace Settings

/-- The words for a truth value. -/
def yesNo (b : Bool) : String := if b then "Yes" else "No"

/-- Changes a setting, and says what it is now. -/
def set (s : Settings) (name : String) (v : Given) : Except SettingError (Settings × String) :=
  match name with
  | "Echo" => do
    let b ← v.toBool
    return ({ s with echo := b }, "Echo mode: " ++ yesNo b)
  | "Log" => do
    let b ← v.toBool
    return ({ s with log := b }, "Log mode: " ++ yesNo b)
  | "ProtectBuiltins" => do
    let b ← v.toBool
    return ({ s with protectBuiltins := b }, "ProtectBuiltins mode: " ++ yesNo b)
  | "MaxDepth" =>
    match v.toInt? with
    | some n =>
      if 1 ≤ n ∧ n ≤ greatestMaxDepth then
        .ok ({ s with maxDepth := n }, "MaxDepth: " ++ toString n)
      else .error .notDepth
    | none => .error .notDepth
  | "Style" =>
    let style := trimQuotes v.toText
    .ok ({ s with style }, "Style: " ++ style)
  | _ => .error (.unknown name)

/-- The level from which events are logged. -/
def threshold (s : Settings) : Level := if s.log then .debug else .critical

/-- A standard environment, protected if the settings say so. -/
def newEnvironment (s : Settings) : Environment := .standard s.protectBuiltins

end Settings

end Reckon
