import Reckon.Settings.Basic
import Reckon.Settings.Ini

/-!
# Loading settings

The settings are those of the section `ENV` of a settings file, set one after another from the
defaults. Without a file or without the section they are the defaults.
-/

namespace Reckon

/-- Why settings cannot be loaded. -/
inductive LoadError where
  | file (e : Ini.IniError)
  | setting (e : SettingError)
  deriving Repr, DecidableEq

def LoadError.message : LoadError → String
  | .file e => e.message
  | .setting e => e.message

namespace Settings

def sectionName : String := "ENV"

/-- Sets one option of the file; the quotes around its value do not count. -/
def setOption (options : List (String × String)) (s : Settings) (o : String × String) :
    Except LoadError Settings := do
  let v ← (Ini.expand options Ini.greatestDepth o.2.toList).mapError .file
  let (s, _) ← (s.set o.1 (.text (trimQuotes (String.ofList v)))).mapError .setting
  return s

def ofFile (f : Ini.File) : Except LoadError Settings :=
  match Ini.section? f sectionName with
  | none => .ok {}
  | some options => options.foldlM (setOption options) {}

/-- The settings of a file's text, or the defaults if there is no file. -/
def load : Option String → Except LoadError Settings
  | none => .ok {}
  | some text => do ofFile (← (Ini.read text).mapError .file)

end Settings

end Reckon
