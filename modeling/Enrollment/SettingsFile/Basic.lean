import Enrollment.Config.Environment
import Enrollment.SettingsFile.Line
import Enrollment.SettingsFile.Value

/-!
Loading an environment from a settings file.  Its lines are taken in turn, and each sets a variable
that has no text yet; so what the environment has wins, and then the first line that names a
variable.  A line that cannot be read ends the loading, and what was set before it stays.  This is
one way to load an environment; a configuration can be made with any.
-/
namespace Enrollment.SettingsFile

inductive Fault
  | malformed
  | nul
  deriving DecidableEq, Repr

/-- The text that a name stands for; none if it stands for nothing.  Variables are kept as entries
`key=text`, and a name stands for what follows it and an equals sign in an entry.  So `key` names
the whole text, and `key=start` names what follows `start=` in it. -/
def textOf? (environment : Environment) (name : String) : Option String :=
  let key := String.ofList (name.toList.takeWhile (· != '='))
  match name.toList.dropWhile (· != '=') with
  | [] => environment.text? key
  | _ :: start => do
    let text ← environment.text? key
    let rest ← (start ++ ['=']).isPrefixOf? text.toList
    return String.ofList rest

/-- Set a variable that has no text.  A text with a NUL cannot be set. -/
def fill (key text : String) : Call Environment Fault Unit := do
  let environment ← Call.current
  if (environment.text? key).isSome then return ()
  else if text.toList.contains '\x00' then Call.panic .nul
  else Call.become (environment.put key text.toUTF8)

def loadLines : List (List Char) → Call Environment Fault Unit
  | [] => return ()
  | line :: rest =>
    match Line.ofChars line with
    | .empty => loadLines rest
    | .malformed => Call.refuse .malformed
    | .setting key written => do
      let environment ← Call.current
      match value? (fun name => (textOf? environment name).getD "") written with
      | none => Call.refuse .malformed
      | some text =>
        fill key text
        loadLines rest

def load (file : String) : Call Environment Fault Unit := loadLines (lines file.toList)

end Enrollment.SettingsFile
