import Enrollment.Text.Alphanumeric

/-!
The values of a settings file.  Quotes hold characters together, a backslash lets a character
stand for itself, and a dollar sign and a name stand for the text of the variable of that name.
-/
namespace Enrollment.SettingsFile

inductive Reading
  | text (quoted : Bool)
  | escape (quoted : Bool)
  | literal
  /-- A dollar sign has come, and the letters of a name. -/
  | name (quoted : Bool) (letters : List Char)
  /-- A dollar sign and a brace have come, and the letters of a name. -/
  | braced (quoted : Bool) (letters : List Char)
  | past
  | comment
  deriving DecidableEq, Repr

namespace Reading

def escaped? (c : Char) : Option Char :=
  if c = 'n' then some '\n'
  else if c ∈ ['\\', '\'', '"', '$', ' '] then some c
  else none

def afterText (quoted : Bool) (c : Char) : List Char × Reading :=
  if c = '$' then ([], name quoted [])
  else if c = '\\' then ([], escape quoted)
  else if c = '"' then ([], text !quoted)
  else if quoted then ([c], text true)
  else if c = '\'' then ([], literal)
  else if c = ' ' ∨ c = '\t' then ([], past)
  else ([c], text false)

/-- The reading after a character that ends a name without braces, and what it adds to the value.
It ends the name's dollar sign too, so it is no quote and no escape. -/
def afterName (quoted : Bool) (c : Char) : List Char × Reading :=
  if c = '$' then ([], name quoted []) else ([c], text quoted)

/-- The reading after one more character, and what it adds to the value, given the texts of the
variables; none if the character may not stand there. -/
def step (texts : String → String) : Reading → Char → Option (List Char × Reading)
  | text quoted, c => some (afterText quoted c)
  | escape quoted, c => (escaped? c).map fun c => ([c], text quoted)
  | literal, c => some (if c = '\'' then ([], text false) else ([c], literal))
  | name quoted letters, c =>
    if Text.isAlphanumeric c then some ([], name quoted (letters ++ [c]))
    else if c = '\x7b' ∧ letters = [] then some ([], braced quoted [])
    else
      let (added, next) := afterName quoted c
      some ((texts (String.ofList letters)).toList ++ added, next)
  | braced quoted letters, c =>
    if c = '\x7d' then some ((texts (String.ofList letters)).toList, text quoted)
    else some ([], braced quoted (letters ++ [c]))
  | past, c =>
    if c = ' ' ∨ c = '\t' then some ([], past) else if c = '#' then some ([], comment) else none
  | comment, _ => some ([], comment)

def finish (texts : String → String) : Reading → Option (List Char)
  | text false => some []
  | escape false => some []
  | name false letters => some (texts (String.ofList letters)).toList
  | past => some []
  | comment => some []
  | _ => none

def run (texts : String → String) (reading : Reading) : List Char → Option (List Char)
  | [] => reading.finish texts
  | c :: rest => do
    let (added, next) ← reading.step texts c
    return added ++ (← run texts next rest)

end Reading

def value? (texts : String → String) (written : List Char) : Option String :=
  if written.head? = some '#' then some ""
  else ((Reading.text false).run texts written).map String.ofList

end Enrollment.SettingsFile
