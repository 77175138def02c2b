import Enrollment.Text.Typed

/-!
The lines of a settings file.  A line goes on past its end while a quote is open in it, and ends
early at a comment.
-/
namespace Enrollment.SettingsFile

inductive Place
  /-- After nothing but white space. -/
  | start
  | plain
  /-- After a white space that is not itself after one. -/
  | blank
  | escaped
  | doubleQuoted
  | doubleEscaped
  | singleQuoted
  | singleEscaped
  | comment
  deriving DecidableEq, Repr

namespace Place

def afterMark (c : Char) : Place :=
  if c = '\\' then escaped
  else if c = '"' then doubleQuoted
  else if c = '\'' then singleQuoted
  else plain

def step : Place → Char → Place
  | start, c =>
    if Text.isWhiteSpace c then start else if c = '#' then comment else afterMark c
  | plain, c => if Text.isWhiteSpace c ∧ c ≠ '\r' then blank else afterMark c
  | blank, c => if c = '#' then comment else afterMark c
  | escaped, _ => plain
  | doubleQuoted, c =>
    if c = '\\' then doubleEscaped else if c = '"' then plain else doubleQuoted
  | doubleEscaped, _ => doubleQuoted
  | singleQuoted, c =>
    if c = '\\' then singleEscaped else if c = '\'' then plain else singleQuoted
  | singleEscaped, _ => singleQuoted
  | comment, _ => comment

def inQuotes? : Place → Option Place
  | doubleQuoted => some doubleQuoted
  | doubleEscaped => some doubleQuoted
  | singleQuoted => some singleQuoted
  | singleEscaped => some singleQuoted
  | _ => none

/-- Whether a line may stop here for good, without a line's end. -/
def isSettled : Place → Bool
  | start | plain | comment => true
  | _ => false

end Place

/-- The lines of the rest of a file, from a place in a line and what that line holds so far, its
last character first.  A last line that is not settled does not count. -/
def linesFrom (place : Place) (held : List Char) : List Char → List (List Char)
  | [] => if place.isSettled then [held.reverse] else []
  | c :: rest =>
    if c = '\n' then
      match place.inQuotes? with
      | some quotes => linesFrom quotes (c :: held) rest
      | none => held.reverse :: linesFrom .start [] rest
    else if place.step c = .comment then linesFrom .comment held rest
    else linesFrom (place.step c) (c :: held) rest

/-- The lines of a file.  A byte order mark before the first one is no part of it. -/
def lines : List Char → List (List Char)
  | '\ufeff' :: rest => linesFrom .start [] rest
  | cs => linesFrom .start [] cs

inductive Line
  | empty
  /-- A variable is set to a value, given as it is written. -/
  | setting (key : String) (written : List Char)
  | malformed
  deriving DecidableEq, Repr

def isKeyStart (c : Char) : Bool := c.isAlpha || c == '_'

def isKeyPart (c : Char) : Bool := c.isAlphanum || c == '_' || c == '.'

def skipBlanks (cs : List Char) : List Char := cs.dropWhile Text.isWhiteSpace

def key? : List Char → Option (String × List Char)
  | [] => none
  | c :: rest =>
    if isKeyStart c then
      some (String.ofList (c :: rest.takeWhile isKeyPart), skipBlanks (rest.dropWhile isKeyPart))
    else none

def Line.afterKey (key : String) : List Char → Line
  | '=' :: rest => .setting key (skipBlanks rest)
  | _ => .malformed

/-- What the characters of a line say.  The word `export` may stand before a key, and may itself
be one. -/
def Line.ofChars (cs : List Char) : Line :=
  let trimmed := (skipBlanks (skipBlanks cs).reverse).reverse
  if trimmed.isEmpty then .empty
  else
    match key? trimmed with
    | none => .malformed
    | some (key, rest) =>
      if key = "export" ∧ rest.head? ≠ some '=' then
        match key? rest with
        | none => .malformed
        | some (key, rest) => .afterKey key rest
      else .afterKey key rest

end Enrollment.SettingsFile
