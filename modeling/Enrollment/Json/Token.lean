/-!
The tokens of a JSON text.  A machine reads the text one character at a time; the first thing that
is no token ends the reading with the token `bad`.
-/
namespace Enrollment.Json

inductive Token
  | leftBrace
  | rightBrace
  | leftBracket
  | rightBracket
  | colon
  | comma
  | null
  | bool (value : Bool)
  /-- A number written as plain digits. -/
  | natural (value : Nat)
  /-- Any other number. -/
  | decimal
  /-- A string; it spells no text if its escapes hold one half of a surrogate pair alone. -/
  | string (text : Option String)
  /-- Something that is no token, or a token cut short. -/
  | bad
  deriving DecidableEq, Repr

inductive Piece
  | char (c : Char)
  | unit (value : Nat)
  deriving DecidableEq, Repr

namespace Piece

def isHigh (value : Nat) : Bool := 0xD800 ≤ value && value < 0xDC00

def isLow (value : Nat) : Bool := 0xDC00 ≤ value && value < 0xE000

/-- The characters that pieces spell, if every half of a surrogate pair has its other half. -/
def spell : List Piece → Option (List Char)
  | [] => some []
  | char c :: rest => (spell rest).map (c :: ·)
  | unit high :: unit low :: rest =>
    if isHigh high && isLow low then
      (spell rest).map (Char.ofNat (0x10000 + (high - 0xD800) * 0x400 + (low - 0xDC00)) :: ·)
    else if isHigh high || isLow high then none
    else (spell (unit low :: rest)).map (Char.ofNat high :: ·)
  | unit value :: rest =>
    if isHigh value || isLow value then none
    else (spell rest).map (Char.ofNat value :: ·)

end Piece

def isDigits (cs : List Char) : Bool := !cs.isEmpty && cs.all Char.isDigit

/-- Whether characters are the whole part of a number: digits that begin with 0 only if there is
no other digit. -/
def isWhole (cs : List Char) : Bool := isDigits cs && (cs.head? != some '0' || cs == ['0'])

def isExponent : List Char → Bool
  | [] => true
  | e :: rest =>
    (e == 'e' || e == 'E') &&
      match rest with
      | '+' :: digits => isDigits digits
      | '-' :: digits => isDigits digits
      | digits => isDigits digits

def isFraction : List Char → Bool
  | '.' :: rest => isDigits (rest.takeWhile Char.isDigit) && isExponent (rest.dropWhile Char.isDigit)
  | rest => isExponent rest

def isUnsigned (cs : List Char) : Bool :=
  isWhole (cs.takeWhile Char.isDigit) && isFraction (cs.dropWhile Char.isDigit)

def Token.ofNumber (cs : List Char) : Token :=
  if isWhole cs then natural (Nat.ofDigitChars 10 cs 0)
  else
    match cs with
    | '-' :: rest => if isUnsigned rest then decimal else bad
    | _ => if isUnsigned cs then decimal else bad

def Token.ofWord (cs : List Char) : Token :=
  if cs = ['n', 'u', 'l', 'l'] then null
  else if cs = ['t', 'r', 'u', 'e'] then bool true
  else if cs = ['f', 'a', 'l', 's', 'e'] then bool false
  else bad

inductive Lexer
  | between
  | word (letters : List Char)
  | number (digits : List Char)
  | text (pieces : List Piece)
  | escape (pieces : List Piece)
  /-- In a string, in the number of a unit: how many digits are to come, and its value so far. -/
  | unit (pieces : List Piece) (missing : Nat) (value : Nat)
  | stopped
  deriving DecidableEq, Repr

namespace Lexer

def isSpace (c : Char) : Bool := c == ' ' || c == '\t' || c == '\n' || c == '\r'

def inNumber (c : Char) : Bool :=
  c.isDigit || c == '-' || c == '+' || c == '.' || c == 'e' || c == 'E'

def begin (c : Char) : List Token × Lexer :=
  if isSpace c then ([], between)
  else if c = '\x7b' then ([.leftBrace], between)
  else if c = '\x7d' then ([.rightBrace], between)
  else if c = '[' then ([.leftBracket], between)
  else if c = ']' then ([.rightBracket], between)
  else if c = ':' then ([.colon], between)
  else if c = ',' then ([.comma], between)
  else if c = '"' then ([], text [])
  else if c.isDigit || c = '-' then ([], number [c])
  else if c.isAlpha then ([], word [c])
  else ([.bad], stopped)

def close (token : Token) (c : Char) : List Token × Lexer :=
  if token = .bad then ([.bad], stopped)
  else (token :: (begin c).1, (begin c).2)

def escaped? : Char → Option Char
  | '"' => some '"'
  | '\\' => some '\\'
  | '/' => some '/'
  | 'b' => some '\x08'
  | 'f' => some '\x0c'
  | 'n' => some '\n'
  | 'r' => some '\r'
  | 't' => some '\t'
  | _ => none

def hexValue? (c : Char) : Option Nat :=
  if c.isDigit then some (c.toNat - '0'.toNat)
  else if 'a' ≤ c ∧ c ≤ 'f' then some (c.toNat - 'a'.toNat + 10)
  else if 'A' ≤ c ∧ c ≤ 'F' then some (c.toNat - 'A'.toNat + 10)
  else none

/-- One character: the tokens that end with it or before it, and what the machine is then in the
middle of. -/
def step : Lexer → Char → List Token × Lexer
  | between, c => begin c
  | word letters, c =>
    if c.isAlpha then ([], word (letters ++ [c])) else close (.ofWord letters) c
  | number digits, c =>
    if inNumber c then ([], number (digits ++ [c])) else close (.ofNumber digits) c
  | text pieces, c =>
    if c = '"' then ([.string ((Piece.spell pieces).map String.ofList)], between)
    else if c = '\\' then ([], escape pieces)
    else if c.toNat < 0x20 then ([.bad], stopped)
    else ([], text (pieces ++ [.char c]))
  | escape pieces, c =>
    if c = 'u' then ([], unit pieces 3 0)
    else
      match escaped? c with
      | some c => ([], text (pieces ++ [.char c]))
      | none => ([.bad], stopped)
  | unit pieces missing value, c =>
    match hexValue? c with
    | none => ([.bad], stopped)
    | some digit =>
      match missing with
      | 0 => ([], text (pieces ++ [.unit (value * 16 + digit)]))
      | missing + 1 => ([], unit pieces missing (value * 16 + digit))
  | stopped, _ => ([], stopped)

def finish : Lexer → List Token
  | between => []
  | word letters => [.ofWord letters]
  | number digits => [.ofNumber digits]
  | text _ => [.bad]
  | escape _ => [.bad]
  | unit _ _ _ => [.bad]
  | stopped => []

def run (lexer : Lexer) : List Char → List Token
  | [] => lexer.finish
  | c :: rest => (lexer.step c).1 ++ (lexer.step c).2.run rest

end Lexer

def tokens (text : String) : List Token := Lexer.run .between text.toList

end Enrollment.Json
