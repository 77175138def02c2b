/-!
Texts as they are typed: blank ones, white space (as Unicode lists it) around a text, and unsigned
numbers, which are a plus sign or none and decimal digits.
-/
namespace Enrollment.Text

/-- Whether a character has the property White_Space. -/
def isWhiteSpace (c : Char) : Bool :=
  (0x09 ≤ c.toNat && c.toNat ≤ 0x0D) || c.toNat == 0x20 || c.toNat == 0x85 || c.toNat == 0xA0 ||
    c.toNat == 0x1680 || (0x2000 ≤ c.toNat && c.toNat ≤ 0x200A) || c.toNat == 0x2028 ||
    c.toNat == 0x2029 || c.toNat == 0x202F || c.toNat == 0x205F || c.toNat == 0x3000

def isBlank (text : String) : Bool := text.toList.all isWhiteSpace

def trim (text : String) : String :=
  let fromStart := text.toList.dropWhile isWhiteSpace
  String.ofList (fromStart.reverse.dropWhile isWhiteSpace).reverse

inductive NumberFault
  | empty
  | invalidDigit
  | tooLarge
  deriving DecidableEq, Repr

def NumberFault.message : NumberFault → String
  | empty => "cannot parse integer from empty string"
  | invalidDigit => "invalid digit found in string"
  | tooLarge => "number too large to fit in target type"

/-- Read digits in turn, given the value of those before them.  A digit that takes the value past
the bound is told before anything that follows it. -/
def readDigits (bound value : Nat) : List Char → Except NumberFault Nat
  | [] => .ok value
  | c :: rest =>
    if c.isDigit then
      let value := value * 10 + (c.toNat - '0'.toNat)
      if value ≤ bound then readDigits bound value rest else .error .tooLarge
    else .error .invalidDigit

def readUnsigned (bound : Nat) : List Char → Except NumberFault Nat
  | [] => .error .empty
  | ['+'] => .error .invalidDigit
  | '+' :: digits => readDigits bound 0 digits
  | digits => readDigits bound 0 digits

end Enrollment.Text
