import Enrollment.Json.Token

/-!
What a JSON text holds, as far as it is JSON.  Texts that break off or go wrong still have a
reading: arrays and objects that were never closed say so, and everything before that place is
there in the order of the text.  Whoever decodes a reading in its order therefore meets the first
fault of the text first.
-/
namespace Enrollment.Json

inductive Reading
  | null
  | bool (value : Bool)
  | natural (value : Nat)
  | decimal
  | string (text : Option String)
  | array (items : List Reading) (closed : Bool)
  | object (members : List (Option String × Reading)) (closed : Bool)
  | nothing

structure Document where
  root : Reading
  alone : Bool

inductive Frame
  | array (items : List Reading)
  | object (members : List (Option String × Reading))
  | value (members : List (Option String × Reading)) (key : Option String)

inductive Expected
  | value
  /-- A value, or the end of an array that is empty. -/
  | firstItem
  | key
  /-- A key, or the end of an object that is empty. -/
  | firstKey
  | colon
  /-- A comma, or the end of the innermost array or object. -/
  | separator
  deriving DecidableEq, Repr

inductive Progress
  /-- Inside the value: what is open, innermost first, and what may come next. -/
  | inside (frames : List Frame) (expected : Expected)
  | past (root : Reading)
  | done (document : Document)

namespace Progress

def abandon : List Frame → Option Reading → Reading
  | [], inner => inner.getD .nothing
  | .array items :: frames, inner => abandon frames (some (.array (items ++ inner.toList) false))
  | .object members :: frames, _ => abandon frames (some (.object members false))
  | .value members key :: frames, inner =>
    abandon frames (some (.object (members ++ (inner.map (key, ·)).toList) false))

def fail (frames : List Frame) : Progress := done ⟨abandon frames none, false⟩

def ended (value : Reading) : List Frame → Progress
  | [] => past value
  | .array items :: frames => inside (.array (items ++ [value]) :: frames) .separator
  | .value members key :: frames =>
    inside (.object (members ++ [(key, value)]) :: frames) .separator
  | .object members :: frames => fail (.object members :: frames)

def begin (frames : List Frame) : Token → Progress
  | .null => ended .null frames
  | .bool value => ended (.bool value) frames
  | .natural value => ended (.natural value) frames
  | .decimal => ended .decimal frames
  | .string text => ended (.string text) frames
  | .leftBracket => inside (.array [] :: frames) .firstItem
  | .leftBrace => inside (.object [] :: frames) .firstKey
  | _ => fail frames

def step : Progress → Token → Progress
  | inside frames .value, token => begin frames token
  | inside (.array items :: frames) .firstItem, token =>
    if token = .rightBracket then ended (.array items true) frames
    else begin (.array items :: frames) token
  | inside (.object members :: frames) .firstKey, token =>
    match token with
    | .rightBrace => ended (.object members true) frames
    | .string key => inside (.value members key :: frames) .colon
    | _ => fail (.object members :: frames)
  | inside (.object members :: frames) .key, token =>
    match token with
    | .string key => inside (.value members key :: frames) .colon
    | _ => fail (.object members :: frames)
  | inside frames .colon, token => if token = .colon then inside frames .value else fail frames
  | inside (.array items :: frames) .separator, token =>
    match token with
    | .comma => inside (.array items :: frames) .value
    | .rightBracket => ended (.array items true) frames
    | _ => fail (.array items :: frames)
  | inside (.object members :: frames) .separator, token =>
    match token with
    | .comma => inside (.object members :: frames) .key
    | .rightBrace => ended (.object members true) frames
    | _ => fail (.object members :: frames)
  | inside frames _, _ => fail frames
  | past root, _ => done ⟨root, false⟩
  | done document, _ => done document

def document : Progress → Document
  | inside frames _ => ⟨abandon frames none, false⟩
  | past root => ⟨root, true⟩
  | done document => document

end Progress

def Document.ofTokens (tokens : List Token) : Document :=
  (tokens.foldl Progress.step (.inside [] .value)).document

def Document.ofText (text : String) : Document := ofTokens (tokens text)

namespace Reading

mutual

/-- Whether a value is JSON from end to end.  Strings may spell no text. -/
def isWhole : Reading → Bool
  | null | bool _ | natural _ | decimal | string _ => true
  | array items closed => allWhole items && closed
  | object members closed => membersWhole members && closed
  | nothing => false

def allWhole : List Reading → Bool
  | [] => true
  | item :: rest => isWhole item && allWhole rest

def membersWhole : List (Option String × Reading) → Bool
  | [] => true
  | (_, value) :: rest => isWhole value && membersWhole rest

end

end Reading

end Enrollment.Json
