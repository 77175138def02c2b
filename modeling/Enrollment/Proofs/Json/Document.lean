import Enrollment.Json.Decoder
import Enrollment.Proofs.Json.Tokens

/-!
The text of a JSON value is read as that value, and nothing is left over.
-/
namespace Enrollment.Json

mutual

def reading : Json → Reading
  | null => .null
  | bool value => .bool value
  | natural value => .natural value
  | decimal _ => .decimal
  | string value => .string (some value)
  | array items => .array (itemReadings items) true
  | object members => .object (memberReadings members) true

def itemReadings : List Json → List Reading
  | [] => []
  | item :: rest => reading item :: itemReadings rest

def memberReadings : List (String × Json) → List (Option String × Reading)
  | [] => []
  | (key, value) :: rest => (some key, reading value) :: memberReadings rest

end

theorem tokenList_eq_cons (value : Json) :
    ∃ first rest, value.tokenList = first :: rest ∧ first ≠ .rightBracket := by
  cases value with
  | null | bool | natural | decimal | string =>
    exact ⟨_, [], by rw [tokenList], Token.noConfusion⟩
  | array items => exact ⟨.leftBracket, _, by rw [tokenList]; rfl, Token.noConfusion⟩
  | object members => exact ⟨.leftBrace, _, by rw [tokenList]; rfl, Token.noConfusion⟩

theorem itemTokens_eq_cons (item : Json) (rest : List Json) :
    ∃ first more, itemTokens (item :: rest) = first :: more ∧ first ≠ .rightBracket := by
  obtain ⟨first, more, htokens, hfirst⟩ := tokenList_eq_cons item
  cases rest with
  | nil => exact ⟨first, more, by rw [itemTokens, htokens], hfirst⟩
  | cons next rest =>
    exact ⟨first, more ++ .comma :: itemTokens (next :: rest), by simp [itemTokens, htokens],
      hfirst⟩

namespace Progress

/-- In front of its first item an array waits for it as it waits for the others. -/
theorem step_firstItem {token : Token} (h : token ≠ .rightBracket) (items : List Reading)
    (frames : List Frame) :
    step (inside (.array items :: frames) .firstItem) token =
      step (inside (.array items :: frames) .value) token := by
  simp [step, h]

mutual

/-- Where a value may come, the tokens of a value are read as it. -/
theorem foldl_tokenList : ∀ (value : Json) (frames : List Frame),
    value.tokenList.foldl step (inside frames .value) = ended value.reading frames
  | .null, _ => rfl
  | .bool _, _ => rfl
  | .natural _, _ => rfl
  | .decimal _, _ => rfl
  | .string _, _ => rfl
  | .array [], _ => rfl
  | .array (item :: rest), frames => by
    have hitems := foldl_itemTokens (item :: rest) (List.cons_ne_nil _ _) [] frames
    obtain ⟨first, more, htokens, hfirst⟩ := itemTokens_eq_cons item rest
    rw [tokenList, reading]
    rw [htokens] at hitems ⊢
    simp only [List.cons_append, List.foldl_cons, List.nil_append] at hitems ⊢
    rw [← hitems, ← step_firstItem hfirst]
    rfl
  | .object [], _ => rfl
  | .object ((key, value) :: rest), frames => by
    have hmembers := foldl_memberTokens ((key, value) :: rest) (List.cons_ne_nil _ _) [] frames
    rw [tokenList, reading]
    -- in front of its first key an object reads it as it reads the others
    cases rest <;> exact hmembers

theorem foldl_itemTokens : ∀ (items : List Json), items ≠ [] → ∀ (read : List Reading)
    (frames : List Frame),
    (itemTokens items ++ [Token.rightBracket]).foldl step (inside (.array read :: frames) .value) =
      ended (.array (read ++ itemReadings items) true) frames
  | [], hne, _, _ => absurd rfl hne
  | [item], _, read, frames => by
    rw [itemTokens, List.foldl_append, foldl_tokenList item]
    rfl
  | item :: next :: rest, _, read, frames => by
    have hrest := foldl_itemTokens (next :: rest) (List.cons_ne_nil _ _)
      (read ++ [item.reading]) frames
    simp only [itemTokens, itemReadings, List.append_assoc, List.cons_append, List.nil_append,
      List.foldl_append, List.foldl_cons] at hrest ⊢
    rw [foldl_tokenList item]
    exact hrest

theorem foldl_memberTokens : ∀ (members : List (String × Json)), members ≠ [] →
    ∀ (read : List (Option String × Reading)) (frames : List Frame),
    (memberTokens members ++ [Token.rightBrace]).foldl step (inside (.object read :: frames) .key) =
      ended (.object (read ++ memberReadings members) true) frames
  | [], hne, _, _ => absurd rfl hne
  | [(key, value)], _, read, frames => by
    have hvalue := foldl_tokenList value (.value read (some key) :: frames)
    simp only [memberTokens, List.cons_append, List.foldl_append, List.foldl_cons]
    exact congrArg (step · .rightBrace) hvalue
  | (key, value) :: next :: rest, _, read, frames => by
    have hvalue := foldl_tokenList value (.value read (some key) :: frames)
    have hrest := foldl_memberTokens (next :: rest) (List.cons_ne_nil _ _)
      (read ++ [(some key, value.reading)]) frames
    simp only [memberTokens, memberReadings, List.append_assoc, List.cons_append, List.nil_append,
      List.foldl_append, List.foldl_cons] at hrest ⊢
    rw [← hrest]
    exact congrArg (fun progress => step ((memberTokens (next :: rest)).foldl step
      (step progress .comma)) .rightBrace) hvalue

end

end Progress

theorem Document.ofText_render (value : Json) (h : value.isExact = true) :
    Document.ofText value.render = ⟨value.reading, true⟩ := by
  rw [ofText, ofTokens, tokens_render value h, Progress.foldl_tokenList]
  rfl

/-- To decode the text of a value is to decode the reading it is written for. -/
theorem decodeText_render {α : Type} (decode : Decoder α) (value : Json)
    (h : value.isExact = true) : decodeText decode value.render = decode value.reading := by
  rw [decodeText, Document.ofText_render value h]
  cases decode value.reading <;> rfl

end Enrollment.Json
