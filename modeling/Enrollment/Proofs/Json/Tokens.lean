import Enrollment.Json.Token
import Enrollment.Json.Value

/-!
The text of a JSON value is read as the tokens of the value, whatever follows that cannot make its
last token longer.
-/
namespace Enrollment.Json

def isDecimal (cs : List Char) : Bool := Token.ofNumber cs == .decimal

mutual

/-- Whether all numbers of a value that are not plain are written as numbers. -/
def isExact : Json → Bool
  | null | bool _ | natural _ | string _ => true
  | decimal literal => isDecimal literal.toList
  | array items => itemsExact items
  | object members => membersExact members

def itemsExact : List Json → Bool
  | [] => true
  | item :: rest => isExact item && itemsExact rest

def membersExact : List (String × Json) → Bool
  | [] => true
  | (_, value) :: rest => isExact value && membersExact rest

end

mutual

def tokenList : Json → List Token
  | null => [.null]
  | bool value => [.bool value]
  | natural value => [.natural value]
  | decimal _ => [.decimal]
  | string value => [.string (some value)]
  | array items => .leftBracket :: itemTokens items ++ [.rightBracket]
  | object members => .leftBrace :: memberTokens members ++ [.rightBrace]

def itemTokens : List Json → List Token
  | [] => []
  | [item] => tokenList item
  | item :: rest => tokenList item ++ .comma :: itemTokens rest

def memberTokens : List (String × Json) → List Token
  | [] => []
  | [(key, value)] => .string (some key) :: .colon :: tokenList value
  | (key, value) :: rest =>
    .string (some key) :: .colon :: tokenList value ++ .comma :: memberTokens rest

end

namespace Piece

def named : List Char := ['"', '\\', '\x08', '\x0c', '\n', '\r', '\t']

def ofChar (c : Char) : Piece :=
  if c ∈ named then char c
  else if c.toNat < 0x20 then unit c.toNat
  else char c

theorem spell_unit_cons {value : Nat} (h : value < 0xD800) (rest : List Piece) :
    spell (unit value :: rest) = (spell rest).map (Char.ofNat value :: ·) := by
  have hhigh : isHigh value = false := by
    simp only [isHigh, Bool.and_eq_false_iff, decide_eq_false_iff_not]
    omega
  have hlow : isLow value = false := by
    simp only [isLow, Bool.and_eq_false_iff, decide_eq_false_iff_not]
    omega
  cases rest with
  | nil => simp [spell, hhigh, hlow]
  | cons piece rest => cases piece <;> simp [spell, hhigh, hlow]

theorem spell_map_ofChar (cs : List Char) : spell (cs.map ofChar) = some cs := by
  induction cs with
  | nil => rfl
  | cons c cs ih =>
    rw [List.map_cons, ofChar]
    split
    · rw [spell, ih]
      rfl
    · split
      · rw [spell_unit_cons (by omega), ih, Char.ofNat_toNat]
        rfl
      · rw [spell, ih]
        rfl

end Piece

namespace Lexer

theorem hexValue?_hexDigit (n : Nat) : hexValue? (hexDigit n) = some (n % 16) := by
  have hdigits : ∀ digit : Fin 16, hexValue? (Nat.digitChar digit.val) = some digit.val := by decide
  exact hdigits ⟨n % 16, Nat.mod_lt _ (by decide)⟩

/-- The written form of a character adds one piece to a string. -/
theorem run_escape (pieces : List Piece) (c : Char) (rest : List Char) :
    run (text pieces) (Json.escape c ++ rest) = run (text (pieces ++ [Piece.ofChar c])) rest := by
  by_cases hnamed : c ∈ Piece.named
  · have hall : ∀ d ∈ Piece.named, run (text pieces) (Json.escape d ++ rest) =
        run (text (pieces ++ [Piece.ofChar d])) rest := by
      simp only [Piece.named, List.forall_mem_cons]
      exact ⟨rfl, rfl, rfl, rfl, rfl, rfl, rfl, List.forall_mem_nil _⟩
    exact hall c hnamed
  obtain ⟨hquote, hslash, hback, hfeed, hline, hreturn, htab⟩ :
      c ≠ '"' ∧ c ≠ '\\' ∧ c ≠ '\x08' ∧ c ≠ '\x0c' ∧ c ≠ '\n' ∧ c ≠ '\r' ∧ c ≠ '\t' := by
    simpa [Piece.named] using hnamed
  simp only [Json.escape, hquote, hslash, hback, hfeed, hline, hreturn, htab, if_false]
  by_cases hcontrol : c.toNat < 0x20
  · have hpiece : Piece.ofChar c = .unit c.toNat := by
      simp [Piece.ofChar, hnamed, hcontrol]
    have hfirst := hexValue?_hexDigit (c.toNat / 16)
    have hsecond := hexValue?_hexDigit c.toNat
    have hvalue : c.toNat / 16 % 16 * 16 + c.toNat % 16 = c.toNat := by omega
    have hzero : hexValue? '0' = some 0 := rfl
    simp [hcontrol, run, step, hzero, hfirst, hsecond, hvalue, hpiece]
  · have hpiece : Piece.ofChar c = .char c := by
      simp [Piece.ofChar, hnamed, hcontrol]
    simp [hcontrol, run, step, hquote, hslash, hpiece]

theorem run_flatMap_escape (pieces : List Piece) (cs rest : List Char) :
    run (text pieces) (cs.flatMap Json.escape ++ rest) =
      run (text (pieces ++ cs.map Piece.ofChar)) rest := by
  induction cs generalizing pieces with
  | nil => simp
  | cons c cs ih =>
    rw [List.flatMap_cons, List.append_assoc, run_escape, ih, List.map_cons, List.append_assoc]
    rfl

theorem run_stringChars (value : String) (rest : List Char) :
    run between (stringChars value ++ rest) = .string (some value) :: run between rest := by
  have hopen : run between (stringChars value ++ rest) =
      run (text []) (value.toList.flatMap Json.escape ++ '"' :: rest) := by
    simp only [stringChars, List.cons_append, List.append_assoc, List.nil_append]
    rfl
  have hclose : run (text (value.toList.map Piece.ofChar)) ('"' :: rest) =
      .string ((Piece.spell (value.toList.map Piece.ofChar)).map String.ofList) ::
        run between rest := rfl
  rw [hopen, run_flatMap_escape, List.nil_append, hclose, Piece.spell_map_ofChar, Option.map_some,
    String.ofList_toList]

def Ends (rest : List Char) : Prop := ∀ c ∈ rest.head?, inNumber c = false ∧ c.isAlpha = false

theorem ends_nil : Ends [] := nofun

theorem ends_cons {c : Char} (hnumber : inNumber c = false) (halpha : c.isAlpha = false)
    (rest : List Char) : Ends (c :: rest) := by
  intro d hd
  cases hd
  exact ⟨hnumber, halpha⟩

theorem close_append {token : Token} (h : token ≠ .bad) (c : Char) (rest : List Char) :
    (close token c).1 ++ run (close token c).2 rest = token :: run between (c :: rest) := by
  rw [close, if_neg h]
  rfl

/-- A state that collects characters of a kind makes one token of them, if another comes or none. -/
theorem run_collect {state : List Char → Lexer} {more : Char → Bool} {token : List Char → Token}
    (hstep : ∀ read c, step (state read) c =
      if more c then ([], state (read ++ [c])) else close (token read) c)
    (hfinish : ∀ read, finish (state read) = [token read]) (read : List Char) {cs rest : List Char}
    (hall : ∀ c ∈ cs, more c = true) (hrest : ∀ c ∈ rest.head?, more c = false)
    (htoken : token (read ++ cs) ≠ .bad) :
    run (state read) (cs ++ rest) = token (read ++ cs) :: run between rest := by
  induction cs generalizing read with
  | nil =>
    rw [List.append_nil] at htoken ⊢
    cases rest with
    | nil =>
      rw [List.append_nil, run, hfinish]
      rfl
    | cons c rest =>
      have hc := hrest c rfl
      rw [List.nil_append, run, hstep, hc]
      exact close_append htoken c rest
  | cons c cs ih =>
    have hc := hall c List.mem_cons_self
    have hmore : read ++ c :: cs = (read ++ [c]) ++ cs := by simp
    rw [hmore] at htoken ⊢
    rw [← ih _ (fun d hd => hall d (List.mem_cons_of_mem _ hd)) htoken, List.cons_append, run,
      hstep, hc]
    rfl

theorem run_number (digits : List Char) {cs rest : List Char} (hall : ∀ c ∈ cs, inNumber c = true)
    (hrest : Ends rest) (htoken : Token.ofNumber (digits ++ cs) ≠ .bad) :
    run (number digits) (cs ++ rest) = .ofNumber (digits ++ cs) :: run between rest :=
  run_collect (fun _ _ => rfl) (fun _ => rfl) digits hall (fun c hc => (hrest c hc).1) htoken

theorem run_word (letters cs : List Char) {rest : List Char} (hall : ∀ c ∈ cs, c.isAlpha = true)
    (hrest : Ends rest) (htoken : Token.ofWord (letters ++ cs) ≠ .bad) :
    run (word letters) (cs ++ rest) = .ofWord (letters ++ cs) :: run between rest :=
  run_collect (fun _ _ => rfl) (fun _ => rfl) letters hall (fun c hc => (hrest c hc).2) htoken

end Lexer

/-! What is written as a number is read as one. -/

section Numbers

open Lexer

theorem inNumber_of_isDigit {c : Char} (h : c.isDigit = true) : inNumber c = true := by
  simp [inNumber, h]

theorem begin_of_isDigit {c : Char} (h : c.isDigit = true) : begin c = ([], number [c]) := by
  have hne : ∀ d : Char, d.isDigit = false → c ≠ d := by
    intro d hd heq
    rw [heq, hd] at h
    cases h
  have hspace : isSpace c = false := by
    simp [isSpace, hne ' ' rfl, hne '\t' rfl, hne '\n' rfl, hne '\r' rfl]
  simp [begin, hspace, hne '\x7b' rfl, hne '\x7d' rfl, hne '[' rfl, hne ']' rfl, hne ':' rfl,
    hne ',' rfl, hne '"' rfl, h]

theorem digits_of_isDigits {cs : List Char} (h : isDigits cs = true) :
    cs ≠ [] ∧ ∀ c ∈ cs, c.isDigit = true := by
  simpa [isDigits] using h

theorem inNumber_of_isDigits {cs : List Char} (h : isDigits cs = true) :
    ∀ c ∈ cs, inNumber c = true :=
  fun c hc => inNumber_of_isDigit ((digits_of_isDigits h).2 c hc)

theorem inNumber_of_isExponent {cs : List Char} (h : isExponent cs = true) :
    ∀ c ∈ cs, inNumber c = true := by
  cases cs with
  | nil => exact List.forall_mem_nil _
  | cons e rest =>
    simp only [isExponent, Bool.and_eq_true] at h
    obtain ⟨hletter, hdigits⟩ := h
    refine List.forall_mem_cons.mpr ⟨?_, ?_⟩
    · simp only [inNumber, Bool.or_assoc, hletter, Bool.or_true]
    · split at hdigits
      · exact List.forall_mem_cons.mpr ⟨rfl, inNumber_of_isDigits hdigits⟩
      · exact List.forall_mem_cons.mpr ⟨rfl, inNumber_of_isDigits hdigits⟩
      · exact inNumber_of_isDigits hdigits

theorem inNumber_of_isFraction {cs : List Char} (h : isFraction cs = true) :
    ∀ c ∈ cs, inNumber c = true := by
  rw [isFraction.eq_def] at h
  split at h
  · rename_i rest
    simp only [Bool.and_eq_true] at h
    obtain ⟨hdigits, hexponent⟩ := h
    refine List.forall_mem_cons.mpr ⟨rfl, ?_⟩
    rw [← List.takeWhile_append_dropWhile (p := Char.isDigit) (l := rest)]
    exact List.forall_mem_append.mpr
      ⟨inNumber_of_isDigits hdigits, inNumber_of_isExponent hexponent⟩
  · exact inNumber_of_isExponent h

theorem inNumber_of_isUnsigned {cs : List Char} (h : isUnsigned cs = true) :
    (∀ c ∈ cs, inNumber c = true) ∧ ∃ c rest, cs = c :: rest ∧ c.isDigit = true := by
  simp only [isUnsigned, isWhole, Bool.and_eq_true] at h
  obtain ⟨⟨hdigits, -⟩, hfraction⟩ := h
  have hsplit := List.takeWhile_append_dropWhile (p := Char.isDigit) (l := cs)
  constructor
  · rw [← hsplit]
    exact List.forall_mem_append.mpr
      ⟨inNumber_of_isDigits hdigits, inNumber_of_isFraction hfraction⟩
  · obtain ⟨hne, hall⟩ := digits_of_isDigits hdigits
    obtain ⟨c, rest, hcons⟩ := List.exists_cons_of_ne_nil hne
    rw [hcons] at hsplit hall
    exact ⟨c, rest ++ cs.dropWhile Char.isDigit, hsplit.symm, hall c List.mem_cons_self⟩

/-- A number that is not plain begins as numbers begin, and goes on in characters of numbers. -/
theorem begin_of_isDecimal {cs : List Char} (h : isDecimal cs = true) :
    ∃ c rest, cs = c :: rest ∧ begin c = ([], number [c]) ∧ ∀ d ∈ rest, inNumber d = true := by
  simp only [isDecimal, beq_iff_eq, Token.ofNumber.eq_def] at h
  split at h
  · cases h
  · split at h
    · rename_i rest hplain
      split at h
      · rename_i hunsigned
        exact ⟨'-', rest, rfl, rfl, (inNumber_of_isUnsigned hunsigned).1⟩
      · cases h
    · split at h
      · rename_i hunsigned
        obtain ⟨hall, c, rest, rfl, hdigit⟩ := inNumber_of_isUnsigned hunsigned
        exact ⟨c, rest, rfl, begin_of_isDigit hdigit,
          fun d hd => hall d (List.mem_cons_of_mem _ hd)⟩
      · cases h

theorem isDigits_toDigits (n : Nat) : isDigits (Nat.toDigits 10 n) = true := by
  have hne : Nat.toDigits 10 n ≠ [] := Nat.toDigits_ne_nil
  simp only [isDigits, Bool.and_eq_true, Bool.not_eq_true', List.isEmpty_eq_false_iff,
    List.all_eq_true]
  exact ⟨hne, fun c hc => Nat.isDigit_of_mem_toDigits (by decide) (by decide) hc⟩

theorem head?_toDigits_ne {n : Nat} (h : n ≠ 0) : (Nat.toDigits 10 n).head? ≠ some '0' := by
  induction n using Nat.strongRecOn with
  | ind n ih =>
    by_cases hdigit : n < 10
    · have hchars : ∀ digit : Fin 10, digit.val ≠ 0 → digit.val.digitChar ≠ '0' := by decide
      rw [Nat.toDigits_of_lt_base hdigit]
      intro heq
      exact hchars ⟨n, hdigit⟩ h (by simpa using heq)
    · have hrest := ih (n / 10) (by omega) (by omega)
      rw [Nat.toDigits_of_base_le (by decide) (Nat.not_lt.mp hdigit)]
      obtain ⟨c, cs, hcons⟩ :=
        List.exists_cons_of_ne_nil (Nat.toDigits_ne_nil (b := 10) (n := n / 10))
      rwa [hcons] at hrest ⊢

theorem ofNumber_toDigits (n : Nat) : Token.ofNumber (Nat.toDigits 10 n) = .natural n := by
  have hwhole : isWhole (Nat.toDigits 10 n) = true := by
    by_cases h : n = 0
    · subst h
      rfl
    · simp [isWhole, isDigits_toDigits, head?_toDigits_ne h]
  rw [Token.ofNumber.eq_def, if_pos hwhole, Nat.ofDigitChars_ten_toDigits]

end Numbers

namespace Lexer

theorem run_toDigits (n : Nat) {rest : List Char} (hrest : Ends rest) :
    run between (Nat.toDigits 10 n ++ rest) = .natural n :: run between rest := by
  have hall := (digits_of_isDigits (isDigits_toDigits n)).2
  have htoken := ofNumber_toDigits n
  obtain ⟨c, cs, hcons⟩ := List.exists_cons_of_ne_nil (Nat.toDigits_ne_nil (b := 10) (n := n))
  rw [hcons] at hall htoken ⊢
  have hrun := run_number [c]
    (fun d hd => inNumber_of_isDigit (hall d (List.mem_cons_of_mem _ hd))) hrest
    (by rw [List.singleton_append, htoken]; exact Token.noConfusion)
  rw [List.singleton_append, htoken] at hrun
  rw [← hrun, List.cons_append, run, step, begin_of_isDigit (hall c List.mem_cons_self)]
  rfl

theorem run_decimal {cs rest : List Char} (h : isDecimal cs = true) (hrest : Ends rest) :
    run between (cs ++ rest) = .decimal :: run between rest := by
  obtain ⟨c, more, rfl, hbegin, hall⟩ := begin_of_isDecimal h
  have htoken : Token.ofNumber (c :: more) = .decimal := by simpa [isDecimal] using h
  have hrun := run_number [c] hall hrest
    (by rw [List.singleton_append, htoken]; exact Token.noConfusion)
  rw [List.singleton_append, htoken] at hrun
  rw [← hrun, List.cons_append, run, step, hbegin]
  rfl

theorem ends_comma (rest : List Char) : Ends (',' :: rest) := ends_cons rfl rfl rest

mutual

/-- The text of a value is read as its tokens, and reading goes on with what follows. -/
theorem run_chars : ∀ (value : Json), value.isExact = true → ∀ {rest : List Char}, Ends rest →
    run between (value.chars ++ rest) = value.tokenList ++ run between rest
  | .null, _, rest, hrest =>
    run_word ['n'] ['u', 'l', 'l'] (List.all_eq_true.mp rfl) hrest (by decide)
  | .bool true, _, rest, hrest =>
    run_word ['t'] ['r', 'u', 'e'] (List.all_eq_true.mp rfl) hrest (by decide)
  | .bool false, _, rest, hrest =>
    run_word ['f'] ['a', 'l', 's', 'e'] (List.all_eq_true.mp rfl) hrest (by decide)
  | .natural value, _, rest, hrest => run_toDigits value hrest
  | .decimal literal, hexact, rest, hrest => by
    have hdecimal : isDecimal literal.toList = true := by simpa [isExact] using hexact
    exact run_decimal hdecimal hrest
  | .string value, _, rest, _ => run_stringChars value rest
  | .array items, hexact, rest, _ => by
    have hitems := run_itemChars items (by simpa [isExact] using hexact)
      (ends_cons (c := ']') rfl rfl rest)
    simp only [chars, tokenList, List.cons_append, List.append_assoc, List.nil_append]
    exact congrArg (Token.leftBracket :: ·) hitems
  | .object members, hexact, rest, _ => by
    have hmembers := run_memberChars members (by simpa [isExact] using hexact)
      (ends_cons (c := '\x7d') rfl rfl rest)
    simp only [chars, tokenList, List.cons_append, List.append_assoc, List.nil_append]
    exact congrArg (Token.leftBrace :: ·) hmembers

theorem run_itemChars : ∀ (items : List Json), itemsExact items = true → ∀ {rest : List Char},
    Ends rest → run between (itemChars items ++ rest) = itemTokens items ++ run between rest
  | [], _, rest, _ => rfl
  | [item], hexact, rest, hrest => by
    simp only [itemsExact, Bool.and_true] at hexact
    exact run_chars item hexact hrest
  | item :: next :: more, hexact, rest, hrest => by
    simp only [itemsExact, Bool.and_eq_true] at hexact
    have hitem := run_chars item hexact.1 (ends_comma (itemChars (next :: more) ++ rest))
    have hmore := run_itemChars (next :: more) (by simpa [itemsExact] using hexact.2) hrest
    simp only [itemChars, itemTokens, List.append_assoc, List.cons_append] at hitem hmore ⊢
    rw [hitem, ← hmore]
    rfl

theorem run_memberChars : ∀ (members : List (String × Json)), membersExact members = true →
    ∀ {rest : List Char}, Ends rest →
    run between (memberChars members ++ rest) = memberTokens members ++ run between rest
  | [], _, rest, _ => rfl
  | [(key, value)], hexact, rest, hrest => by
    simp only [membersExact, Bool.and_true] at hexact
    have hvalue := run_chars value hexact hrest
    simp only [memberChars, memberTokens, List.append_assoc, List.cons_append]
    rw [run_stringChars, ← hvalue]
    rfl
  | (key, value) :: next :: more, hexact, rest, hrest => by
    simp only [membersExact, Bool.and_eq_true] at hexact
    have hvalue := run_chars value hexact.1 (ends_comma (memberChars (next :: more) ++ rest))
    have hmore := run_memberChars (next :: more) (by simpa [membersExact] using hexact.2) hrest
    simp only [memberChars, memberTokens, List.append_assoc, List.cons_append] at hvalue hmore ⊢
    rw [run_stringChars, ← hmore]
    exact congrArg (Token.string (some key) :: Token.colon :: ·) hvalue

end

end Lexer

theorem tokens_render (value : Json) (h : value.isExact = true) :
    tokens value.render = value.tokenList := by
  have hrun := Lexer.run_chars value h Lexer.ends_nil
  rw [List.append_nil] at hrun
  rw [tokens, render, String.toList_ofList, hrun]
  exact List.append_nil _

end Enrollment.Json
