import Enrollment.SettingsFile.Basic

/-!
What a settings file does to an environment. Whatever the file holds, no text that a variable is set
to changes, and only texts are set. A file of lines that each set a key to a text in single quotes
fills in just those texts.
-/
namespace Enrollment

namespace Environment

def IsText (bytes : ByteArray) : Prop := (String.fromUTF8? bytes).isSome = true

instance (bytes : ByteArray) : Decidable (IsText bytes) := inferInstanceAs (Decidable (_ = true))

/-- What an environment becomes by being loaded: the texts that variables are set to stay, and what
they are set to anew are texts. -/
structure LoadedFrom (environment loaded : Environment) : Prop where
  keeps {key : String} {bytes : ByteArray} (hset : environment.find? key = some bytes)
    (htext : IsText bytes) : loaded.find? key = some bytes
  fills {key : String} {bytes : ByteArray} (hset : loaded.find? key = some bytes) :
    environment.find? key = some bytes ∨ IsText bytes

variable {environment loaded further : Environment} {key : String}

theorem LoadedFrom.refl (environment : Environment) : environment.LoadedFrom environment :=
  ⟨fun hset _ => hset, .inl⟩

theorem LoadedFrom.trans (h : environment.LoadedFrom loaded)
    (hfurther : loaded.LoadedFrom further) : environment.LoadedFrom further where
  keeps hset htext := hfurther.keeps (h.keeps hset htext) htext
  fills hset := (hfurther.fills hset).elim h.fills .inr

theorem fromUTF8?_toUTF8 (text : String) : String.fromUTF8? text.toUTF8 = some text :=
  dif_pos text.isValidUTF8

theorem loadedFrom_put (hnone : environment.text? key = none) (text : String) :
    environment.LoadedFrom (environment.put key text.toUTF8) where
  keeps {other} {bytes} hset htext := by
    have hne : other ≠ key := by
      rintro rfl
      rw [text?, hset, Option.bind_some] at hnone
      rw [IsText, hnone] at htext
      cases htext
    rwa [Directory.find?_put_of_ne _ hne]
  fills {other} {bytes} hset := by
    by_cases hother : other = key
    · rw [hother, Directory.find?_put_self, Option.some.injEq] at hset
      rw [← hset, IsText, fromUTF8?_toUTF8]
      exact .inr rfl
    · rw [Directory.find?_put_of_ne _ hother] at hset
      exact .inl hset

theorem text?_put (environment : Environment) (key text other : String) :
    Environment.text? (environment.put key text.toUTF8) other =
      if other = key then some text else environment.text? other := by
  by_cases hother : other = key
  · rw [if_pos hother, hother, text?, Directory.find?_put_self]
    exact fromUTF8?_toUTF8 text
  · rw [if_neg hother, text?, Directory.find?_put_of_ne _ hother, text?]

end Environment

namespace SettingsFile

variable {environment : Environment} {key text : String}

theorem fill_cases (environment : Environment) (key text : String) :
    (∃ own, environment.text? key = some own ∧
      fill key text environment = ⟨.ok (), environment, []⟩) ∨
    environment.text? key = none ∧ '\x00' ∈ text.toList ∧
      fill key text environment = ⟨.error .nul, environment, [.panic]⟩ ∨
    environment.text? key = none ∧ '\x00' ∉ text.toList ∧
      fill key text environment = ⟨.ok (), environment.put key text.toUTF8, []⟩ := by
  cases hown : environment.text? key with
  | some own => exact .inl ⟨own, rfl, by simp [fill, hown]⟩
  | none =>
    by_cases hnul : '\x00' ∈ text.toList
    · exact .inr (.inl ⟨rfl, hnul, by simp [fill, hown, hnul]⟩)
    · exact .inr (.inr ⟨rfl, hnul, by simp [fill, hown, hnul]⟩)

theorem loadedFrom_fill (environment : Environment) (key text : String) :
    environment.LoadedFrom (fill key text environment).state := by
  obtain ⟨_, -, hfill⟩ | ⟨-, -, hfill⟩ | ⟨hnone, -, hfill⟩ := fill_cases environment key text
  · exact hfill ▸ .refl environment
  · exact hfill ▸ .refl environment
  · exact hfill ▸ Environment.loadedFrom_put hnone text

theorem loadedFrom_loadLines (lines : List (List Char)) (environment : Environment) :
    environment.LoadedFrom (loadLines lines environment).state := by
  induction lines generalizing environment with
  | nil => exact .refl environment
  | cons line rest ih =>
    rw [loadLines]
    cases Line.ofChars line with
    | empty => exact ih environment
    | malformed => exact .refl environment
    | setting key written =>
      simp only [Call.current_bind]
      cases value? (fun name => (textOf? environment name).getD "") written with
      | none => exact .refl environment
      | some text =>
        have hfill := loadedFrom_fill environment key text
        simp only [Call.bind_apply]
        cases (fill key text environment).result with
        | error fault => exact hfill
        | ok => exact hfill.trans (ih _)

theorem loadedFrom_load (file : String) (environment : Environment) :
    environment.LoadedFrom (load file environment).state :=
  loadedFrom_loadLines (lines file.toList) environment

/-! Files that are written in one way. -/

def lineOf (key text : String) : List Char :=
  key.toList ++ '=' :: '\'' :: (text.toList ++ ['\''])

def fileOf (settings : List (String × String)) : String :=
  String.ofList (settings.flatMap fun setting => lineOf setting.1 setting.2 ++ ['\n'])

def IsKey (key : String) : Prop :=
  ∃ c rest, key.toList = c :: rest ∧ isKeyStart c = true ∧ ∀ other ∈ rest, isKeyPart other = true

def Quotable (text : String) : Prop :=
  ∀ c ∈ text.toList, c ≠ '\'' ∧ c ≠ '\\' ∧ c ≠ '\x00'

theorem code_of_isKeyPart {c : Char} (h : isKeyPart c = true) :
    c.toNat = 0x2E ∨ 0x30 ≤ c.toNat ∧ c.toNat ≤ 0x39 ∨ 0x41 ≤ c.toNat ∧ c.toNat ≤ 0x5A ∨
      c.toNat = 0x5F ∨ 0x61 ≤ c.toNat ∧ c.toNat ≤ 0x7A := by
  delta isKeyPart Char.isAlphanum Char.isAlpha Char.isUpper Char.isLower Char.isDigit at h
  simp only [Bool.or_eq_true, Bool.and_eq_true, decide_eq_true_eq, beq_iff_eq, ge_iff_le,
    UInt32.le_iff_toNat_le] at h
  obtain ((hletter | hdigit) | rfl) | rfl := h
  · obtain ⟨hleast, hgreatest⟩ | ⟨hleast, hgreatest⟩ := hletter
    · exact .inr (.inr (.inl ⟨hleast, hgreatest⟩))
    · exact .inr (.inr (.inr (.inr ⟨hleast, hgreatest⟩)))
  · exact .inr (.inl hdigit)
  · decide
  · decide

theorem isWhiteSpace_of_isKeyPart {c : Char} (h : isKeyPart c = true) :
    Text.isWhiteSpace c = false := by
  have hcode := code_of_isKeyPart h
  simp only [Text.isWhiteSpace, Bool.or_eq_false_iff, Bool.and_eq_false_iff,
    decide_eq_false_iff_not, beq_eq_false_iff_ne]
  omega

theorem isKeyPart_of_isKeyStart {c : Char} (h : isKeyStart c = true) : isKeyPart c = true := by
  simp only [isKeyStart, isKeyPart, Char.isAlphanum, Bool.or_eq_true] at h ⊢
  exact .inl (h.imp_left .inl)

/-- A character of a key stands for itself wherever a line may have one. -/
theorem step_keyPart {place : Place} (hplace : place = .start ∨ place = .plain) {c : Char}
    (h : isKeyPart c = true) : c ≠ '\n' ∧ place.step c = .plain := by
  have hwhite := isWhiteSpace_of_isKeyPart h
  have hne : ∀ other, isKeyPart other = false → c ≠ other := by
    rintro other hother rfl
    rw [h] at hother
    cases hother
  have hmark : Place.afterMark c = .plain := by
    rw [Place.afterMark, if_neg (hne _ (by decide)), if_neg (hne _ (by decide)),
      if_neg (hne _ (by decide))]
  refine ⟨hne _ (by decide), ?_⟩
  obtain rfl | rfl := hplace
  · simp [Place.step, hwhite, hne '#' (by decide), hmark]
  · simp [Place.step, hwhite, hmark]

theorem linesFrom_step {place next : Place} {c : Char} (hend : c ≠ '\n')
    (hstep : place.step c = next) (hnext : next ≠ .comment) (held rest : List Char) :
    linesFrom place held (c :: rest) = linesFrom next (c :: held) rest := by
  rw [linesFrom, if_neg hend, hstep, if_neg hnext]

theorem linesFrom_keyParts {cs : List Char} (h : ∀ c ∈ cs, isKeyPart c = true)
    (held rest : List Char) :
    linesFrom .plain held (cs ++ rest) = linesFrom .plain (cs.reverse ++ held) rest := by
  induction cs generalizing held with
  | nil => rfl
  | cons c cs ih =>
    obtain ⟨hc, hrest⟩ := List.forall_mem_cons.mp h
    obtain ⟨hend, hstep⟩ := step_keyPart (.inr rfl) hc
    rw [List.cons_append, linesFrom_step hend hstep nofun, ih hrest, List.reverse_cons,
      List.append_assoc]
    rfl

/-- Between the quotes, an end of a line is as good as any other character. -/
theorem linesFrom_quotable {cs : List Char} (h : ∀ c ∈ cs, c ≠ '\'' ∧ c ≠ '\\')
    (held rest : List Char) :
    linesFrom .singleQuoted held (cs ++ rest) =
      linesFrom .singleQuoted (cs.reverse ++ held) rest := by
  induction cs generalizing held with
  | nil => rfl
  | cons c cs ih =>
    obtain ⟨⟨hquote, hescape⟩, hrest⟩ := List.forall_mem_cons.mp h
    have hfirst : linesFrom .singleQuoted held (c :: (cs ++ rest)) =
        linesFrom .singleQuoted (c :: held) (cs ++ rest) := by
      by_cases hend : c = '\n'
      · rw [linesFrom, if_pos hend]
        rfl
      · have hstep : Place.singleQuoted.step c = .singleQuoted := by
          simp [Place.step, hquote, hescape]
        exact linesFrom_step hend hstep nofun held _
    rw [List.cons_append, hfirst, ih hrest, List.reverse_cons, List.append_assoc]
    rfl

theorem linesFrom_lineOf (hkey : IsKey key) (htext : Quotable text) (rest : List Char) :
    linesFrom .start [] (lineOf key text ++ '\n' :: rest) =
      lineOf key text :: linesFrom .start [] rest := by
  obtain ⟨c, parts, hchars, hstart, hparts⟩ := hkey
  obtain ⟨hend, hstep⟩ := step_keyPart (.inl rfl) (isKeyPart_of_isKeyStart hstart)
  have hquoted : ∀ c ∈ text.toList, c ≠ '\'' ∧ c ≠ '\\' := fun c hc =>
    ⟨(htext c hc).1, (htext c hc).2.1⟩
  have hline : lineOf key text ++ '\n' :: rest =
      c :: (parts ++ '=' :: '\'' :: (text.toList ++ '\'' :: '\n' :: rest)) := by
    simp [lineOf, hchars]
  have hequals : Place.plain.step '=' = .plain := by decide
  have hopen : Place.plain.step '\'' = .singleQuoted := by decide
  have hclose : Place.singleQuoted.step '\'' = .plain := by decide
  rw [hline, linesFrom_step hend hstep nofun, linesFrom_keyParts hparts,
    linesFrom_step (by decide) hequals nofun, linesFrom_step (by decide) hopen nofun,
    linesFrom_quotable hquoted, linesFrom_step (by decide) hclose nofun, linesFrom, if_pos rfl]
  simp [Place.inQuotes?, lineOf, hchars]

theorem linesFrom_fileOf {settings : List (String × String)}
    (h : ∀ setting ∈ settings, IsKey setting.1 ∧ Quotable setting.2) :
    linesFrom .start [] (fileOf settings).toList =
      settings.map (fun setting => lineOf setting.1 setting.2) ++ [[]] := by
  rw [fileOf, String.toList_ofList]
  induction settings with
  | nil => rfl
  | cons setting rest ih =>
    obtain ⟨⟨hkey, htext⟩, hrest⟩ := List.forall_mem_cons.mp h
    rw [List.flatMap_cons, List.append_assoc, List.singleton_append, linesFrom_lineOf hkey htext,
      ih hrest, List.map_cons, List.cons_append]

/-- The file is read as the lines that it was written as, and an empty one after the last. -/
theorem lines_fileOf {settings : List (String × String)}
    (h : ∀ setting ∈ settings, IsKey setting.1 ∧ Quotable setting.2) :
    lines (fileOf settings).toList =
      settings.map (fun setting => lineOf setting.1 setting.2) ++ [[]] := by
  rw [← linesFrom_fileOf h]
  rw [fileOf, String.toList_ofList]
  cases settings with
  | nil => rfl
  | cons setting rest =>
    -- A key does not begin with a byte order mark.
    obtain ⟨c, parts, hchars, hstart, -⟩ := (h setting List.mem_cons_self).1
    have hmark : c ≠ '\ufeff' := by
      rintro rfl
      exact absurd hstart (by decide)
    simp [lineOf, hchars, lines, hmark]

theorem skipBlanks_cons {c : Char} (h : Text.isWhiteSpace c = false) (rest : List Char) :
    skipBlanks (c :: rest) = c :: rest :=
  List.dropWhile_cons_of_neg (Bool.eq_false_iff.mp h)

theorem ofChars_lineOf (hkey : IsKey key) (text : String) :
    Line.ofChars (lineOf key text) = .setting key ('\'' :: (text.toList ++ ['\''])) := by
  obtain ⟨c, parts, hchars, hstart, hparts⟩ := hkey
  have hwhite := isWhiteSpace_of_isKeyPart (isKeyPart_of_isKeyStart hstart)
  have hline : lineOf key text = c :: (parts ++ '=' :: '\'' :: (text.toList ++ ['\''])) := by
    rw [lineOf, hchars, List.cons_append]
  have hback : (lineOf key text).reverse =
      '\'' :: ((key.toList ++ '=' :: '\'' :: text.toList).reverse) := by
    simp [lineOf]
  have htrimmed : (skipBlanks (skipBlanks (lineOf key text)).reverse).reverse =
      lineOf key text := by
    rw [hline, skipBlanks_cons hwhite, ← hline, hback, skipBlanks_cons (by decide), ← hback,
      List.reverse_reverse]
  have hread : key? (lineOf key text) =
      some (key, '=' :: '\'' :: (text.toList ++ ['\''])) := by
    have hnot : ¬ isKeyPart '=' = true := by decide
    rw [hline, key?, if_pos hstart, List.takeWhile_append_of_pos hparts,
      List.dropWhile_append_of_pos hparts, List.takeWhile_cons_of_neg hnot, List.append_nil,
      List.dropWhile_cons_of_neg hnot, skipBlanks_cons (by decide), ← hchars, String.ofList_toList]
  have hne : (lineOf key text).isEmpty = false := by rw [hline, List.isEmpty_cons]
  rw [Line.ofChars, htrimmed, hne]
  simp [hread, Line.afterKey, skipBlanks_cons (show Text.isWhiteSpace '\'' = false by decide)]

theorem run_literal (texts : String → String) {cs : List Char} (h : ∀ c ∈ cs, c ≠ '\'') :
    Reading.literal.run texts (cs ++ ['\'']) = some cs := by
  induction cs with
  | nil => rfl
  | cons c cs ih =>
    obtain ⟨hc, hrest⟩ := List.forall_mem_cons.mp h
    simp [Reading.run, Reading.step, hc, ih hrest]

theorem value?_quoted (texts : String → String) (htext : Quotable text) :
    value? texts ('\'' :: (text.toList ++ ['\''])) = some text := by
  have hrun := run_literal texts fun c hc => (htext c hc).1
  have hopen : (Reading.text false).step texts '\'' = some ([], .literal) := by rfl
  simp [value?, Reading.run, hopen, hrun]

theorem loadLines_lineOf {settings : List (String × String)}
    (h : ∀ setting ∈ settings, IsKey setting.1 ∧ Quotable setting.2) (environment : Environment) :
    ∃ loaded : Environment,
      loadLines (settings.map (fun setting => lineOf setting.1 setting.2) ++ [[]]) environment =
        ⟨.ok (), loaded, []⟩ ∧
      ∀ key, loaded.text? key = (environment.text? key).or (settings.lookup key) := by
  induction settings generalizing environment with
  | nil => exact ⟨environment, rfl, fun key => Option.or_none.symm⟩
  | cons setting rest ih =>
    obtain ⟨first, text⟩ := setting
    obtain ⟨⟨hkey, htext⟩, hrest⟩ := List.forall_mem_cons.mp h
    have hnul : '\x00' ∉ text.toList := fun hmem => (htext _ hmem).2.2 rfl
    obtain ⟨filled, hfill, hfilled⟩ : ∃ filled : Environment,
        fill first text environment = ⟨.ok (), filled, []⟩ ∧ ∀ key, filled.text? key =
          (environment.text? key).or (if key = first then some text else none) := by
      obtain ⟨own, hown, hfill⟩ | ⟨-, hmem, -⟩ | ⟨hnone, -, hfill⟩ :=
        fill_cases environment first text
      · refine ⟨environment, hfill, fun key => ?_⟩
        by_cases hfirst : key = first <;> simp [hfirst, hown]
      · exact absurd hmem hnul
      · refine ⟨_, hfill, fun key => ?_⟩
        rw [Environment.text?_put]
        by_cases hfirst : key = first <;> simp [hfirst, hnone]
    obtain ⟨loaded, hload, hloaded⟩ := ih hrest filled
    refine ⟨loaded, ?_, fun key => ?_⟩
    · simp only [List.map_cons, List.cons_append, loadLines, ofChars_lineOf hkey,
        Call.current_bind, value?_quoted _ htext]
      rw [Call.bind_of_ok hfill, hload]
      rfl
    · rw [hloaded, hfilled, Option.or_assoc, List.lookup_cons]
      by_cases hfirst : key = first
      · simp [hfirst]
      · simp [hfirst, beq_eq_false_iff_ne.mpr hfirst]

/-- A file of such lines sets each variable that has no text to that of the first line for it, and
nothing else. -/
theorem load_fileOf {settings : List (String × String)}
    (h : ∀ setting ∈ settings, IsKey setting.1 ∧ Quotable setting.2) (environment : Environment) :
    ∃ loaded : Environment, load (fileOf settings) environment = ⟨.ok (), loaded, []⟩ ∧
      ∀ key, loaded.text? key = (environment.text? key).or (settings.lookup key) := by
  rw [load, lines_fileOf h]
  exact loadLines_lineOf h environment

end SettingsFile

end Enrollment
