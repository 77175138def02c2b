import Enrollment.Config.Form
import Enrollment.Proofs.Forms

/-!
The JSON form of configurations.  Whichever fields an object leaves out, in whatever order the
others come and whatever else is among them, it is read as the configuration with the standard value
for each field that is left out, and passes or fails as that configuration does.
-/
namespace Enrollment

open Json

namespace RosterLimits

structure InRange (limits : RosterLimits) : Prop where
  minCap_le : limits.minCap ≤ Bounds.count
  maxCap_le : limits.maxCap ≤ Bounds.count
  waitlistCapacity_le : limits.waitlistCapacity ≤ Bounds.count

/-- The limits, with the standard value in each field that is not kept. -/
def keeping (keep : String → Bool) (limits : RosterLimits) : RosterLimits where
  minCap := if keep "min_enrollment_cap" then limits.minCap else standard.minCap
  maxCap := if keep "max_enrollment_cap" then limits.maxCap else standard.maxCap
  waitlistCapacity :=
    if keep "waitlist_capacity" then limits.waitlistCapacity else standard.waitlistCapacity

def entries (limits : RosterLimits) : Found :=
  [("min_enrollment_cap", .natural limits.minCap), ("max_enrollment_cap", .natural limits.maxCap),
    ("waitlist_capacity", .natural limits.waitlistCapacity)]

def WrittenIn (keep : String → Bool) (limits : RosterLimits) (reading : Reading) : Prop :=
  ∃ members, reading = .object (members.map fun member => (some member.1, member.2)) true ∧
    Mingled (fields.map Field.name) Reading.isWhole (limits.entries.filter (keep ·.1)) members

variable {limits : RosterLimits} {keep : String → Bool} {reading : Reading}

theorem writtenIn_toJson (limits : RosterLimits) :
    limits.WrittenIn (fun _ => true) limits.toJson.reading := by
  refine ⟨limits.entries, rfl, ?_⟩
  rw [List.filter_true]
  exact mingled_self _ _ _

theorem decode_of_writtenIn (hrange : limits.InRange) (h : limits.WrittenIn keep reading) :
    decode reading = .ok (limits.keeping keep) := by
  obtain ⟨members, rfl, hmingled⟩ := h
  have hmin := Decoder.natural_eq_ok hrange.minCap_le
  have hmax := Decoder.natural_eq_ok hrange.maxCap_le
  have hwaitlist := Decoder.natural_eq_ok hrange.waitlistCapacity_le
  have hfills : Found.Fills fields limits.entries :=
    .cons ⟨rfl, field_check hmin _⟩ (.cons ⟨rfl, field_check hmax _⟩
      (.cons ⟨rfl, field_check hwaitlist _⟩ .nil))
  obtain ⟨found, hfound, hlookup⟩ := hfills.exists_kept (by decide) keep hmingled true
  have hgetMin : limits.entries.getD "min_enrollment_cap" (Decoder.natural Bounds.count)
      standard.minCap = .ok limits.minCap := hmin
  have hgetMax : limits.entries.getD "max_enrollment_cap" (Decoder.natural Bounds.count)
      standard.maxCap = .ok limits.maxCap := hmax
  have hgetWaitlist : limits.entries.getD "waitlist_capacity" (Decoder.natural Bounds.count)
      standard.waitlistCapacity = .ok limits.waitlistCapacity := hwaitlist
  simp only [decode, hfound, ok_bind, Found.getD_kept hlookup, hgetMin, hgetMax, hgetWaitlist,
    ← apply_ite Except.ok]
  rfl

end RosterLimits

namespace RegistrarConfig

def keeping (keep : String → Bool) (config : RegistrarConfig) : RegistrarConfig where
  roster := if keep "roster" then config.roster.keeping keep else standard.roster
  minStudentCredits :=
    if keep "min_student_credits" then config.minStudentCredits else standard.minStudentCredits
  maxStudentCredits :=
    if keep "max_student_credits" then config.maxStudentCredits else standard.maxStudentCredits

def entries (config : RegistrarConfig) (roster : Reading) : Found :=
  [("roster", roster), ("min_student_credits", .natural config.minStudentCredits.toNat),
    ("max_student_credits", .natural config.maxStudentCredits.toNat)]

def WrittenIn (keep : String → Bool) (config : RegistrarConfig) (reading : Reading) : Prop :=
  ∃ roster members, config.roster.WrittenIn keep roster ∧
    reading = .object (members.map fun member => (some member.1, member.2)) true ∧
    Mingled (fields.map Field.name) Reading.isWhole ((config.entries roster).filter (keep ·.1))
      members

def verdict (config : RegistrarConfig) : Except ConfigTextFault RegistrarConfig :=
  match config.validate with
  | .ok () => .ok config
  | .error fault => .error (.invalid fault)

variable {config : RegistrarConfig} {keep : String → Bool} {reading : Reading} {text : String}

theorem keeping_all (config : RegistrarConfig) : config.keeping (fun _ => true) = config := rfl

theorem writtenIn_toJson (config : RegistrarConfig) :
    config.WrittenIn (fun _ => true) config.toJson.reading := by
  refine ⟨config.roster.toJson.reading, config.entries config.roster.toJson.reading,
    config.roster.writtenIn_toJson, rfl, ?_⟩
  rw [List.filter_true]
  exact mingled_self _ _ _

theorem decode_of_writtenIn (hrange : config.roster.InRange) (h : config.WrittenIn keep reading) :
    decode reading = .ok (config.keeping keep) := by
  obtain ⟨roster, members, hroster, rfl, hmingled⟩ := h
  have hlimits := RosterLimits.decode_of_writtenIn hrange hroster
  have hmin : decodeCredits (.natural config.minStudentCredits.toNat) =
      .ok config.minStudentCredits := Course.decodeCredits_eq_ok _
  have hmax : decodeCredits (.natural config.maxStudentCredits.toNat) =
      .ok config.maxStudentCredits := Course.decodeCredits_eq_ok _
  have hfills : Found.Fills fields (config.entries roster) :=
    .cons ⟨rfl, field_check hlimits _⟩ (.cons ⟨rfl, field_check hmin _⟩
      (.cons ⟨rfl, field_check hmax _⟩ .nil))
  obtain ⟨found, hfound, hlookup⟩ := hfills.exists_kept (by decide) keep hmingled true
  have hgetRoster : (config.entries roster).getD "roster" RosterLimits.decode standard.roster =
      .ok (config.roster.keeping keep) := hlimits
  have hgetMin : (config.entries roster).getD "min_student_credits" decodeCredits
      standard.minStudentCredits = .ok config.minStudentCredits := hmin
  have hgetMax : (config.entries roster).getD "max_student_credits" decodeCredits
      standard.maxStudentCredits = .ok config.maxStudentCredits := hmax
  simp only [decode, hfound, ok_bind, Found.getD_kept hlookup, hgetRoster, hgetMin, hgetMax,
    ← apply_ite Except.ok]
  rfl

theorem ofText_of_decode (h : decodeText decode text = .ok config) :
    ofText text = config.verdict := by
  simp only [ofText, h, verdict, Except.mapError, ok_bind]
  cases config.validate <;> rfl

/-- A text that spells a configuration is judged as the configuration with standard values in the
fields left out. -/
theorem ofText_of_writtenIn (hrange : config.roster.InRange) (h : config.WrittenIn keep reading)
    (htext : Document.ofText text = ⟨reading, true⟩) :
    ofText text = (config.keeping keep).verdict := by
  apply ofText_of_decode
  rw [decodeText, htext, decode_of_writtenIn hrange h]
  rfl

theorem isExact_toJson (config : RegistrarConfig) : config.toJson.isExact = true := rfl

/-- Whichever fields of a configuration a text leaves out, in whatever order the others come and
whatever else is among them, the text is judged as the configuration with the standard value in each
field that is left out; so is the text that such a JSON value is rendered to; and a configuration
that passes is read back from its own text. -/
theorem configurations_read_back :
    (∀ (keep : String → Bool) (config : RegistrarConfig) (text : String) (reading : Reading),
      config.roster.InRange → config.WrittenIn keep reading →
      Document.ofText text = ⟨reading, true⟩ → ofText text = (config.keeping keep).verdict) ∧
    (∀ (keep : String → Bool) (config : RegistrarConfig) (object : Json), config.roster.InRange →
      config.WrittenIn keep object.reading → object.isExact = true →
      ofText object.render = (config.keeping keep).verdict) ∧
    ∀ config : RegistrarConfig, config.roster.InRange → config.validate = .ok () →
      ofText config.render = .ok config := by
  refine ⟨fun keep config text reading => ofText_of_writtenIn, ?_, ?_⟩
  · intro keep config object hrange hwritten hexact
    exact ofText_of_writtenIn hrange hwritten (Document.ofText_render object hexact)
  · intro config hrange hvalid
    have hread := ofText_of_writtenIn hrange config.writtenIn_toJson
      (Document.ofText_render _ config.isExact_toJson)
    rwa [keeping_all, verdict, hvalid] at hread

/-- A text with its members in another order, others among them and two fields left out, whose
greatest credits are below the standard least ones; an object that has no limit but that of the
waitlist; and a configuration with numbers as great as can be. -/
theorem configurations_read_back_partial :
    let text := "\x7b\"max_student_credits\":2,\"notes\":[\x7b\"roster\":-1.5\x7d,\"\\ud800\"]," ++
      " \"roster\" : \x7b\"max_enrollment_cap\":18446744073709551615,\"hue\":true," ++
      "\"min_enrollment_cap\":7\x7d\x7d"
    let object : Json := .object [("", .object []),
      ("roster", .object [("waitlist_capacity", .natural 0)])]
    let greatest : RegistrarConfig := ⟨⟨1, Bounds.count, Bounds.count⟩, 1, 4294967295⟩
    ofText text = .error (.invalid (.maxCreditsBelowMin 2 3)) ∧
      ofText object.render = .ok ⟨⟨10, 250, 0⟩, 3, 18⟩ ∧ ofText greatest.render = .ok greatest := by
  intro text object greatest
  obtain ⟨htexts, hobjects, hround⟩ := configurations_read_back
  refine ⟨?_, ?_, hround greatest (by constructor <;> decide) rfl⟩
  · let keep (name : String) := name != "waitlist_capacity" && name != "min_student_credits"
    let config : RegistrarConfig := ⟨⟨7, Bounds.count, 0⟩, 0, 2⟩
    let limits : Found := [("max_enrollment_cap", .natural Bounds.count), ("hue", .bool true),
      ("min_enrollment_cap", .natural 7)]
    let roster : Reading := .object (limits.map fun member => (some member.1, member.2)) true
    let notes : Reading := .array [.object [(some "roster", .decimal)] true, .string none] true
    let members : Found := [("max_student_credits", .natural 2), ("notes", notes),
      ("roster", roster)]
    have htext : Document.ofText text =
        ⟨.object (members.map fun member => (some member.1, member.2)) true, true⟩ := by
      simp only [text, members, roster, notes, limits]
      set_option maxRecDepth 2000 in rfl
    have hlimits : config.roster.WrittenIn keep roster :=
      ⟨limits, rfl, [("hue", .bool true)], @List.perm_append_comm _ [_, _] [_],
        by simp [RosterLimits.fields, field, Reading.isWhole]⟩
    have hwritten : config.WrittenIn keep (.object _ true) :=
      ⟨roster, members, hlimits, rfl, [("notes", notes)], @List.perm_append_comm _ [_, _] [_],
        by simp [fields, field, notes, Reading.isWhole, Reading.allWhole, Reading.membersWhole]⟩
    exact htexts keep config text _ (by constructor <;> decide) hwritten htext
  · let keep (name : String) := name == "roster" || name == "waitlist_capacity"
    let config : RegistrarConfig := ⟨⟨0, 0, 0⟩, 0, 0⟩
    have hlimits : config.roster.WrittenIn keep
        (.object [(some "waitlist_capacity", .natural 0)] true) :=
      ⟨[("waitlist_capacity", .natural 0)], rfl, mingled_self _ _ _⟩
    have hwritten : config.WrittenIn keep object.reading :=
      ⟨_, _, hlimits, rfl, [("", .object [] true)], @List.perm_append_comm _ [_] [_],
        by simp [fields, field, Reading.isWhole, Reading.membersWhole]⟩
    exact hobjects keep config object (by constructor <;> decide) hwritten rfl

end RegistrarConfig

end Enrollment
