import Enrollment.Course.Form
import Enrollment.Proofs.Json.Record
import Enrollment.Registrar.Request

/-!
The JSON forms of meetings, courses, requests and responses: what is written is read back, and
whatever way a text writes the days of a course, they are written again in the order of the
calendar.
-/
namespace Enrollment

open Json

namespace Json

variable {α : Type}

theorem decodeText_root {decode : Decoder α} {text : String} {a : α}
    (h : decodeText decode text = .ok a) : decode (Document.ofText text).root = .ok a := by
  obtain ⟨value, hvalue, halone⟩ := bind_eq_ok_iff.mp h
  split at halone
  · cases halone
    exact hvalue
  · cases halone

theorem Decoder.of_text_eq_ok {reading : Reading} {text : String}
    (h : Decoder.text reading = .ok text) : reading = .string (some text) := by
  rw [Decoder.text.eq_def] at h
  split at h
  · cases h
    rfl
  · cases h

theorem Decoder.of_natural_eq_ok {bound n : Nat} {reading : Reading}
    (h : Decoder.natural bound reading = .ok n) : reading = .natural n := by
  rw [Decoder.natural.eq_def] at h
  split at h
  · split at h
    · cases h
      rfl
    · cases h
  · cases h

theorem Decoder.natural_eq_ok {bound n : Nat} (h : n ≤ bound) :
    Decoder.natural bound (.natural n) = .ok n := if_pos h

theorem Decoder.optional_eq_ok {decode : Decoder α} {encode : α → Json} (value : Option α)
    (hdecode : ∀ a, decode (encode a).reading = .ok a)
    (hnull : ∀ a, (encode a).reading ≠ .null) :
    Decoder.optional decode (Json.optional encode value).reading = .ok value := by
  cases value with
  | none => rfl
  | some a =>
    rw [Json.optional, Decoder.optional.eq_def]
    split
    · rename_i hreading
      exact absurd hreading (hnull a)
    · rw [hdecode a]
      rfl

theorem Decoder.optional_text_eq_ok (value : Option String) :
    Decoder.optional Decoder.text (Json.optional .string value).reading = .ok value :=
  optional_eq_ok value (fun _ => rfl) fun _ => Reading.noConfusion

end Json

theorem DaySet.decode_toJson (set : DaySet) : decode set.toJson.reading = .ok set :=
  congrArg Decoder.ofMeeting set.parse_letters

namespace TimeWindow

def entries (window : TimeWindow) : Found :=
  [("days", window.days.toJson.reading), ("start", .natural window.start),
    ("end", .natural window.finish)]

theorem decode_toJson (window : TimeWindow) : decode window.toJson.reading = .ok window := by
  have hdays := window.days.decode_toJson
  have hstart := Decoder.natural_eq_ok (isTime_le window.start_isTime)
  have hfinish := Decoder.natural_eq_ok (isTime_le window.finish_isTime)
  have hfills : Found.Fills fields window.entries :=
    .cons ⟨rfl, field_check hdays _⟩ (.cons ⟨rfl, field_check hstart _⟩
      (.cons ⟨rfl, field_check hfinish _⟩ .nil))
  have hfound : Found.ofReading fields false window.toJson.reading = .ok window.entries :=
    hfills.ofReading_eq (by decide) false
  have hgetDays : window.entries.get "days" DaySet.decode = .ok window.days := hdays
  have hgetStart : window.entries.get "start" (Decoder.natural Bounds.time) = .ok window.start :=
    hstart
  have hgetFinish : window.entries.get "end" (Decoder.natural Bounds.time) = .ok window.finish :=
    hfinish
  simp only [decode, hfound, ok_bind, hgetDays, hgetStart, hgetFinish, make_self]
  rfl

structure WrittenBy (reading : Reading) (letters : String) (start finish : Nat) : Prop where
  days : reading.member? fields "days" = some (.string (some letters))
  start : reading.member? fields "start" = some (.natural start)
  finish : reading.member? fields "end" = some (.natural finish)

/-- A window that is read has the days and times that are written. -/
theorem exists_writtenBy {reading : Reading} {window : TimeWindow}
    (h : decode reading = .ok window) :
    ∃ letters, WrittenBy reading letters window.start window.finish ∧
      DaySet.parse letters = .ok window.days := by
  obtain ⟨found, hfound, h⟩ := bind_eq_ok_iff.mp h
  obtain ⟨days, hdays, h⟩ := bind_eq_ok_iff.mp h
  obtain ⟨start, hstart, h⟩ := bind_eq_ok_iff.mp h
  obtain ⟨finish, hfinish, h⟩ := bind_eq_ok_iff.mp h
  obtain ⟨rfl, rfl, rfl⟩ := make_eq_ok_iff.mp (mapError_eq_ok_iff.mp h)
  obtain ⟨_, hdays, hset⟩ := Found.get_of_ofReading hfound (by decide) hdays
  obtain ⟨_, hstart, htime⟩ := Found.get_of_ofReading hfound (by decide) hstart
  obtain ⟨_, hfinish, htime'⟩ := Found.get_of_ofReading hfound (by decide) hfinish
  obtain ⟨letters, hletters, hset⟩ := bind_eq_ok_iff.mp hset
  rw [Decoder.of_text_eq_ok hletters] at hdays
  rw [Decoder.of_natural_eq_ok htime] at hstart
  rw [Decoder.of_natural_eq_ok htime'] at hfinish
  exact ⟨letters, ⟨hdays, hstart, hfinish⟩, mapError_eq_ok_iff.mp hset⟩

end TimeWindow

namespace Meeting

theorem decode_toJson (meeting : Meeting) : decode meeting.toJson.reading = .ok meeting := by
  cases meeting with
  | arranged => rfl
  | scheduled window => exact bind_eq_ok_iff.mpr ⟨_, window.decode_toJson, rfl⟩

def WrittenBy (reading : Reading) (letters : String) (start finish : Nat) : Prop :=
  ∃ window, reading = .object [(some "Scheduled", window)] true ∧
    TimeWindow.WrittenBy window letters start finish

theorem exists_writtenBy {reading : Reading} {window : TimeWindow}
    (h : decode reading = .ok (scheduled window)) :
    ∃ letters, WrittenBy reading letters window.start window.finish ∧
      DaySet.parse letters = .ok window.days := by
  rw [decode.eq_def] at h
  split at h
  · cases h
  · cases h
  · rename_i member rest closed
    obtain ⟨read, hread, hrest⟩ := bind_eq_ok_iff.mp h
    split at hrest
    · rename_i halone
      rw [Bool.and_eq_true, List.isEmpty_iff] at halone
      obtain ⟨rfl, rfl⟩ := halone
      cases hrest
      obtain ⟨letters, hwritten, hdays⟩ := TimeWindow.exists_writtenBy hread
      exact ⟨letters, ⟨member, rfl, hwritten⟩, hdays⟩
    · cases hrest
  · cases h

theorem writtenBy_toJson (window : TimeWindow) :
    WrittenBy (scheduled window).toJson.reading window.days.letters window.start window.finish :=
  ⟨window.toJson.reading, rfl, rfl, rfl, rfl⟩

end Meeting

namespace Course

theorem decodeCredits_eq_ok (credits : UInt32) :
    decodeCredits (.natural credits.toNat) = .ok credits := by
  have hle : credits.toNat ≤ Bounds.credits := Nat.le_of_lt_succ credits.toNat_lt
  rw [decodeCredits, Decoder.natural_eq_ok hle]
  exact congrArg Except.ok UInt32.ofNat_toNat

def entries (course : Course) : Found :=
  [("name", .string (some course.name)), ("title", .string (some course.title)),
    ("section", .string (some course.sectionCode)), ("credits", .natural course.credits.toNat),
    ("instructor_id", (Json.optional .string course.instructorId).reading),
    ("meeting", course.meeting.toJson.reading)]

theorem decode_toJson (course : Course) : decode course.toJson.reading = .ok course := by
  have hcredits := decodeCredits_eq_ok course.credits
  have hinstructor := Decoder.optional_text_eq_ok course.instructorId
  have hmeeting := course.meeting.decode_toJson
  have hfills : Found.Fills fields course.entries :=
    .cons ⟨rfl, rfl⟩ (.cons ⟨rfl, rfl⟩ (.cons ⟨rfl, rfl⟩ (.cons ⟨rfl, field_check hcredits _⟩
      (.cons ⟨rfl, field_check hinstructor _⟩ (.cons ⟨rfl, field_check hmeeting _⟩ .nil)))))
  have hfound : Found.ofReading fields false course.toJson.reading = .ok course.entries :=
    hfills.ofReading_eq (by decide) false
  have hgetName : course.entries.get "name" Decoder.text = .ok course.name := rfl
  have hgetTitle : course.entries.get "title" Decoder.text = .ok course.title := rfl
  have hgetSection : course.entries.get "section" Decoder.text = .ok course.sectionCode := rfl
  have hgetCredits : course.entries.get "credits" decodeCredits = .ok course.credits := hcredits
  have hgetInstructor : course.entries.getD "instructor_id" (Decoder.optional Decoder.text) none =
      .ok course.instructorId := hinstructor
  have hgetMeeting : course.entries.get "meeting" Meeting.decode = .ok course.meeting := hmeeting
  simp only [decode, hfound, ok_bind, hgetName, hgetTitle, hgetSection, hgetCredits,
    hgetInstructor, hgetMeeting]
  rfl

theorem isExact_toJson (course : Course) : course.toJson.isExact = true := by
  obtain ⟨name, title, sectionCode, credits, instructorId, meeting⟩ := course
  cases instructorId <;> cases meeting <;> rfl

theorem ofText_render (course : Course) : ofText course.render = .ok course := by
  rw [ofText, render, decodeText_render decode _ course.isExact_toJson, decode_toJson]

def WrittenBy (text : String) (letters : String) (start finish : Nat) : Prop :=
  ∃ meeting, (Document.ofText text).root.member? fields "meeting" = some meeting ∧
    Meeting.WrittenBy meeting letters start finish

/-- A course that is read meets as is written. -/
theorem exists_writtenBy {text : String} {course : Course} {window : TimeWindow}
    (h : ofText text = .ok course) (hmeeting : course.meeting = .scheduled window) :
    ∃ letters, WrittenBy text letters window.start window.finish ∧
      DaySet.parse letters = .ok window.days := by
  obtain ⟨found, hfound, h⟩ := bind_eq_ok_iff.mp (decodeText_root h)
  obtain ⟨name, -, h⟩ := bind_eq_ok_iff.mp h
  obtain ⟨title, -, h⟩ := bind_eq_ok_iff.mp h
  obtain ⟨sectionCode, -, h⟩ := bind_eq_ok_iff.mp h
  obtain ⟨credits, -, h⟩ := bind_eq_ok_iff.mp h
  obtain ⟨instructorId, -, h⟩ := bind_eq_ok_iff.mp h
  obtain ⟨meeting, hget, h⟩ := bind_eq_ok_iff.mp h
  cases h
  obtain ⟨member, hmember, hdecode⟩ := Found.get_of_ofReading hfound (by decide) hget
  obtain rfl : meeting = .scheduled window := hmeeting
  obtain ⟨letters, hwritten, hdays⟩ := Meeting.exists_writtenBy hdecode
  exact ⟨letters, ⟨member, hmember, hwritten⟩, hdays⟩

/-- A course is written with its days in the order of the calendar. -/
theorem writtenBy_render {course : Course} {window : TimeWindow}
    (hmeeting : course.meeting = .scheduled window) :
    WrittenBy course.render window.days.letters window.start window.finish := by
  rw [WrittenBy, render, Document.ofText_render _ course.isExact_toJson]
  refine ⟨course.meeting.toJson.reading, rfl, ?_⟩
  rw [hmeeting]
  exact Meeting.writtenBy_toJson window

end Course

namespace EnrollmentRequest

def entries (request : EnrollmentRequest) : Found :=
  [("student_id", .string (some request.studentId)),
    ("course_name", .string (some request.courseName)),
    ("section", .string (some request.sectionCode))]

theorem decode_toJson (request : EnrollmentRequest) :
    decode request.toJson.reading = .ok request := by
  have hfills : Found.Fills fields request.entries :=
    .cons ⟨rfl, rfl⟩ (.cons ⟨rfl, rfl⟩ (.cons ⟨rfl, rfl⟩ .nil))
  have hfound : Found.ofReading fields false request.toJson.reading = .ok request.entries :=
    hfills.ofReading_eq (by decide) false
  simp only [decode, hfound, ok_bind]
  rfl

end EnrollmentRequest

theorem EnrollmentStatus.decode_toJson (status : EnrollmentStatus) :
    decode status.toJson.reading = .ok status := by
  cases status <;> rfl

namespace RosterSnapshot

structure InRange (snapshot : RosterSnapshot) : Prop where
  enrollmentCap_le : snapshot.enrollmentCap ≤ Bounds.count
  enrolled_le : snapshot.enrolled ≤ Bounds.count
  openSeats_le : snapshot.openSeats ≤ Bounds.count
  waitlisted_le : snapshot.waitlisted ≤ Bounds.count
  waitlistCapacity_le : snapshot.waitlistCapacity ≤ Bounds.count

def entries (snapshot : RosterSnapshot) : Found :=
  [("course", .string (some snapshot.course)), ("enrollment_cap", .natural snapshot.enrollmentCap),
    ("enrolled", .natural snapshot.enrolled), ("open_seats", .natural snapshot.openSeats),
    ("waitlisted", .natural snapshot.waitlisted),
    ("waitlist_capacity", .natural snapshot.waitlistCapacity)]

theorem decode_toJson {snapshot : RosterSnapshot} (h : snapshot.InRange) :
    decode snapshot.toJson.reading = .ok snapshot := by
  have hcap := Decoder.natural_eq_ok h.enrollmentCap_le
  have henrolled := Decoder.natural_eq_ok h.enrolled_le
  have hseats := Decoder.natural_eq_ok h.openSeats_le
  have hwaitlisted := Decoder.natural_eq_ok h.waitlisted_le
  have hcapacity := Decoder.natural_eq_ok h.waitlistCapacity_le
  have hfills : Found.Fills fields snapshot.entries :=
    .cons ⟨rfl, rfl⟩ (.cons ⟨rfl, field_check hcap _⟩ (.cons ⟨rfl, field_check henrolled _⟩
      (.cons ⟨rfl, field_check hseats _⟩ (.cons ⟨rfl, field_check hwaitlisted _⟩
        (.cons ⟨rfl, field_check hcapacity _⟩ .nil)))))
  have hfound : Found.ofReading fields false snapshot.toJson.reading = .ok snapshot.entries :=
    hfills.ofReading_eq (by decide) false
  have hget : ∀ name reading, snapshot.entries.lookup name = some reading →
      snapshot.entries.get name (Decoder.natural Bounds.count) =
        Decoder.natural Bounds.count reading := by
    intro name reading hlookup
    rw [Found.get, hlookup]
  have hgetCourse : snapshot.entries.get "course" Decoder.text = .ok snapshot.course := rfl
  simp only [decode, hfound, ok_bind, hgetCourse, hget "enrollment_cap" _ rfl,
    hget "enrolled" _ rfl, hget "open_seats" _ rfl, hget "waitlisted" _ rfl,
    hget "waitlist_capacity" _ rfl, hcap, henrolled, hseats, hwaitlisted, hcapacity]
  rfl

end RosterSnapshot

namespace EnrollmentResponse

def entries (response : EnrollmentResponse) : Found :=
  [("status", (Json.optional EnrollmentStatus.toJson response.status).reading),
    ("promoted", (Json.optional .string response.promoted).reading),
    ("roster", response.roster.toJson.reading)]

theorem decode_toJson {response : EnrollmentResponse} (h : response.roster.InRange) :
    decode response.toJson.reading = .ok response := by
  have hstatus := Decoder.optional_eq_ok response.status EnrollmentStatus.decode_toJson
    (fun _ => Reading.noConfusion)
  have hpromoted := Decoder.optional_text_eq_ok response.promoted
  have hroster := RosterSnapshot.decode_toJson h
  have hfills : Found.Fills fields response.entries :=
    .cons ⟨rfl, field_check hstatus _⟩ (.cons ⟨rfl, field_check hpromoted _⟩
      (.cons ⟨rfl, field_check hroster _⟩ .nil))
  have hfound : Found.ofReading fields false response.toJson.reading = .ok response.entries :=
    hfills.ofReading_eq (by decide) false
  have hgetStatus : response.entries.getD "status" (Decoder.optional EnrollmentStatus.decode) none =
      .ok response.status := hstatus
  have hgetPromoted : response.entries.getD "promoted" (Decoder.optional Decoder.text) none =
      .ok response.promoted := hpromoted
  have hgetRoster : response.entries.get "roster" RosterSnapshot.decode = .ok response.roster :=
    hroster
  simp only [decode, hfound, ok_bind, hgetStatus, hgetPromoted, hgetRoster]
  rfl

theorem isExact_toJson (response : EnrollmentResponse) : response.toJson.isExact = true := by
  obtain ⟨status, promoted, roster⟩ := response
  cases status <;> cases promoted <;> rfl

end EnrollmentResponse

/-- Courses, requests and responses are read back from their texts; and a course that is read from
any text is written with the days of that text in the order of the calendar. -/
theorem forms_read_back :
    (∀ course : Course, Course.ofText course.render = .ok course) ∧
    (∀ request : EnrollmentRequest,
      decodeText EnrollmentRequest.decode request.toJson.render = .ok request) ∧
    (∀ response : EnrollmentResponse, response.roster.InRange →
      decodeText EnrollmentResponse.decode response.toJson.render = .ok response) ∧
    ∀ (text : String) (course : Course), Course.ofText text = .ok course →
      Course.ofText course.render = .ok course ∧
      ∀ window, course.meeting = .scheduled window →
        ∃ letters, Course.WrittenBy text letters window.start window.finish ∧
          Course.WrittenBy course.render window.days.letters window.start window.finish ∧
          window.days.letters.toList.Perm letters.toList ∧
          window.days.letters.toList.Sublist ['M', 'T', 'W', 'H', 'F'] := by
  refine ⟨Course.ofText_render, ?_, ?_, ?_⟩
  · intro request
    rw [decodeText_render _ _ rfl, request.decode_toJson]
  · intro response h
    rw [decodeText_render _ _ response.isExact_toJson, EnrollmentResponse.decode_toJson h]
  · intro text course hread
    refine ⟨course.ofText_render, ?_⟩
    intro window hmeeting
    obtain ⟨letters, hwritten, hdays⟩ := Course.exists_writtenBy hread hmeeting
    exact ⟨letters, hwritten, Course.writtenBy_render hmeeting, DaySet.letters_perm hdays,
      window.days.letters_sublist⟩

/-- A text with its members in another order, one more member, the window as an array and the days
backwards; and a response with counts as great as can be. -/
theorem forms_read_back_backwards :
    let text := "\x7b\"meeting\":\x7b\"Scheduled\":[\"FWM\",900,950]\x7d,\"room\":[-1.5,null]," ++
      "\"credits\":3,\"section\":\"001\",\"title\":\"Alg\\u00e8bre\"," ++
      "\"name\":\"A\\/\\ud835\\udd38\"\x7d"
    let days : DaySet := DaySet.ofDays [.monday, .wednesday, .friday] (by decide)
    let window : TimeWindow := ⟨days, 900, 950, by decide, by decide, by decide⟩
    let course : Course := ⟨"A/𝔸", "Algèbre", "001", 3, none, .scheduled window⟩
    let response : EnrollmentResponse := ⟨some .waitlisted, some "\"ada\"\\\n",
      ⟨"A/𝔸-001", Bounds.count, 0, Bounds.count, 1, Bounds.count⟩⟩
    Course.ofText text = .ok course ∧ response.roster.InRange ∧
      Course.ofText course.render = .ok course ∧
      decodeText EnrollmentResponse.decode response.toJson.render = .ok response ∧
      (∃ letters, Course.WrittenBy text letters 900 950 ∧
        Course.WrittenBy course.render "MWF" 900 950 ∧ "MWF".toList.Perm letters.toList) ∧
      course.render = "\x7b\"name\":\"A/𝔸\",\"title\":\"Algèbre\",\"section\":\"001\"," ++
        "\"credits\":3,\"instructor_id\":null,\"meeting\":\x7b\"Scheduled\":" ++
        "\x7b\"days\":\"MWF\",\"start\":900,\"end\":950\x7d\x7d\x7d" := by
  intro text days window course response
  have hread : Course.ofText text = .ok course := by decide +kernel
  have hrange : response.roster.InRange := by constructor <;> decide
  obtain ⟨-, -, hresponse, hcourse⟩ := forms_read_back
  obtain ⟨hagain, hdays⟩ := hcourse text course hread
  obtain ⟨letters, hwritten, hrender, hperm, -⟩ := hdays window rfl
  exact ⟨hread, hrange, hagain, hresponse response hrange, ⟨letters, hwritten, hrender, hperm⟩,
    by decide +kernel⟩

end Enrollment
