import Enrollment.Course.Basic
import Enrollment.Meeting.Form

/-!
The JSON form of a course.  What is read is not validated: texts and credits may be anything.
-/
namespace Enrollment.Course

open Json

def decodeCredits : Decoder UInt32 := fun reading =>
  (Decoder.natural Bounds.credits reading).map UInt32.ofNat

def toJson (course : Course) : Json :=
  .object [("name", .string course.name), ("title", .string course.title),
    ("section", .string course.sectionCode), ("credits", .natural course.credits.toNat),
    ("instructor_id", Json.optional .string course.instructorId),
    ("meeting", course.meeting.toJson)]

def fields : List Field :=
  [field "name" Decoder.text, field "title" Decoder.text, field "section" Decoder.text,
    field "credits" decodeCredits, field "instructor_id" (Decoder.optional Decoder.text),
    field "meeting" Meeting.decode]

def decode : Decoder Course := fun reading => do
  let found ← Found.ofReading fields false reading
  let name ← found.get "name" Decoder.text
  let title ← found.get "title" Decoder.text
  let sectionCode ← found.get "section" Decoder.text
  let credits ← found.get "credits" decodeCredits
  let instructorId ← found.getD "instructor_id" (Decoder.optional Decoder.text) none
  let meeting ← found.get "meeting" Meeting.decode
  return { name, title, sectionCode, credits, instructorId, meeting }

def render (course : Course) : String := course.toJson.render

def ofText (text : String) : Except DecodeError Course := decodeText decode text

end Enrollment.Course
