import Enrollment.Audit.Sink
import Mathlib.Data.List.DropRight

/-!
What a sink holds of all that was recorded in it: the newest entries, as many as it may hold, oldest
first.  Room is made by giving up one entry, so a sink that may hold none holds the newest.  While
there is room, nothing is given up.
-/
namespace Enrollment.AuditSink

variable {sink : AuditSink} {recorded : List AuditEntry}

/-- A sink holds the newest of some entries: as many as it may hold, and at least one. -/
def HoldsNewest (sink : AuditSink) (recorded : List AuditEntry) : Prop :=
  sink.entries = recorded.rtake (max sink.maxEvents 1)

theorem holdsNewest_empty (maxEvents : Nat) : (empty maxEvents).HoldsNewest [] :=
  (List.rtake_nil _).symm

theorem HoldsNewest.actions_eq (h : sink.HoldsNewest recorded) :
    sink.actions = (recorded.rtake (max sink.maxEvents 1)).map (·.action) := by
  rw [actions, h]

theorem HoldsNewest.length_eq (h : sink.HoldsNewest recorded) :
    sink.entries.length = min recorded.length (max sink.maxEvents 1) := by
  rw [h, List.rtake, List.length_drop]
  omega

@[simp] theorem maxEvents_record (sink : AuditSink) (entry : AuditEntry) :
    (sink.record entry).maxEvents = sink.maxEvents := by
  rw [record]
  split <;> rfl

/-- The newest of one entry more, where there is room for one. -/
theorem rtake_append_singleton {kept : Nat} (hkept : 0 < kept) (entry : AuditEntry) :
    (recorded ++ [entry]).rtake kept = recorded.drop (recorded.length + 1 - kept) ++ [entry] := by
  rw [List.rtake, List.length_append, List.length_singleton,
    List.drop_append_of_le_length (by omega)]

theorem HoldsNewest.record (h : sink.HoldsNewest recorded) (entry : AuditEntry) :
    (sink.record entry).HoldsNewest (recorded ++ [entry]) := by
  have hlength := h.length_eq
  rw [HoldsNewest, maxEvents_record, rtake_append_singleton (by omega)]
  rw [HoldsNewest, List.rtake] at h
  rw [AuditSink.record]
  by_cases hfull : sink.entries.length ≥ sink.maxEvents
  · have hsame : recorded.drop (recorded.length - max sink.maxEvents 1 + 1) =
        recorded.drop (recorded.length + 1 - max sink.maxEvents 1) := by
      -- Of no entries none is given up, whatever the number is.
      by_cases hnone : recorded = []
      · simp [hnone]
      · have hpos := List.length_pos_of_ne_nil hnone
        congr 1
        omega
    rw [if_pos hfull]
    simp only [h, List.drop_drop, hsame]
  · have hall : recorded.length - max sink.maxEvents 1 = 0 := by omega
    have hstill : recorded.length + 1 - max sink.maxEvents 1 = 0 := by omega
    rw [if_neg hfull]
    simp only [h, hall, hstill]

/-- What was recorded before is the past of what is recorded now. -/
theorem HoldsNewest.foldl (h : sink.HoldsNewest recorded) (entries : List AuditEntry) :
    (entries.foldl AuditSink.record sink).HoldsNewest (recorded ++ entries) ∧
      (entries.foldl AuditSink.record sink).maxEvents = sink.maxEvents := by
  induction entries generalizing sink recorded with
  | nil => simpa using h
  | cons entry rest ih =>
    obtain ⟨hrest, hmax⟩ := ih (h.record entry)
    rw [List.append_assoc, List.singleton_append] at hrest
    exact ⟨hrest, hmax.trans (maxEvents_record sink entry)⟩

/-- A sink that may hold some entries holds just the newest of those recorded, as many as it may
hold or all of them, oldest first.  A sink that may hold none holds the newest one, which is one too
many. -/
theorem newest_held (maxEvents : Nat) (recorded : List AuditEntry) :
    let sink := recorded.foldl record (empty maxEvents)
    (0 < maxEvents →
      sink.entries = recorded.rtake maxEvents ∧
      sink.entries.length = min recorded.length maxEvents ∧
      sink.actions = (recorded.rtake maxEvents).map (·.action)) ∧
    (maxEvents = 0 →
      sink.entries = recorded.rtake 1 ∧
      sink.actions = (recorded.rtake 1).map (·.action) ∧
      (recorded ≠ [] → maxEvents < sink.entries.length)) := by
  intro sink
  obtain ⟨hnewest, hmax⟩ := (holdsNewest_empty maxEvents).foldl recorded
  have hlength := hnewest.length_eq
  have hactions := hnewest.actions_eq
  rw [HoldsNewest] at hnewest
  rw [List.nil_append, hmax, empty] at hnewest hlength hactions
  constructor
  · intro hsome
    rw [Nat.max_eq_left hsome] at hnewest hlength hactions
    exact ⟨hnewest, hlength, hactions⟩
  · rintro rfl
    refine ⟨hnewest, hactions, ?_⟩
    intro hne
    have hpos := List.length_pos_of_ne_nil hne
    have hone : sink.entries.length = min recorded.length 1 := hlength
    omega

/-- Of three entries a sink of two holds the last two. -/
theorem newest_held_two :
    let recorded : List AuditEntry := [⟨"ada", "CSC116-001", .enroll, none⟩,
      ⟨"bob", "CSC116-001", .waitlist, none⟩, ⟨"ada", "CSC116-001", .drop, none⟩]
    let sink := recorded.foldl record (empty 2)
    0 < 2 ∧ sink.entries = recorded.rtake 2 ∧ sink.entries.length = 2 ∧
      sink.actions = [.waitlist, .drop] := by
  intro recorded sink
  obtain ⟨hentries, hlength, hactions⟩ := (newest_held 2 recorded).1 (by decide)
  exact ⟨by decide, hentries, hlength, hactions⟩

/-- A sink that may hold no entry holds the one that is recorded. -/
theorem newest_held_none :
    let entry : AuditEntry := ⟨"ada", "CSC116-001", .enroll, none⟩
    let sink := [entry].foldl record (empty 0)
    sink.entries = [entry] ∧ sink.entries ≠ [entry].rtake (min 1 0) ∧
      sink.maxEvents < sink.entries.length := by
  decide

theorem file_append (sink : AuditSink) (notices more : List Notice) :
    sink.file (notices ++ more) = (sink.file notices).file more := by
  rw [file, file, file, Notice.audits_append, List.foldl_append]

/-- A sink loses nothing while it has room. -/
theorem file_of_room {notices : List Notice}
    (hroom : sink.entries.length + (Notice.audits notices).length ≤ sink.maxEvents) :
    sink.file notices = ⟨sink.maxEvents, sink.entries ++ Notice.audits notices⟩ := by
  rw [file]
  generalize Notice.audits notices = entries at hroom
  induction entries generalizing sink with
  | nil => simp
  | cons entry rest ih =>
    rw [List.length_cons] at hroom
    have hrecord : sink.record entry = ⟨sink.maxEvents, sink.entries ++ [entry]⟩ := by
      rw [record, if_neg (by omega)]
    rw [List.foldl_cons, hrecord, ih]
    · simp
    · simp
      omega

/-- Room for two lots of notices is room for one, and then for the other. -/
theorem room_append {notices more : List Notice}
    (hroom : sink.entries.length + (Notice.audits (notices ++ more)).length ≤ sink.maxEvents) :
    sink.entries.length + (Notice.audits notices).length ≤ sink.maxEvents ∧
      (sink.file notices).entries.length + (Notice.audits more).length ≤
        (sink.file notices).maxEvents := by
  rw [Notice.audits_append, List.length_append] at hroom
  have hfirst : sink.entries.length + (Notice.audits notices).length ≤ sink.maxEvents := by omega
  refine ⟨hfirst, ?_⟩
  rw [file_of_room hfirst]
  simpa [Nat.add_assoc] using hroom

end Enrollment.AuditSink
