import Enrollment.Proofs.Sequence.SlotList
import Enrollment.Proofs.Sequence.Storing
import Enrollment.Student

/-!
What the calls on a schedule do to the list of its items; and what more is known where the items are
courses, which are never equal under two names.
-/
namespace Enrollment

/-- Where no two values are equal, one equal to a value is left when the first such is taken out. -/
theorem Distinct.mem_eraseP_iff {α : Type} [BEq α] [EquivBEq α] {items : List α}
    (h : Distinct items) {item other : α} :
    other ∈ items.eraseP (· == item) ↔ other ∈ items ∧ (other == item) = false := by
  induction items with
  | nil => simp
  | cons first rest ih =>
    obtain ⟨hfirst, hrest⟩ := List.pairwise_cons.mp h
    cases heq : first == item with
    | true =>
      simp only [List.eraseP_cons, heq, cond_true, List.mem_cons]
      constructor
      · intro hmem
        refine ⟨.inr hmem, ?_⟩
        have hne := hfirst other hmem
        rwa [BEq.congr_left heq, BEq.comm] at hne
      · intro h
        obtain ⟨rfl | hmem, hne⟩ := h
        · rw [heq] at hne
          cases hne
        · exact hmem
    | false =>
      simp only [List.eraseP_cons, heq, cond_false, List.mem_cons, ih hrest]
      constructor
      · intro h
        obtain rfl | ⟨hmem, hne⟩ := h
        · exact ⟨.inl rfl, heq⟩
        · exact ⟨.inr hmem, hne⟩
      · intro h
        obtain ⟨rfl | hmem, hne⟩ := h
        · exact .inl rfl
        · exact .inr ⟨hmem, hne⟩

inductive ScheduleCall (ι : Type)
  | add (item : Option ι)
  | remove (item : ι)
  | setTitle (title : String)
  | reset

def ScheduleCall.perform {ι κ : Type} [BEq ι] [Schedulable ι κ] [BEq κ] [ToString κ] :
    ScheduleCall ι → Call (Schedule ι) ScheduleError Unit
  | add item => Schedule.add item
  | remove item => do let _ ← Schedule.remove item
  | setTitle title => Schedule.setTitle title
  | reset => do
    let schedule ← Call.current
    Call.become schedule.reset

namespace Schedule

theorem isBlank_defaultTitle : Text.isBlank defaultTitle = false := by
  decide +kernel

section Generic

/-- An item passes the check if it differs in identity from all items there, and meets with none. -/
theorem checkAgainst_eq_ok_iff {ι κ : Type} [Schedulable ι κ] [BEq κ] [ToString κ] {item : ι}
    {items : List ι} : checkAgainst item items = .ok () ↔
      ∀ existing ∈ items, (Schedulable.identity existing == Schedulable.identity item) = false ∧
        (Schedulable.meeting existing).conflictsWith (Schedulable.meeting item) = false := by
  induction items with
  | nil => exact iff_of_true rfl (List.forall_mem_nil _)
  | cons first rest ih =>
    rw [checkAgainst, List.forall_mem_cons]
    cases Schedulable.identity first == Schedulable.identity item with
    | true => simp
    | false =>
      cases (Schedulable.meeting first).conflictsWith (Schedulable.meeting item) with
      | true => simp
      | false => simpa using ih

theorem canAdd_iff_check {ι κ : Type} [Schedulable ι κ] [BEq κ] [ToString κ]
    {schedule : Schedule ι} {item : ι} :
    schedule.canAdd (some item) = true ↔ schedule.check item = .ok () := by
  rw [canAdd]
  cases schedule.check item with
  | ok => exact iff_of_true rfl rfl
  | error e => exact iff_of_false Bool.false_ne_true nofun

/-- Where equal items share an identity, an item that passes the check equals none of those there. -/
theorem any_of_identity {ι κ : Type} [BEq ι] [Schedulable ι κ] [BEq κ] [ToString κ] {item : ι}
    {items : List ι} (hequal : ∀ a b : ι, (a == b) = true →
      (Schedulable.identity a == Schedulable.identity b) = true)
    (h : checkAgainst item items = .ok ()) : items.any (· == item) = false := by
  rw [List.any_eq_false]
  intro existing hexisting heq
  have hname := (checkAgainst_eq_ok_iff.mp h existing hexisting).1
  rw [hequal existing item heq] at hname
  cases hname

def announced {ι κ : Type} [Schedulable ι κ] [ToString κ] (item : ι) : Notice :=
  .log ⟨.debug, "added to schedule", [("item", .text (toString (Schedulable.identity item)))]⟩

theorem announced_answers {ι κ : Type} [Schedulable ι κ] [ToString κ] (schedule : Schedule ι)
    (item : ι) :
    (Call.log .debug "added to schedule" [("item", .text (toString (Schedulable.identity item)))] :
      Call (Schedule ι) ScheduleError Unit).Answers schedule () (fun logged => logged = schedule)
      [announced item] :=
  Call.Answers.log (by decide) _ _ rfl

variable {ι κ ε : Type} [BEq ι] {schedule : Schedule ι} {title : String} {items : List ι}

structure Carries (title : String) (items : List ι) (schedule : Schedule ι) : Prop where
  title : schedule.title = title
  items : LawfulSeq.Holds items Bounds.count schedule.items

theorem carries_empty : Carries defaultTitle [] (empty : Schedule ι) :=
  ⟨rfl, LawfulSeq.holds_bounded Bounds.count⟩

namespace Carries

theorem toList_eq (h : Carries title items schedule) : schedule.toList = items := h.items.items

theorem length_eq (h : Carries title items schedule) : schedule.length = items.length := by
  rw [← h.toList_eq]
  exact LawfulSeq.length_eq h.items.sound

theorem remove_answers (h : Carries title items schedule) (item : ι) :
    (remove item : Call (Schedule ι) ε Bool).Answers schedule
      (items.find? (· == item)).isSome (Carries title (items.eraseP (· == item))) [] :=
  ((LawfulSeq.removeItem_eraseP h.items item).within fun _ hlist => ⟨h.title, hlist⟩).map
    Option.isSome

theorem reset (h : Carries title items schedule) : Carries defaultTitle [] schedule.reset :=
  ⟨rfl, LawfulSeq.holds_clear h.items⟩

theorem setTitle_cases (h : Carries title items schedule) (new : String) :
    (setTitle new).Refuses schedule .invalidTitle [] ∨
    Text.isBlank new = false ∧ (setTitle new).Answers schedule () (Carries new items) [] := by
  cases hblank : Text.isBlank new with
  | true =>
    have hcall : setTitle new schedule = ⟨.error .invalidTitle, schedule, []⟩ := by
      simp [setTitle, hblank]
    exact .inl (Call.Refuses.of_eq hcall rfl)
  | false =>
    have hcall : setTitle new schedule = ⟨.ok (), { schedule with title := new }, []⟩ := by
      simp [setTitle, hblank]
    exact .inr ⟨rfl, Call.Answers.of_eq hcall ⟨rfl, h.items⟩ rfl⟩

section Adding

variable [Schedulable ι κ] [BEq κ] [ToString κ] {item : ι} {e : ScheduleError}

theorem check_eq (h : Carries title items schedule) (item : ι) :
    schedule.check item = checkAgainst item items := by
  rw [check, h.toList_eq]

theorem add_refused (h : Carries title items schedule) (hcheck : checkAgainst item items = .error e) :
    (add (some item)).Refuses schedule e [] :=
  Call.Refuses.current_bind (Call.Refuses.ofExcept_error ((h.check_eq item).trans hcheck) _)

/-- Where the list refuses an item, the log has been told already that it was added. -/
theorem add_refused_late (h : Carries title items schedule) (hcheck : checkAgainst item items = .ok ())
    {error : SequenceError} (hpush : (BoundedSeq.push (some item)).Refuses schedule.items error []) :
    (add (some item)).Refuses schedule (.internal error) [announced item] :=
  Call.Refuses.current_bind (Call.Refuses.ofExcept_bind ((h.check_eq item).trans hcheck)
    (Call.Refuses.bind_second (announced_answers schedule item)
      ((Call.Refuses.within hpush rfl).mapError _)))

theorem add_answers (h : Carries title items schedule) (hcheck : checkAgainst item items = .ok ())
    (hany : items.any (· == item) = false) (hroom : items.length < Bounds.count) :
    (add (some item)).Answers schedule () (Carries title (items ++ [item])) [announced item] := by
  refine Call.Answers.current_bind (Call.Answers.ofExcept_bind ((h.check_eq item).trans hcheck) ?_)
  apply (announced_answers schedule item).bind_quiet
  intro logged hlogged
  subst hlogged
  exact ((LawfulSeq.push_answers h.items hany hroom).within fun _ hlist =>
    ⟨h.title, hlist⟩).mapError _

/-- An item is refused by the check, by the list as one it holds, or for want of room; or it comes
after the others. -/
theorem add_cases (h : Carries title items schedule) (item : ι) :
    (∃ e heard, (add (some item)).Refuses schedule e heard ∧ Notice.audits heard = [] ∧
      (checkAgainst item items = .error e ∨ checkAgainst item items = .ok () ∧
        (items.any (· == item) = true ∨ Bounds.count ≤ items.length))) ∨
    checkAgainst item items = .ok () ∧ items.any (· == item) = false ∧
      (add (some item)).Answers schedule () (Carries title (items ++ [item])) [announced item] := by
  cases hcheck : checkAgainst item items with
  | error e => exact .inl ⟨e, [], h.add_refused hcheck, rfl, .inl rfl⟩
  | ok =>
    cases hany : items.any (· == item) with
    | true =>
      exact .inl ⟨_, _, h.add_refused_late hcheck (LawfulSeq.push_refused_of_stored h.items hany),
        rfl, .inr ⟨rfl, .inl rfl⟩⟩
    | false =>
      by_cases hroom : items.length < Bounds.count
      · exact .inr ⟨rfl, rfl, h.add_answers hcheck hany hroom⟩
      · have hfull : Bounds.count ≤ items.length := Nat.le_of_not_lt hroom
        exact .inl ⟨_, _, h.add_refused_late hcheck (LawfulSeq.push_refused h.items hany hfull), rfl,
          .inr ⟨rfl, .inr hfull⟩⟩

end Adding

end Carries

end Generic

variable {ε : Type} {schedule : Schedule Course} {course : Course}

structure Sound (schedule : Schedule Course) : Prop where
  items : LawfulSeq.Holds schedule.toList Bounds.count schedule.items
  distinct : Distinct schedule.toList

structure Shows (title : String) (items : List Course) (schedule : Schedule Course) : Prop where
  sound : schedule.Sound
  title : schedule.title = title
  items : schedule.toList = items

theorem Sound.carries (h : schedule.Sound) : Carries schedule.title schedule.toList schedule :=
  ⟨rfl, h.items⟩

theorem Carries.shows {title : String} {items : List Course} (h : Carries title items schedule)
    (hdistinct : Distinct items) : Shows title items schedule := by
  refine ⟨⟨?_, ?_⟩, h.title, h.toList_eq⟩
  · rw [h.toList_eq]
    exact h.items
  · rwa [h.toList_eq]

theorem shows_empty : Shows defaultTitle [] (empty : Schedule Course) :=
  carries_empty.shows List.Pairwise.nil

theorem any_of_checkAgainst {items : List Course} (h : checkAgainst course items = .ok ()) :
    items.any (· == course) = false :=
  any_of_identity (fun _ _ => Course.identity_beq) h

/-- An item is refused by the check or for want of room, or comes after the others. -/
theorem add_cases (h : schedule.Sound) (course : Course) :
    (∃ e heard, (add (some course)).Refuses schedule e heard ∧ Notice.audits heard = [] ∧
      (schedule.check course = .error e ∨ Bounds.count ≤ schedule.toList.length)) ∨
    schedule.check course = .ok () ∧
      (add (some course)).Answers schedule ()
        (Shows schedule.title (schedule.toList ++ [course])) [announced course] := by
  obtain ⟨e, heard, hadd, haudits, hcause⟩ | ⟨hcheck, hany, hadd⟩ := h.carries.add_cases course
  · refine .inl ⟨e, heard, hadd, haudits, ?_⟩
    obtain hcheck | ⟨hcheck, hany | hfull⟩ := hcause
    · exact .inl hcheck
    · rw [any_of_checkAgainst hcheck] at hany
      cases hany
    · exact .inr hfull
  · exact .inr ⟨hcheck, hadd.mono fun _ ht => ht.shows (h.distinct.append_singleton hany)⟩

theorem remove_answers (h : schedule.Sound) (course : Course) :
    (remove course : Call (Schedule Course) ε Bool).Answers schedule
      (schedule.toList.find? (· == course)).isSome
      (Shows schedule.title (schedule.toList.eraseP (· == course))) [] :=
  (h.carries.remove_answers course).mono fun _ ht =>
    ht.shows (h.distinct.sublist List.eraseP_sublist)

theorem shows_reset (h : schedule.Sound) : Shows defaultTitle [] schedule.reset :=
  h.carries.reset.shows List.Pairwise.nil

theorem setTitle_cases (h : schedule.Sound) (title : String) :
    (setTitle title).Refuses schedule .invalidTitle [] ∨
      (setTitle title).Answers schedule () (Shows title schedule.toList) [] := by
  obtain hset | ⟨-, hset⟩ := h.carries.setTitle_cases title
  · exact .inl hset
  · exact .inr (hset.mono fun _ ht => ht.shows h.distinct)

theorem sound_empty : (empty : Schedule Course).Sound :=
  shows_empty.sound

theorem Sound.perform (h : schedule.Sound) (call : ScheduleCall Course) :
    (call.perform schedule).state.Sound := by
  cases call with
  | add item =>
    cases item with
    | none => exact h
    | some course =>
      obtain ⟨e, heard, hadd, -, -⟩ | ⟨-, hadd⟩ := add_cases h course
      · have hstate : (ScheduleCall.perform (.add (some course)) schedule).state = schedule :=
          hadd.state
        rwa [hstate]
      · exact hadd.state.sound
  | remove course => exact ((remove_answers h course).map fun _ => ()).state.sound
  | setTitle title =>
    obtain hset | hset := setTitle_cases h title
    · have hstate : (ScheduleCall.perform (.setTitle title) schedule).state = schedule :=
        hset.state
      rwa [hstate]
    · exact hset.state.sound
  | reset => exact (shows_reset h).sound

theorem Sound.length_eq (h : schedule.Sound) : schedule.length = schedule.toList.length :=
  h.carries.length_eq

end Schedule

end Enrollment
