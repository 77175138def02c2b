import Enrollment.Proofs.Meeting
import Enrollment.Proofs.Run
import Enrollment.Proofs.Schedule

/-!
The history of a schedule, as its answers tell it: the items are those that were added and not taken
off since, in the order of their coming, and any two of them are apart.
-/
namespace Enrollment

abbrev ScheduleMoment (ι : Type) : Type := ScheduleCall ι × Except ScheduleError Unit

namespace ScheduleMoment

variable {ι : Type}

def added (moments : List (ScheduleMoment ι)) : List ι :=
  moments.filterMap fun
    | (.add item, .ok ()) => item
    | _ => none

variable [BEq ι]

def note (items : List ι) : ScheduleMoment ι → List ι
  | (.add (some item), .ok ()) => items ++ [item]
  | (.remove item, .ok ()) => items.eraseP (· == item)
  | (.reset, .ok ()) => []
  | _ => items

@[simp] theorem note_error (items : List ι) (call : ScheduleCall ι) (e : ScheduleError) :
    note items (call, .error e) = items := by
  obtain (_ | _) | _ | _ | _ := call <;> rfl

def told (moments : List (ScheduleMoment ι)) (items : List ι) : List ι :=
  moments.foldl note items

/-- Nothing is told of out of the order in which it was added. -/
theorem told_sublist (moments : List (ScheduleMoment ι)) (items : List ι) :
    (told moments items).Sublist (items ++ added moments) := by
  induction moments generalizing items with
  | nil => simp [told, added]
  | cons moment rest ih =>
    have hrest := ih (note items moment)
    obtain ⟨call, result⟩ := moment
    have hkept : ∀ fewer : List ι, fewer.Sublist items →
        (fewer ++ added rest).Sublist (items ++ added rest) :=
      fun fewer hfewer => hfewer.append (List.Sublist.refl _)
    cases result with
    | error e =>
      rw [note_error] at hrest
      obtain (_ | _) | _ | _ | _ := call <;> exact hrest
    | ok =>
      cases call with
      | add item =>
        cases item with
        | none => exact hrest
        | some item =>
          rw [note, List.append_assoc] at hrest
          exact hrest
      | remove item => exact hrest.trans (hkept _ List.eraseP_sublist)
      | setTitle title => exact hrest
      | reset => exact hrest.trans (hkept _ (List.nil_sublist _))

end ScheduleMoment

variable {ι κ : Type} [BEq ι] [Schedulable ι κ] [BEq κ]

namespace Schedule

structure Apart (a b : ι) : Prop where
  identity : (Schedulable.identity a == Schedulable.identity b) = false
  differ : (a == b) = false
  meeting : (Schedulable.meeting a).conflictsWith (Schedulable.meeting b) = false
  meeting_back : (Schedulable.meeting b).conflictsWith (Schedulable.meeting a) = false

theorem Apart.symm [PartialEquivBEq ι] [PartialEquivBEq κ] {a b : ι} (h : Apart a b) :
    Apart b a where
  identity := by
    rw [BEq.comm]
    exact h.identity
  differ := by
    rw [BEq.comm]
    exact h.differ
  meeting := h.meeting_back
  meeting_back := h.meeting

/-- Each item is tested with those before it only, and only one way; conflict goes both ways. -/
theorem pairwise_apart_append [ToString κ] {item : ι} {items : List ι} (h : items.Pairwise Apart)
    (hcheck : checkAgainst item items = .ok ()) (hany : items.any (· == item) = false) :
    (items ++ [item]).Pairwise Apart := by
  refine List.pairwise_append.mpr ⟨h, List.pairwise_singleton _ _, ?_⟩
  intro existing hexisting other hother
  obtain rfl := List.mem_singleton.mp hother
  obtain ⟨hidentity, hmeeting⟩ := checkAgainst_eq_ok_iff.mp hcheck existing hexisting
  refine ⟨hidentity, ?_, hmeeting, ?_⟩
  · simpa using List.any_eq_false.mp hany existing hexisting
  · rw [Meeting.conflictsWith_comm]
    exact hmeeting

structure Keeps (items : List ι) (schedule : Schedule ι) : Prop where
  carries : Carries schedule.title items schedule
  apart : items.Pairwise Apart
  title : Text.isBlank schedule.title = false

theorem keeps_empty : Keeps [] (empty : Schedule ι) :=
  ⟨carries_empty, List.Pairwise.nil, isBlank_defaultTitle⟩

theorem Carries.keeps {title : String} {items : List ι} {schedule : Schedule ι}
    (h : Carries title items schedule) (hapart : items.Pairwise Apart)
    (htitle : Text.isBlank title = false) : Keeps items schedule := by
  obtain rfl := h.title
  exact ⟨h, hapart, htitle⟩

end Schedule

namespace ScheduleCall

open Schedule

variable [ToString κ] {schedule : Schedule ι} {items : List ι}

theorem keeps_of_refuses {call : ScheduleCall ι} {e : ScheduleError} {heard : List Notice}
    (h : Keeps items schedule) (hcall : (perform call).Refuses schedule e heard) :
    Keeps (ScheduleMoment.note items (call, (perform call schedule).result))
      (perform call schedule).state := by
  rw [hcall.result, hcall.state, ScheduleMoment.note_error]
  exact h

theorem perform_keeps (h : Keeps items schedule) (call : ScheduleCall ι) :
    Keeps (ScheduleMoment.note items (call, (perform call schedule).result))
      (perform call schedule).state := by
  cases call with
  | add item =>
    cases item with
    | none => exact h
    | some item =>
      obtain ⟨e, heard, hadd, -, -⟩ | ⟨hcheck, hany, hadd⟩ := h.carries.add_cases item
      · exact keeps_of_refuses h hadd
      · rw [perform, hadd.result]
        exact hadd.state.keeps (pairwise_apart_append h.apart hcheck hany) h.title
  | remove item =>
    have hremove := (h.carries.remove_answers (ε := ScheduleError) item).map fun _ => ()
    rw [perform, hremove.result]
    exact hremove.state.keeps (h.apart.sublist List.eraseP_sublist) h.title
  | setTitle title =>
    obtain hset | ⟨hblank, hset⟩ := h.carries.setTitle_cases title
    · exact keeps_of_refuses h hset
    · rw [perform, hset.result]
      exact hset.state.keeps h.apart hblank
  | reset => exact h.carries.reset.keeps List.Pairwise.nil isBlank_defaultTitle

def moments (calls : List (ScheduleCall ι)) (schedule : Schedule ι) : List (ScheduleMoment ι) :=
  calls.zip ((Call.run perform calls schedule).map (·.result))

theorem finalState_keeps (calls : List (ScheduleCall ι)) (h : Keeps items schedule) :
    Keeps (ScheduleMoment.told (moments calls schedule) items)
      (Call.finalState perform calls schedule) := by
  induction calls generalizing schedule items with
  | nil => exact h
  | cons call rest ih => exact ih (perform_keeps h call)

/-- After any calls on an empty schedule: items in different places are apart, all of them are those
told of, in the order in which they were added, and the title is not blank. -/
theorem apart_finalState [PartialEquivBEq ι] [PartialEquivBEq κ] (calls : List (ScheduleCall ι)) :
    let told := moments calls (empty : Schedule ι)
    let reached := Call.finalState perform calls (empty : Schedule ι)
    (∀ (i j : Nat) (a b : ι), i ≠ j → reached.toList[i]? = some a →
      reached.toList[j]? = some b → Apart a b) ∧
      reached.toList = ScheduleMoment.told told [] ∧
      reached.toList.Sublist (ScheduleMoment.added told) ∧
      Text.isBlank reached.title = false := by
  intro told reached
  obtain ⟨hcarries, hapart, htitle⟩ : Keeps (ScheduleMoment.told told []) reached :=
    finalState_keeps calls keeps_empty
  refine ⟨?_, hcarries.toList_eq, ?_, htitle⟩
  · intro i j a b hne ha hb
    rw [hcarries.toList_eq] at ha hb
    obtain ⟨hi, rfl⟩ := List.getElem?_eq_some_iff.mp ha
    obtain ⟨hj, rfl⟩ := List.getElem?_eq_some_iff.mp hb
    cases Nat.lt_or_gt_of_ne hne with
    | inl hlt => exact List.pairwise_iff_getElem.mp hapart i j hi hj hlt
    | inr hgt => exact (List.pairwise_iff_getElem.mp hapart j i hj hi hgt).symm
  · rw [hcarries.toList_eq]
    exact ScheduleMoment.told_sublist told []

/-- Algebra begins as Logic ends and has to wait until Logic is taken off; Logic comes back in
another section, by arrangement. -/
theorem apart_finalState_courses :
    let logic : Course := ⟨"Logic", "Logic", "001", 3, none,
      .scheduled ⟨⟨[.monday, .wednesday], rfl, nofun⟩, 900, 1000, rfl, rfl, by decide⟩⟩
    let algebra : Course := ⟨"Algebra", "Algebra", "001", 4, none,
      .scheduled ⟨⟨[.wednesday, .friday], rfl, nofun⟩, 1000, 1100, rfl, rfl, by decide⟩⟩
    let elsewhere : Course := { logic with sectionCode := "002", meeting := .arranged }
    let calls : List (ScheduleCall Course) :=
      [add (some logic), add none, add (some algebra), add (some elsewhere), setTitle "Fall",
        setTitle " ", remove logic, add (some algebra), add (some elsewhere)]
    let reached := Call.finalState perform calls (empty : Schedule Course)
    (∀ (i j : Nat) (a b : Course), i ≠ j → reached.toList[i]? = some a →
      reached.toList[j]? = some b → Apart a b) ∧
      ScheduleMoment.told (moments calls empty) [] = reached.toList ∧
      reached.toList = [algebra, elsewhere] := by
  intro logic algebra elsewhere calls
  obtain ⟨hapart, htold, -⟩ := apart_finalState calls
  exact ⟨hapart, htold.symm, by decide +kernel⟩

end ScheduleCall

end Enrollment
