import Enrollment.Proofs.Schedule.History

/-!
What a schedule answers when an item is added. The check goes through the items in order and tells
of the first one in the way, be it by identity or by meeting; the list behind the schedule then
refuses what is equal to an item it holds. Where equal items share an identity the list has nothing
left to refuse. Where they need not, an item may pass the check and be refused all the same, after
the log was told that it was added.
-/
namespace Enrollment

namespace Schedule

variable {ι κ : Type} [Schedulable ι κ] [BEq κ]

def inTheWay (item existing : ι) : Bool :=
  Schedulable.identity existing == Schedulable.identity item ||
    (Schedulable.meeting existing).conflictsWith (Schedulable.meeting item)

def verdict [ToString κ] (items : List ι) : Option ι → Except ScheduleError Unit
  | none => .error .nullItem
  | some item =>
    match items.find? (inTheWay item) with
    | none => .ok ()
    | some first =>
      if Schedulable.identity first == Schedulable.identity item then
        .error (.duplicateItem (toString (Schedulable.identity item)))
      else .error (.scheduleConflict (toString (Schedulable.identity first)))

theorem checkAgainst_eq_verdict [ToString κ] (item : ι) (items : List ι) :
    checkAgainst item items = verdict items (some item) := by
  induction items with
  | nil => rfl
  | cons first rest ih =>
    cases hname : Schedulable.identity first == Schedulable.identity item with
    | true => simp [checkAgainst, verdict, inTheWay, hname]
    | false =>
      cases hmeeting :
          (Schedulable.meeting first).conflictsWith (Schedulable.meeting item) with
      | true => simp [checkAgainst, verdict, inTheWay, hname, hmeeting]
      | false =>
        have hclear : inTheWay item first = false := by rw [inTheWay, hname, hmeeting]; rfl
        have hskip : verdict (first :: rest) (some item) = verdict rest (some item) := by
          simp only [verdict, List.find?_cons, hclear]
        rw [hskip, ← ih]
        simp [checkAgainst, hname, hmeeting]

theorem checkAgainst_ne_internal [ToString κ] {item : ι} {items : List ι} (error : SequenceError) :
    checkAgainst item items ≠ .error (.internal error) := by
  rw [checkAgainst_eq_verdict, verdict]
  split
  · exact nofun
  · split <;> exact nofun

variable [BEq ι]

/-- Nothing is in the way of an item, and yet an item equal to it is there. -/
structure Overlooks (items : List ι) (item : ι) : Prop where
  clear : ∀ existing ∈ items, inTheWay item existing = false
  equal : ∃ existing ∈ items, (existing == item) = true

theorem overlooks_iff [ToString κ] {items : List ι} {item : ι} :
    Overlooks items item ↔
      checkAgainst item items = .ok () ∧ items.any (· == item) = true := by
  have hclear : checkAgainst item items = .ok () ↔
      ∀ existing ∈ items, inTheWay item existing = false := by
    simp only [checkAgainst_eq_ok_iff, inTheWay, Bool.or_eq_false_iff]
  rw [hclear, List.any_eq_true]
  exact ⟨fun h => ⟨h.clear, h.equal⟩, fun h => ⟨h.1, h.2⟩⟩

/-- Where equal items share an identity, an equal item is in the way. -/
theorem not_overlooks [ToString κ] {items : List ι} {item : ι}
    (hequal : ∀ a b : ι, (a == b) = true →
      (Schedulable.identity a == Schedulable.identity b) = true) :
    ¬ Overlooks items item := by
  rw [overlooks_iff]
  intro ⟨hcheck, hany⟩
  rw [any_of_identity hequal hcheck] at hany
  cases hany

namespace Carries

variable [ToString κ] {title : String} {items : List ι} {schedule : Schedule ι} {item : ι}

theorem canAdd_iff (h : Carries title items schedule) (item : ι) :
    schedule.canAdd (some item) = true ↔ checkAgainst item items = .ok () := by
  rw [canAdd_iff_check, h.check_eq]

theorem add_overlooked (h : Carries title items schedule) (hover : Overlooks items item) :
    (add (some item)).Refuses schedule (.internal .duplicateValue) [announced item] := by
  obtain ⟨hcheck, hany⟩ := overlooks_iff.mp hover
  exact h.add_refused_late hcheck (LawfulSeq.push_refused_of_stored h.items hany)

/-- As long as there is room and no equal item is overlooked, the check alone decides. -/
theorem add_decided (h : Carries title items schedule) (hroom : items.length < Bounds.count)
    (hover : ¬ Overlooks items item) :
    (∃ e, checkAgainst item items = .error e ∧ (add (some item)).Refuses schedule e []) ∨
    checkAgainst item items = .ok () ∧
      (add (some item)).Answers schedule () (Carries title (items ++ [item])) [announced item] := by
  cases hcheck : checkAgainst item items with
  | error e => exact .inl ⟨e, rfl, h.add_refused hcheck⟩
  | ok =>
    have hany : items.any (· == item) = false := by
      rw [← Bool.not_eq_true]
      exact fun hany => hover (overlooks_iff.mpr ⟨hcheck, hany⟩)
    exact .inr ⟨rfl, h.add_answers hcheck hany hroom⟩

end Carries

end Schedule

namespace ScheduleCall

open Schedule

variable {ι κ : Type} [BEq ι] [Schedulable ι κ] [BEq κ] [ToString κ]

theorem carries_finalState (calls : List (ScheduleCall ι)) :
    let reached := Call.finalState perform calls (empty : Schedule ι)
    Carries reached.title reached.toList reached := by
  intro reached
  obtain ⟨hcarries, -, -⟩ : Keeps _ reached := finalState_keeps calls keeps_empty
  rwa [← hcarries.toList_eq] at hcarries

/-- After any calls, and as long as there is room, the first item in the way of another decides what
is answered when that is added. A refusal changes nothing; an item that is accepted comes last; and
one can be added exactly if it is accepted. -/
theorem verdict_finalState
    (hequal : ∀ a b : ι, (a == b) = true →
      (Schedulable.identity a == Schedulable.identity b) = true)
    (calls : List (ScheduleCall ι)) (offered : Option ι) :
    let reached := Call.finalState perform calls (empty : Schedule ι)
    let reply := Schedule.add offered reached
    reached.length < Bounds.count →
      reply.result = verdict reached.toList offered ∧
      (∀ e, reply.result = .error e → reply.state = reached) ∧
      (reply.result = .ok () → ∃ item, offered = some item ∧
        reply.state.toList = reached.toList ++ [item] ∧ reply.state.title = reached.title) ∧
      (reached.canAdd offered = true ↔ reply.result = .ok ()) := by
  intro reached reply hroom
  cases offered with
  | none => exact ⟨rfl, fun _ _ => rfl, nofun, ⟨nofun, nofun⟩⟩
  | some item =>
    have hcarries : Carries reached.title reached.toList reached := carries_finalState calls
    rw [hcarries.length_eq] at hroom
    rw [hcarries.canAdd_iff, ← checkAgainst_eq_verdict]
    obtain ⟨e, hcheck, hadd⟩ | ⟨hcheck, hadd⟩ :=
      hcarries.add_decided hroom (not_overlooks hequal)
    · have hresult : reply.result = .error e := hadd.result
      rw [hresult, hcheck]
      exact ⟨rfl, fun _ _ => hadd.state, nofun, Iff.rfl⟩
    · have hresult : reply.result = .ok () := hadd.result
      rw [hresult, hcheck]
      exact ⟨rfl, nofun, fun _ => ⟨item, rfl, hadd.state.toList_eq, hadd.state.title⟩, Iff.rfl⟩

/-- Algebra is named as another section of it that is there, but meets with Logic first; Sets meets
with nothing, and Logic at another hour has only its name in its way. -/
theorem verdict_finalState_courses :
    let logic : Course := ⟨"Logic", "Logic", "001", 3, none,
      .scheduled ⟨⟨[.monday, .wednesday], rfl, nofun⟩, 900, 1000, rfl, rfl, by decide⟩⟩
    let algebra : Course := { logic with name := "Algebra", meeting := .arranged }
    let again : Course := { logic with name := "Algebra", sectionCode := "002" }
    let window : TimeWindow :=
      ⟨⟨[.monday, .wednesday], rfl, nofun⟩, 1001, 1100, rfl, rfl, by decide⟩
    let later : Course := { logic with meeting := .scheduled window }
    let sets : Course := { later with name := "Sets" }
    let calls := [add (some logic), setTitle "Fall", add (some algebra)]
    let reached := Call.finalState perform calls (empty : Schedule Course)
    (∀ a b : Course, (a == b) = true →
      (Schedulable.identity a == Schedulable.identity b) = true) ∧
    reached.length < Bounds.count ∧
    (Schedule.add none reached).result = .error .nullItem ∧
    (Schedule.add (some again) reached).result = .error (.scheduleConflict "Logic") ∧
    (Schedule.add (some again) reached).state = reached ∧
    (Schedule.add (some later) reached).result = .error (.duplicateItem "Logic") ∧
    reached.canAdd (some sets) = true ∧
    (Schedule.add (some sets) reached).state.toList = [logic, algebra, sets] := by
  intro logic algebra again window later sets calls reached
  have hequal : ∀ a b : Course, (a == b) = true →
      (Schedulable.identity a == Schedulable.identity b) = true :=
    fun _ _ => Course.identity_beq
  have hroom : reached.length < Bounds.count := by decide +kernel
  obtain ⟨hnone, -⟩ := verdict_finalState hequal calls none hroom
  obtain ⟨hagain, hspared, -⟩ := verdict_finalState hequal calls (some again) hroom
  obtain ⟨hlater, -⟩ := verdict_finalState hequal calls (some later) hroom
  obtain ⟨hsets, -, hadded, hcan⟩ := verdict_finalState hequal calls (some sets) hroom
  have hmeets : verdict reached.toList (some again) = .error (.scheduleConflict "Logic") := by
    decide +kernel
  have hnamed : verdict reached.toList (some later) = .error (.duplicateItem "Logic") := by
    decide +kernel
  have hfree : verdict reached.toList (some sets) = .ok () := by decide +kernel
  have hitems : reached.toList = [logic, algebra] := by decide +kernel
  refine ⟨hequal, hroom, hnone, hagain.trans hmeets, hspared _ (hagain.trans hmeets),
    hlater.trans hnamed, hcan.mpr (hsets.trans hfree), ?_⟩
  obtain ⟨item, hitem, hlist, -⟩ := hadded (hsets.trans hfree)
  cases hitem
  rw [hlist, hitems]
  rfl

/-- After any calls, and as long as there is room: unless an equal item is overlooked, no item is
refused by the list behind the schedule, an item can be added exactly if it is accepted, and the log
is told of exactly those that are. An item whose equal is overlooked passes the check and the log is
told of it, but the list refuses it. -/
theorem overlooked_finalState (calls : List (ScheduleCall ι)) (item : ι) :
    let reached := Call.finalState perform calls (empty : Schedule ι)
    let reply := Schedule.add (some item) reached
    reached.length < Bounds.count →
      (¬ Overlooks reached.toList item →
        (∀ error, reply.result ≠ .error (.internal error)) ∧
        (reached.canAdd (some item) = true ↔ reply.result = .ok ()) ∧
        Notice.heard reply.notices = if reply.result.isOk then [announced item] else []) ∧
      (Overlooks reached.toList item →
        reached.canAdd (some item) = true ∧
        reply.result = .error (.internal .duplicateValue) ∧ reply.state = reached ∧
        Notice.heard reply.notices = [announced item]) := by
  intro reached reply hroom
  have hcarries : Carries reached.title reached.toList reached := carries_finalState calls
  rw [hcarries.length_eq] at hroom
  rw [hcarries.canAdd_iff]
  constructor
  · intro hover
    obtain ⟨e, hcheck, hadd⟩ | ⟨hcheck, hadd⟩ := hcarries.add_decided hroom hover
    · have hresult : reply.result = .error e := hadd.result
      rw [hresult, hcheck]
      refine ⟨?_, ⟨nofun, nofun⟩, hadd.heard⟩
      rintro error ⟨⟩
      exact checkAgainst_ne_internal error hcheck
    · have hresult : reply.result = .ok () := hadd.result
      rw [hresult, hcheck]
      exact ⟨nofun, Iff.rfl, hadd.heard⟩
  · intro hover
    have hadd := hcarries.add_overlooked hover
    exact ⟨(overlooks_iff.mp hover).1, hadd.result, hadd.state, hadd.heard⟩

/-- A sitting of an examination: it has a name, and is equal to any sitting of the same paper. -/
structure Sitting where
  name : String
  paper : String
  meeting : Meeting
  deriving DecidableEq

instance : BEq Sitting := ⟨fun a b => a.paper == b.paper⟩

instance : Schedulable Sitting String := ⟨Sitting.name, Sitting.meeting⟩

/-- The first sitting of a paper is on the schedule. The second is overlooked; a sitting of another
paper is not, and is added. -/
theorem overlooked_finalState_sittings :
    let first : Sitting := ⟨"First", "Logic", .arranged⟩
    let second : Sitting := ⟨"Second", "Logic", .arranged⟩
    let other : Sitting := ⟨"Third", "Algebra", .arranged⟩
    let calls := [add (some other), add (some first), remove other]
    let reached := Call.finalState perform calls (empty : Schedule Sitting)
    reached.length < Bounds.count ∧
    Overlooks reached.toList second ∧
    (Schedule.add (some second) reached).result = .error (.internal .duplicateValue) ∧
    ¬ Overlooks reached.toList other ∧
    (∀ error, (Schedule.add (some other) reached).result ≠ .error (.internal error)) ∧
    Notice.heard (Schedule.add (some other) reached).notices = [announced other] := by
  intro first second other calls reached
  have hroom : reached.length < Bounds.count := by decide +kernel
  have hover : Overlooks reached.toList second := overlooks_iff.mpr (by decide +kernel)
  have hseen : ¬ Overlooks reached.toList other := by
    rw [overlooks_iff]
    decide +kernel
  obtain ⟨-, hlate⟩ := overlooked_finalState calls second hroom
  obtain ⟨hforeseen, -⟩ := overlooked_finalState calls other hroom
  obtain ⟨-, hrefused, -, -⟩ := hlate hover
  obtain ⟨hnever, -, hheard⟩ := hforeseen hseen
  have hok : (Schedule.add (some other) reached).result.isOk = true := by decide +kernel
  rw [if_pos hok] at hheard
  exact ⟨hroom, hover, hrefused, hseen, hnever, hheard⟩

/-- With the first sitting of a paper on the schedule, the second can be added, is refused when it
is, and the log is told that it was added. -/
theorem overlooked_finalState_told :
    let first : Sitting := ⟨"First", "Logic", .arranged⟩
    let second : Sitting := ⟨"Second", "Logic", .arranged⟩
    let reached := Call.finalState perform [add (some first)] (empty : Schedule Sitting)
    let reply := Schedule.add (some second) reached
    reached.length < Bounds.count ∧ reached.canAdd (some second) = true ∧
      reply.result = .error (.internal .duplicateValue) ∧ reply.state = reached ∧
      announced second ∈ reply.notices := by
  decide +kernel

end ScheduleCall

end Enrollment
