import Enrollment.Proofs.Json.Document
import Enrollment.Proofs.Meeting
import Mathlib.Data.List.Forall2

/-!
Records and readings: a record that is written with all its fields is found again, and whatever is
found of a field stands in the reading under the name of the field, or in its place.
-/
namespace Enrollment.Json

variable {α : Type}

theorem field_check {decode : Decoder α} {reading : Reading} {a : α}
    (h : decode reading = .ok a) (name : String) : (field name decode).check reading = .ok () := by
  simp only [field, h]
  rfl

section Members

variable {V : Type} {members given : List (String × V)} {names : List String} {whole : V → Bool}

/-- Members of an object, in any order: those that are given, and others that are whole and have
none of some names. -/
def Mingled (names : List String) (whole : V → Bool) (given members : List (String × V)) : Prop :=
  ∃ others, members.Perm (given ++ others) ∧
    ∀ other ∈ others, other.1 ∉ names ∧ whole other.2 = true

theorem mingled_self (names : List String) (whole : V → Bool) (given : List (String × V)) :
    Mingled names whole given given :=
  ⟨[], by rw [List.append_nil], List.forall_mem_nil _⟩

/-- Where no name comes twice, what is found under a name does not depend on the order. -/
theorem lookup_eq_of_perm (h : members.Perm given) (hdistinct : (members.map Prod.fst).Nodup)
    (name : String) : members.lookup name = given.lookup name := by
  induction h with
  | nil => rfl
  | cons member hrest ih =>
    obtain ⟨key, value⟩ := member
    rw [List.map_cons, List.nodup_cons] at hdistinct
    rw [List.lookup_cons, List.lookup_cons, ih hdistinct.2]
  | swap first second rest =>
    obtain ⟨key, value⟩ := first
    obtain ⟨other, value'⟩ := second
    have hkeys : other ≠ key := by
      intro heq
      simp [heq] at hdistinct
    rw [List.lookup_cons, List.lookup_cons, List.lookup_cons, List.lookup_cons]
    by_cases hname : name = key
    · have hother : (name == other) = false := by simpa [hname] using hkeys.symm
      rw [hother]
    · have hne : (name == key) = false := by simpa using hname
      rw [hne]
  | trans hfirst hsecond ih ih' =>
    rw [ih hdistinct, ih' ((hfirst.map Prod.fst).nodup_iff.mp hdistinct)]

theorem lookup_filter_fst (members : List (String × V)) (keep : String → Bool) (name : String) :
    (members.filter (keep ·.1)).lookup name = if keep name then members.lookup name else none := by
  induction members with
  | nil => simp
  | cons member rest ih =>
    obtain ⟨key, value⟩ := member
    by_cases hname : name = key
    · subst hname
      cases hkeep : keep name <;> simp [hkeep, ih]
    · have hne : (name == key) = false := by simpa using hname
      cases hkeep : keep key <;> simp [List.lookup_cons, hkeep, hne, ih]

end Members

def Reading.member? (fields : List Field) (name : String) : Reading → Option Reading
  | .object members _ => members.lookup (some name)
  | .array items _ => ((fields.map Field.name).zip items).lookup name
  | _ => none

namespace Found

variable {fields : List Field} {found result : Found} {name : String}

def names (fields : List Field) (name : String) : Bool :=
  (fields.find? (·.name == name)).isSome

/-- Among members of which the fields come once each, the fields are found in their order, and the
others are passed over if they are JSON. -/
theorem ofMembers_eq {members : Found}
    (hdistinct : ((found ++ members.filter (names fields ·.1)).map Prod.fst).Nodup)
    (hheld : ∀ member ∈ members, ∀ field,
      fields.find? (·.name == member.1) = some field → field.check member.2 = .ok ())
    (hwhole : ∀ member ∈ members,
      fields.find? (·.name == member.1) = none → member.2.isWhole = true) :
    ofMembers fields found (members.map fun member => (some member.1, member.2)) =
      .ok (found ++ members.filter (names fields ·.1)) := by
  induction members generalizing found with
  | nil => rw [List.filter_nil, List.append_nil]; rfl
  | cons member rest ih =>
    obtain ⟨name, reading⟩ := member
    obtain ⟨hcheck, hheld⟩ := List.forall_mem_cons.mp hheld
    obtain ⟨hpass, hwhole⟩ := List.forall_mem_cons.mp hwhole
    cases hfield : fields.find? (·.name == name) with
    | none =>
      have hdrop : ((name, reading) :: rest).filter (names fields ·.1) =
          rest.filter (names fields ·.1) :=
        List.filter_cons_of_neg (by simp [names, hfield])
      rw [hdrop] at hdistinct ⊢
      rw [← ih hdistinct hheld hwhole]
      simp only [List.map_cons, ofMembers, hfield, Decoder.ignored, hpass hfield]
      rfl
    | some field =>
      have hkeep : ((name, reading) :: rest).filter (names fields ·.1) =
          (name, reading) :: rest.filter (names fields ·.1) :=
        List.filter_cons_of_pos (by simp [names, hfield])
      rw [hkeep] at hdistinct ⊢
      have hnew : found.lookup name = none := by
        rw [List.lookup_eq_none_iff]
        intro entry hentry
        rw [List.map_append, List.map_cons] at hdistinct
        have hne := (List.nodup_append.mp hdistinct).2.2 entry.1 (List.mem_map_of_mem hentry) name
          List.mem_cons_self
        simpa using hne.symm
      rw [List.append_cons] at hdistinct ⊢
      rw [← ih hdistinct hheld hwhole]
      simp only [List.map_cons, ofMembers, hfield, hnew, hcheck field hfield]
      rfl

/-- What the members of a reading have for a field is what was found of it. -/
theorem lookup_of_ofMembers {members : List (Option String × Reading)}
    (hread : ofMembers fields found members = .ok result) (hname : name ∈ fields.map Field.name) :
    result.lookup name = (found.lookup name).or (members.lookup (some name)) := by
  induction members generalizing found with
  | nil =>
    cases hread
    simp
  | cons member rest ih =>
    obtain ⟨_ | key, reading⟩ := member
    · cases hread
    rw [ofMembers] at hread
    cases hfield : fields.find? (·.name == key) with
    | none =>
      simp only [hfield] at hread
      obtain ⟨-, -, hrest⟩ := bind_eq_ok_iff.mp hread
      have hne : (some name == some key) = false := by
        obtain ⟨field, hmem, rfl⟩ := List.mem_map.mp hname
        simpa using List.find?_eq_none.mp hfield field hmem
      rw [ih hrest, List.lookup_cons, hne]
    | some field =>
      simp only [hfield] at hread
      split at hread
      · cases hread
      obtain ⟨-, -, hrest⟩ := bind_eq_ok_iff.mp hread
      rw [ih hrest, List.lookup_append, Option.or_assoc]
      congr 1
      by_cases hsame : name = key
      · subst hsame
        simp
      · have hne : (name == key) = false := by simpa using hsame
        have hnone : (some name == some key) = false := by simpa using hsame
        rw [List.lookup_cons, List.lookup_cons, hne, hnone]
        rfl

theorem ofItems_eq_ok {items : List Reading} (hread : ofItems false fields items = .ok result) :
    result = (fields.map Field.name).zip items := by
  induction fields generalizing items result with
  | nil =>
    cases items with
    | nil =>
      cases hread
      rfl
    | cons item rest => cases hread
  | cons field fields ih =>
    cases items with
    | nil => cases hread
    | cons item rest =>
      rw [ofItems] at hread
      obtain ⟨-, -, hread⟩ := bind_eq_ok_iff.mp hread
      obtain ⟨found, hrest, hresult⟩ := bind_eq_ok_iff.mp hread
      cases hresult
      rw [ih hrest]
      rfl

theorem lookup_of_ofReading {reading : Reading}
    (hread : ofReading fields false reading = .ok found) (hname : name ∈ fields.map Field.name) :
    found.lookup name = reading.member? fields name := by
  cases reading with
  | object members closed =>
    obtain ⟨result, hmembers, hclosed⟩ := bind_eq_ok_iff.mp hread
    cases closed
    · cases hclosed
    · cases hclosed
      rw [lookup_of_ofMembers hmembers hname]
      rfl
  | array items closed =>
    obtain ⟨result, hitems, hclosed⟩ := bind_eq_ok_iff.mp hread
    cases closed
    · cases hclosed
    · cases hclosed
      rw [ofItems_eq_ok hitems]
      rfl
  | null | bool | natural | decimal | string | nothing => cases hread

/-- What is taken for a field that must be there is decoded from what the reading has for it. -/
theorem get_of_ofReading {reading : Reading} (hread : ofReading fields false reading = .ok found)
    (hname : name ∈ fields.map Field.name) {decode : Decoder α} {a : α}
    (hget : found.get name decode = .ok a) :
    ∃ member, reading.member? fields name = some member ∧ decode member = .ok a := by
  rw [get, lookup_of_ofReading hread hname] at hget
  cases hmember : reading.member? fields name with
  | none =>
    rw [hmember] at hget
    cases hget
  | some member =>
    rw [hmember] at hget
    exact ⟨member, rfl, hget⟩

def Fills (fields : List Field) (members : Found) : Prop :=
  List.Forall₂ (fun field member => field.name = member.1 ∧ field.check member.2 = .ok ()) fields
    members

theorem Fills.names_eq {members : Found} (h : Fills fields members) :
    members.map Prod.fst = fields.map Field.name := by
  induction h with
  | nil => rfl
  | cons hfirst hrest ih => rw [List.map_cons, List.map_cons, ih, hfirst.1]

theorem Fills.find?_eq {members : Found} (h : Fills fields members)
    (hdistinct : (fields.map Field.name).Nodup) :
    ∀ member ∈ members, ∃ field,
      fields.find? (·.name == member.1) = some field ∧ field.check member.2 = .ok () := by
  induction h with
  | nil => exact List.forall_mem_nil _
  | @cons field member fields members hfirst hrest ih =>
    rw [List.map_cons, List.nodup_cons] at hdistinct
    refine List.forall_mem_cons.mpr ⟨⟨field, by simp [hfirst.1], hfirst.2⟩, ?_⟩
    intro other hother
    obtain ⟨found, hfound, hcheck⟩ := ih hdistinct.2 other hother
    refine ⟨found, ?_, hcheck⟩
    have hname : found.name = other.1 := by simpa using List.find?_some hfound
    have hne : field.name ≠ other.1 := by
      intro heq
      exact hdistinct.1 (heq ▸ hname ▸ List.mem_map_of_mem (List.mem_of_find?_eq_some hfound))
    rw [List.find?_cons_of_neg (by simpa using hne), hfound]

theorem Fills.names_of_mem {entries : Found} (h : Fills fields entries)
    (hdistinct : (fields.map Field.name).Nodup) {member : String × Reading}
    (hmem : member ∈ entries) : names fields member.1 = true := by
  obtain ⟨field, hfield, -⟩ := h.find?_eq hdistinct member hmem
  rw [names, hfield, Option.isSome_some]

/-- Among members of which each is in a record or else is passed over, those in the record are
found. -/
theorem Fills.ofReading_filter {entries : Found} (h : Fills fields entries)
    (hdistinct : (fields.map Field.name).Nodup) {members : Found}
    (hmember : ∀ member ∈ members, member ∈ entries ∨
      names fields member.1 = false ∧ member.2.isWhole = true)
    (honce : ((members.filter (names fields ·.1)).map Prod.fst).Nodup) (mayStop : Bool) :
    ofReading fields mayStop (.object (members.map fun member => (some member.1, member.2)) true) =
      .ok (members.filter (names fields ·.1)) := by
  have hmembers : ofMembers fields [] (members.map fun member => (some member.1, member.2)) =
      .ok ([] ++ members.filter (names fields ·.1)) := by
    refine ofMembers_eq honce ?_ ?_
    · intro member hmem field hfield
      obtain hentry | ⟨hnone, -⟩ := hmember member hmem
      · obtain ⟨held, hheld, hcheck⟩ := h.find?_eq hdistinct member hentry
        rw [hheld] at hfield
        cases hfield
        exact hcheck
      · rw [names, hfield] at hnone
        cases hnone
    · intro member hmem hnone
      obtain hentry | ⟨-, hwhole⟩ := hmember member hmem
      · have hname := h.names_of_mem hdistinct hentry
        rw [names, hnone] at hname
        cases hname
      · exact hwhole
  rw [ofReading, hmembers]
  rfl

theorem Fills.ofReading_eq {members : Found} (h : Fills fields members)
    (hdistinct : (fields.map Field.name).Nodup) (mayStop : Bool) :
    ofReading fields mayStop (.object (members.map fun member => (some member.1, member.2)) true) =
      .ok members := by
  have hall : members.filter (names fields ·.1) = members :=
    List.filter_eq_self.mpr fun _ hmem => h.names_of_mem hdistinct hmem
  rw [h.ofReading_filter hdistinct (fun _ hmem => .inl hmem), hall]
  rwa [hall, h.names_eq]

/-- A record of which some fields are left out, in any order and among other members: what is found
are the fields that are kept. -/
theorem Fills.exists_kept {entries : Found} (h : Fills fields entries)
    (hdistinct : (fields.map Field.name).Nodup) (keep : String → Bool) {members : Found}
    (hmingled : Mingled (fields.map Field.name) Reading.isWhole (entries.filter (keep ·.1)) members)
    (mayStop : Bool) :
    ∃ found, ofReading fields mayStop
        (.object (members.map fun member => (some member.1, member.2)) true) = .ok found ∧
      ∀ name, found.lookup name = if keep name then entries.lookup name else none := by
  obtain ⟨others, hperm, hothers⟩ := hmingled
  have hother : ∀ other ∈ others, names fields other.1 = false := by
    intro other hmem
    rw [names, Option.isSome_eq_false_iff, Option.isNone_iff_eq_none, List.find?_eq_none]
    intro field hfield heq
    exact (hothers other hmem).1 (beq_iff_eq.mp heq ▸ List.mem_map_of_mem hfield)
  -- The fields among the members are those kept, in some order.
  have hfields : (members.filter (names fields ·.1)).Perm (entries.filter (keep ·.1)) := by
    have hkept : (entries.filter (keep ·.1)).filter (names fields ·.1) =
        entries.filter (keep ·.1) :=
      List.filter_eq_self.mpr fun _ hmem => h.names_of_mem hdistinct (List.mem_of_mem_filter hmem)
    have hnone : others.filter (names fields ·.1) = [] :=
      List.filter_eq_nil_iff.mpr fun other hmem => by simp [hother other hmem]
    have hfilter := hperm.filter (names fields ·.1)
    rwa [List.filter_append, hkept, hnone, List.append_nil] at hfilter
  have honce : ((members.filter (names fields ·.1)).map Prod.fst).Nodup := by
    rw [(hfields.map Prod.fst).nodup_iff]
    refine (List.filter_sublist.map Prod.fst).nodup ?_
    rwa [h.names_eq]
  refine ⟨_, h.ofReading_filter hdistinct ?_ honce mayStop, ?_⟩
  · intro member hmem
    obtain hkept | hmem := List.mem_append.mp (hperm.mem_iff.mp hmem)
    · exact .inl (List.mem_of_mem_filter hkept)
    · exact .inr ⟨hother member hmem, (hothers member hmem).2⟩
  · intro name
    rw [lookup_eq_of_perm hfields honce, lookup_filter_fst]

theorem getD_kept {entries : Found} {keep : String → Bool}
    (hlookup : ∀ name, found.lookup name = if keep name then entries.lookup name else none)
    (name : String) (decode : Decoder α) (default : α) :
    found.getD name decode default =
      if keep name then entries.getD name decode default else .ok default := by
  rw [getD, hlookup]
  cases keep name <;> rfl

end Found

end Enrollment.Json
