/-!
Directories: values under keys, one value a key, in the order in which the keys came.
-/
namespace Enrollment

structure Directory (κ ν : Type) where
  entries : List (κ × ν)
  deriving DecidableEq, Repr

namespace Directory

variable {κ ν : Type}

def empty : Directory κ ν := ⟨[]⟩

def size (directory : Directory κ ν) : Nat := directory.entries.length

def keys (directory : Directory κ ν) : List κ := directory.entries.map Prod.fst

def values (directory : Directory κ ν) : List ν := directory.entries.map Prod.snd

variable [BEq κ]

def find? (directory : Directory κ ν) (key : κ) : Option ν := directory.entries.lookup key

def contains (directory : Directory κ ν) (key : κ) : Bool := (directory.find? key).isSome

/-- Put a value under a key in a list of entries: in its place if the key has one, else last. -/
def putEntry (key : κ) (value : ν) : List (κ × ν) → List (κ × ν)
  | [] => [(key, value)]
  | (k, v) :: rest =>
    if key == k then (k, value) :: rest else (k, v) :: putEntry key value rest

def put (directory : Directory κ ν) (key : κ) (value : ν) : Directory κ ν :=
  ⟨putEntry key value directory.entries⟩

def erase (directory : Directory κ ν) (key : κ) : Directory κ ν :=
  ⟨directory.entries.filter fun entry => !(key == entry.1)⟩

theorem find?_erase_self (directory : Directory κ ν) (key : κ) :
    (directory.erase key).find? key = none := by
  simp only [find?, erase]
  induction directory.entries with
  | nil => rfl
  | cons entry rest ih =>
    obtain ⟨k, v⟩ := entry
    by_cases h : key == k <;> simp [List.filter, List.lookup_cons, h, ih]

theorem mem_values_of_find? {directory : Directory κ ν} {key : κ} {value : ν}
    (h : directory.find? key = some value) : value ∈ directory.values := by
  obtain ⟨entries⟩ := directory
  simp only [find?] at h
  simp only [values]
  induction entries with
  | nil => cases h
  | cons entry rest ih =>
    obtain ⟨k, v⟩ := entry
    cases hk : key == k with
    | true =>
      rw [List.lookup_cons, hk] at h
      cases h
      exact List.mem_cons_self
    | false =>
      rw [List.lookup_cons, hk] at h
      exact List.mem_cons_of_mem _ (ih h)

/-- Putting the value that is there changes nothing. -/
theorem put_of_find? {directory : Directory κ ν} {key : κ} {value : ν}
    (h : directory.find? key = some value) : directory.put key value = directory := by
  obtain ⟨entries⟩ := directory
  simp only [find?] at h
  simp only [put, mk.injEq]
  induction entries with
  | nil => cases h
  | cons entry rest ih =>
    obtain ⟨k, v⟩ := entry
    by_cases hk : key == k
    · rw [List.lookup_cons, hk] at h
      cases h
      simp [putEntry, hk]
    · rw [List.lookup_cons, Bool.eq_false_iff.mpr hk] at h
      simp [putEntry, hk, ih h]

variable [LawfulBEq κ]

theorem find?_put_self (directory : Directory κ ν) (key : κ) (value : ν) :
    (directory.put key value).find? key = some value := by
  simp only [find?, put]
  induction directory.entries with
  | nil => simp [putEntry]
  | cons entry rest ih =>
    obtain ⟨k, v⟩ := entry
    by_cases h : key == k <;> simp [putEntry, List.lookup_cons, h, ih]

theorem find?_put_of_ne (directory : Directory κ ν) {key other : κ} (h : other ≠ key) (value : ν) :
    (directory.put key value).find? other = directory.find? other := by
  simp only [find?, put]
  have hb : (other == key) = false := by simpa using h
  induction directory.entries with
  | nil => simp [putEntry, List.lookup_cons, hb]
  | cons entry rest ih =>
    obtain ⟨k, v⟩ := entry
    by_cases hk : key == k
    · have : (other == k) = false := by rw [← eq_of_beq hk]; exact hb
      simp [putEntry, List.lookup_cons, hk, this]
    · by_cases ho : other == k <;> simp [putEntry, List.lookup_cons, hk, ho, ih]

theorem find?_erase_of_ne (directory : Directory κ ν) {key other : κ} (h : other ≠ key) :
    (directory.erase key).find? other = directory.find? other := by
  simp only [find?, erase]
  have hb : (other == key) = false := by simpa using h
  induction directory.entries with
  | nil => rfl
  | cons entry rest ih =>
    obtain ⟨k, v⟩ := entry
    by_cases hk : key == k
    · have : (other == k) = false := by rw [← eq_of_beq hk]; exact hb
      simp [List.filter, List.lookup_cons, hk, this, ih]
    · by_cases ho : other == k <;> simp [List.filter, List.lookup_cons, hk, ho, ih]

end Directory

end Enrollment
