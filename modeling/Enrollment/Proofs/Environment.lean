import Enrollment.Proofs.Meeting
import Enrollment.Proofs.Numbers
import Enrollment.Proofs.SettingsFile

/-!
Configurations from an environment.  One is made exactly where every variable that is set says a
number in range and the standard configuration, overlaid with those numbers, passes.  A variable
whose bytes are no text is the exception: it is passed over as if it were not set.
-/
namespace Enrollment

namespace Environment

def recognized : List String :=
  ["ROSTER_MIN_CAP", "ROSTER_MAX_CAP", "ROSTER_WAITLIST_CAPACITY", "STUDENT_MIN_CREDITS",
    "STUDENT_MAX_CREDITS"]

/-- A number is what bytes say, in range, or the default where there are none. -/
def Gives (bytes? : Option ByteArray) (bound default number : Nat) : Prop :=
  match bytes? with
  | none => number = default
  | some bytes =>
    ∃ text, String.fromUTF8? bytes = some text ∧ Text.Says text number ∧ number ≤ bound

/-- A configuration is the standard one, overlaid with the numbers that variables are set to. -/
structure Overlays (bytes? : String → Option ByteArray) (config : RegistrarConfig) : Prop where
  minCap : Gives (bytes? "ROSTER_MIN_CAP") Bounds.count 10 config.roster.minCap
  maxCap : Gives (bytes? "ROSTER_MAX_CAP") Bounds.count 250 config.roster.maxCap
  waitlistCapacity :
    Gives (bytes? "ROSTER_WAITLIST_CAPACITY") Bounds.count 10 config.roster.waitlistCapacity
  minCredits :
    Gives (bytes? "STUDENT_MIN_CREDITS") Bounds.credits 3 config.minStudentCredits.toNat
  maxCredits :
    Gives (bytes? "STUDENT_MAX_CREDITS") Bounds.credits 18 config.maxStudentCredits.toNat

def legible? (environment : Environment) (key : String) : Option ByteArray :=
  (environment.find? key).filter fun bytes => IsText bytes

variable {environment loaded : Environment} {key : String} {bytes : ByteArray}
  {bound default number : Nat} {config : RegistrarConfig}

theorem legible?_of_find? (hset : environment.find? key = some bytes) (htext : IsText bytes) :
    environment.legible? key = some bytes := by
  rw [legible?, hset, Option.filter_some, if_pos (decide_eq_true htext)]

theorem legible?_of_not_isText (hset : environment.find? key = some bytes)
    (hnot : ¬ IsText bytes) : environment.legible? key = none := by
  rw [legible?, hset, Option.filter_some, decide_eq_false hnot]
  rfl

/-- What is read of a variable is what its bytes say, if they are a text. -/
theorem numberD_eq_ok_iff :
    environment.numberD key bound default = .ok number ↔
      Gives (environment.legible? key) bound default number := by
  cases hset : environment.find? key with
  | none => simp [numberD, text?, legible?, hset, Gives, eq_comm]
  | some bytes =>
    cases htext : String.fromUTF8? bytes with
    | none =>
      have hnot : ¬ IsText bytes := by simp [IsText, htext]
      simp [numberD, text?, hset, legible?_of_not_isText hset hnot, htext, Gives, eq_comm]
    | some text =>
      have hlegible := legible?_of_find? hset (Option.isSome_iff_exists.mpr ⟨text, htext⟩)
      simp [numberD, text?, hset, hlegible, htext, Gives, mapError_eq_ok_iff,
        Text.readUnsigned_trim_eq_ok_iff]

theorem numberD_le (hdefault : default ≤ bound)
    (h : environment.numberD key bound default = .ok number) : number ≤ bound := by
  rw [numberD_eq_ok_iff] at h
  cases hbytes : environment.legible? key with
  | none =>
    rw [hbytes] at h
    exact Nat.le_trans (Nat.le_of_eq h) hdefault
  | some bytes =>
    rw [hbytes] at h
    obtain ⟨_, _, _, hle⟩ := h
    exact hle

theorem creditsD_eq_ok_iff {default credits : UInt32} :
    environment.creditsD key default = .ok credits ↔
      environment.numberD key Bounds.credits default.toNat = .ok credits.toNat := by
  rw [creditsD]
  cases hnumber : environment.numberD key Bounds.credits default.toNat with
  | error fault => exact ⟨nofun, nofun⟩
  | ok number =>
    have hle := numberD_le (Nat.le_of_lt_succ default.toNat_lt) hnumber
    have hsame : (UInt32.ofNat number).toNat = number :=
      UInt32.toNat_ofNat_of_lt' (Nat.lt_succ_of_le hle)
    rw [Except.map, Except.ok.injEq, Except.ok.injEq, ← UInt32.toNat_inj, hsame]

theorem toConfig_eq_ok_iff :
    environment.toConfig = .ok config ↔
      Overlays environment.legible? config ∧ config.validate = .ok () := by
  simp only [toConfig, bind_eq_ok_iff, creditsD_eq_ok_iff, mapError_eq_ok_iff, numberD_eq_ok_iff]
  constructor
  · rintro ⟨minCap, hminCap, maxCap, hmaxCap, waitlist, hwaitlist, minCredits, hminCredits,
      maxCredits, hmaxCredits, _, hvalid, ⟨⟩⟩
    exact ⟨⟨hminCap, hmaxCap, hwaitlist, hminCredits, hmaxCredits⟩, hvalid⟩
  · intro ⟨⟨hminCap, hmaxCap, hwaitlist, hminCredits, hmaxCredits⟩, hvalid⟩
    exact ⟨_, hminCap, _, hmaxCap, _, hwaitlist, _, hminCredits, _, hmaxCredits, (), hvalid, rfl⟩

theorem overlays_congr {first second : String → Option ByteArray}
    (h : ∀ key ∈ recognized, first key = second key) :
    Overlays first config ↔ Overlays second config := by
  simp only [recognized, List.forall_mem_cons] at h
  obtain ⟨hminCap, hmaxCap, hwaitlist, hminCredits, hmaxCredits, -⟩ := h
  constructor
  · intro ⟨hfirst, hsecond, hthird, hfourth, hfifth⟩
    exact ⟨hminCap ▸ hfirst, hmaxCap ▸ hsecond, hwaitlist ▸ hthird, hminCredits ▸ hfourth,
      hmaxCredits ▸ hfifth⟩
  · intro ⟨hfirst, hsecond, hthird, hfourth, hfifth⟩
    exact ⟨hminCap ▸ hfirst, hmaxCap ▸ hsecond, hwaitlist ▸ hthird, hminCredits ▸ hfourth,
      hmaxCredits ▸ hfifth⟩

/-- Of a variable that is legible, its own bytes are read, or else those that loading sets. -/
theorem LoadedFrom.legible?_eq (h : environment.LoadedFrom loaded)
    (hlegible : ∀ bytes, environment.find? key = some bytes → IsText bytes) :
    loaded.legible? key = (environment.find? key).or (loaded.find? key) := by
  cases hown : environment.find? key with
  | some bytes =>
    have htext := hlegible bytes hown
    rw [Option.some_or, legible?_of_find? (h.keeps hown htext) htext]
  | none =>
    rw [Option.none_or]
    cases hset : loaded.find? key with
    | none => rw [legible?, hset, Option.filter_none]
    | some bytes =>
      obtain hown' | htext := h.fills hset
      · rw [hown] at hown'
        cases hown'
      · exact legible?_of_find? hset htext

theorem ofEnvironment_apply {ε : Type} (load : Call Environment ε Unit)
    (environment : Environment) :
    RegistrarConfig.ofEnvironment load environment =
      ⟨(load environment).state.toConfig, (load environment).state,
        (load environment).notices⟩ := by
  have hattempt : (Call.attempt load : Call Environment EnvironmentFault (Option Unit))
      environment = ⟨.ok (load environment).result.toOption, (load environment).state,
        (load environment).notices⟩ := rfl
  rw [RegistrarConfig.ofEnvironment, Call.bind_of_ok hattempt, Call.current_bind]
  cases (load environment).state.toConfig <;> simp

/-- Where the variables that are set have texts, and loading keeps those and adds texts only: a
configuration is made exactly if it is the standard one, overlaid with the numbers that the
variables say, and passes.  However an environment is loaded, the same holds of the variables that
have texts then; where no configuration is made, the answer is an error; and nothing but the loading
can panic. -/
theorem overlaid_ofEnvironment {ε : Type} (load : Call Environment ε Unit)
    (environment : Environment) :
    let loaded := (load environment).state
    let reply := RegistrarConfig.ofEnvironment load environment
    (environment.LoadedFrom loaded →
      (∀ key ∈ recognized, ∀ bytes, environment.find? key = some bytes → IsText bytes) →
      ∀ config, reply.result = .ok config ↔
        Overlays (fun key => (environment.find? key).or (loaded.find? key)) config ∧
          config.validate = .ok ()) ∧
    (∀ config, reply.result = .ok config ↔
      Overlays loaded.legible? config ∧ config.validate = .ok ()) ∧
    ((∃ fault, reply.result = .error fault) ↔
      ¬ ∃ config, Overlays loaded.legible? config ∧ config.validate = .ok ()) ∧
    reply.state = loaded ∧ reply.panics = (load environment).panics := by
  intro loaded reply
  have hreply : reply = ⟨loaded.toConfig, loaded, (load environment).notices⟩ :=
    ofEnvironment_apply load environment
  have hmade : ∀ config, reply.result = .ok config ↔
      Overlays loaded.legible? config ∧ config.validate = .ok () := by
    intro config
    rw [hreply, toConfig_eq_ok_iff]
  refine ⟨?_, hmade, ?_, by rw [hreply], by rw [hreply]; rfl⟩
  · intro hloaded hlegible config
    rw [hmade, overlays_congr]
    exact fun key hkey => hloaded.legible?_eq (hlegible key hkey)
  · simp only [← hmade]
    cases reply.result <;> simp

/-- White space, a sign and zeros in front are no harm, and the file has a say only where the
environment has none. -/
theorem overlaid_ofEnvironment_file :
    let environment : Environment :=
      ⟨[("ROSTER_MAX_CAP", "\u00a040\n".toUTF8), ("STUDENT_MAX_CREDITS", "+0021".toUTF8)]⟩
    let load := SettingsFile.load "ROSTER_MAX_CAP=7\nROSTER_MIN_CAP=2"
    let loaded := (load environment).state
    let config : RegistrarConfig := ⟨⟨2, 40, 10⟩, 3, 21⟩
    environment.LoadedFrom loaded ∧
      (∀ key ∈ recognized, ∀ bytes, environment.find? key = some bytes → IsText bytes) ∧
      (RegistrarConfig.ofEnvironment load environment).result = .ok config ∧
      Overlays (fun key => (environment.find? key).or (loaded.find? key)) config ∧
      config.validate = .ok () := by
  intro environment load loaded config
  have hloaded : environment.LoadedFrom loaded := SettingsFile.loadedFrom_load _ environment
  have hlegible :
      ∀ key ∈ recognized, ∀ bytes, environment.find? key = some bytes → IsText bytes := by
    intro key _ bytes hset
    have htexts : ∀ bytes ∈ environment.values, IsText bytes := by decide
    exact htexts bytes (Directory.mem_values_of_find? hset)
  have hmade : (RegistrarConfig.ofEnvironment load environment).result = .ok config := by
    have hvalue : (RegistrarConfig.ofEnvironment load environment).result.toOption =
        some config := by
      decide +kernel
    cases hresult : (RegistrarConfig.ofEnvironment load environment).result with
    | ok made => simpa [hresult, Except.toOption] using hvalue
    | error fault => simp [hresult, Except.toOption] at hvalue
  exact ⟨hloaded, hlegible, hmade,
    ((overlaid_ofEnvironment load environment).1 hloaded hlegible config).mp hmade⟩

/-- A variable that is set to bytes which are no text is passed over. -/
theorem overlaid_ofEnvironment_illegible :
    let environment : Environment := ⟨[("ROSTER_MIN_CAP", ⟨#[255]⟩)]⟩
    let load : Call Environment SettingsFile.Fault Unit := pure ()
    environment.LoadedFrom (load environment).state ∧
      (RegistrarConfig.ofEnvironment load environment).result = .ok .standard ∧
      ∀ config, ¬ Overlays environment.find? config := by
  intro environment load
  refine ⟨.refl environment, by rfl, ?_⟩
  intro config h
  obtain ⟨text, htext, -⟩ := h.minCap
  cases htext

end Environment

end Enrollment
