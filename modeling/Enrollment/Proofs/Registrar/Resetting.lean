import Enrollment.Proofs.Registrar.Beside
import Enrollment.Proofs.Registrar.Seats

/-!
What a reset of a schedule comes to.  The student drops the courses on whose roster or waitlist the
student is, one after another, and the schedule gets its default title back.  That single drops
leave nothing on the schedule either is what schedules and seats agree on.
-/
namespace Enrollment

open Call (Alike)

namespace RegistrarView

variable {view after : RegistrarView} {student : Student} {key other : String × String}
  {outcome : DropOutcome Student} {heard : List Notice}

end RegistrarView

namespace Registrar

variable {registrar other : Registrar} {view : RegistrarView} {student : Student} {id : String}

theorem Beside.refl (id : String) (registrar : Registrar) : Beside id registrar registrar :=
  ⟨rfl, rfl, rfl, rfl, Call.SameAt.refl _⟩

namespace Stands

end Stands

end Registrar

namespace RegistrarCall

open Registrar

end RegistrarCall

end Enrollment
