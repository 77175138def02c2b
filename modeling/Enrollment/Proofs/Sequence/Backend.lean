import Enrollment.Proofs.Sequence.ChainList
import Enrollment.Proofs.Sequence.SlotList

/-!
The storages there are to choose from, as one family.
-/
namespace Enrollment

inductive Backend
  | slots
  | chain
  deriving DecidableEq, Repr

namespace Backend

variable {α : Type}

def Store (α : Type) : Backend → Type
  | slots => SlotList α
  | chain => ChainList α

variable [BEq α]

instance : (backend : Backend) → BoundedSeq (Store α backend) α
  | slots => inferInstanceAs (BoundedSeq (SlotList α) α)
  | chain => inferInstanceAs (BoundedSeq (ChainList α) α)

instance : (backend : Backend) → LawfulSeq (Store α backend) α
  | slots => inferInstanceAs (LawfulSeq (SlotList α) α)
  | chain => inferInstanceAs (LawfulSeq (ChainList α) α)

end Backend

end Enrollment
