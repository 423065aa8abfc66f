/-
# Walking a stream of descriptors

A host reads a stream of descriptors by their first bytes: each gives the length
of its descriptor, and the next one follows.  The walk fails when a length is
below two or runs past the end.
-/

import UsbGadget.Bytes

namespace UsbGadget
namespace DescriptorStream

/-- The descriptors that a stream holds, if it holds nothing else. -/
def walk : Bytes → Option (List Bytes)
  | [] => some []
  | n :: rest =>
    if n.toNat < 2 ∨ rest.length + 1 < n.toNat then none
    else (walk (rest.drop (n.toNat - 1))).map ((n :: rest.take (n.toNat - 1)) :: ·)
termination_by bytes => bytes.length
decreasing_by simp only [List.length_drop, List.length_cons]; omega

end DescriptorStream
end UsbGadget
