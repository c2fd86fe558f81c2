/-!
Addresses of a 64-bit address space. Sums wrap at its top, a difference is read as a signed
displacement, and the order is that of the unsigned words.
-/

namespace TypeAtlas

set_option autoImplicit false

/-- A place in a 64-bit address space. -/
structure Address where
  val : UInt64
deriving DecidableEq, Repr, Inhabited

namespace Address

def null : Address := ⟨0⟩

def isNull (address : Address) : Bool := address.val == 0

instance : Ord Address := ⟨fun left right => compare left.val right.val⟩

instance : LE Address := ⟨fun left right => left.val ≤ right.val⟩

instance : LT Address := ⟨fun left right => left.val < right.val⟩

instance (left right : Address) : Decidable (left ≤ right) :=
  inferInstanceAs (Decidable (left.val ≤ right.val))

instance (left right : Address) : Decidable (left < right) :=
  inferInstanceAs (Decidable (left.val < right.val))

instance : Max Address := maxOfLe

instance : Std.TransOrd Address where
  eq_swap := Std.OrientedOrd.eq_swap (α := UInt64)
  isLE_trans := Std.TransOrd.isLE_trans (α := UInt64)

instance : Std.LawfulEqOrd Address where
  compare_self := Std.ReflOrd.compare_self (α := UInt64)
  eq_of_compare {left right} same := by
    cases left
    cases right
    exact congrArg Address.mk (Std.LawfulEqOrd.eq_of_compare same)

/-- The address `distance` bytes further up, wrapping at the top of the space. -/
def add (address : Address) (distance : UInt64) : Address := ⟨address.val + distance⟩

@[default_instance]
instance : HAdd Address UInt64 Address := ⟨add⟩

/-- The address at a signed displacement. Relative references inside descriptors are read this
way, so a negative one reaches below its base. -/
def offset (address : Address) (displacement : Int64) : Address :=
  ⟨address.val + displacement.toUInt64⟩

/-- The signed displacement that leads from `origin` to `address`. -/
def distanceFrom (address origin : Address) : Int64 := (address.val - origin.val).toInt64

/-- Whether `alignment` divides the address; zero divides the null address only. -/
def isAligned (address : Address) (alignment : UInt64) : Bool := address.val % alignment == 0

/-- The one question about alignment that has no answer. -/
inductive AlignmentFault where
  | zeroAlignment
deriving DecidableEq, Repr

def AlignmentFault.message : AlignmentFault → String
  | .zeroAlignment => "attempt to calculate the remainder with a divisor of zero"

/-- Alignment to a caller's own boundary, which may be zero. -/
def alignedTo (address : Address) (alignment : UInt64) : Except AlignmentFault Bool :=
  if alignment = 0 then .error .zeroAlignment else .ok (address.isAligned alignment)

/-- The written form: `0x` and the fewest lowercase hexadecimal digits. -/
def render (address : Address) : String :=
  "0x" ++ String.ofList (Nat.toDigits 16 address.val.toNat)

instance : ToString Address := ⟨render⟩

end Address

end TypeAtlas
