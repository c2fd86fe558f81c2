import TypeAtlas.Proofs.Descriptor.Brackets
import TypeAtlas.Proofs.Descriptor.Names

/-!
What it is for an image to encode a descriptor: which bytes stand at the places of the layout. A
descriptor stands at an address of a section; all of its parts may lie anywhere in the image. The
bytes of which the layout says nothing are left open, and so are the flags and the bits of the
kind that mean nothing.
-/

namespace TypeAtlas.RuntimeType

set_option autoImplicit false

open EncodedName (SpellsLength maxGroups)

/-- Which encodings are meant: all that fit the layout, or only those that a reader can follow. A
table with rows at the null address cannot be told from a missing one. Right behind the last
address there is no place for a text, even without bytes. And where 2 ^ 31 brackets of a declared
name are open at once, their number does not fit the counter that looks for its beginning. -/
inductive Encodings where
  | every
  | readable
deriving DecidableEq

section Parts

variable (image : Image) (meant : Encodings)

/-- A byte of flags, the length in groups, and the text. -/
structure NameAt (address : Address) (flagByte : UInt8) (text : String) : Prop where
  present : address.isNull = false
  encoded : ∃ groups, SpellsLength groups text.utf8ByteSize ∧ groups.length ≤ maxGroups ∧
    image.Holds address (flagByte :: groups ++ Text.Utf8.encode text) ∧
      (meant = .readable → text = "" → address.val.toNat + groups.length + 1 < 2 ^ 64)

/-- The address of another descriptor. -/
def RefAt (address : Address) (reference : TypeRef) : Prop :=
  ∃ target : Address, reference = .address target ∧ target.isNull = false ∧
    image.HoldsWord address target.val

/-- One row for every item, `stride` bytes apart. -/
def RowsAt {α : Type} (rowAt : Address → α → Prop) (stride : Nat) (table : Address)
    (items : List α) : Prop :=
  ∀ (index : Nat) (item : α), items[index]? = some item →
    rowAt (table + UInt64.ofNat (stride * index)) item

/-- The place and the number of the rows, which a struct and an interface refer to. -/
def TableAt {α : Type} (rowAt : Address → α → Prop) (stride : Nat) (descriptor : Address)
    (items : List α) : Prop :=
  ∃ table : Address, image.HoldsWord (descriptor + 56) table.val ∧
    image.HoldsWord (descriptor + 64) (UInt64.ofNat items.length) ∧ items.length ≤ 65536 ∧
      RowsAt rowAt stride table items ∧
        (meant = .readable → items ≠ [] → table.isNull = false)

/-- A field's name, type and offset. The flags of its name say whether it is embedded. -/
def FieldAt (row : Address) (field : StructField) : Prop :=
  ∃ (name : Address) (flagByte : UInt8), image.HoldsWord row name.val ∧
    NameAt image meant name flagByte field.name ∧
      flagByte.toNat.testBit 3 = field.embedded ∧ RefAt image (row + 8) field.type ∧
        image.HoldsWord (row + 16) field.offset

/-- The linker writes zero or minus one for a type that it dropped. -/
inductive SignatureAt (sectionBase : Address) : Int32 → Option TypeRef → Prop where
  | zero : SignatureAt sectionBase 0 none
  | minusOne : SignatureAt sectionBase (-1) none
  | kept {offset : Int32} : offset ≠ 0 → offset ≠ -1 →
      SignatureAt sectionBase offset (some (.address (sectionBase.offset offset.toInt64)))

/-- The offsets of a method's name and of its type. -/
def MethodAt (sectionBase row : Address) (method : Method) : Prop :=
  ∃ (nameOffset typeOffset : Int32) (flagByte : UInt8), image.HoldsInt32 row nameOffset ∧
    image.HoldsInt32 (row + 4) typeOffset ∧
      NameAt image meant (sectionBase.offset nameOffset.toInt64) flagByte method.name ∧
        SignatureAt sectionBase typeOffset method.signature

/-- A path without characters counts as none. -/
inductive PathAt (sectionBase address : Address) : Option String → Prop where
  | missing : image.HoldsInt32 address 0 → PathAt sectionBase address none
  | blank {offset : Int32} {flagByte : UInt8} : offset ≠ 0 → image.HoldsInt32 address offset →
      NameAt image meant (sectionBase.offset offset.toInt64) flagByte "" →
        PathAt sectionBase address none
  | path {offset : Int32} {flagByte : UInt8} {text : String} : offset ≠ 0 →
      image.HoldsInt32 address offset → text ≠ "" →
        NameAt image meant (sectionBase.offset offset.toInt64) flagByte text →
          PathAt sectionBase address (some text)

/-- The block of a declared type. No more methods are exported than there are. -/
structure BlockAt (sectionBase block : Address) (uncommon : Uncommon) : Prop where
  path : PathAt image meant sectionBase block uncommon.pkgPath
  methodCount : image.HoldsHalf (block + 4) uncommon.methodCount
  exportedCount : image.HoldsHalf (block + 6) uncommon.exportedCount
  methodsOffset : image.HoldsUInt32 (block + 8) uncommon.methodsOffset
  exported : uncommon.exportedCount ≤ uncommon.methodCount

/-- The methods of a struct are the exported ones, which come first in the table that its block
refers to. -/
def MethodsAt (sectionBase block : Address) (methods : List Method) : Option Uncommon → Prop
  | none => methods = []
  | some uncommon => methods.length = uncommon.exportedCount.toNat ∧
      RowsAt (MethodAt image meant sectionBase) 16
        (block + uncommon.methodsOffset.toUInt64) methods

def dirBits : ChanDir → UInt64
  | .recv => 1
  | .send => 2
  | .both => 3

/-- Where the parameters of a function start, behind the block if there is one. -/
def paramsAt (descriptor : Address) (uncommon : Option Uncommon) : Address :=
  descriptor + 56 + if uncommon.isSome then 16 else 0

/-- The kinds whose descriptors have a tail. -/
def tailed : List Kind :=
  [.array, .chan, .func, .interface, .map, .pointer, .slice, .struct]

/-- Where the descriptor of a kind ends, with its header of 48 bytes and its tail. -/
def tailEnd (layout : DescriptorLayout) : Kind → UInt64
  | .pointer | .slice | .func => 56
  | .chan => 64
  | .array => 72
  | .struct | .interface => 80
  | .map => layout.mapSize
  | _ => 48

/-- The tail of a descriptor, and what it refers to. -/
inductive ShapeAt (sectionBase descriptor : Address) (uncommon : Option Uncommon) :
    Kind → Shape → Prop where
  | primitive {kind : Kind} :
      kind ∉ tailed → ShapeAt sectionBase descriptor uncommon kind .primitive
  | pointer {elem : TypeRef} : RefAt image (descriptor + 48) elem →
      ShapeAt sectionBase descriptor uncommon .pointer (.pointer elem)
  | slice {elem : TypeRef} : RefAt image (descriptor + 48) elem →
      ShapeAt sectionBase descriptor uncommon .slice (.slice elem)
  | array {elem : TypeRef} {length : UInt64} : RefAt image (descriptor + 48) elem →
      image.HoldsWord (descriptor + 64) length →
        ShapeAt sectionBase descriptor uncommon .array (.array elem length)
  | chan {elem : TypeRef} {dir : ChanDir} : RefAt image (descriptor + 48) elem →
      image.HoldsWord (descriptor + 56) (dirBits dir) →
        ShapeAt sectionBase descriptor uncommon .chan (.chan elem dir)
  | map {key elem : TypeRef} : RefAt image (descriptor + 48) key →
      RefAt image (descriptor + 56) elem →
        ShapeAt sectionBase descriptor uncommon .map (.map key elem)
  | func {params results : List TypeRef} {variadic : Bool} :
      params.length ≤ 65535 → results.length ≤ 32767 →
        image.HoldsHalf (descriptor + 48) (UInt16.ofNat params.length) →
          image.HoldsHalf (descriptor + 50)
            (UInt16.ofNat (results.length + if variadic then 32768 else 0)) →
            RowsAt (RefAt image) 8 (paramsAt descriptor uncommon) params →
              RowsAt (RefAt image) 8
                (paramsAt descriptor uncommon + UInt64.ofNat (8 * params.length)) results →
                ShapeAt sectionBase descriptor uncommon .func (.func params results variadic)
  | struct {fields : List StructField} {methods : List Method} :
      TableAt image meant (FieldAt image meant) 24 descriptor fields →
        MethodsAt image meant sectionBase (descriptor + 80) methods uncommon →
          ShapeAt sectionBase descriptor uncommon .struct (.struct fields methods)
  | interface {methods : List Method} :
      TableAt image meant (MethodAt image meant sectionBase) 8 descriptor methods →
        ShapeAt sectionBase descriptor uncommon .interface (.interface methods)

variable {image meant}

/-- Every text shorter than 2 ^ 35 bytes can be written, its length in the fewest groups. -/
theorem nameAt_of_written {address : Address} {flagByte : UInt8} {text : String}
    (present : address.isNull = false) (fits : text.utf8ByteSize < 2 ^ 35)
    (written : image.Holds address (flagByte ::
      EncodedName.lengthGroups text.utf8ByteSize ++ Text.Utf8.encode text))
    (reached : meant = .readable → text = "" → address.val.toNat + 2 < 2 ^ 64) :
    NameAt image meant address flagByte text := by
  refine ⟨present, EncodedName.lengthGroups text.utf8ByteSize,
    EncodedName.lengthGroups_spell _, EncodedName.lengthGroups_fits 4 _ fits, written, ?_⟩
  intro readable blank
  subst blank
  have groups : EncodedName.lengthGroups "".utf8ByteSize = [0] := by
    rw [EncodedName.lengthGroups]
    rfl
  rw [groups]
  exact reached readable rfl

theorem rowsAt_nil {α : Type} {rowAt : Address → α → Prop} {stride : Nat} {table : Address} :
    RowsAt rowAt stride table [] := by
  intro index item found
  simp at found

theorem rowsAt_cons {α : Type} {rowAt : Address → α → Prop} {stride : Nat} {table : Address}
    {item : α} {items : List α} (first : rowAt table item)
    (later : RowsAt rowAt stride (table + UInt64.ofNat stride) items) :
    RowsAt rowAt stride table (item :: items) := by
  intro index other found
  cases index with
  | zero =>
      have same : item = other := by simpa using found
      rw [Nat.mul_zero, add_ofNat_zero, ← same]
      exact first
  | succ index =>
      rw [Nat.mul_add_one, Nat.add_comm, add_ofNat_add]
      exact later index other (by simpa using found)

end Parts

/-- The bytes at the places of a descriptor are those of `type`, whatever its declared name. The
runtime string may have a star in front that does not belong to it, which a flag says. -/
structure StoredAs (image : Image) (meant : Encodings) (layout : DescriptorLayout)
    (sectionBase address : Address) (type : RuntimeType) (flagByte kindByte : UInt8)
    (uncommon : Option Uncommon) : Prop where
  placed : type.address = some address
  size : image.HoldsWord address type.size
  flags : image.HoldsByte (address + 20) flagByte
  kind : image.HoldsByte (address + 23) kindByte
  code : kindByte.toNat % 32 = type.kind.code
  text : ∃ (offset : Int32) (nameFlags : UInt8), image.HoldsInt32 (address + 40) offset ∧
    NameAt image meant (sectionBase.offset offset.toInt64) nameFlags
      (if flagByte.toNat.testBit 1 then "*" ++ type.repr else type.repr)
  block : match uncommon with
    | none => flagByte.toNat.testBit 0 = false
    | some block => flagByte.toNat.testBit 0 = true ∧
        BlockAt image meant sectionBase (address + tailEnd layout type.kind) block
  path : type.pkgPath = uncommon.bind Uncommon.pkgPath
  shape : ShapeAt image meant sectionBase address uncommon type.kind type.shape

/-- The bytes at the places of a descriptor are those of `type`. A declared name is not written
down a second time: a flag says that the last part of the runtime string is one. -/
structure EncodedBy (image : Image) (meant : Encodings) (layout : DescriptorLayout)
    (sectionBase address : Address) (type : RuntimeType) (flagByte kindByte : UInt8)
    (uncommon : Option Uncommon) : Prop
    extends StoredAs image meant layout sectionBase address type flagByte kindByte uncommon where
  name : match type.name with
    | none => flagByte.toNat.testBit 2 = false
    | some name => flagByte.toNat.testBit 2 = true ∧ LastPart type.repr.toList name.toList ∧
        (meant = .readable → Shallow name.toList)

/-- The image encodes `type` at an address of the section that starts at `sectionBase`. -/
def Encodes (image : Image) (meant : Encodings) (layout : DescriptorLayout)
    (sectionBase address : Address) (type : RuntimeType) : Prop :=
  ∃ flagByte kindByte uncommon,
    EncodedBy image meant layout sectionBase address type flagByte kindByte uncommon

end TypeAtlas.RuntimeType
