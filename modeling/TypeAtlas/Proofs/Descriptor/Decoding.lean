import TypeAtlas.Proofs.Descriptor.Encoding
import TypeAtlas.Proofs.Lists

/-!
A descriptor is read back from the bytes that encode it. Each part is read back on its own, and
the parts are put together in the order in which they are read.
-/

namespace TypeAtlas.RuntimeType

set_option autoImplicit false

variable {image : Image} {sectionBase address : Address}

/-! ### Numbers, references and names -/

theorem readWord_of_holds {word : UInt64} (holds : image.HoldsWord address word) :
    readWord image address = .ok word := by
  rw [readWord, Image.readUInt64_of_holds holds]
  rfl

theorem readPointer_of_holds {target : Address} (holds : image.HoldsWord address target.val) :
    readPointer image address = .ok target := by
  rw [readPointer, Image.readAddress_of_holds holds]
  rfl

theorem readHalf_of_holds {half : UInt16} (holds : image.HoldsHalf address half) :
    readHalf image address = .ok half := by
  rw [readHalf, Image.readUInt16_of_holds holds]
  rfl

theorem readByte_of_holds {byte : UInt8} (holds : image.HoldsByte address byte) :
    readByte image address = .ok byte := by
  rw [readByte, Image.readUInt8_of_holds holds]
  rfl

theorem readOffset_of_holds {offset : Int32} (holds : image.HoldsInt32 address offset) :
    readOffset image address = .ok offset := by
  rw [readOffset, Image.readInt32_of_holds holds]
  rfl

theorem readRef_of_refAt {reference : TypeRef} (refAt : RefAt image address reference)
    (referent : Referent) : readRef image address referent = .ok reference := by
  obtain ⟨target, rfl, present, holds⟩ := refAt
  simp [readRef, readPointer_of_holds holds, present, bind, Except.bind, pure, Except.pure]

theorem readCount_of_holds {count : Nat} (few : count ≤ 65536)
    (holds : image.HoldsWord address (UInt64.ofNat count)) :
    readCount image address = .ok count := by
  have whole : (UInt64.ofNat count).toNat = count := by
    rw [UInt64.toNat_ofNat']
    omega
  have sensible : ¬maxElements < UInt64.ofNat count := by
    rw [UInt64.lt_iff_toNat_lt, whole]
    show ¬65536 < count
    omega
  simp only [readCount, readWord_of_holds holds, bind, Except.bind, if_neg sensible, whole, pure,
    Except.pure]

theorem read_of_nameAt {flagByte : UInt8} {text : String}
    (nameAt : NameAt image .readable address flagByte text) :
    EncodedName.read image address = .ok ⟨.ofByte flagByte, text⟩ := by
  obtain ⟨groups, spelled, few, holds, reached⟩ := nameAt.encoded
  exact EncodedName.read_of_holds nameAt.present spelled few holds (reached rfl)

theorem readNameAt_of_nameAt {flagByte : UInt8} {text : String} {offset : Int32}
    (nameAt : NameAt image .readable (sectionBase.offset offset.toInt64) flagByte text) :
    readNameAt image sectionBase offset = .ok ⟨.ofByte flagByte, text⟩ :=
  read_of_nameAt nameAt

/-! ### Rows and tables -/

theorem readRows_of_rowsAt {α : Type} {rowAt : Address → α → Prop}
    {readRow : Address → Except DescriptorFault α} {stride : Nat} {table : Address}
    {items : List α} (rows : RowsAt rowAt stride table items)
    (reads : ∀ row item, rowAt row item → readRow row = .ok item) :
    readRows readRow stride items.length table = .ok items := by
  apply mapM_of_each
  apply List.forall₂_iff_get.mpr
  refine ⟨by simp, ?_⟩
  intro index within inside
  have item := List.getElem?_eq_getElem inside
  simpa using reads _ _ (rows index _ item)

theorem readTable_of_tableAt {α : Type} {rowAt : Address → α → Prop}
    {readRow : Address → Except DescriptorFault α} {stride : Nat} {descriptor : Address}
    {items : List α} (referent : Referent)
    (tableAt : TableAt image .readable rowAt stride descriptor items)
    (reads : ∀ row item, rowAt row item → readRow row = .ok item) :
    readTable image readRow stride descriptor referent = .ok items := by
  obtain ⟨table, place, count, few, rows, reached⟩ := tableAt
  have present : ¬(0 < items.length ∧ table.isNull = true) := by
    intro missing
    have filled := List.ne_nil_of_length_pos missing.1
    rw [reached rfl filled] at missing
    exact absurd missing.2 (by decide)
  simp only [readTable, readPointer_of_holds place, readCount_of_holds few count, bind,
    Except.bind, if_neg present]
  exact readRows_of_rowsAt rows reads

/-! ### Fields and methods -/

theorem readField_of_fieldAt {row : Address} {field : StructField}
    (fieldAt : FieldAt image .readable row field) : readField image row = .ok field := by
  obtain ⟨name, flagByte, place, nameAt, embedded, type, offset⟩ := fieldAt
  simp [readField, readPointer_of_holds place, read_of_nameAt nameAt, readRef_of_refAt type,
    readWord_of_holds offset, NameFlags.ofByte, embedded, bind, Except.bind, pure, Except.pure]

theorem signatureAt_eq {offset : Int32} {signature : Option TypeRef}
    (stored : SignatureAt sectionBase offset signature) :
    signatureAt sectionBase offset = signature := by
  cases stored with
  | zero => simp [signatureAt]
  | minusOne => simp [signatureAt]
  | kept present some => simp [signatureAt, present, some]

theorem readMethod_of_methodAt {row : Address} {method : Method}
    (methodAt : MethodAt image .readable sectionBase row method) :
    readMethod image sectionBase row = .ok method := by
  obtain ⟨nameOffset, typeOffset, flagByte, name, type, nameAt, stored⟩ := methodAt
  simp [readMethod, readOffset_of_holds name, readOffset_of_holds type,
    readNameAt_of_nameAt nameAt, signatureAt_eq stored, bind, Except.bind, pure, Except.pure]

/-- What is read of a block behind its path. -/
def readCounts (image : Image) (block : Address) (pkgPath : Option String) :
    Except DescriptorFault Uncommon := do
  let methodCount ← readHalf image (block + 4)
  let exportedCount ← readHalf image (block + 6)
  let methodsOffset ← (image.readUInt32 (block + 8)).mapError .memory
  return ⟨pkgPath, methodCount, exportedCount, methodsOffset⟩

theorem readUncommon_eq (image : Image) (sectionBase block : Address) :
    readUncommon image sectionBase block = (readOffset image block >>= fun pathOffset =>
      if pathOffset = 0 then readCounts image block none
      else readNameAt image sectionBase pathOffset >>= fun path =>
        readCounts image block (if path.text.isEmpty then none else some path.text)) :=
  rfl

theorem readUncommon_of_blockAt {block : Address} {uncommon : Uncommon}
    (blockAt : BlockAt image .readable sectionBase block uncommon) :
    readUncommon image sectionBase block = .ok uncommon := by
  obtain ⟨pkgPath, methodCount, exportedCount, methodsOffset⟩ := uncommon
  obtain ⟨pathAt, methods, exported, table, _⟩ := blockAt
  have counts : readCounts image block pkgPath =
      .ok ⟨pkgPath, methodCount, exportedCount, methodsOffset⟩ := by
    simp [readCounts, readHalf_of_holds methods, readHalf_of_holds exported,
      Image.readUInt32_of_holds table, mapError_ok, bind, Except.bind, pure, Except.pure]
  rw [readUncommon_eq]
  cases pathAt with
  | missing holds => simp [readOffset_of_holds holds, counts, bind, Except.bind]
  | blank present holds nameAt =>
      simp [readOffset_of_holds holds, present, readNameAt_of_nameAt nameAt, counts, bind,
        Except.bind]
  | path present holds filled nameAt =>
      simp [readOffset_of_holds holds, present, readNameAt_of_nameAt nameAt, filled, counts, bind,
        Except.bind]

theorem readMethods_of_methodsAt {block : Address} {uncommon : Uncommon} {methods : List Method}
    (exported : uncommon.exportedCount ≤ uncommon.methodCount)
    (methodsAt : MethodsAt image .readable sectionBase block methods (some uncommon)) :
    readMethods image sectionBase block uncommon = .ok methods := by
  obtain ⟨count, rows⟩ := methodsAt
  have within : ¬uncommon.methodCount < uncommon.exportedCount := by
    rw [UInt16.lt_iff_toNat_lt]
    rw [UInt16.le_iff_toNat_le] at exported
    omega
  have read := readRows_of_rowsAt rows fun _ _ => readMethod_of_methodAt
  rw [count] at read
  rw [readMethods, if_neg within]
  exact read

/-! ### Shapes -/

theorem ofBits_dirBits (dir : ChanDir) : ChanDir.ofBits? (dirBits dir) = some dir := by
  cases dir <;> rfl

theorem readFunc_of_rowsAt {layout : DescriptorLayout} {descriptor : Address}
    {uncommon : Option Uncommon} {params results : List TypeRef} {variadic : Bool}
    (fewParams : params.length ≤ 65535) (fewResults : results.length ≤ 32767)
    (paramCount : image.HoldsHalf (descriptor + 48) (UInt16.ofNat params.length))
    (resultWord : image.HoldsHalf (descriptor + 50)
      (UInt16.ofNat (results.length + if variadic then 32768 else 0)))
    (paramRows : RowsAt (RefAt image) 8 (paramsAt descriptor uncommon) params)
    (resultRows : RowsAt (RefAt image) 8
      (paramsAt descriptor uncommon + UInt64.ofNat (8 * params.length)) results) :
    readFunc image layout descriptor uncommon.isSome = .ok (.func params results variadic) := by
  have count : (UInt16.ofNat params.length).toNat = params.length := by
    rw [UInt16.toNat_ofNat']
    omega
  have word : (UInt16.ofNat (results.length + if variadic then 32768 else 0)).toNat =
      results.length + if variadic then 32768 else 0 := by
    rw [UInt16.toNat_ofNat']
    split <;> omega
  have low : (results.length + if variadic then 32768 else 0) % 32768 = results.length := by
    split <;> omega
  have flag : (results.length + if variadic then 32768 else 0).testBit 15 = variadic := by
    cases variadic with
    | false => exact Nat.testBit_lt_two_pow (by simp; omega)
    | true =>
        simp only [if_true]
        rw [Nat.testBit_eq_decide_div_mod_eq]
        simp
        omega
  have start : descriptor + layout.sizeOf .func + (if uncommon.isSome = true then 16 else 0) =
      paramsAt descriptor uncommon := rfl
  have paramsRead := readRows_of_rowsAt paramRows fun _ _ refAt => readRef_of_refAt refAt .parameter
  have resultsRead := readRows_of_rowsAt resultRows fun _ _ refAt => readRef_of_refAt refAt .result
  simp only [readFunc, readHalf_of_holds paramCount, readHalf_of_holds resultWord, bind,
    Except.bind, count, word, low, flag, start, paramsRead, resultsRead, pure, Except.pure]

theorem readShape_of_shapeAt {layout : DescriptorLayout} {descriptor : Address}
    {uncommon : Option Uncommon} {kind : Kind} {shape : Shape}
    (exported : ∀ block, uncommon = some block → block.exportedCount ≤ block.methodCount)
    (shapeAt : ShapeAt image .readable sectionBase descriptor uncommon kind shape) :
    readShape image layout sectionBase descriptor kind uncommon = .ok shape := by
  cases shapeAt with
  | primitive untailed => cases kind <;> first | rfl | exact absurd untailed (by decide)
  | pointer elem | slice elem =>
      simp [readShape, readRef_of_refAt elem, bind, Except.bind, pure, Except.pure]
  | array elem length =>
      simp [readShape, readRef_of_refAt elem, readWord_of_holds length, bind, Except.bind, pure,
        Except.pure]
  | chan elem dir =>
      simp [readShape, readRef_of_refAt elem, readWord_of_holds dir, ofBits_dirBits, bind,
        Except.bind, pure, Except.pure]
  | map key elem =>
      simp [readShape, readRef_of_refAt key, readRef_of_refAt elem, bind, Except.bind, pure,
        Except.pure]
  | func fewParams fewResults paramCount resultWord paramRows resultRows =>
      exact readFunc_of_rowsAt fewParams fewResults paramCount resultWord paramRows resultRows
  | struct table methodsAt =>
      have fields := readTable_of_tableAt .fieldArray table fun _ _ => readField_of_fieldAt
      cases uncommon with
      | none =>
          have none : _ = [] := methodsAt
          simp [readShape, fields, none, bind, Except.bind, pure, Except.pure]
      | some block =>
          have methods := readMethods_of_methodsAt (exported block rfl) methodsAt
          have place : descriptor + layout.sizeOf .struct = descriptor + 80 := rfl
          simp [readShape, fields, place, methods, bind, Except.bind, pure, Except.pure]
  | interface table =>
      have methods := readTable_of_tableAt .methodArray table fun _ _ => readMethod_of_methodAt
      simp [readShape, methods, bind, Except.bind, pure, Except.pure]

/-! ### Whole descriptors -/

/-- The star that does not belong to the string is dropped. -/
theorem repr_read (flagByte : UInt8) (repr : String) :
    (if (Flags.ofByte flagByte).extraStar then
      dropStar (if flagByte.toNat.testBit 1 then "*" ++ repr else repr)
    else if flagByte.toNat.testBit 1 then "*" ++ repr else repr) = repr := by
  cases star : flagByte.toNat.testBit 1 with
  | false => simp [Flags.ofByte, star]
  | true => simp [Flags.ofByte, star, dropStar]

/-- The declared name is the one that the runtime string ends with. -/
theorem name_read {flagByte : UInt8} {repr : String} {declared : Option String}
    (named : match declared with
      | none => flagByte.toNat.testBit 2 = false
      | some name => flagByte.toNat.testBit 2 = true ∧ LastPart repr.toList name.toList ∧
          (Encodings.readable = .readable → Shallow name.toList)) :
    (if flagByte.toNat.testBit 2 then some (shortName repr) else none) = declared := by
  cases declared with
  | none => simp [named]
  | some name =>
      obtain ⟨flag, part, shallow⟩ := named
      simp [flag, shortName_of_lastPart (shallow rfl) part]

theorem tailEnd_eq (layout : DescriptorLayout) (kind : Kind) :
    tailEnd layout kind = layout.sizeOf kind := by
  cases kind <;> rfl

theorem block_read {block : Address} {flagByte : UInt8} {uncommon : Option Uncommon}
    (stored : match uncommon with
      | none => flagByte.toNat.testBit 0 = false
      | some stored => flagByte.toNat.testBit 0 = true ∧
          BlockAt image .readable sectionBase block stored) :
    (if (Flags.ofByte flagByte).uncommon then some <$> readUncommon image sectionBase block
      else pure none) = .ok uncommon ∧
        ∀ stored, uncommon = some stored → stored.exportedCount ≤ stored.methodCount := by
  cases uncommon with
  | none =>
      refine ⟨?_, by simp⟩
      simp [Flags.ofByte, stored, pure, Except.pure]
  | some uncommon =>
      obtain ⟨flag, blockAt⟩ := stored
      refine ⟨?_, ?_⟩
      · simp [Flags.ofByte, flag, readUncommon_of_blockAt blockAt, Functor.map, Except.map]
      · intro other same
        cases same
        exact blockAt.exported

/-- With the parts of the descriptor at hand, what is left is the order in which they are read. -/
theorem decode_of_storedAs {layout : DescriptorLayout} {type : RuntimeType}
    {flagByte kindByte : UInt8} {uncommon : Option Uncommon} (present : address.isNull = false)
    (aligned : address.isAligned 8 = true)
    (stored : StoredAs image .readable layout sectionBase address type flagByte kindByte
      uncommon) :
    decode image layout sectionBase address = .ok { type with
      name := if flagByte.toNat.testBit 2 then some (shortName type.repr) else none } := by
  have size := readWord_of_holds stored.size
  have flags := readByte_of_holds stored.flags
  have kind := readByte_of_holds stored.kind
  have code : Kind.ofCode? (kindByte.toNat % 32) = some type.kind := by
    rw [stored.code, Kind.ofCode?_code]
  obtain ⟨offset, nameFlags, textPlace, textAt⟩ := stored.text
  have string := readOffset_of_holds textPlace
  have text := readNameAt_of_nameAt textAt
  have repr := repr_read flagByte type.repr
  have named : (Flags.ofByte flagByte).named = flagByte.toNat.testBit 2 := rfl
  obtain ⟨block, exported⟩ := block_read stored.block
  rw [tailEnd_eq] at block
  have shape : readShape image layout sectionBase address type.kind uncommon = .ok type.shape :=
    readShape_of_shapeAt exported stored.shape
  split at block <;> rename_i flag <;>
    simp [decode, present, aligned, size, flags, kind, code, string, text, repr, named, flag,
      block, shape, stored.placed, stored.path, bind, Except.bind] <;>
    rfl

theorem decode_of_encodedBy {layout : DescriptorLayout} {type : RuntimeType}
    {flagByte kindByte : UInt8} {uncommon : Option Uncommon} (present : address.isNull = false)
    (aligned : address.isAligned 8 = true)
    (encoded : EncodedBy image .readable layout sectionBase address type flagByte kindByte
      uncommon) : decode image layout sectionBase address = .ok type := by
  rw [decode_of_storedAs present aligned encoded.toStoredAs, name_read encoded.name]

/-! ### Sections -/

instance : Std.IsLinearOrder Address where
  le_refl address := UInt64.le_refl address.val
  le_trans _ _ _ := UInt64.le_trans
  le_antisymm left right below above := by
    cases left
    cases right
    exact congrArg Address.mk (UInt64.le_antisymm below above)
  le_total left right := UInt64.le_total left.val right.val

theorem max_address (left right : Address) :
    max left right = if left ≤ right then right else left :=
  rfl

instance : Std.LawfulOrderMax Address where
  max_eq_or left right := by
    rw [max_address]
    split
    · exact Or.inr rfl
    · exact Or.inl rfl
  max_le_iff left right bound := by
    rw [max_address]
    split
    · rename_i below
      exact ⟨fun above => ⟨Std.IsPreorder.le_trans _ _ _ below above, above⟩, And.right⟩
    · rename_i apart
      have below := (Std.IsLinearPreorder.le_total left right).resolve_left apart
      exact ⟨fun above => ⟨above, Std.IsPreorder.le_trans _ _ _ below above⟩, And.left⟩

theorem owningSection_of_greatest {sections : List Address} (member : sectionBase ∈ sections)
    (below : sectionBase ≤ address)
    (greatest : ∀ other ∈ sections, other ≤ address → other ≤ sectionBase) :
    owningSection sections address = some sectionBase := by
  apply List.max?_eq_some_iff.mpr
  refine ⟨by simp [member, below], ?_⟩
  intro other among
  obtain ⟨among, under⟩ := List.mem_filter.mp among
  exact greatest other among (of_decide_eq_true under)

/-- Whatever descriptor an image encodes at an address, with its parts where a reader can follow
to, is what the address is resolved to, relative to the greatest section base not above it. -/
theorem descriptor_read_back (image : Image) (layout : DescriptorLayout) (sections : List Address)
    (sectionBase address : Address) (type : RuntimeType) (member : sectionBase ∈ sections)
    (below : sectionBase ≤ address)
    (greatest : ∀ other ∈ sections, other ≤ address → other ≤ sectionBase)
    (present : address.isNull = false) (aligned : address.isAligned 8 = true)
    (encodes : Encodes image .readable layout sectionBase address type) :
    Resolver.ofImage image layout sections address = .ok type := by
  obtain ⟨flagByte, kindByte, uncommon, encoded⟩ := encodes
  unfold Resolver.ofImage
  rw [owningSection_of_greatest member below greatest]
  exact decode_of_encodedBy present aligned encoded

/-- A header, with zeros where the layout says nothing. -/
def header (size : UInt64) (flagByte kindByte : UInt8) (text : Int32) : List UInt8 :=
  spell 8 size.toNat ++ List.replicate 12 0 ++ [flagByte, 0, 0, kindByte] ++
    List.replicate 16 0 ++ spell 4 text.toUInt32.toNat ++ List.replicate 4 0

def shortNameBytes (flagByte : UInt8) (text : String) : List UInt8 :=
  flagByte :: UInt8.ofNat text.utf8ByteSize :: Text.Utf8.encode text

theorem nameAt_of_short {meant : Encodings} {flagByte : UInt8} {text : String}
    (present : address.isNull = false) (short : text.utf8ByteSize < 128)
    (written : image.Holds address (shortNameBytes flagByte text))
    (reached : meant = .readable → text = "" → address.val.toNat + 2 < 2 ^ 64) :
    NameAt image meant address flagByte text := by
  have groups : EncodedName.lengthGroups text.utf8ByteSize =
      [UInt8.ofNat text.utf8ByteSize] := by
    rw [EncodedName.lengthGroups, if_pos short]
  apply nameAt_of_written present (by omega) _ reached
  rw [groups]
  exact written

/-- A declared struct with an embedded field and two methods, the first of which is exported. -/
def pairImage : Image := ⟨⟨4096⟩, List.toArray (
  header 16 7 57 152 ++
    spell 8 0 ++ spell 8 4192 ++ spell 8 1 ++ spell 8 1 ++
    spell 4 164 ++ spell 2 2 ++ spell 2 1 ++ spell 4 40 ++ spell 4 0 ++
    spell 8 4278 ++ spell 8 4160 ++ spell 8 0 ++
    spell 4 188 ++ spell 4 64 ++ spell 8 0 ++ List.replicate 16 0 ++
    shortNameBytes 0 "*main.Pair" ++ shortNameBytes 0 "example.com/main" ++
    shortNameBytes 8 "Next" ++ shortNameBytes 1 "Get")⟩

def pairBlock : Uncommon := ⟨some "example.com/main", 2, 1, 40⟩

def pair : RuntimeType :=
  ⟨some ⟨4096⟩, .struct, 16, some "Pair", some "example.com/main", "main.Pair",
    .struct [⟨"Next", .address ⟨4160⟩, 0, true⟩] [⟨"Get", some (.address ⟨4160⟩)⟩]⟩

theorem pair_fields : TableAt pairImage .readable (FieldAt pairImage .readable) 24 ⟨4096⟩
    pair.fields := by
  have name : NameAt pairImage .readable ⟨4278⟩ 8 "Next" :=
    nameAt_of_short rfl (by decide) (by decide +kernel) (by decide)
  have field : FieldAt pairImage .readable ⟨4192⟩ ⟨"Next", .address ⟨4160⟩, 0, true⟩ :=
    ⟨⟨4278⟩, 8, by decide +kernel, name, by decide, ⟨⟨4160⟩, rfl, rfl, by decide +kernel⟩,
      by decide +kernel⟩
  exact ⟨⟨4192⟩, by decide +kernel, by decide +kernel, by decide, rowsAt_cons field rowsAt_nil,
    fun _ _ => rfl⟩

theorem pair_methods : MethodsAt pairImage .readable ⟨4096⟩ ⟨4176⟩ pair.methods
    (some pairBlock) := by
  have name : NameAt pairImage .readable ⟨4284⟩ 1 "Get" :=
    nameAt_of_short rfl (by decide) (by decide +kernel) (by decide)
  have method : MethodAt pairImage .readable ⟨4096⟩ ⟨4216⟩ ⟨"Get", some (.address ⟨4160⟩)⟩ :=
    ⟨188, 64, 1, by decide +kernel, by decide +kernel, name, .kept (by decide) (by decide)⟩
  exact ⟨rfl, rowsAt_cons method rowsAt_nil⟩

theorem pair_block : BlockAt pairImage .readable ⟨4096⟩ ⟨4176⟩ pairBlock := by
  have path : NameAt pairImage .readable ⟨4260⟩ 0 "example.com/main" :=
    nameAt_of_short rfl (by decide) (by decide +kernel) (by decide)
  refine ⟨?_, by decide +kernel, by decide +kernel, by decide +kernel, by decide⟩
  exact @PathAt.path _ _ _ _ 164 0 _ (by decide) (by decide +kernel) (by decide) path

theorem pair_encoded : EncodedBy pairImage .readable .buckets ⟨4096⟩ ⟨4096⟩ pair 7 57
    (some pairBlock) where
  placed := rfl
  size := by decide +kernel
  flags := by decide +kernel
  kind := by decide +kernel
  code := rfl
  text := by
    have text : NameAt pairImage .readable ⟨4248⟩ 0 "*main.Pair" :=
      nameAt_of_short rfl (by decide) (by decide +kernel) (by decide)
    exact ⟨152, 0, by decide +kernel, text⟩
  block := ⟨rfl, pair_block⟩
  name := by
    have part := shortName_partBehind pair.repr
    have short : shortName pair.repr = "Pair" := by decide +kernel
    have shallow : Shallow "Pair".toList := shallow_of_short (by decide)
    rw [short] at part
    exact ⟨rfl, (lastPart_iff shallow).mp part, fun _ => shallow⟩
  path := rfl
  shape := .struct pair_fields pair_methods

theorem descriptor_read_back_over_pair :
    Encodes pairImage .readable .buckets ⟨4096⟩ ⟨4096⟩ pair ∧
      Resolver.ofImage pairImage .buckets [⟨8192⟩, ⟨4096⟩, ⟨64⟩] ⟨4096⟩ = .ok pair := by
  have encodes : Encodes pairImage .readable .buckets ⟨4096⟩ ⟨4096⟩ pair :=
    ⟨7, 57, some pairBlock, pair_encoded⟩
  refine ⟨encodes, ?_⟩
  exact descriptor_read_back pairImage .buckets [⟨8192⟩, ⟨4096⟩, ⟨64⟩] ⟨4096⟩ ⟨4096⟩ pair
    (by decide) (by decide) (by decide) rfl rfl encodes

/-- A struct whose fields are described at the null address. -/
def nullTableImage : Image := ⟨⟨0⟩, List.toArray (
  spell 8 162 ++ spell 8 64 ++ spell 8 0 ++ List.replicate 40 0 ++
    header 8 0 25 144 ++ spell 8 0 ++ spell 8 0 ++ spell 8 1 ++ spell 8 1 ++
    shortNameBytes 0 "struct \x7b a int \x7d" ++ shortNameBytes 0 "a")⟩

def nullTable : RuntimeType :=
  ⟨some ⟨64⟩, .struct, 8, none, none, "struct \x7b a int \x7d",
    .struct [⟨"a", .address ⟨64⟩, 0, false⟩] []⟩

/-- The highest address at which a descriptor and a name behind it can stand. -/
def lastPlace : Address := ⟨18446744073709551552⟩

/-- A primitive whose runtime string is empty and takes up the last two bytes of the address
space. -/
def lastNameImage : Image := ⟨lastPlace, List.toArray (
  header 1 0 1 62 ++ List.replicate 14 0 ++ shortNameBytes 0 "")⟩

def lastName : RuntimeType := ⟨some lastPlace, .bool, 1, none, none, "", .primitive⟩

theorem nullTable_encoded :
    EncodedBy nullTableImage .every .buckets ⟨0⟩ ⟨64⟩ nullTable 0 25 none where
  placed := rfl
  size := by decide +kernel
  flags := by decide +kernel
  kind := by decide +kernel
  code := rfl
  text := by
    have text : NameAt nullTableImage .every ⟨144⟩ 0 nullTable.repr :=
      nameAt_of_short rfl (by decide) (by decide +kernel) (by decide)
    exact ⟨144, 0, by decide +kernel, text⟩
  block := rfl
  name := rfl
  path := rfl
  shape := by
    have name : NameAt nullTableImage .every ⟨162⟩ 0 "a" :=
      nameAt_of_short rfl (by decide) (by decide +kernel) (by decide)
    have field : FieldAt nullTableImage .every ⟨0⟩ ⟨"a", .address ⟨64⟩, 0, false⟩ :=
      ⟨⟨162⟩, 0, by decide +kernel, name, by decide, ⟨⟨64⟩, rfl, rfl, by decide +kernel⟩,
        by decide +kernel⟩
    refine .struct ⟨⟨0⟩, ?_, ?_, by decide, rowsAt_cons field rowsAt_nil, by decide⟩ rfl
    · decide +kernel
    · decide +kernel

theorem lastName_encoded :
    EncodedBy lastNameImage .every .buckets lastPlace lastPlace lastName 0 1 none where
  placed := rfl
  size := by decide +kernel
  flags := by decide +kernel
  kind := by decide +kernel
  code := rfl
  text := by
    have text : NameAt lastNameImage .every ⟨18446744073709551614⟩ 0 "" :=
      nameAt_of_short rfl (by decide) (by decide +kernel) (by decide)
    exact ⟨62, 0, by decide +kernel, text⟩
  block := rfl
  name := rfl
  path := rfl
  shape := .primitive (by decide)

/-- A declared type without a package, whose runtime string stands right behind its header. -/
def declaredImage (text : String) : Image := ⟨⟨4096⟩, List.toArray (
  header 1 4 1 48 ++
    (0 :: EncodedName.lengthGroups text.utf8ByteSize ++ Text.Utf8.encode text))⟩

def declared (text name : String) : RuntimeType :=
  ⟨some ⟨4096⟩, .bool, 1, some name, none, text, .primitive⟩

theorem declared_text {meant : Encodings} {text : String} (fits : text.utf8ByteSize < 2 ^ 35) :
    NameAt (declaredImage text) meant ⟨4144⟩ 0 text := by
  refine nameAt_of_written rfl fits ?_ fun _ _ => by decide
  refine ⟨header 1 4 1 48, [], by simp [declaredImage], rfl, ?_⟩
  have groups := EncodedName.lengthGroups_fits 4 _ fits
  rw [List.length_append, List.length_cons, Text.Utf8.length_encode]
  show 4144 + _ ≤ 2 ^ 64
  omega

theorem declared_stored (meant : Encodings) {text : String} (name : String)
    (fits : text.utf8ByteSize < 2 ^ 35) :
    StoredAs (declaredImage text) meant .buckets ⟨4096⟩ ⟨4096⟩ (declared text name) 4 1 none where
  placed := rfl
  size := by
    have one : Image.HoldsWord ⟨⟨4096⟩, (header 1 4 1 48).toArray⟩ ⟨4096⟩ 1 := by decide +kernel
    exact Image.holds_append one _
  flags := Image.holds_append (by decide +kernel) _
  kind := Image.holds_append (by decide +kernel) _
  code := rfl
  text := ⟨48, 0, Image.holds_append (by decide +kernel) _, declared_text fits⟩
  block := rfl
  path := rfl
  shape := by
    have untailed : Kind.bool ∉ tailed := by decide
    exact .primitive untailed

theorem declared_encoded {text name : String} (fits : text.utf8ByteSize < 2 ^ 35)
    (part : LastPart text.toList name.toList) :
    Encodes (declaredImage text) .every .buckets ⟨4096⟩ ⟨4096⟩ (declared text name) :=
  ⟨4, 1, none, declared_stored .every name fits, rfl, part, by simp⟩

/-- Whatever its declared name, the type is read with the short one of its runtime string. -/
theorem declared_read {text : String} (fits : text.utf8ByteSize < 2 ^ 35) :
    Resolver.ofImage (declaredImage text) .buckets [⟨4096⟩] ⟨4096⟩ =
      .ok (declared text (shortName text)) := by
  unfold Resolver.ofImage
  rw [owningSection_of_greatest (List.mem_singleton_self _) (by decide) (by simp)]
  exact decode_of_storedAs rfl rfl (declared_stored .readable (shortName text) fits)

/-- A runtime string that nests 2 ^ 32 brackets around a dot. -/
def nestedText : String := "main" ++ "." ++ nestedName (2 ^ 32)

theorem nestedText_fits : nestedText.utf8ByteSize < 2 ^ 35 := by
  have package : ("main" ++ ".").utf8ByteSize = 5 := by decide
  rw [nestedText, String.utf8ByteSize_append, utf8ByteSize_nestedName]
  omega

/-- A table with rows at the null address is refused as missing, and so is a name without bytes at
the top of the address space. A name that nests too many brackets is read without the opening
ones. The images encode all three descriptors. -/
theorem encodings_not_read_back :
    (Encodes nullTableImage .every .buckets ⟨0⟩ ⟨64⟩ nullTable ∧
      Resolver.ofImage nullTableImage .buckets [⟨0⟩] ⟨64⟩ =
        .error (.nullReference ⟨64⟩ .fieldArray)) ∧
    (Encodes lastNameImage .every .buckets lastPlace lastPlace lastName ∧
      Resolver.ofImage lastNameImage .buckets [lastPlace] lastPlace =
        .error (.invalidName ⟨18446744073709551614⟩ (.unreadable (.outOfBounds ⟨0⟩)))) ∧
    Encodes (declaredImage nestedText) .every .buckets ⟨4096⟩ ⟨4096⟩
        (declared nestedText (nestedName (2 ^ 32))) ∧
      Resolver.ofImage (declaredImage nestedText) .buckets [⟨4096⟩] ⟨4096⟩ =
        .ok (declared nestedText (closings (2 ^ 32))) ∧
      closings (2 ^ 32) ≠ nestedName (2 ^ 32) := by
  refine ⟨⟨⟨0, 25, none, nullTable_encoded⟩, ?_⟩, ⟨⟨0, 1, none, lastName_encoded⟩, ?_⟩, ?_, ?_,
    closings_ne_nestedName (2 ^ 32)⟩
  · decide +kernel
  · decide +kernel
  · apply declared_encoded nestedText_fits
    rw [nestedText, toList_qualified]
    exact lastPart_qualified (nestedName_enclosed (by decide)) _
  · have short : shortName nestedText = closings (2 ^ 32) :=
      shortName_nestedName (by decide) "main"
    rw [declared_read nestedText_fits, short]

end TypeAtlas.RuntimeType
