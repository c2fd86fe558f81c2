import Mathlib.Data.Set.List
import TypeAtlas.Proofs.Lists
import TypeAtlas.Proofs.Registry.Invocation

/-!
The tables that the registry function returns, read back. Values pass the checks exactly if they
are the encoding of links with as many sections as tables, and reading them gives those links, so
that nothing is dropped on the way. The addresses of such links are one for each entry of a table,
in the order of the tables.
-/

namespace TypeAtlas

set_option autoImplicit false

namespace TypeLinks

/-- There is a table of offsets for every section. -/
def Paired (links : TypeLinks) : Prop := links.sections.length = links.offsets.length

/-- Entry `entry` of table `table` is `offset`, and `base` is the section it belongs to. -/
structure HasEntry (links : TypeLinks) (table entry : Nat) (base : Address) (offset : UInt32) :
    Prop where
  base : links.sections[table]? = some base
  offset : ∃ offsets, links.offsets[table]? = some offsets ∧ offsets[entry]? = some offset

/-- How many entries come before entry `entry` of table `table`. -/
def entriesBefore (links : TypeLinks) (table entry : Nat) : Nat :=
  ((links.offsets.take table).map List.length).sum + entry

/-- Where an offset leads from a base, modulo the size of the address space. -/
def target (base : Address) (offset : UInt32) : Address :=
  ⟨UInt64.ofNat ((base.val.toNat + offset.toNat) % 2 ^ 64)⟩

/-- The pairs are those of the entries, a base and an address for each, table by table. -/
structure Enumerates (links : TypeLinks) (pairs : List (Address × Address)) : Prop where
  count : pairs.length = links.descriptorCount
  place : ∀ (position : Nat) (pair : Address × Address), pairs[position]? = some pair ↔
    ∃ table entry base offset, links.HasEntry table entry base offset ∧
      position = links.entriesBefore table entry ∧ pair = (base, target base offset)

theorem pointers_of_shaped {bases : List DynValue}
    (pointers : ∀ base ∈ bases, HasShape base .opaquePointer) :
    ∃ addresses : List Address, addresses.map .opaquePointer = bases := by
  have made : bases ∈ Set.range (List.map DynValue.opaquePointer) := by
    rw [Set.range_list_map]
    intro base member
    cases pointers base member with
    | opaquePointer address => exact ⟨address, rfl⟩
  exact made

theorem table_of_shaped {table : DynValue} (shaped : HasShape table (.sequence .uint32)) :
    ∃ offsets, tableValue offsets = table := by
  obtain ⟨items, rfl, words⟩ := sequence_of_shape shaped
  have made : items ∈ Set.range (List.map DynValue.uint32) := by
    rw [Set.range_list_map]
    intro item member
    cases words item member with
    | uint32 value => exact ⟨value, rfl⟩
  obtain ⟨offsets, rfl⟩ := made
  exact ⟨offsets, rfl⟩

theorem tables_of_shaped {tables : List DynValue}
    (shaped : ∀ table ∈ tables, HasShape table (.sequence .uint32)) :
    ∃ offsets : List (List UInt32), offsets.map tableValue = tables := by
  have made : tables ∈ Set.range (List.map tableValue) := by
    rw [Set.range_list_map]
    exact fun table member => table_of_shaped (shaped table member)
  exact made

/-- Checked values are the encoding of links. -/
theorem encoding_of_checked {values : List DynValue} (checked : Checked values) :
    ∃ links : TypeLinks, links.Paired ∧ links.toValues = values := by
  cases checked with
  | tables pointers each same =>
      obtain ⟨sections, rfl⟩ := pointers_of_shaped pointers
      obtain ⟨offsets, rfl⟩ := tables_of_shaped each
      rw [List.length_map, List.length_map] at same
      exact ⟨⟨sections, offsets⟩, same, rfl⟩

theorem checked_toValues {links : TypeLinks} (paired : links.Paired) :
    Checked links.toValues := by
  apply Checked.tables
  · intro base member
    obtain ⟨address, _, rfl⟩ := List.mem_map.mp member
    exact .opaquePointer address
  · intro table member
    obtain ⟨offsets, _, rfl⟩ := List.mem_map.mp member
    apply HasShape.sequence
    intro item among
    obtain ⟨offset, _, rfl⟩ := List.mem_map.mp among
    exact .uint32 offset
  · rw [List.length_map, List.length_map]
    exact paired

/-- Nothing of an encoding is passed over when it is read. -/
theorem extract_encoding (links : TypeLinks) :
    extract links.sectionsValue links.offsetsValue = links := by
  have pointer : (DynValue.asPointer? ∘ DynValue.opaquePointer) = some := rfl
  have word : (DynValue.asUInt32? ∘ DynValue.uint32) = some := rfl
  have sections : (links.sections.map DynValue.opaquePointer).filterMap DynValue.asPointer? =
      links.sections := by
    rw [List.filterMap_map, pointer, List.filterMap_some]
  have table : ∀ offsets : List UInt32,
      ((tableValue offsets).items?.getD []).filterMap DynValue.asUInt32? = offsets := by
    intro offsets
    change (offsets.map DynValue.uint32).filterMap DynValue.asUInt32? = offsets
    rw [List.filterMap_map, word, List.filterMap_some]
  have offsets : ((links.offsets.map tableValue).map fun table =>
      (table.items?.getD []).filterMap DynValue.asUInt32?) = links.offsets := by
    simp only [List.map_map, Function.comp_def, table, List.map_id']
  exact congrArg₂ TypeLinks.mk sections offsets

theorem ofValues_toValues {links : TypeLinks} (paired : links.Paired) :
    ofValues links.toValues = .ok links := by
  cases checked_toValues paired with
  | tables pointers each same =>
      rw [toValues, sectionsValue, offsetsValue, ofValues_shaped pointers each, if_pos same]
      exact congrArg Except.ok (extract_encoding links)

/-- Reading gives some links exactly if they encode as what was read. -/
theorem ofValues_eq_ok_iff (values : List DynValue) (links : TypeLinks) :
    ofValues values = .ok links ↔ links.Paired ∧ links.toValues = values := by
  constructor
  · intro read
    obtain ⟨encoded, paired, rfl⟩ :=
      encoding_of_checked ((ofValues_ok_iff values).mp ⟨links, read⟩)
    rw [ofValues_toValues paired] at read
    cases read
    exact ⟨paired, rfl⟩
  · intro encoded
    obtain ⟨paired, rfl⟩ := encoded
    exact ofValues_toValues paired

theorem add_eq_target (base : Address) (offset : UInt32) :
    base + offset.toUInt64 = target base offset := by
  have same : base.val + offset.toUInt64 =
      UInt64.ofNat ((base.val.toNat + offset.toNat) % 2 ^ 64) := by
    apply UInt64.toNat_inj.mp
    rw [UInt64.toNat_add, UInt32.toNat_toUInt64, UInt64.toNat_ofNat', Nat.mod_mod]
  exact congrArg Address.mk same

/-- The pairs of a base and an address, one row for each table. -/
def rows (links : TypeLinks) : List (List (Address × Address)) :=
  links.tables.map fun (base, offsets) => offsets.map fun offset => (base, target base offset)

theorem flatten_rows (links : TypeLinks) : links.rows.flatten = links.descriptorAddresses := by
  unfold rows descriptorAddresses
  simp only [add_eq_target, List.flatMap_def]

theorem lengths_rows {links : TypeLinks} (paired : links.Paired) :
    links.rows.map List.length = links.offsets.map List.length := by
  have each : links.rows.map List.length = (links.tables.map Prod.snd).map List.length := by
    simp only [rows, List.map_map, Function.comp_def, List.length_map]
  rw [each, tables, List.map_snd_zip paired.ge]

theorem row_iff {links : TypeLinks} {table entry : Nat} {pair : Address × Address} :
    (∃ row, links.rows[table]? = some row ∧ row[entry]? = some pair) ↔
      ∃ base offset, links.HasEntry table entry base offset ∧
        pair = (base, target base offset) := by
  unfold rows
  constructor
  · intro placed
    obtain ⟨row, held, among⟩ := placed
    rw [List.getElem?_map] at held
    obtain ⟨⟨base, offsets⟩, both, rfl⟩ := Option.map_eq_some_iff.mp held
    obtain ⟨baseHeld, offsetsHeld⟩ := List.getElem?_zip_eq_some.mp both
    rw [List.getElem?_map] at among
    obtain ⟨offset, placed, rfl⟩ := Option.map_eq_some_iff.mp among
    exact ⟨base, offset, ⟨baseHeld, offsets, offsetsHeld, placed⟩, rfl⟩
  · intro entered
    obtain ⟨base, offset, ⟨baseHeld, offsets, offsetsHeld, placed⟩, rfl⟩ := entered
    have both : links.tables[table]? = some (base, offsets) :=
      List.getElem?_zip_eq_some.mpr ⟨baseHeld, offsetsHeld⟩
    refine ⟨offsets.map fun offset => (base, target base offset), ?_, ?_⟩
    · rw [List.getElem?_map, both]
      rfl
    · rw [List.getElem?_map, placed]
      rfl

theorem enumerates_addresses {links : TypeLinks} (paired : links.Paired) :
    links.Enumerates links.descriptorAddresses := by
  have lengths := lengths_rows paired
  have before : ∀ table, ((links.rows.take table).map List.length).sum =
      ((links.offsets.take table).map List.length).sum := by
    intro table
    rw [List.map_take, List.map_take, lengths]
  constructor
  · rw [← flatten_rows, List.length_flatten, lengths, descriptorCount, List.length_flatten]
  · intro position pair
    rw [← flatten_rows, getElem?_flatten_iff]
    constructor
    · intro placed
      obtain ⟨table, entry, row, held, among, rfl⟩ := placed
      obtain ⟨base, offset, entered, rfl⟩ := row_iff.mp ⟨row, held, among⟩
      exact ⟨table, entry, base, offset, entered, by rw [before, entriesBefore], rfl⟩
    · intro listed
      obtain ⟨table, entry, base, offset, entered, rfl, rfl⟩ := listed
      obtain ⟨row, held, among⟩ := row_iff.mpr ⟨base, offset, entered, rfl⟩
      exact ⟨table, entry, row, held, among, by rw [before, entriesBefore]⟩

/-- What a call for the tables comes to when it answers `values`. -/
structure ReadBack (values : List DynValue) (result : Except CatalogFault TypeLinks) : Prop where
  accepted : (∃ links, result = .ok links) ↔ ∃ links : TypeLinks, links.Paired ∧
    values = links.toValues
  encoded : ∀ links, result = .ok links → links.toValues = values
  decoded : ∀ links : TypeLinks, links.Paired → values = links.toValues → result = .ok links
  enumerated : ∀ links, result = .ok links → links.Enumerates links.descriptorAddresses

theorem readBack_of_iff {values : List DynValue} {result : Except CatalogFault TypeLinks}
    (same : ∀ links, result = .ok links ↔ links.Paired ∧ links.toValues = values) :
    ReadBack values result := by
  refine ⟨?_, ?_, ?_, ?_⟩
  · simp only [same, eq_comm]
  · exact fun links read => ((same links).mp read).2
  · exact fun links paired written => (same links).mpr ⟨paired, written.symm⟩
  · exact fun links read => enumerates_addresses ((same links).mp read).1

end TypeLinks

variable {β : Type} [CodeBinder β]

/-- Whatever the registry function answers once it is bound and called, it is accepted exactly if
it is the encoding of as many sections as tables. The links that are read encode as that answer
again, and their addresses are one for each entry. -/
theorem tables_read_back {entry : Address} {binder between rest : β} {function : BoundFunction β}
    {values : List DynValue} (mapped : entry.isNull = false)
    (bound : CodeBinder.bind entry .typeLinks binder = (.ok function, between))
    (called : function [] between = (.ok values, rest)) :
    TypeLinks.ReadBack values (invokeRegistry entry binder).1 := by
  rw [invokeRegistry_called mapped bound called]
  apply TypeLinks.readBack_of_iff
  intro links
  rw [← TypeLinks.ofValues_eq_ok_iff]
  change (TypeLinks.ofValues values).mapError CatalogFault.shapeMismatch = .ok links ↔ _
  cases TypeLinks.ofValues values with
  | error mismatch => simp [Except.mapError]
  | ok read => simp [Except.mapError]

/-- Two sections, of which the second wraps at the top of the address space. -/
def wrappingLinks : TypeLinks := ⟨[⟨4096⟩, ⟨18446744073709551615⟩], [[16, 0], [2, 1, 48]]⟩

theorem tables_read_back_over_wrapping :
    TypeLinks.ReadBack wrappingLinks.toValues
        (invokeRegistry ⟨8192⟩ (ScriptedBinder.returning wrappingLinks.toValues)).1 ∧
      wrappingLinks.roots = [⟨4112⟩, ⟨4096⟩, ⟨1⟩, ⟨0⟩, ⟨47⟩] :=
  ⟨tables_read_back rfl rfl rfl, by decide⟩

end TypeAtlas
