import TypeAtlas.Registry.Value

/-!
The checks on what the registry function returns, told by the values alone: two sequences as long
as each other, in which every item has the declared shape down to the last. Links are read from
such values and from no others.
-/

namespace TypeAtlas

set_option autoImplicit false

/-- A value has a shape if it is declared so and all its items are, down to the last. -/
inductive HasShape : DynValue → ValueShape → Prop where
  | opaquePointer (address : Address) : HasShape (.opaquePointer address) .opaquePointer
  | uint32 (value : UInt32) : HasShape (.uint32 value) .uint32
  | uint64 (value : UInt64) : HasShape (.uint64 value) .uint64
  | sequence {elem : ValueShape} {items : List DynValue} :
      (∀ item ∈ items, HasShape item elem) → HasShape (.sequence elem items) (.sequence elem)

/-- What the registry function has to return: bases and offset tables, as many of one as of the
other. -/
inductive Checked : List DynValue → Prop where
  | tables {bases offsets : List DynValue} :
      (∀ base ∈ bases, HasShape base .opaquePointer) →
        (∀ table ∈ offsets, HasShape table (.sequence .uint32)) → bases.length = offsets.length →
          Checked [.sequence .opaquePointer bases, .sequence (.sequence .uint32) offsets]

namespace DynValue

theorem allConform_iff (items : List DynValue) (shape : ValueShape) :
    allConform items shape = true ↔ ∀ item ∈ items, item.conformsTo shape = true := by
  induction items with
  | nil => simp [allConform]
  | cons item later ih => simp [allConform, ih]

/-- The induction is on the shape, because a sequence may declare one that its items do not
have. -/
theorem conformsTo_iff (value : DynValue) (shape : ValueShape) :
    value.conformsTo shape = true ↔ HasShape value shape := by
  induction shape generalizing value with
  | opaquePointer | uint32 | uint64 =>
      constructor
      · intro conforms
        cases value <;> first | constructor | simp [conformsTo] at conforms
      · intro shaped
        cases shaped
        rfl
  | sequence elem ih =>
      constructor
      · intro conforms
        cases value with
        | sequence declared items =>
            simp only [conformsTo, Bool.and_eq_true, beq_iff_eq, allConform_iff] at conforms
            obtain ⟨rfl, each⟩ := conforms
            exact .sequence fun item member => (ih item).mp (each item member)
        | opaquePointer address | uint32 value | uint64 value => simp [conformsTo] at conforms
      · intro shaped
        cases shaped with
        | sequence each =>
            simp only [conformsTo, beq_self_eq_true, Bool.true_and, allConform_iff]
            exact fun item member => (ih item).mpr (each item member)

end DynValue

namespace TypeLinks

theorem sequence_of_shape {value : DynValue} {elem : ValueShape}
    (shaped : HasShape value (.sequence elem)) :
    ∃ items, value = .sequence elem items ∧ ∀ item ∈ items, HasShape item elem := by
  cases shaped with
  | sequence each => exact ⟨_, rfl, each⟩

/-- No base is lost when pointers are read as such. -/
theorem length_pointers {bases : List DynValue}
    (pointers : ∀ base ∈ bases, HasShape base .opaquePointer) :
    (bases.filterMap DynValue.asPointer?).length = bases.length := by
  induction bases with
  | nil => rfl
  | cons base later ih =>
      have rest := ih fun other member => pointers other (List.mem_cons_of_mem _ member)
      cases pointers base List.mem_cons_self with
      | opaquePointer address => simp [DynValue.asPointer?, rest]

/-- Between values of the right shapes only the two lengths are left to compare. -/
theorem ofValues_shaped {bases offsets : List DynValue}
    (pointers : ∀ base ∈ bases, HasShape base .opaquePointer)
    (tables : ∀ table ∈ offsets, HasShape table (.sequence .uint32)) :
    ofValues [.sequence .opaquePointer bases, .sequence (.sequence .uint32) offsets] =
      if bases.length = offsets.length then
        .ok (extract (.sequence .opaquePointer bases) (.sequence (.sequence .uint32) offsets))
      else .error (.tableCount bases.length offsets.length) := by
  have sectionsPass := (DynValue.conformsTo_iff _ FuncSignature.sectionsShape).mpr
    (HasShape.sequence pointers)
  have offsetsPass := (DynValue.conformsTo_iff _ FuncSignature.offsetsShape).mpr
    (HasShape.sequence tables)
  unfold ofValues
  simp only [sectionsPass, offsetsPass, Bool.not_true, Bool.false_eq_true, if_false]
  simp only [extract, DynValue.items?, Option.getD_some, List.length_map,
    length_pointers pointers]

theorem shaped_of_ofValues {values : List DynValue} {links : TypeLinks}
    (read : ofValues values = .ok links) :
    ∃ sections offsets, values = [sections, offsets] ∧
      HasShape sections FuncSignature.sectionsShape ∧
        HasShape offsets FuncSignature.offsetsShape := by
  unfold ofValues at read
  split at read
  · rename_i sections offsets
    split at read
    · cases read
    · rename_i sectionsPass
      split at read
      · cases read
      · rename_i offsetsPass
        refine ⟨sections, offsets, rfl, ?_, ?_⟩
        · exact (DynValue.conformsTo_iff _ _).mp (by simpa using sectionsPass)
        · exact (DynValue.conformsTo_iff _ _).mp (by simpa using offsetsPass)
  · cases read

/-- Links are read from exactly the values that pass every check. -/
theorem ofValues_ok_iff (values : List DynValue) :
    (∃ links, ofValues values = .ok links) ↔ Checked values := by
  constructor
  · intro accepted
    obtain ⟨links, read⟩ := accepted
    obtain ⟨sections, offsets, rfl, sectionsShaped, offsetsShaped⟩ := shaped_of_ofValues read
    obtain ⟨bases, rfl, pointers⟩ := sequence_of_shape sectionsShaped
    obtain ⟨tables, rfl, each⟩ := sequence_of_shape offsetsShaped
    rw [ofValues_shaped pointers each] at read
    by_cases same : bases.length = tables.length
    · exact .tables pointers each same
    · rw [if_neg same] at read
      cases read
  · intro checked
    cases checked with
    | tables pointers each same => exact ⟨_, by rw [ofValues_shaped pointers each, if_pos same]⟩

end TypeLinks

end TypeAtlas
