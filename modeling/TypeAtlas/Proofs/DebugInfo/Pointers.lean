import TypeAtlas.Proofs.DebugInfo.Keys

/-!
Keys of pointers to structs. Whether the struct behind a pointer is declared is told from the
spelling of the pointer: a brace behind the keyword opens a definition, and anything else is a
name. The key of the pointer is a star and the key of the struct exactly where that is so.
-/

namespace TypeAtlas.DebugType

set_option autoImplicit false

/-- The key of a pointer to a struct, by the name of the struct and by whether it is incomplete. -/
inductive StructPointerKey (fields : List (String × DebugType)) :
    String → Bool → String → Prop where
  | definition :
      StructPointerKey fields "" false
        ("*" ++ structDefinition "struct" "" (renderFields fields) false)
  | mark : StructPointerKey fields "" true "*/*incomplete*/"
  | declared {name : String} (incomplete : Bool) :
      name ≠ "" → name.toList.head? ≠ some '\x7b' →
        StructPointerKey fields name incomplete ("*" ++ name)
  | opened {name : String} (incomplete : Bool) :
      name.toList.head? = some '\x7b' → StructPointerKey fields name incomplete ("*struct " ++ name)

/-- The spelling tells an anonymous struct from a declared one. The definition shows its fields, or
the name begins neither like a definition nor like a pointer to a declared struct. -/
inductive ToldBySpelling : String → Bool → Prop where
  | anonymous : ToldBySpelling "" false
  | declared {name : String} (incomplete : Bool) :
      name ≠ "" → name.toList.head? ≠ some '\x7b' →
        (∀ rest, name.toList = structPointer ++ rest → rest.head? = some '\x7b') →
          ToldBySpelling name incomplete

variable {name : String} {fields : List (String × DebugType)}

theorem structPointer_letters : structPointer = ['*', 's', 't', 'r', 'u', 'c', 't', ' '] := by
  decide

theorem eq_of_letters {rest : List Char} (letters : name.toList = structPointer ++ rest) :
    name = "*struct " ++ String.ofList rest := by
  apply String.toList_inj.mp
  rw [letters, String.toList_append, String.toList_ofList (l := rest)]
  rfl

theorem keyword_ne (text : String) : "*struct " ++ text ≠ "*" ++ text := by
  intro same
  have lengths := congrArg (fun text => text.toList.length) same
  simp at lengths
  omega

/-- A text is its own key exactly if no keyword is found in it. -/
theorem dropKeyword_eq_self_iff : dropKeyword name = name ↔
    ∀ rest, name.toList = structPointer ++ rest → rest.head? = some '\x7b' := by
  constructor
  · intro kept rest letters
    by_contra unopened
    rw [eq_of_letters letters, dropKeyword_dropped (by simpa using unopened)] at kept
    exact keyword_ne (String.ofList rest) kept.symm
  · exact dropKeyword_kept

theorem key_declared (kind : String) (fields : List (String × DebugType)) (incomplete : Bool)
    (filled : name ≠ "") : key (.struct kind name fields incomplete) = dropKeyword name := by
  simp only [key, knownAs, String.isEmpty_iff, filled, if_false]

theorem definition_incomplete (parts : List String) :
    structDefinition "struct" "" parts true = "struct /*incomplete*/" := by
  simp only [structDefinition, String.isEmpty_iff, if_true]
  decide

theorem render_anonymous (fields : List (String × DebugType)) (incomplete : Bool) :
    render (.struct "struct" "" fields incomplete) =
      structDefinition "struct" "" (renderFields fields) incomplete := by
  simp only [render, String.isEmpty_iff, if_true]

theorem key_anonymous (fields : List (String × DebugType)) (incomplete : Bool) :
    key (.struct "struct" "" fields incomplete) =
      structDefinition "struct" "" (renderFields fields) incomplete := by
  simp only [key, knownAs, String.isEmpty_iff, if_true]
  apply dropKeyword_kept
  intro rest letters
  -- A definition begins with its keyword, and not with a star.
  rw [structPointer_letters] at letters
  cases incomplete <;> simp [structDefinition] at letters

theorem key_pointer (target : DebugType) :
    key (.pointer target) = dropKeyword ("*" ++ target.render) :=
  rfl

theorem render_declared (fields : List (String × DebugType)) (incomplete : Bool)
    (filled : name ≠ "") :
    "*" ++ render (.struct "struct" name fields incomplete) = "*struct " ++ name := by
  simp only [render, String.isEmpty_iff, filled, if_false]
  rw [← String.append_assoc]
  rfl

theorem key_pointer_declared (fields : List (String × DebugType)) (incomplete : Bool)
    (filled : name ≠ "") (unopened : name.toList.head? ≠ some '\x7b') :
    key (.pointer (.struct "struct" name fields incomplete)) = "*" ++ name := by
  rw [key_pointer, render_declared fields incomplete filled, dropKeyword_dropped unopened]

theorem key_pointer_opened (fields : List (String × DebugType)) (incomplete : Bool)
    (opened : name.toList.head? = some '\x7b') :
    key (.pointer (.struct "struct" name fields incomplete)) = "*struct " ++ name := by
  have filled : name ≠ "" := by
    intro blank
    rw [blank] at opened
    cases opened
  rw [key_pointer, render_declared fields incomplete filled]
  apply dropKeyword_kept
  intro rest letters
  rw [String.toList_append] at letters
  rw [← List.append_cancel_left letters]
  exact opened

theorem key_pointer_definition (fields : List (String × DebugType)) :
    key (.pointer (.struct "struct" "" fields false)) =
      "*" ++ structDefinition "struct" "" (renderFields fields) false := by
  rw [key_pointer, render_anonymous]
  apply dropKeyword_kept
  intro rest letters
  have brace :
      '\x7b' :: (String.intercalate "; " (renderFields fields) ++ "\x7d").toList = rest := by
    rw [structPointer_letters] at letters
    simpa [structDefinition] using letters
  rw [← brace]
  rfl

/-- The mark of an incomplete struct is taken for a declared name. -/
theorem key_pointer_mark (fields : List (String × DebugType)) :
    key (.pointer (.struct "struct" "" fields true)) = "*/*incomplete*/" := by
  rw [key_pointer, render_anonymous, definition_incomplete]
  decide

theorem structPointerKey_key (name : String) (fields : List (String × DebugType))
    (incomplete : Bool) : StructPointerKey fields name incomplete
      (key (.pointer (.struct "struct" name fields incomplete))) := by
  by_cases blank : name = ""
  · subst blank
    cases incomplete with
    | false =>
        rw [key_pointer_definition]
        exact .definition
    | true =>
        rw [key_pointer_mark]
        exact .mark
  · by_cases opened : name.toList.head? = some '\x7b'
    · rw [key_pointer_opened fields incomplete opened]
      exact .opened incomplete opened
    · rw [key_pointer_declared fields incomplete blank opened]
      exact .declared incomplete blank opened

theorem keyed_by_struct_iff_of_declared (fields : List (String × DebugType)) (incomplete : Bool)
    (filled : name ≠ "") :
    key (.pointer (.struct "struct" name fields incomplete)) =
        "*" ++ key (.struct "struct" name fields incomplete) ↔ ToldBySpelling name incomplete := by
  rw [key_declared "struct" fields incomplete filled]
  by_cases opened : name.toList.head? = some '\x7b'
  · have kept : dropKeyword name = name := by
      apply dropKeyword_kept
      intro rest letters
      rw [letters, structPointer_letters] at opened
      cases opened
    rw [key_pointer_opened fields incomplete opened, kept]
    constructor
    · intro same
      exact absurd same (keyword_ne name)
    · intro told
      cases told with
      | anonymous => exact absurd rfl filled
      | declared _ _ unopened _ => exact absurd opened unopened
  · rw [key_pointer_declared fields incomplete filled opened, eq_comm, String.append_right_inj,
      dropKeyword_eq_self_iff]
    constructor
    · exact .declared incomplete filled opened
    · intro told
      cases told with
      | anonymous => exact absurd rfl filled
      | declared _ _ _ unkeyed => exact unkeyed

/-- The key of a pointer to a struct, and when it is a star and the key of the struct. -/
theorem struct_pointer_keyed_by_struct_iff (name : String) (fields : List (String × DebugType))
    (incomplete : Bool) :
    StructPointerKey fields name incomplete
        (key (.pointer (.struct "struct" name fields incomplete))) ∧
      (key (.pointer (.struct "struct" name fields incomplete)) =
          "*" ++ key (.struct "struct" name fields incomplete) ↔
        ToldBySpelling name incomplete) := by
  refine ⟨structPointerKey_key name fields incomplete, ?_⟩
  by_cases blank : name = ""
  · subst blank
    rw [key_anonymous]
    cases incomplete with
    | false =>
        rw [key_pointer_definition]
        exact ⟨fun _ => .anonymous, fun _ => rfl⟩
    | true =>
        rw [key_pointer_mark, definition_incomplete]
        refine ⟨fun same => absurd same (by decide), ?_⟩
        intro told
        cases told with
        | declared _ filled _ _ => exact absurd rfl filled
  · exact keyed_by_struct_iff_of_declared fields incomplete blank

/-- An anonymous struct that is incomplete loses its keyword behind a pointer, as if the mark were
its name. -/
theorem incomplete_struct_pointer_loses_keyword :
    key (.pointer (.struct "struct" "" [] true)) ≠
      "*" ++ key (.struct "struct" "" [] true) := by
  decide

end TypeAtlas.DebugType
