import TypeAtlas.Descriptor.Fault
import TypeAtlas.Naming.Spelling
import TypeAtlas.Proofs.Lists

/-!
The naming rules as a relation between descriptors and names. A derivation follows references
through a graph of descriptors, so a cycle of types that declare no name has none. The index of
a derivation bounds how deep its types nest. A subject has at most one name, whatever the bound.
-/

namespace TypeAtlas.Naming

set_option autoImplicit false

/-- What can be given a name. -/
inductive Nameable where
  | type (type : RuntimeType)
  | ref (reference : TypeRef)
deriving DecidableEq

/-- An empty declared name counts as none. -/
def Undeclared (type : RuntimeType) : Prop := type.name.getD "" = ""

/-- How the names of parameters are written. The last one of a variadic function loses the
brackets of a slice to an ellipsis, and stays as it is when it has no such brackets. -/
inductive WrittenParams : Bool → List String → List String → Prop where
  | fixed (names : List String) : WrittenParams false names names
  | spread (front : List String) (elem : String) :
      WrittenParams true (front ++ ["[]" ++ elem]) (front ++ ["..." ++ elem])
  | plain (names : List String) (unbracketed : ∀ front elem, names ≠ front ++ ["[]" ++ elem]) :
      WrittenParams true names names

/-- Results stand behind the parameters, in parentheses when there are several. -/
inductive WrittenResults : List String → String → Prop where
  | none : WrittenResults [] ""
  | one (name : String) : WrittenResults [name] (" " ++ name)
  | several (first second : String) (others : List String) :
      WrittenResults (first :: second :: others)
        (" (" ++ String.intercalate ", " (first :: second :: others) ++ ")")

/-- The rules derive `name` for the subject, with types nested at most `levels` deep, the
outermost one included. References are followed by `describe`. -/
inductive Derivable (describe : Address → Except DescriptorFault RuntimeType) :
    Nat → Nameable → String → Prop where
  | opaquePointer {levels : Nat} : Derivable describe levels (.ref .opaquePointer) "*void"
  | described {levels : Nat} {target : Address} {type : RuntimeType} {name : String} :
      describe target = .ok type → Derivable describe levels (.type type) name →
        Derivable describe levels (.ref (.address target)) name
  | qualified {levels : Nat} {type : RuntimeType} {declared path : String} :
      type.name = some declared → declared ≠ "" → type.pkgPath = some path → path ≠ "" →
        Derivable describe (levels + 1) (.type type) (path ++ "." ++ declared)
  | unqualified {levels : Nat} {type : RuntimeType} {declared : String} :
      type.name = some declared → declared ≠ "" → type.pkgPath.getD "" = "" → type.repr ≠ "" →
        Derivable describe (levels + 1) (.type type) type.repr
  | bare {levels : Nat} {type : RuntimeType} {declared : String} :
      type.name = some declared → declared ≠ "" → type.pkgPath.getD "" = "" → type.repr = "" →
        Derivable describe (levels + 1) (.type type) declared
  | primitive {levels : Nat} {type : RuntimeType} :
      Undeclared type → type.shape = .primitive → type.repr ≠ "" →
        Derivable describe (levels + 1) (.type type) type.repr
  | kind {levels : Nat} {type : RuntimeType} :
      Undeclared type → type.shape = .primitive → type.repr = "" →
        Derivable describe (levels + 1) (.type type) type.kind.name
  | interface {levels : Nat} {type : RuntimeType} {methods : List Method} :
      Undeclared type → type.shape = .interface methods →
        Derivable describe (levels + 1) (.type type) type.repr
  | pointer {levels : Nat} {type : RuntimeType} {elem : TypeRef} {name : String} :
      Undeclared type → type.shape = .pointer elem → Derivable describe levels (.ref elem) name →
        Derivable describe (levels + 1) (.type type) ("*" ++ name)
  | slice {levels : Nat} {type : RuntimeType} {elem : TypeRef} {name : String} :
      Undeclared type → type.shape = .slice elem → Derivable describe levels (.ref elem) name →
        Derivable describe (levels + 1) (.type type) ("[]" ++ name)
  | array {levels : Nat} {type : RuntimeType} {elem : TypeRef} {length : UInt64} {name : String} :
      Undeclared type → type.shape = .array elem length →
        Derivable describe levels (.ref elem) name →
          Derivable describe (levels + 1) (.type type)
            ("[" ++ toString length.toNat ++ "]" ++ name)
  | recv {levels : Nat} {type : RuntimeType} {elem : TypeRef} {name : String} :
      Undeclared type → type.shape = .chan elem .recv →
        Derivable describe levels (.ref elem) name →
          Derivable describe (levels + 1) (.type type) ("<-chan " ++ name)
  | send {levels : Nat} {type : RuntimeType} {elem : TypeRef} {name : String} :
      Undeclared type → type.shape = .chan elem .send →
        Derivable describe levels (.ref elem) name →
          Derivable describe (levels + 1) (.type type) ("chan<- " ++ name)
  | both {levels : Nat} {type : RuntimeType} {elem : TypeRef} {name : String} :
      Undeclared type → type.shape = .chan elem .both →
        Derivable describe levels (.ref elem) name →
          Derivable describe (levels + 1) (.type type) ("chan " ++ name)
  | map {levels : Nat} {type : RuntimeType} {key elem : TypeRef} {keyName elemName : String} :
      Undeclared type → type.shape = .map key elem →
        Derivable describe levels (.ref key) keyName →
          Derivable describe levels (.ref elem) elemName →
            Derivable describe (levels + 1) (.type type) ("map[" ++ keyName ++ "]" ++ elemName)
  | func {levels : Nat} {type : RuntimeType} {params results : List TypeRef} {variadic : Bool}
      {paramNames resultNames written : List String} {behind : String} :
      Undeclared type → type.shape = .func params results variadic →
        params.length = paramNames.length → results.length = resultNames.length →
          (∀ part name, (part, name) ∈ params.zip paramNames →
            Derivable describe levels (.ref part) name) →
          (∀ part name, (part, name) ∈ results.zip resultNames →
            Derivable describe levels (.ref part) name) →
            WrittenParams variadic paramNames written → WrittenResults resultNames behind →
              Derivable describe (levels + 1) (.type type)
                ("func(" ++ String.intercalate ", " written ++ ")" ++ behind)
  | struct {levels : Nat} {type : RuntimeType} {fields : List StructField}
      {methods : List Method} {names : List String} :
      Undeclared type → type.shape = .struct fields methods → fields.length = names.length →
        (∀ field name, (field, name) ∈ fields.zip names →
          Derivable describe levels (.ref field.type) name) →
          Derivable describe (levels + 1) (.type type)
            ("struct \x7b" ++ String.intercalate "; "
              ((fields.zip names).map fun (field, name) => field.name ++ " " ++ name) ++ "\x7d")

/-- The name that the rules give, at whatever depth. -/
def Canonical (describe : Address → Except DescriptorFault RuntimeType) (subject : Nameable)
    (name : String) : Prop :=
  ∃ levels, Derivable describe levels subject name

/-- The rules derive the name by a derivation of height at most `height`. A type without parts
stands at height zero, so that one level more than the height nests. -/
def CanonicalWithin (describe : Address → Except DescriptorFault RuntimeType) (height : Nat)
    (subject : Nameable) (name : String) : Prop :=
  Derivable describe (height + 1) subject name

variable {describe : Address → Except DescriptorFault RuntimeType}

theorem spelling_of_undeclared {type : RuntimeType} (undeclared : Undeclared type) :
    type.spelling = type.structuralSpelling := by
  unfold Undeclared at undeclared
  unfold RuntimeType.spelling
  cases found : type.name with
  | none => rfl
  | some name =>
      rw [found] at undeclared
      have blank : name = "" := undeclared
      simp [blank]

theorem spelling_of_declared {type : RuntimeType} {declared : String}
    (named : type.name = some declared) (filled : declared ≠ "") :
    type.spelling = .verbatim (type.declaredName declared) := by
  unfold RuntimeType.spelling
  rw [named]
  simp [filled]

theorem undeclared_or_declared (type : RuntimeType) :
    Undeclared type ∨ ∃ declared, type.name = some declared ∧ declared ≠ "" := by
  unfold Undeclared
  cases found : type.name with
  | none => exact Or.inl rfl
  | some declared =>
      by_cases blank : declared = ""
      · exact Or.inl blank
      · exact Or.inr ⟨declared, rfl, blank⟩

theorem spread_slice (elem : String) : Spelling.spread ("[]" ++ elem) = "..." ++ elem := by
  unfold Spelling.spread
  rw [String.toList_append]
  simp

theorem spread_other {name : String} (unbracketed : ∀ elem, name ≠ "[]" ++ elem) :
    Spelling.spread name = name := by
  unfold Spelling.spread
  split
  · rename_i elem bracketed
    apply absurd _ (unbracketed (String.ofList elem))
    apply String.toList_inj.mp
    rw [bracketed, String.toList_append]
    simp
  · rfl

theorem written_params_iff (variadic : Bool) (names written : List String) :
    WrittenParams variadic names written ↔
      (if variadic then Spelling.spreadLast names else names) = written := by
  constructor
  · intro rule
    cases rule with
    | fixed => rfl
    | spread front elem => simp [Spelling.spreadLast, spread_slice]
    | plain _ unbracketed =>
        rcases List.eq_nil_or_concat' names with rfl | ⟨front, last, rfl⟩
        · rfl
        · have kept : Spelling.spread last = last := by
            apply spread_other
            intro elem same
            exact unbracketed front elem (by rw [same])
          simp [Spelling.spreadLast, kept]
  · intro same
    subst same
    cases variadic with
    | false => exact .fixed names
    | true =>
        rcases List.eq_nil_or_concat' names with rfl | ⟨front, last, rfl⟩
        · exact .plain [] (by simp)
        · by_cases bracketed : ∃ elem, last = "[]" ++ elem
          · obtain ⟨elem, rfl⟩ := bracketed
            simpa [Spelling.spreadLast, spread_slice] using WrittenParams.spread front elem
          · have kept : Spelling.spread last = last := by
              apply spread_other
              intro elem same
              exact bracketed ⟨elem, same⟩
            have unbracketed : ∀ others elem, front ++ [last] ≠ others ++ ["[]" ++ elem] := by
              intro others elem same
              have tails := (List.append_inj' same rfl).2
              exact bracketed ⟨elem, List.cons.inj tails |>.1⟩
            simpa [Spelling.spreadLast, kept] using WrittenParams.plain _ unbracketed

theorem written_results_iff (names : List String) (behind : String) :
    WrittenResults names behind ↔ Spelling.renderResults names = behind := by
  constructor
  · intro rule
    cases rule <;> rfl
  · intro same
    subst same
    match names with
    | [] => exact .none
    | [name] => exact .one name
    | first :: second :: others => exact .several first second others

/-- Two spellings of one form, their parts related place by place. -/
inductive Matches {α β : Type} (relate : α → β → Prop) : Spelling α → Spelling β → Prop where
  | verbatim (text : String) : Matches relate (.verbatim text) (.verbatim text)
  | pointer {elem : α} {name : β} :
      relate elem name → Matches relate (.pointer elem) (.pointer name)
  | slice {elem : α} {name : β} : relate elem name → Matches relate (.slice elem) (.slice name)
  | array (length : UInt64) {elem : α} {name : β} :
      relate elem name → Matches relate (.array length elem) (.array length name)
  | chan (dir : ChanDir) {elem : α} {name : β} :
      relate elem name → Matches relate (.chan dir elem) (.chan dir name)
  | map {key elem : α} {keyName elemName : β} :
      relate key keyName → relate elem elemName →
        Matches relate (.map key elem) (.map keyName elemName)
  | func {params results : List α} {paramNames resultNames : List β} (variadic : Bool) :
      List.Forall₂ relate params paramNames → List.Forall₂ relate results resultNames →
        Matches relate (.func params results variadic) (.func paramNames resultNames variadic)
  | struct {fields : List (String × α)} {named : List (String × β)} :
      List.Forall₂ (fun field name => field.1 = name.1 ∧ relate field.2 name.2) fields named →
        Matches relate (.struct fields) (.struct named)

theorem forall_unique {α β : Type} {left right : α → β → Prop}
    (unique : ∀ part name other, left part name → right part other → name = other)
    {parts : List α} {names others : List β}
    (named : List.Forall₂ left parts names) (again : List.Forall₂ right parts others) :
    names = others := by
  induction named generalizing others with
  | nil =>
      cases again
      rfl
  | cons first rest ih =>
      cases again with
      | cons firstAgain restAgain =>
          rw [unique _ _ _ first firstAgain, ih restAgain]

theorem matches_unique {α β : Type} {left right : α → β → Prop}
    (unique : ∀ part name other, left part name → right part other → name = other)
    {spelling : Spelling α} {named others : Spelling β}
    (first : Matches left spelling named) (second : Matches right spelling others) :
    named = others := by
  cases first with
  | verbatim => cases second; rfl
  | pointer elem => cases second with | pointer other => rw [unique _ _ _ elem other]
  | slice elem => cases second with | slice other => rw [unique _ _ _ elem other]
  | array _ elem => cases second with | array _ other => rw [unique _ _ _ elem other]
  | chan _ elem => cases second with | chan _ other => rw [unique _ _ _ elem other]
  | map key elem =>
      cases second with
      | map otherKey otherElem =>
          rw [unique _ _ _ key otherKey, unique _ _ _ elem otherElem]
  | func _ params results =>
      cases second with
      | func _ otherParams otherResults =>
          rw [forall_unique unique params otherParams, forall_unique unique results otherResults]
  | struct fields =>
      cases second with
      | struct otherFields =>
          have sameField : ∀ (field : String × α) (name other : String × β),
              (field.1 = name.1 ∧ left field.2 name.2) →
                (field.1 = other.1 ∧ right field.2 other.2) → name = other := by
            intro field name other named renamed
            apply Prod.ext
            · exact named.1.symm.trans renamed.1
            · exact unique _ _ _ named.2 renamed.2
          rw [forall_unique sameField fields otherFields]

theorem matches_imp {α β : Type} {relate weaker : α → β → Prop}
    (implied : ∀ part name, relate part name → weaker part name)
    {spelling : Spelling α} {named : Spelling β} (spelled : Matches relate spelling named) :
    Matches weaker spelling named := by
  cases spelled with
  | verbatim text => exact .verbatim text
  | pointer elem => exact .pointer (implied _ _ elem)
  | slice elem => exact .slice (implied _ _ elem)
  | array length elem => exact .array length (implied _ _ elem)
  | chan dir elem => exact .chan dir (implied _ _ elem)
  | map key elem => exact .map (implied _ _ key) (implied _ _ elem)
  | func variadic params results =>
      exact .func variadic (params.imp implied) (results.imp implied)
  | struct fields =>
      exact .struct (fields.imp fun _ _ field => ⟨field.1, implied _ _ field.2⟩)

section Bounded

variable {α β : Type} {bounded : Nat → α → β → Prop}

theorem forall_bounded
    (rises : ∀ level more part name, level ≤ more → bounded level part name →
      bounded more part name)
    {parts : List α} {names : List β}
    (each : List.Forall₂ (fun part name => ∃ level, bounded level part name) parts names) :
    ∃ level, List.Forall₂ (bounded level) parts names := by
  induction each with
  | nil => exact ⟨0, .nil⟩
  | cons first _ ih =>
      obtain ⟨level, first⟩ := first
      obtain ⟨others, rest⟩ := ih
      refine ⟨max level others, .cons ?_ (rest.imp fun part name => ?_)⟩
      · exact rises _ _ _ _ (Nat.le_max_left _ _) first
      · exact rises _ _ _ _ (Nat.le_max_right _ _)

/-- A spelling has finitely many parts, so one level suffices for all of them. -/
theorem matches_bounded
    (rises : ∀ level more part name, level ≤ more → bounded level part name →
      bounded more part name)
    {spelling : Spelling α} {named : Spelling β}
    (each : Matches (fun part name => ∃ level, bounded level part name) spelling named) :
    ∃ level, Matches (bounded level) spelling named := by
  cases each with
  | verbatim text => exact ⟨0, .verbatim text⟩
  | pointer elem =>
      obtain ⟨level, elem⟩ := elem
      exact ⟨level, .pointer elem⟩
  | slice elem =>
      obtain ⟨level, elem⟩ := elem
      exact ⟨level, .slice elem⟩
  | array length elem =>
      obtain ⟨level, elem⟩ := elem
      exact ⟨level, .array length elem⟩
  | chan dir elem =>
      obtain ⟨level, elem⟩ := elem
      exact ⟨level, .chan dir elem⟩
  | map key elem =>
      obtain ⟨level, key⟩ := key
      obtain ⟨others, elem⟩ := elem
      refine ⟨max level others, .map ?_ ?_⟩
      · exact rises _ _ _ _ (Nat.le_max_left _ _) key
      · exact rises _ _ _ _ (Nat.le_max_right _ _) elem
  | func variadic params results =>
      obtain ⟨level, params⟩ := forall_bounded rises params
      obtain ⟨others, results⟩ := forall_bounded rises results
      refine ⟨max level others, .func variadic (params.imp fun part name => ?_)
        (results.imp fun part name => ?_)⟩
      · exact rises _ _ _ _ (Nat.le_max_left _ _)
      · exact rises _ _ _ _ (Nat.le_max_right _ _)
  | @struct fields named fieldwise =>
      have labelled : List.Forall₂ (fun (field : String × α) (name : String × β) =>
          ∃ level, field.1 = name.1 ∧ bounded level field.2 name.2) fields named := by
        apply fieldwise.imp
        intro field name both
        obtain ⟨label, level, part⟩ := both
        exact ⟨level, label, part⟩
      have bound := forall_bounded (fun level more _ _ below field =>
        ⟨field.1, rises level more _ _ below field.2⟩) labelled
      obtain ⟨level, fieldwise⟩ := bound
      exact ⟨level, .struct fieldwise⟩

end Bounded

/-- The labels of a struct's fields stay, whatever names their types are given. -/
theorem matches_fields_iff (relate : TypeRef → String → Prop) (fields : List StructField)
    (named : List (String × String)) :
    List.Forall₂ (fun field name => field.1 = name.1 ∧ relate field.2 name.2)
        (fields.map fun field => (field.name, field.type)) named ↔
      ∃ names, fields.length = names.length ∧
        (∀ field name, (field, name) ∈ fields.zip names → relate field.type name) ∧
          named = (fields.zip names).map fun (field, name) => (field.name, name) := by
  rw [List.forall₂_map_left_iff]
  constructor
  · intro fieldwise
    induction fieldwise with
    | nil => exact ⟨[], rfl, by simp, rfl⟩
    | @cons field labelled fields named first rest ih =>
        obtain ⟨names, same, related, rfl⟩ := ih
        obtain ⟨label, own⟩ := labelled
        obtain ⟨rfl, ownRelated⟩ := first
        refine ⟨own :: names, by simp [same], ?_, by simp⟩
        intro other name member
        rcases List.mem_cons.mp member with here | later
        · obtain ⟨rfl, rfl⟩ := Prod.mk.inj here
          exact ownRelated
        · exact related other name later
  · intro named
    obtain ⟨names, same, related, rfl⟩ := named
    induction fields generalizing names with
    | nil => simp
    | cons field fields ih =>
        cases names with
        | nil => simp at same
        | cons name names =>
            apply List.Forall₂.cons
            · exact ⟨rfl, related field name (by simp)⟩
            · apply ih names (by simpa using same)
              intro other known member
              exact related other known (by simp [member])

/-- How the parts of a type are named one level further in. -/
def PartDerivable (describe : Address → Except DescriptorFault RuntimeType) (levels : Nat)
    (part : TypeRef) (name : String) : Prop :=
  Derivable describe levels (.ref part) name

theorem matches_of_derivable {levels : Nat} {type : RuntimeType} {name : String}
    (derived : Derivable describe (levels + 1) (.type type) name) :
    ∃ named, Matches (PartDerivable describe levels) type.spelling named ∧
      named.render = name := by
  cases derived with
  | qualified named filled path filledPath =>
      rw [spelling_of_declared named filled]
      refine ⟨_, .verbatim _, ?_⟩
      simp [Spelling.render, RuntimeType.declaredName, path, filledPath]
  | unqualified named filled path repr | bare named filled path repr =>
      rw [spelling_of_declared named filled]
      refine ⟨_, .verbatim _, ?_⟩
      simp [Spelling.render, RuntimeType.declaredName, path, repr]
  | primitive undeclared shape repr | kind undeclared shape repr =>
      rw [spelling_of_undeclared undeclared, RuntimeType.structuralSpelling, shape]
      exact ⟨_, .verbatim _, by simp [Spelling.render, repr]⟩
  | interface undeclared shape =>
      rw [spelling_of_undeclared undeclared, RuntimeType.structuralSpelling, shape]
      exact ⟨_, .verbatim _, rfl⟩
  | pointer undeclared shape elem =>
      rw [spelling_of_undeclared undeclared, RuntimeType.structuralSpelling, shape]
      exact ⟨_, .pointer elem, rfl⟩
  | slice undeclared shape elem =>
      rw [spelling_of_undeclared undeclared, RuntimeType.structuralSpelling, shape]
      exact ⟨_, .slice elem, rfl⟩
  | array undeclared shape elem =>
      rw [spelling_of_undeclared undeclared, RuntimeType.structuralSpelling, shape]
      exact ⟨_, .array _ elem, rfl⟩
  | recv undeclared shape elem | send undeclared shape elem | both undeclared shape elem =>
      rw [spelling_of_undeclared undeclared, RuntimeType.structuralSpelling, shape]
      exact ⟨_, .chan _ elem, rfl⟩
  | map undeclared shape key elem =>
      rw [spelling_of_undeclared undeclared, RuntimeType.structuralSpelling, shape]
      exact ⟨_, .map key elem, rfl⟩
  | func undeclared shape sameParams sameResults params results written behind =>
      rw [spelling_of_undeclared undeclared, RuntimeType.structuralSpelling, shape]
      refine ⟨_, .func _ (forall_of_zip sameParams params) (forall_of_zip sameResults results), ?_⟩
      rw [Spelling.render, (written_params_iff _ _ _).mp written,
        (written_results_iff _ _).mp behind]
  | struct undeclared shape same fields =>
      rw [spelling_of_undeclared undeclared, RuntimeType.structuralSpelling, shape]
      have fieldwise := (matches_fields_iff (PartDerivable describe levels) _ _).mpr
        ⟨_, same, fields, rfl⟩
      refine ⟨_, .struct fieldwise, ?_⟩
      simp only [Spelling.render, List.map_map]
      rfl

theorem derivable_of_structural {levels : Nat} {type : RuntimeType} {named : Spelling String}
    (undeclared : Undeclared type)
    (spelled : Matches (PartDerivable describe levels) type.structuralSpelling named) :
    Derivable describe (levels + 1) (.type type) named.render := by
  unfold RuntimeType.structuralSpelling at spelled
  cases shape : type.shape with
  | primitive =>
      rw [shape] at spelled
      cases spelled
      by_cases repr : type.repr = ""
      · simpa [Spelling.render, repr] using Derivable.kind undeclared shape repr
      · simpa [Spelling.render, repr] using Derivable.primitive undeclared shape repr
  | interface methods =>
      rw [shape] at spelled
      cases spelled
      exact .interface undeclared shape
  | pointer elem =>
      rw [shape] at spelled
      cases spelled with
      | pointer part => exact .pointer undeclared shape part
  | slice elem =>
      rw [shape] at spelled
      cases spelled with
      | slice part => exact .slice undeclared shape part
  | array elem length =>
      rw [shape] at spelled
      cases spelled with
      | array _ part => exact .array undeclared shape part
  | chan elem dir =>
      rw [shape] at spelled
      cases spelled with
      | chan _ part =>
          cases dir with
          | recv => exact .recv undeclared shape part
          | send => exact .send undeclared shape part
          | both => exact .both undeclared shape part
  | map key elem =>
      rw [shape] at spelled
      cases spelled with
      | map keyPart elemPart => exact .map undeclared shape keyPart elemPart
  | func params results variadic =>
      rw [shape] at spelled
      cases spelled with
      | func _ paramParts resultParts =>
          obtain ⟨sameParams, paramsNamed⟩ := List.forall₂_iff_zip.mp paramParts
          obtain ⟨sameResults, resultsNamed⟩ := List.forall₂_iff_zip.mp resultParts
          exact .func undeclared shape sameParams sameResults
            (fun _ _ member => paramsNamed member) (fun _ _ member => resultsNamed member)
            ((written_params_iff _ _ _).mpr rfl) ((written_results_iff _ _).mpr rfl)
  | struct fields methods =>
      rw [shape] at spelled
      cases spelled with
      | struct fieldParts =>
          obtain ⟨names, same, fieldsNamed, rfl⟩ := (matches_fields_iff _ _ _).mp fieldParts
          simp only [Spelling.render, List.map_map]
          exact .struct undeclared shape same fieldsNamed

theorem derivable_of_declared {levels : Nat} {type : RuntimeType} {declared : String}
    (named : type.name = some declared) (filled : declared ≠ "") :
    Derivable describe (levels + 1) (.type type) (type.declaredName declared) := by
  unfold RuntimeType.declaredName
  by_cases path : type.pkgPath.getD "" = ""
  · by_cases repr : type.repr = ""
    · simpa [path, repr] using Derivable.bare named filled path repr
    · simpa [path, repr] using Derivable.unqualified named filled path repr
  · cases package : type.pkgPath with
    | none => simp [package] at path
    | some place =>
        have filledPlace : place ≠ "" := by simpa [package] using path
        simpa [filledPlace] using Derivable.qualified named filled package filledPlace

/-- The rule at the root of a derivation is the form in which the type is spelled, with the parts
derived one level further in. -/
theorem derivable_type_iff {levels : Nat} {type : RuntimeType} {name : String} :
    Derivable describe (levels + 1) (.type type) name ↔
      ∃ named, Matches (PartDerivable describe levels) type.spelling named ∧
        named.render = name := by
  constructor
  · exact matches_of_derivable
  · intro form
    obtain ⟨named, spelled, rfl⟩ := form
    rcases undeclared_or_declared type with undeclared | ⟨declared, isNamed, filled⟩
    · rw [spelling_of_undeclared undeclared] at spelled
      exact derivable_of_structural undeclared spelled
    · rw [spelling_of_declared isNamed filled] at spelled
      cases spelled
      exact derivable_of_declared isNamed filled

/-- What a type is named depends on how it is spelled only. -/
theorem canonical_of_spelling {type other : RuntimeType} (same : type.spelling = other.spelling)
    {name : String} (canonical : Canonical describe (.type type) name) :
    Canonical describe (.type other) name := by
  rcases canonical with ⟨_ | levels, derived⟩
  · cases derived
  · obtain ⟨named, spelled, rendered⟩ := derivable_type_iff.mp derived
    rw [same] at spelled
    exact ⟨levels + 1, derivable_type_iff.mpr ⟨named, spelled, rendered⟩⟩

theorem derivable_ref_unique {levels others : Nat}
    (unique : ∀ type name other, Derivable describe levels (.type type) name →
      Derivable describe others (.type type) other → name = other)
    {reference : TypeRef} {name other : String}
    (left : Derivable describe levels (.ref reference) name)
    (right : Derivable describe others (.ref reference) other) : name = other := by
  cases left with
  | opaquePointer =>
      cases right
      rfl
  | described found derived =>
      cases right with
      | described again derivedAgain =>
          rw [found] at again
          cases again
          exact unique _ _ _ derived derivedAgain

theorem derivable_type_unique (levels : Nat) :
    ∀ {others : Nat} (type : RuntimeType) (name other : String),
      Derivable describe levels (.type type) name →
        Derivable describe others (.type type) other → name = other := by
  induction levels with
  | zero => intro others type name other left; cases left
  | succ levels ih =>
      intro others type name other left right
      cases others with
      | zero => cases right
      | succ others =>
          obtain ⟨named, spelled, rfl⟩ := derivable_type_iff.mp left
          obtain ⟨renamed, respelled, rfl⟩ := derivable_type_iff.mp right
          have parts : ∀ part name other, PartDerivable describe levels part name →
              PartDerivable describe others part other → name = other := by
            intro part name other
            exact derivable_ref_unique ih
          rw [matches_unique parts spelled respelled]

theorem derivable_unique {levels others : Nat} {subject : Nameable} {name other : String}
    (left : Derivable describe levels subject name)
    (right : Derivable describe others subject other) : name = other := by
  cases subject with
  | type type => exact derivable_type_unique levels type name other left right
  | ref reference => exact derivable_ref_unique (derivable_type_unique levels) left right

theorem canonical_unique {subject : Nameable} {name other : String}
    (left : Canonical describe subject name) (right : Canonical describe subject other) :
    name = other := by
  obtain ⟨levels, left⟩ := left
  obtain ⟨others, right⟩ := right
  exact derivable_unique left right

theorem derivable_ref_rises {levels more : Nat}
    (rises : ∀ type name, Derivable describe levels (.type type) name →
      Derivable describe more (.type type) name)
    {reference : TypeRef} {name : String} (derived : Derivable describe levels (.ref reference) name) :
    Derivable describe more (.ref reference) name := by
  cases derived with
  | opaquePointer => exact .opaquePointer
  | described found derived => exact .described found (rises _ _ derived)

theorem derivable_type_rises (levels : Nat) :
    ∀ type name, Derivable describe levels (.type type) name →
      Derivable describe (levels + 1) (.type type) name := by
  induction levels with
  | zero => intro type name derived; cases derived
  | succ levels ih =>
      intro type name derived
      obtain ⟨named, spelled, rfl⟩ := derivable_type_iff.mp derived
      apply derivable_type_iff.mpr
      exact ⟨named, matches_imp (fun _ _ => derivable_ref_rises ih) spelled, rfl⟩

theorem derivable_rises {levels more : Nat} {subject : Nameable} {name : String}
    (below : levels ≤ more) (derived : Derivable describe levels subject name) :
    Derivable describe more subject name := by
  induction below with
  | refl => exact derived
  | step _ ih =>
      cases subject with
      | type type => exact derivable_type_rises _ type name ih
      | ref reference => exact derivable_ref_rises (derivable_type_rises _) ih

theorem canonical_of_matches {type : RuntimeType} {named : Spelling String}
    (spelled : Matches (fun part name => Canonical describe (.ref part) name) type.spelling
      named) : Canonical describe (.type type) named.render := by
  have rises : ∀ level more part name, level ≤ more → PartDerivable describe level part name →
      PartDerivable describe more part name := by
    intro level more part name below
    exact derivable_rises below
  obtain ⟨levels, parts⟩ := matches_bounded rises spelled
  exact ⟨levels + 1, derivable_type_iff.mpr ⟨named, parts, rfl⟩⟩

end TypeAtlas.Naming
