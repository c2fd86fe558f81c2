import TypeAtlas.DebugInfo.DebugType
import TypeAtlas.Proofs.Inventory.Agreement
import TypeAtlas.Proofs.Naming.Plain
import TypeAtlas.Proofs.Naming.Reading

/-!
The key of a debug type and the canonical name of the type it describes are the same text. They are
spelled apart, one from debug information and one from descriptors, and differ on the way: debug
information has a keyword in front of the name of a declared struct, which the key of a pointer to
such a struct has to lose and the key of a pointer to anything else has to keep.
-/

namespace TypeAtlas

set_option autoImplicit false

open Naming (Admitted Canonical Nameable TooDeep TypeTree Unfolds answers letters letters_leaf
  letters_pointer)

/-- A declared name that cannot be taken for notation. -/
structure PlainName (name : String) : Prop where
  filled : name ≠ ""
  unspaced : ' ' ∉ name.toList
  unstarred : '*' ∉ name.toList
  unopened : '\x7b' ∉ name.toList
  unclosed : '\x7d' ∉ name.toList

instance (name : String) : Decidable (PlainName name) :=
  decidable_of_iff
    (name ≠ "" ∧ ' ' ∉ name.toList ∧ '*' ∉ name.toList ∧ '\x7b' ∉ name.toList ∧
      '\x7d' ∉ name.toList)
    ⟨fun ⟨filled, unspaced, unstarred, unopened, unclosed⟩ =>
        ⟨filled, unspaced, unstarred, unopened, unclosed⟩,
      fun plain =>
        ⟨plain.filled, plain.unspaced, plain.unstarred, plain.unopened, plain.unclosed⟩⟩

/-- How debug information describes the type of a tree that has no declared struct in it. The
count of an array is a signed word, and a function has one result at most. -/
inductive Mirrors : TypeTree → DebugType → Prop where
  | base {name : String} : PlainName name → Mirrors (.leaf name) (.base name)
  | typedef {name : String} (type : DebugType) :
      PlainName name → Mirrors (.leaf name) (.typedef name type)
  | opaquePointer : Mirrors .opaquePointer (.pointer .void)
  | pointer {elem : TypeTree} {target : DebugType} :
      Mirrors elem target → Mirrors (.pointer elem) (.pointer target)
  | array {length : UInt64} {elem : TypeTree} {view : DebugType} :
      length.toNat < 0x8000000000000000 → Mirrors elem view →
        Mirrors (.array length elem) (.array view length.toNat)
  | procedure {params : List TypeTree} {views : List DebugType} :
      params.length = views.length →
        (∀ param view, (param, view) ∈ params.zip views → Mirrors param view) →
          Mirrors (.func params [] false) (.func views none)
  | function {params : List TypeTree} {views : List DebugType} {result : TypeTree}
      {returned : DebugType} :
      params.length = views.length →
        (∀ param view, (param, view) ∈ params.zip views → Mirrors param view) →
          Mirrors result returned →
            Mirrors (.func params [result] false) (.func views (some returned))
  | struct {fields : List (String × TypeTree)} {views : List DebugType} :
      fields.length = views.length → (∀ field ∈ fields, PlainName field.1) →
        (∀ field view, (field, view) ∈ fields.zip views → Mirrors field.2 view) →
          Mirrors (.struct fields) (.struct "struct" ""
            ((fields.zip views).map fun (field, view) => (field.1, view)) false)

/-- How debug information describes a type. A declared struct is described by its kind and its
name, and stands at the root or behind a pointer there. -/
inductive Describes : TypeTree → DebugType → Prop where
  | mirrored {tree : TypeTree} {view : DebugType} : Mirrors tree view → Describes tree view
  | declared {name : String} (kind : String) (fields : List (String × DebugType))
      (incomplete : Bool) :
      PlainName name → Describes (.leaf name) (.struct kind name fields incomplete)
  | pointed {name : String} (fields : List (String × DebugType)) (incomplete : Bool) :
      PlainName name →
        Describes (.pointer (.leaf name)) (.pointer (.struct "struct" name fields incomplete))

namespace DebugType

theorem structPointer_cons : structPointer = '*' :: "struct ".toList := by decide

theorem renderAll_eq (types : List DebugType) : renderAll types = types.map render := by
  induction types with
  | nil => rfl
  | cons type later ih => rw [renderAll, ih, List.map_cons]

theorem renderFields_eq (fields : List (String × DebugType)) :
    renderFields fields = fields.map fun field => field.1 ++ " " ++ field.2.render := by
  induction fields with
  | nil => rfl
  | cons field later ih => rw [renderFields, ih, List.map_cons]

end DebugType

namespace Mirrors

theorem render_params {params : List TypeTree} {views : List DebugType}
    (same : params.length = views.length)
    (each : ∀ param view, (param, view) ∈ params.zip views → view.render = param.name) :
    DebugType.renderAll views = params.map TypeTree.name := by
  rw [DebugType.renderAll_eq]
  exact map_eq_of_each (forall_of_zip same each)

theorem render_fields {fields : List (String × TypeTree)} {views : List DebugType}
    (same : fields.length = views.length)
    (each : ∀ field view, (field, view) ∈ fields.zip views → view.render = field.2.name) :
    DebugType.renderFields ((fields.zip views).map fun (field, view) => (field.1, view)) =
      fields.map fun field => field.1 ++ " " ++ field.2.name := by
  rw [DebugType.renderFields_eq, List.map_map]
  apply map_zip_eq_of_each
  apply forall_of_zip same
  intro field view member
  change field.1 ++ " " ++ view.render = _
  rw [each field view member]

/-- Within a tree, the two spellings are one. -/
theorem render_eq {tree : TypeTree} {view : DebugType} (mirrors : Mirrors tree view) :
    view.render = tree.name := by
  induction mirrors with
  | base _ => rw [TypeTree.name]; rfl
  | typedef _ _ => rw [TypeTree.name]; rfl
  | opaquePointer => rw [TypeTree.name]; rfl
  | pointer _ ih => rw [TypeTree.name, DebugType.render, ih]; rfl
  | array _ _ ih => rw [TypeTree.name, DebugType.render, ih]; rfl
  | procedure same _ ih =>
      rw [TypeTree.name, DebugType.render, render_params same ih]
      rfl
  | function same _ _ ih ihResult =>
      rw [TypeTree.name, DebugType.render, render_params same ih, DebugType.renderResult, ihResult]
      rfl
  | struct same _ _ ih =>
      rw [TypeTree.name, DebugType.render, render_fields same ih, Spelling.render, List.map_map]
      rfl

/-- Only an anonymous struct can be taken for the keyword of one. -/
theorem brace_behind_keyword {tree : TypeTree} {view : DebugType} (mirrors : Mirrors tree view)
    {rest : List Char} (begins : letters tree = "struct ".toList ++ rest) :
    rest.head? = some '\x7b' := by
  cases mirrors with
  | base plain | typedef _ plain =>
      rw [letters_leaf] at begins
      exact absurd (by simp [begins]) plain.unspaced
  | struct _ _ _ =>
      simp only [Naming.letters_struct, List.append_assoc, List.append_cancel_left_eq] at begins
      rw [← begins]
      rfl
  | opaquePointer | pointer _ | array _ _ | procedure _ _ | function _ _ _ => simp at begins

/-- The key of a pointer loses a keyword only in front of a declared name. -/
theorem brace_behind_structPointer {tree : TypeTree} {view : DebugType}
    (mirrors : Mirrors tree view) {rest : List Char}
    (begins : letters tree = DebugType.structPointer ++ rest) : rest.head? = some '\x7b' := by
  rw [DebugType.structPointer_cons, List.cons_append] at begins
  cases mirrors with
  | base plain | typedef _ plain =>
      rw [letters_leaf] at begins
      exact absurd (by simp [begins]) plain.unstarred
  | pointer elem =>
      rw [letters_pointer] at begins
      exact elem.brace_behind_keyword (List.cons.inj begins).2
  | opaquePointer | array _ _ | procedure _ _ | function _ _ _ | struct _ _ _ => simp at begins

end Mirrors

namespace DebugType

theorem dropKeyword_kept {name : String}
    (kept : ∀ rest, name.toList = structPointer ++ rest → rest.head? = some '\x7b') :
    dropKeyword name = name := by
  unfold dropKeyword
  by_cases prefixed : structPointer.isPrefixOf name.toList = true
  · obtain ⟨rest, begins⟩ := List.isPrefixOf_iff_prefix.mp prefixed
    have brace := kept rest begins.symm
    simp [← begins, brace]
  · simp [prefixed]

theorem dropKeyword_dropped {name : String} (declared : name.toList.head? ≠ some '\x7b') :
    dropKeyword ("*struct " ++ name) = "*" ++ name := by
  have spelled : ("*struct " ++ name).toList = structPointer ++ name.toList := by
    rw [String.toList_append]
    rfl
  unfold dropKeyword
  rw [spelled]
  simp [declared]

theorem knownAs_of_mirrors {tree : TypeTree} {view : DebugType} (mirrors : Mirrors tree view) :
    view.knownAs = view.render := by
  cases mirrors <;> rfl

/-- The key of a debug type is the name of the tree that it describes. -/
theorem key_eq_name {tree : TypeTree} {view : DebugType} (describes : Describes tree view) :
    view.key = tree.name := by
  cases describes with
  | mirrored mirrors =>
      rw [key, knownAs_of_mirrors mirrors, mirrors.render_eq]
      exact dropKeyword_kept fun rest begins => mirrors.brace_behind_structPointer begins
  | declared kind fields incomplete plain =>
      rw [key, knownAs, TypeTree.name]
      simp only [String.isEmpty_iff, plain.filled, if_false]
      apply dropKeyword_kept
      intro rest begins
      rw [structPointer_cons] at begins
      exact absurd (by simp [begins]) plain.unstarred
  | @pointed name fields incomplete plain =>
      have spelled : (DebugType.struct "struct" name fields incomplete).render =
          "struct " ++ name := by
        rw [render]
        simp only [String.isEmpty_iff, plain.filled, if_false]
        rfl
      -- What stands behind the keyword is a name, so the keyword goes.
      have declared : name.toList.head? ≠ some '\x7b' := by
        intro brace
        exact plain.unopened (List.mem_of_head? brace)
      have known : (DebugType.struct "struct" name fields incomplete).pointer.knownAs =
          "*struct " ++ name := by
        change "*" ++ (DebugType.struct "struct" name fields incomplete).render = _
        rw [spelled, ← String.append_assoc]
        rfl
      rw [key, known, dropKeyword_dropped declared, TypeTree.name, TypeTree.name]
      rfl

end DebugType

section Lookup

variable {σ β : Type} [EntryStream σ] [CodeBinder β] {catalog : Catalog σ β} {found : Inventory}

theorem debugType_found (built : catalog.force.1 = .ok found) {view : DebugType}
    {entry : RuntimeType} (held : found.types[view.key]? = some entry) :
    (catalog.debugType view).1 = .ok entry := by
  unfold Catalog.debugType
  rw [Walk.view_found built, Inventory.typeNamed?, held]
  rfl

/-- An address that a walk has reached is found by every debug type with its name for a key. -/
theorem debugType_addressed {describe : Address → Except DescriptorFault RuntimeType}
    {roots : List Address} (agreed : Walk.Agreed describe roots Walk.Reserved found)
    (built : catalog.force.1 = .ok found) {address : Address} (reached : address ∈ found.byAddress)
    {view : DebugType} (canonical : Canonical describe (.ref (.address address)) view.key) :
    ∃ entry, (catalog.debugType view).1 = .ok entry ∧ (catalog.typeAt address).1 = .ok entry := by
  obtain ⟨name, addressed⟩ := Walk.getElem?_of_mem reached
  obtain ⟨listed, type, described, named⟩ := agreed.addressed address name addressed
  obtain ⟨entry, held⟩ := Walk.getElem?_of_mem listed
  have same : view.key = name :=
    Naming.canonical_unique canonical (Naming.canonical_ref described named)
  exact ⟨entry, debugType_found built (same ▸ held), Walk.typeAt_found built addressed held⟩

end Lookup

/-- The key of a debug type that describes a subject is the name that the rules give the subject,
and that any namer answers for it unless its limit is hit, whatever it was asked before. A catalog
answers the debug type with its entry of that name, and a catalog that a walk filled with its
entry of the address that the walk came to the subject by. -/
theorem debug_key_is_canonical (resolve : Resolver) (faithful : resolve.Faithful)
    (links : TypeLinks) {subject : Nameable} {tree : TypeTree} {view : DebugType}
    (unfolds : Unfolds (resolve links.sections) subject tree) (describes : Describes tree view) :
    Canonical (resolve links.sections) subject view.key ∧
      (∀ limit subjects, (∀ asked ∈ subjects, Admitted (resolve links.sections) asked) →
        List.Forall₂ (fun asked answer =>
            asked = subject → ¬TooDeep limit answer → answer = .ok view.key)
          subjects (answers (resolve links.sections) limit subjects .empty)) ∧
        (∀ (σ β : Type) [EntryStream σ] [CodeBinder β] (catalog : Catalog σ β) (found : Inventory),
          catalog.force.1 = .ok found → ∀ (name : String) (entry : RuntimeType),
            Canonical (resolve links.sections) subject name → found.types[name]? = some entry →
              (catalog.debugType view).1 = .ok entry) ∧
          ∀ (config : Config) (σ β : Type) [EntryStream σ] [CodeBinder β] (catalog : Catalog σ β),
            catalog.force.1 = .ok (Walk.run resolve links config).found →
              ∀ address ∈ (Walk.run resolve links config).found.byAddress,
                subject = .ref (.address address) → ∃ entry,
                  (catalog.debugType view).1 = .ok entry ∧
                    (catalog.typeAt address).1 = .ok entry := by
  have canonical : Canonical (resolve links.sections) subject view.key := by
    rw [DebugType.key_eq_name describes]
    exact Naming.canonical_of_unfolds unfolds
  refine ⟨canonical, ?_, ?_, ?_⟩
  · intro limit subjects admitted
    have agree : List.Forall₂ (Naming.AgreesWithPlain (resolve links.sections) limit) subjects
        (answers (resolve links.sections) limit subjects .empty) :=
      Naming.answers_follow (Naming.placing_of_faithful faithful links.sections) subjects admitted
        Naming.empty_recalled
    apply agree.imp
    intro asked answer agrees same unstopped
    subst same
    exact Naming.answer_of_canonical agrees canonical unstopped
  · intro σ β _ _ catalog found built name entry named held
    have same : view.key = name := Naming.canonical_unique canonical named
    exact debugType_found built (same ▸ held)
  · intro config σ β _ _ catalog built address reached same
    subst same
    exact debugType_addressed (Walk.run_agreed faithful links config) built reached canonical

/-- An anonymous struct with a function for a field. -/
def handler : RuntimeType :=
  ⟨some ⟨64⟩, .struct, 8, none, none, "", .struct [⟨"run", .address ⟨48⟩, 0, false⟩] []⟩

def handlers : List RuntimeType :=
  [.primitive ⟨16⟩ .int 8,
    ⟨some ⟨32⟩, .array, 24, none, none, "[3]int", .array (.address ⟨16⟩) 3⟩,
    ⟨some ⟨48⟩, .func, 8, none, none, "", .func [.address ⟨16⟩] [.address ⟨32⟩] false⟩,
    handler, ⟨some ⟨80⟩, .pointer, 8, none, none, "", .pointer (.address ⟨64⟩)⟩]

def handlerLinks : TypeLinks := ⟨[⟨0⟩], [[80]]⟩

def runTree : TypeTree := .func [.leaf "int"] [.array 3 (.leaf "int")] false

def runView : DebugType := .func [.base "int"] (some (.array (.base "int") 3))

def handlerTree : TypeTree := .pointer (.struct [("run", runTree)])

def handlerView : DebugType := .pointer (.struct "struct" "" [("run", runView)] false)

def handlerCatalog : Catalog EntryList ScriptedBinder where
  config := {}
  stream := .ofEntries []
  binder := .returning []
  resolve := .ofTypes handlers
  outcome := some (.ok (Walk.run (.ofTypes handlers) handlerLinks {}).found)
  events := #[]

theorem run_unfolds :
    Unfolds (Resolver.ofTypes handlers [⟨0⟩]) (.ref (.address ⟨48⟩)) runTree := by
  have int : Unfolds (Resolver.ofTypes handlers [⟨0⟩]) (.ref (.address ⟨16⟩)) (.leaf "int") :=
    .described rfl (.leaf rfl)
  have array : Unfolds (Resolver.ofTypes handlers [⟨0⟩]) (.ref (.address ⟨32⟩))
      (.array 3 (.leaf "int")) := .described rfl (.array rfl rfl int)
  refine .described rfl (.func rfl rfl rfl rfl ?_ ?_)
  · intro part tree member
    cases List.mem_singleton.mp member
    exact int
  · intro part tree member
    cases List.mem_singleton.mp member
    exact array

theorem handler_unfolds :
    Unfolds (Resolver.ofTypes handlers [⟨0⟩]) (.ref (.address ⟨80⟩)) handlerTree := by
  have each : ∀ field tree, (field, tree) ∈ handler.fields.zip [runTree] →
      Unfolds (Resolver.ofTypes handlers [⟨0⟩]) (.ref field.type) tree := by
    intro field tree member
    cases List.mem_singleton.mp member
    exact run_unfolds
  have whole : Unfolds (Resolver.ofTypes handlers [⟨0⟩]) (.type handler)
      (.struct [("run", runTree)]) :=
    @Unfolds.struct _ handler handler.fields [] [runTree] rfl rfl rfl each
  exact .described rfl (.pointer rfl rfl (.described rfl whole))

theorem handler_described : Describes handlerTree handlerView := by
  have int : Mirrors (.leaf "int") (.base "int") := .base (by decide)
  have run : Mirrors runTree runView := by
    refine .function rfl ?_ (.array (by decide) int)
    intro param view member
    cases List.mem_singleton.mp member
    exact int
  have labels : ∀ field ∈ [("run", runTree)], PlainName field.1 := by
    intro field member
    cases List.mem_singleton.mp member
    exact (by decide : PlainName "run")
  have each : ∀ field view, (field, view) ∈ [("run", runTree)].zip [runView] →
      Mirrors field.2 view := by
    intro field view member
    cases List.mem_singleton.mp member
    exact run
  exact .mirrored (.pointer (.struct rfl labels each))

theorem debug_key_is_canonical_over_handlers :
    Canonical (Resolver.ofTypes handlers [⟨0⟩]) (.ref (.address ⟨80⟩)) handlerView.key ∧
      handlerView.key = "*struct \x7brun func(int) [3]int\x7d" ∧
        ∃ entry, (handlerCatalog.debugType handlerView).1 = .ok entry ∧
          (handlerCatalog.typeAt ⟨80⟩).1 = .ok entry := by
  have agree := debug_key_is_canonical (.ofTypes handlers) (Resolver.faithful_ofTypes handlers)
    handlerLinks handler_unfolds handler_described
  obtain ⟨canonical, _, _, found⟩ := agree
  refine ⟨canonical, by decide +kernel, ?_⟩
  exact found {} _ _ handlerCatalog rfl ⟨80⟩ (by decide +kernel) rfl

end TypeAtlas
