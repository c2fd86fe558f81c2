import TypeAtlas.Catalog.Query

/-!
Questions force the build. A question that does is answered from what the build came to and from
nothing else, and what the build came to stays. The one that does not is the batch of no types:
it is answered, even where the build would fail, before anything is built.
-/

namespace TypeAtlas

set_option autoImplicit false

/-- The types that some debug types are known as, or the first one missed. -/
def Inventory.debugTypes (inventory : Inventory) (types : List DebugType) :
    Except CatalogFault (List RuntimeType) :=
  types.mapM fun type =>
    Catalog.orMissing (.debugType type.key) (inventory.typeNamed? type.key)

theorem Inventory.debugTypes_cons (inventory : Inventory) (type : DebugType)
    (later : List DebugType) :
    inventory.debugTypes (type :: later) =
      (Catalog.orMissing (.debugType type.key) (inventory.typeNamed? type.key)).bind fun found =>
        (inventory.debugTypes later).map (found :: ·) := by
  rw [debugTypes, List.mapM_cons]
  cases Catalog.orMissing (.debugType type.key) (inventory.typeNamed? type.key) with
  | error fault => rfl
  | ok found =>
      change ((inventory.debugTypes later).bind fun rest => .ok (found :: rest)) =
        (inventory.debugTypes later).map (found :: ·)
      cases inventory.debugTypes later <;> rfl

namespace Query

/-- What a question asks of everything that was found. -/
def answer (query : Query) (inventory : Inventory) : Except CatalogFault Reply :=
  match query with
  | .build => .ok .done
  | .listTypes => .ok (.types inventory.listTypes)
  | .typeNames => .ok (.names inventory.typeNames)
  | .typeNamed name => (Catalog.orMissing (.typeNamed name) (inventory.typeNamed? name)).map .type
  | .typeAt address => (Catalog.orMissing (.typeAt address) (inventory.typeAt? address)).map .type
  | .debugType type =>
      (Catalog.orMissing (.debugType type.key) (inventory.typeNamed? type.key)).map .type
  | .debugTypes types => (inventory.debugTypes types).map .types
  | .failures => .ok (.failures inventory.listFailures)
  | .size => .ok (.size inventory.size)
  | .summary => .ok (.summary inventory.summary)

/-- Whether a question cannot be answered without a build. -/
def forces : Query → Bool
  | .debugTypes [] => false
  | _ => true

end Query

namespace Catalog

variable {σ β : Type} [EntryStream σ] [CodeBinder β]

theorem force_settled {catalog : Catalog σ β} {outcome : Except CatalogFault Inventory}
    (settled : catalog.outcome = some outcome) : catalog.force = (outcome, catalog) := by
  unfold force
  rw [settled]

theorem outcome_force (catalog : Catalog σ β) :
    catalog.force.2.outcome = some catalog.force.1 := by
  unfold force
  cases settled : catalog.outcome with
  | some outcome => exact settled
  | none => rcases catalog.runBuild with ⟨fault | inventory, built⟩ <;> rfl

theorem isBuilt_force (catalog : Catalog σ β) : catalog.force.2.isBuilt = true := by
  rw [isBuilt, outcome_force]
  rfl

theorem view_eq {α : Type} (look : Inventory → Except CatalogFault α) (catalog : Catalog σ β) :
    catalog.view look = (catalog.force.1.bind look, catalog.force.2) := rfl

/-- A batch put to a catalog that is built leaves it alone, however it ends. -/
theorem debugTypes_settled {catalog : Catalog σ β} {inventory : Inventory}
    (settled : catalog.outcome = some (.ok inventory)) (types : List DebugType) :
    catalog.debugTypes types = (inventory.debugTypes types, catalog) := by
  have viewed : ∀ type : DebugType, catalog.debugType type =
      (orMissing (.debugType type.key) (inventory.typeNamed? type.key), catalog) := by
    intro type
    rw [debugType, view_eq, force_settled settled]
    rfl
  induction types with
  | nil => rfl
  | cons type later ih =>
      rw [debugTypes, viewed type, Inventory.debugTypes_cons]
      cases orMissing (.debugType type.key) (inventory.typeNamed? type.key) with
      | error fault => rfl
      | ok found =>
          simp only [ih]
          rfl

/-- The first type of a batch forces the build, and the others are looked up in what it found. -/
theorem debugTypes_eq (type : DebugType) (later : List DebugType) (catalog : Catalog σ β) :
    catalog.debugTypes (type :: later) =
      (catalog.force.1.bind (·.debugTypes (type :: later)), catalog.force.2) := by
  have settled := outcome_force catalog
  rw [debugTypes, debugType, view_eq]
  cases built : catalog.force.1 with
  | error fault => rfl
  | ok inventory =>
      rw [built] at settled
      have rest := debugTypes_settled settled (type :: later)
      rw [debugTypes, debugType, view_eq, force_settled settled] at rest
      exact rest

/-- Every question that forces the build is answered from its outcome. -/
theorem ask_eq (catalog : Catalog σ β) {query : Query} (forcing : query.forces = true) :
    catalog.ask query = (catalog.force.1.bind query.answer, catalog.force.2) := by
  have mapped : ∀ {α : Type} (reply : α → Reply) (look : Inventory → Except CatalogFault α),
      replying reply (catalog.view look) =
        (catalog.force.1.bind fun inventory => (look inventory).map reply, catalog.force.2) := by
    intro α reply look
    rw [view_eq]
    unfold replying
    cases catalog.force.1 <;> rfl
  cases query with
  | debugTypes types =>
      cases types with
      | nil => cases forcing
      | cons type later =>
          rw [ask, debugTypes_eq]
          unfold replying
          cases catalog.force.1 <;> rfl
  | _ => exact mapped _ _

theorem ask_idle (catalog : Catalog σ β) {query : Query} (idle : query.forces = false) :
    catalog.ask query = (.ok (.types []), catalog) := by
  cases query with
  | debugTypes types =>
      cases types with
      | nil => rfl
      | cons type later => cases idle
  | _ => cases idle

/-- Whatever is asked but the batch of no types, the catalog is built afterwards, and if the build
failed its fault is the reply. The batch of no types is answered with none by every catalog, and
leaves it as it was. -/
theorem questions_force_build (catalog : Catalog σ β) (query : Query) :
    (query.forces = true →
      (catalog.ask query).2.isBuilt = true ∧
        (catalog.ask query).2.outcome = some catalog.force.1 ∧
          ∀ fault, catalog.force.1 = .error fault → (catalog.ask query).1 = .error fault) ∧
      (query.forces = false ↔ query = .debugTypes []) ∧
        catalog.ask (.debugTypes []) = (.ok (.types []), catalog) := by
  refine ⟨?_, ?_, rfl⟩
  · intro forcing
    rw [ask_eq catalog forcing]
    refine ⟨isBuilt_force catalog, outcome_force catalog, ?_⟩
    intro fault failed
    rw [failed]
    rfl
  · constructor
    · intro idle
      cases query with
      | debugTypes types =>
          cases types with
          | nil => rfl
          | cons type later => cases idle
      | _ => cases idle
    · intro same
      rw [same]
      rfl

/-- A catalog over a stream without entries, whose build fails. -/
def barren : Catalog EntryList ScriptedBinder :=
  .ofSources {} (.ofEntries []) (.returning []) (.ofTypes [])

def barrenFault : CatalogFault := .notFound (.registryFunction "reflect.typelinks")

theorem barren_fails : barren.force.1 = .error barrenFault := by
  have unlisted : locate "reflect.typelinks" (EntryList.ofEntries []) =
      (.error barrenFault, .ofEntries []) := by
    rw [locate, locateFrom]
    rfl
  simp [barren, ofSources, force, runBuild, log, Config.fault?, unlisted]

theorem questions_force_build_over_barren :
    Query.summary.forces = true ∧ (barren.ask .summary).2.isBuilt = true ∧
      (barren.ask .summary).1 = .error barrenFault := by
  have forced := (questions_force_build barren .summary).1 rfl
  exact ⟨rfl, forced.1, forced.2.2 barrenFault barren_fails⟩

/-- A batch of no types is answered where every other question repeats a fault, and builds
nothing. -/
theorem empty_batch_spares_build :
    barren.force.1 = .error barrenFault ∧ barren.ask (.debugTypes []) = (.ok (.types []), barren) ∧
      barren.isBuilt = false :=
  ⟨barren_fails, rfl, rfl⟩

end Catalog

end TypeAtlas
