import TypeAtlas.Proofs.Inventory.Agreement
import TypeAtlas.Proofs.Inventory.Closure
import TypeAtlas.Proofs.Inventory.Ledger
import TypeAtlas.Proofs.Text.Order

/-!
The views of a catalog, from tables that hand out their entries in any order. Each view sorts what
it is handed by the bytes of the names, with its own projection. Names are not repeated in a table,
so there is one sorted order, and all views are views of it.
-/

namespace TypeAtlas

set_option autoImplicit false

open Text.Utf8 (encode)

/-- One of the orders in which a table may hand out its entries. -/
structure Iteration {α : Type} (table : Std.TreeMap String α) where
  entries : List (String × α)
  complete : entries.Perm table.toList

/-- Whether a name may stand before another in the order of their bytes. -/
def inOrder (left right : String) : Bool := decide (encode left ≤ encode right)

namespace Iteration

variable {α : Type} {table : Std.TreeMap String α}

/-- The names alone, sorted. -/
def names (order : Iteration table) : List String :=
  (order.entries.map Prod.fst).mergeSort inOrder

/-- The entries, sorted by their names. -/
def sorted (order : Iteration table) : List (String × α) :=
  order.entries.mergeSort fun left right => inOrder left.1 right.1

/-- What the names stand for, in the order of the names. -/
def values (order : Iteration table) : List α := order.sorted.map Prod.snd

end Iteration

/-- A summary makes its own list of types, and takes the failures as they are listed. -/
def CatalogSummary.ofIterations {found : Inventory} (types : Iteration found.types)
    (failures : Iteration found.failures) : CatalogSummary :=
  let types := types.sorted.map fun (name, type) => TypeSummary.ofType name type
  let failures := failures.values
  ⟨types.length, failures.length, types, failures⟩

/-! ### Sorting by bytes -/

theorem inOrder_iff {left right : String} : inOrder left right = true ↔ left ≤ right := by
  rw [inOrder, decide_eq_true_iff, Text.Utf8.encode_le_iff]

theorem inOrder_trans (first second third : String) (left : inOrder first second = true)
    (right : inOrder second third = true) : inOrder first third = true := by
  rw [inOrder_iff] at left right ⊢
  exact le_trans left right

theorem inOrder_total (left right : String) :
    (inOrder left right || inOrder right left) = true := by
  rw [Bool.or_eq_true, inOrder_iff, inOrder_iff]
  exact le_total left right

theorem inOrder_antisymm {left right : String} (first : inOrder left right = true)
    (second : inOrder right left = true) : left = right :=
  le_antisymm (inOrder_iff.mp first) (inOrder_iff.mp second)

section Tables

variable {α : Type} {table : Std.TreeMap String α}

theorem keys_inOrder (table : Std.TreeMap String α) :
    table.keys.Pairwise fun left right => inOrder left right = true := by
  refine Std.TreeMap.ordered_keys.imp ?_
  intro left right less
  exact inOrder_iff.mpr (le_of_lt (compare_lt_iff_lt.mp less))

theorem keys_ascending (table : Std.TreeMap String α) :
    table.keys.Pairwise fun left right => encode left < encode right := by
  refine Std.TreeMap.ordered_keys.imp ?_
  intro left right less
  exact Text.Utf8.encode_lt_of_lt (compare_lt_iff_lt.mp less)

theorem entries_inOrder (table : Std.TreeMap String α) :
    table.toList.Pairwise fun left right => inOrder left.1 right.1 = true := by
  have keys := keys_inOrder table
  rwa [← Std.TreeMap.map_fst_toList_eq_keys, List.pairwise_map] at keys

/-- A name stands for one thing in a table. -/
theorem entry_of_key {left right : String × α} (first : left ∈ table.toList)
    (second : right ∈ table.toList) (same : left.1 = right.1) : left = right := by
  obtain ⟨name, value⟩ := left
  obtain ⟨other, held⟩ := right
  cases same
  rw [Std.TreeMap.mem_toList_iff_getElem?_eq_some] at first second
  rw [first] at second
  cases second
  rfl

/-- However the entries come, sorting them gives one list. -/
theorem sorted_eq (order : Iteration table) : order.sorted = table.toList := by
  have perm : order.sorted.Perm table.toList :=
    (List.mergeSort_perm order.entries _).trans order.complete
  have sorted : order.sorted.Pairwise fun left right => inOrder left.1 right.1 = true :=
    List.pairwise_mergeSort (fun first second third => inOrder_trans first.1 second.1 third.1)
      (fun left right => inOrder_total left.1 right.1) order.entries
  refine List.Perm.eq_of_pairwise ?_ sorted (entries_inOrder table) perm
  intro left right first second before after
  exact entry_of_key (perm.mem_iff.mp first) second (inOrder_antisymm before after)

theorem names_eq (order : Iteration table) : order.names = table.keys := by
  have perm : order.names.Perm table.keys := by
    rw [← Std.TreeMap.map_fst_toList_eq_keys]
    exact (List.mergeSort_perm _ _).trans (order.complete.map Prod.fst)
  have sorted : order.names.Pairwise fun left right => inOrder left right = true :=
    List.pairwise_mergeSort inOrder_trans inOrder_total _
  refine List.Perm.eq_of_pairwise ?_ sorted (keys_inOrder table) perm
  intro left right _ _ before after
  exact inOrder_antisymm before after

/-- What stands at a place in the sorted entries is what the name at that place stands for. -/
theorem map_toList {β : Type} (view : String × α → β) (table : Std.TreeMap String α) :
    (table.toList.map view).map some =
      table.keys.map fun name => table[name]?.map fun value => view (name, value) := by
  rw [← Std.TreeMap.map_fst_toList_eq_keys, List.map_map, List.map_map]
  apply List.map_congr_left
  intro entry member
  have held := Std.TreeMap.mem_toList_iff_getElem?_eq_some.mp member
  simp [held]

end Tables

/-! ### Views of one table -/

/-- Views that show one inventory. What they list of the types stands place by place under the
names, and the names are in the order of their bytes. -/
structure OneTable (found : Inventory) (names : List String) (types : List RuntimeType)
    (failures : List TypeFailure) (summary : CatalogSummary) : Prop where
  ascending : names.Pairwise fun left right => encode left < encode right
  complete (name : String) : name ∈ names ↔ name ∈ found.types
  listed : types.map some = names.map found.typeNamed?
  summarized : summary.types.map some = names.map fun name =>
    (found.typeNamed? name).map fun type => ⟨name, type.kind, type.size, type.address, type.repr⟩
  typeCount : summary.typeCount = names.length
  size : found.size = names.length
  failuresAscending : failures.Pairwise fun left right => encode left.name < encode right.name
  recorded (name : String) (failure : TypeFailure) :
    found.failures[name]? = some failure → failures.count failure = 1
  onRecord : ∀ failure ∈ failures, found.failures[failure.name]? = some failure
  reported : summary.failures = failures
  failureCount : summary.failureCount = failures.length

/-- The answers of a catalog are these views. -/
structure Shows {σ β : Type} [EntryStream σ] [CodeBinder β] (catalog : Catalog σ β)
    (names : List String) (types : List RuntimeType) (failures : List TypeFailure)
    (summary : CatalogSummary) : Prop where
  typeNames : catalog.typeNames.1 = .ok names
  listTypes : catalog.listTypes.1 = .ok types
  typeNamed : names.map (fun name => (catalog.typeNamed name).1) = types.map .ok
  failures : catalog.failures.1 = .ok failures
  size : catalog.size.1 = .ok names.length
  summary : catalog.summary.1 = .ok summary

section Found

variable {found : Inventory}

theorem keys_typeNames (found : Inventory) : found.types.keys = found.typeNames :=
  Std.TreeMap.map_fst_toList_eq_keys.symm

theorem values_types (order : Iteration found.types) : order.values = found.listTypes := by
  rw [Iteration.values, sorted_eq]
  rfl

theorem values_failures (order : Iteration found.failures) :
    order.values = found.listFailures := by
  rw [Iteration.values, sorted_eq]
  rfl

theorem ofIterations_eq (types : Iteration found.types) (failures : Iteration found.failures) :
    CatalogSummary.ofIterations types failures = found.summary := by
  rw [CatalogSummary.ofIterations, sorted_eq, values_failures]
  rfl

theorem size_typeNames (found : Inventory) : found.size = found.typeNames.length := by
  rw [Inventory.size, Inventory.typeNames, List.length_map, Std.TreeMap.length_toList]

theorem listTypes_typeNamed (found : Inventory) :
    found.listTypes.map some = found.typeNames.map found.typeNamed? := by
  have shown := map_toList Prod.snd found.types
  simp only [Option.map_id'] at shown
  rwa [keys_typeNames] at shown

theorem summary_typeNamed (found : Inventory) : found.summary.types.map some =
    found.typeNames.map fun name => (found.typeNamed? name).map (TypeSummary.ofType name) := by
  have shown := map_toList (fun entry => TypeSummary.ofType entry.1 entry.2) found.types
  rwa [keys_typeNames] at shown

theorem shows_of_built {σ β : Type} [EntryStream σ] [CodeBinder β] {catalog : Catalog σ β}
    (built : catalog.force.1 = .ok found) :
    Shows catalog found.typeNames found.listTypes found.listFailures found.summary where
  typeNames := Walk.view_found built _
  listTypes := Walk.view_found built _
  typeNamed := by
    rw [Inventory.typeNames, Inventory.listTypes, List.map_map, List.map_map]
    apply List.map_congr_left
    intro entry member
    have held := Std.TreeMap.mem_toList_iff_getElem?_eq_some.mp member
    exact Walk.typeNamed_found built held
  failures := Walk.view_found built _
  size := by
    rw [← size_typeNames]
    exact Walk.view_found built _
  summary := Walk.view_found built _

end Found

/-- What a walk has recorded is listed once, in the order of the names it is recorded under. -/
theorem oneTable_run (resolve : Resolver) (links : TypeLinks) (config : Config) :
    OneTable (Walk.run resolve links config).found (Walk.run resolve links config).found.typeNames
      (Walk.run resolve links config).found.listTypes
      (Walk.run resolve links config).found.listFailures
      (Walk.run resolve links config).found.summary where
  ascending := by
    rw [← keys_typeNames]
    exact keys_ascending _
  complete name := by
    rw [← keys_typeNames]
    exact Std.TreeMap.mem_keys
  listed := listTypes_typeNamed _
  summarized := summary_typeNamed _
  typeCount := by
    rw [← size_typeNames]
    exact (List.length_map _).trans Std.TreeMap.length_toList
  size := size_typeNames _
  failuresAscending := by
    have ascending := keys_ascending (Walk.run resolve links config).found.failures
    rwa [← Walk.names_listFailures, List.pairwise_map] at ascending
  recorded name failure held := by
    have once := (Walk.nodup_listFailures resolve links config).of_map
    exact List.count_eq_one_of_mem once (Walk.mem_listFailures.mpr ⟨name, held⟩)
  onRecord failure member := by
    obtain ⟨name, held⟩ := Walk.mem_listFailures.mp member
    rwa [Walk.name_of_recorded held]
  reported := rfl
  failureCount := rfl

/-- In whatever order the tables of a walk hand out their entries, to each view in another one, all
views show one table, and the catalogs that hold it answer with them. -/
theorem views_show_one_table (resolve : Resolver) (links : TypeLinks) (config : Config)
    (named listed summarized : Iteration (Walk.run resolve links config).found.types)
    (failed reported : Iteration (Walk.run resolve links config).found.failures) :
    OneTable (Walk.run resolve links config).found named.names listed.values failed.values
        (.ofIterations summarized reported) ∧
      ∀ (σ β : Type) [EntryStream σ] [CodeBinder β] (catalog : Catalog σ β),
        catalog.force.1 = .ok (Walk.run resolve links config).found →
          Shows catalog named.names listed.values failed.values
            (.ofIterations summarized reported) := by
  rw [names_eq, keys_typeNames, values_types, values_failures, ofIterations_eq]
  refine ⟨oneTable_run resolve links config, ?_⟩
  intro σ β _ _ catalog built
  exact shows_of_built built

/-- The entries of a table, the last name first. -/
def Iteration.backwards {α : Type} (table : Std.TreeMap String α) : Iteration table :=
  ⟨table.toList.reverse, List.reverse_perm _⟩

/-- What a walk over torn nodes finds, which is two failures among it. -/
def tornFound : Inventory := (Walk.run (.ofTypes Walk.tornNodes) Walk.tornLinks {}).found

def tornCatalog : Catalog EntryList ScriptedBinder :=
  { Walk.nodeCatalog with resolve := .ofTypes Walk.tornNodes, outcome := some (.ok tornFound) }

theorem views_show_one_table_backwards :
    tornCatalog.force.1 = .ok tornFound ∧
      (Iteration.backwards tornFound.failures).values.map TypeFailure.name =
          ["@0x70", "main.Torn"] ∧
        OneTable tornFound (Iteration.backwards tornFound.types).names
            (Iteration.backwards tornFound.types).values
            (Iteration.backwards tornFound.failures).values
            (.ofIterations (.backwards tornFound.types) (.backwards tornFound.failures)) ∧
          Shows tornCatalog (Iteration.backwards tornFound.types).names
            (Iteration.backwards tornFound.types).values
            (Iteration.backwards tornFound.failures).values
            (.ofIterations (.backwards tornFound.types) (.backwards tornFound.failures)) := by
  have views := views_show_one_table (.ofTypes Walk.tornNodes) Walk.tornLinks {} (.backwards _)
    (.backwards _) (.backwards _) (.backwards _) (.backwards _)
  refine ⟨rfl, ?_, views.1, views.2 _ _ tornCatalog rfl⟩
  rw [values_failures, tornFound, Walk.names_listFailures]
  decide +kernel

end TypeAtlas
