import TypeAtlas.Catalog.Basic
import TypeAtlas.Proofs.Inventory.Steps

/-!
How the tables of an inventory hang together. The table of addresses leads to the names that the
naming rules give, the table of types leads back to the addresses, and every write of a walk
keeps it so, although an address is listed before its type and a method's type has no address.
The placeholders go over whatever has their names, and take nothing else away.
-/

namespace TypeAtlas.Walk

set_option autoImplicit false

open Naming (Canonical Placing)

/-- The names of the two types that no descriptor stands for. -/
def Reserved (name : String) : Prop := name = opaquePointerName ∨ name = opaquePointerPointerName

/-- The tables of an inventory agree with each other, with the descriptors and, but for the
reserved names, with the naming rules. -/
structure Agreed (describe : Address → Except DescriptorFault RuntimeType) (roots : List Address)
    (reserved : String → Prop) (found : Inventory) : Prop where
  addressed : ∀ (address : Address) (name : String), found.byAddress[address]? = some name →
    name ∈ found.types ∧ ∃ type, describe address = .ok type ∧ Canonical describe (.type type) name
  placed : ∀ (name : String) (type : RuntimeType) (address : Address),
    found.types[name]? = some type → type.address = some address →
      found.byAddress[address]? = some name ∧ describe address = .ok type
  named : ∀ (name : String) (type : RuntimeType), found.types[name]? = some type →
    ¬reserved name → Canonical describe (.type type) name
  unplaced : ∀ (name : String) (type : RuntimeType), found.types[name]? = some type →
    ¬reserved name → type.address = none →
      ∃ method, ReachedMethod describe roots method ∧ type = listed method name
  recorded : ∀ (name : String) (failure : TypeFailure),
    found.failures[name]? = some failure → failure.name = name

variable {describe : Address → Except DescriptorFault RuntimeType} {roots : List Address}
  {reserved : String → Prop} {found : Inventory} {plan : Plan}

theorem agreed_empty : Agreed describe roots reserved .empty := by
  refine ⟨?_, ?_, ?_, ?_, ?_⟩
  · intro address name held
    cases held
  · intro name type address held
    cases held
  · intro name type held
    cases held
  · intro name type held
    cases held
  · intro name failure held
    cases held

theorem agreed_recordFailure (agreed : Agreed describe roots reserved found) (failure : TypeFailure) :
    Agreed describe roots reserved (found.recordFailure failure) := by
  refine ⟨agreed.addressed, agreed.placed, agreed.named, agreed.unplaced, ?_⟩
  intro name other held
  rcases getElem?_insertIfNew_cases held with ⟨rfl, rfl⟩ | before
  · rfl
  · exact agreed.recorded name other before

/-- A second descriptor with a name that is taken is listed by its address only. -/
theorem agreed_insertAddress (agreed : Agreed describe roots reserved found) {target : Address}
    {type : RuntimeType} {name : String} (fresh : target ∉ found.byAddress)
    (described : describe target = .ok type) (canonical : Canonical describe (.type type) name)
    (taken : name ∈ found.types) : Agreed describe roots reserved (found.insertAddress target name) := by
  refine ⟨?_, ?_, agreed.named, agreed.unplaced, agreed.recorded⟩
  · intro address other held
    rcases getElem?_insert_cases held with ⟨rfl, rfl⟩ | ⟨_, before⟩
    · exact ⟨taken, type, described, canonical⟩
    · exact agreed.addressed address other before
  · intro other known address held claims
    have ⟨back, again⟩ := agreed.placed other known address held claims
    exact ⟨held_insert fresh back, again⟩

/-- A descriptor with a new name is listed in both tables at once. -/
theorem agreed_insertBoth (placing : Placing describe) (agreed : Agreed describe roots reserved found)
    {target : Address} {type : RuntimeType} {name : String} (fresh : target ∉ found.byAddress)
    (described : describe target = .ok type) (canonical : Canonical describe (.type type) name) :
    Agreed describe roots reserved ((found.insertAddress target name).insertType name type) := by
  have claimed : type.address = some target := placing target type described
  refine ⟨?_, ?_, ?_, ?_, agreed.recorded⟩
  · intro address other held
    rcases getElem?_insert_cases held with ⟨rfl, rfl⟩ | ⟨_, before⟩
    · exact ⟨Std.TreeMap.mem_insert_self, type, described, canonical⟩
    · have ⟨listedName, rest⟩ := agreed.addressed address other before
      exact ⟨Std.TreeMap.mem_insert.mpr (Or.inr listedName), rest⟩
  · intro other known address held claims
    rcases getElem?_insert_cases held with ⟨rfl, rfl⟩ | ⟨_, before⟩
    · rw [claimed] at claims
      cases claims
      exact ⟨Std.TreeMap.getElem?_insert_self, described⟩
    · have ⟨back, again⟩ := agreed.placed other known address before claims
      exact ⟨held_insert fresh back, again⟩
  · intro other known held free
    rcases getElem?_insert_cases held with ⟨rfl, rfl⟩ | ⟨_, before⟩
    · exact canonical
    · exact agreed.named other known before free
  · intro other known held free without
    rcases getElem?_insert_cases held with ⟨rfl, rfl⟩ | ⟨_, before⟩
    · rw [claimed] at without
      cases without
    · exact agreed.unplaced other known before free without

theorem spelling_listed {owner target : Address} {method : RuntimeType}
    (form : CallForm describe owner target method) (name : String) :
    (listed method name).spelling = method.spelling := by
  cases form
  rfl

/-- An entry without an address leaves the table of addresses as it is. -/
theorem agreed_insertType (agreed : Agreed describe roots reserved found) {name : String}
    {type : RuntimeType} (without : type.address = none)
    (grounds : ¬reserved name → Canonical describe (.type type) name ∧
      ∃ method, ReachedMethod describe roots method ∧ type = listed method name) :
    Agreed describe roots reserved (found.insertType name type) := by
  refine ⟨?_, ?_, ?_, ?_, agreed.recorded⟩
  · intro address other held
    have ⟨listedName, rest⟩ := agreed.addressed address other held
    exact ⟨Std.TreeMap.mem_insert.mpr (Or.inr listedName), rest⟩
  · intro other known address held claims
    rcases getElem?_insert_cases held with ⟨rfl, rfl⟩ | ⟨_, before⟩
    · rw [without] at claims
      cases claims
    · exact agreed.placed other known address before claims
  · intro other known held unreserved
    rcases getElem?_insert_cases held with ⟨rfl, rfl⟩ | ⟨_, before⟩
    · exact (grounds unreserved).1
    · exact agreed.named other known before unreserved
  · intro other known held unreserved alone
    rcases getElem?_insert_cases held with ⟨rfl, rfl⟩ | ⟨_, before⟩
    · exact (grounds unreserved).2
    · exact agreed.unplaced other known before unreserved alone

theorem step_agreed (placing : Placing plan.describe) {walk later : Walk}
    (step : Step plan roots walk later) (agreed : Agreed plan.describe roots reserved walk.found) :
    Agreed plan.describe roots reserved later.found := by
  cases step with
  | renamed => exact agreed
  | shadowed _ arrives taken =>
      exact agreed_insertAddress agreed arrives.fresh arrives.described arrives.canonical taken
  | entered _ arrives _ =>
      exact agreed_insertBoth placing agreed arrives.fresh arrives.described arrives.canonical
  | @methodEntered method name names within canonical _ =>
      have ⟨owner, target, holder, _, _, _, form⟩ := within
      apply agreed_insertType agreed (unplaced_listed form name)
      intro _
      have same := (spelling_listed form name).symm
      exact ⟨Naming.canonical_of_spelling same canonical, _, within, rfl⟩
  | blamed =>
      rw [found_recordFailure]
      exact agreed_recordFailure agreed _
  | refused =>
      rw [found_recordFailure]
      exact agreed_recordFailure agreed _

theorem agreed_weaken {spared : String → Prop} (agreed : Agreed describe roots reserved found)
    (weaker : ∀ name, reserved name → spared name) : Agreed describe roots spared found := by
  refine ⟨agreed.addressed, agreed.placed, ?_, ?_, agreed.recorded⟩
  · intro name type held unspared
    exact agreed.named name type held fun among => unspared (weaker name among)
  · intro name type held unspared
    exact agreed.unplaced name type held fun among => unspared (weaker name among)

/-- Before the placeholders are listed, no name is reserved. -/
theorem searched_agreed {resolve : Resolver} (faithful : resolve.Faithful) (links : TypeLinks)
    (config : Config) :
    Agreed (resolve links.sections) links.roots (fun _ => False)
      (searched resolve links config).found := by
  have placing : Placing (planOf resolve links config).describe :=
    Naming.placing_of_faithful faithful links.sections
  apply searched_invariant faithful links config fun walk =>
    Agreed (resolve links.sections) links.roots (fun _ => False) walk.found
  · intro walk blank
    rw [blank.found]
    exact agreed_empty
  · intro walk later step held
    exact step_agreed placing step held

theorem run_agreed {resolve : Resolver} (faithful : resolve.Faithful) (links : TypeLinks)
    (config : Config) :
    Agreed (resolve links.sections) links.roots Reserved (run resolve links config).found := by
  have agreed : Agreed (resolve links.sections) links.roots Reserved
      (searched resolve links config).found :=
    agreed_weaken (searched_agreed faithful links config) fun _ => False.elim
  have pointerListed : Agreed (resolve links.sections) links.roots Reserved
      ((searched resolve links config).found.insertType opaquePointerName .opaquePointer) :=
    agreed_insertType agreed rfl fun unreserved => absurd (Or.inl rfl) unreserved
  rw [found_run]
  exact agreed_insertType pointerListed rfl fun unreserved => absurd (Or.inr rfl) unreserved

section Answers

variable {σ β : Type} [EntryStream σ] [CodeBinder β]

/-- What a catalog that found all this answers when it is asked for a type by its address. -/
structure AnswersByAddress (describe : Address → Except DescriptorFault RuntimeType)
    (found : Inventory) (catalog : Catalog σ β) : Prop where
  listed : ∀ types type address, catalog.listTypes.1 = .ok types → type ∈ types →
    type.address = some address → (catalog.typeAt address).1 = .ok type
  reached : ∀ address ∈ found.byAddress, ∃ type name answer, describe address = .ok type ∧
    Canonical describe (.type type) name ∧ (catalog.typeAt address).1 = .ok answer ∧
      (catalog.typeNamed name).1 = .ok answer

theorem view_found {α : Type} {catalog : Catalog σ β} (built : catalog.force.1 = .ok found)
    (look : Inventory → Except CatalogFault α) : (catalog.view look).1 = look found := by
  have viewed : (catalog.view look).1 = catalog.force.1.bind look := rfl
  rw [viewed, built]
  rfl

theorem mem_listTypes {type : RuntimeType} :
    type ∈ found.listTypes ↔ ∃ name : String, found.types[name]? = some type :=
  mem_values

theorem typeAt_found {catalog : Catalog σ β} (built : catalog.force.1 = .ok found)
    {address : Address} {name : String} {type : RuntimeType}
    (addressed : found.byAddress[address]? = some name)
    (held : found.types[name]? = some type) : (catalog.typeAt address).1 = .ok type := by
  unfold Catalog.typeAt
  rw [view_found built, Inventory.typeAt?, addressed, Option.bind_some, Inventory.typeNamed?, held]
  rfl

theorem typeNamed_found {catalog : Catalog σ β} (built : catalog.force.1 = .ok found)
    {name : String} {type : RuntimeType} (held : found.types[name]? = some type) :
    (catalog.typeNamed name).1 = .ok type := by
  unfold Catalog.typeNamed
  rw [view_found built, Inventory.typeNamed?, held]
  rfl

theorem answers_of_agreed (agreed : Agreed describe roots reserved found) {catalog : Catalog σ β}
    (built : catalog.force.1 = .ok found) : AnswersByAddress describe found catalog := by
  refine ⟨?_, ?_⟩
  · intro types type address asked member claims
    unfold Catalog.listTypes at asked
    rw [view_found built] at asked
    cases asked
    obtain ⟨name, held⟩ := mem_listTypes.mp member
    exact typeAt_found built (agreed.placed name type address held claims).1 held
  · intro address member
    obtain ⟨name, addressed⟩ := getElem?_of_mem member
    obtain ⟨taken, type, described, canonical⟩ := agreed.addressed address name addressed
    obtain ⟨answer, held⟩ := getElem?_of_mem taken
    exact ⟨type, name, answer, described, canonical, typeAt_found built addressed held,
      typeNamed_found built held⟩

end Answers

/-- Whatever a walk finds, its tables agree, and so do the answers of every catalog that found
it, whether asked by address or by name. -/
theorem indexes_agree (resolve : Resolver) (faithful : resolve.Faithful) (links : TypeLinks)
    (config : Config) :
    Agreed (resolve links.sections) links.roots Reserved (run resolve links config).found ∧
      ∀ (σ β : Type) [EntryStream σ] [CodeBinder β] (catalog : Catalog σ β),
        catalog.force.1 = .ok (run resolve links config).found →
          AnswersByAddress (resolve links.sections) (run resolve links config).found catalog := by
  have agreed := run_agreed faithful links config
  refine ⟨agreed, ?_⟩
  intro σ β _ _ catalog built
  exact answers_of_agreed agreed built

/-- A list node that refers to the next one and has a method without parameters. -/
def nodes : List RuntimeType :=
  [⟨some ⟨32⟩, .func, 8, none, none, "func()", .func [] [] false⟩,
    ⟨some ⟨48⟩, .struct, 8, some "Node", some "main", "main.Node",
      .struct [⟨"next", .address ⟨64⟩, 0, false⟩] [⟨"Get", some (.address ⟨32⟩)⟩]⟩,
    ⟨some ⟨64⟩, .pointer, 8, none, none, "*main.Node", .pointer (.address ⟨48⟩)⟩]

def nodeLinks : TypeLinks := ⟨[⟨0⟩], [[64]]⟩

def nodeCatalog : Catalog EntryList ScriptedBinder where
  config := {}
  stream := .ofEntries []
  binder := .returning []
  resolve := .ofTypes nodes
  outcome := some (.ok (run (.ofTypes nodes) nodeLinks {}).found)
  events := #[]

theorem indexes_agree_over_nodes :
    (run (.ofTypes nodes) nodeLinks {}).found.typeNames =
        ["**void", "*main.Node", "*void", "func(main.Node)", "main.Node"] ∧
      Agreed (Resolver.ofTypes nodes [⟨0⟩]) [⟨64⟩] Reserved
          (run (.ofTypes nodes) nodeLinks {}).found ∧
        AnswersByAddress (Resolver.ofTypes nodes [⟨0⟩])
          (run (.ofTypes nodes) nodeLinks {}).found nodeCatalog := by
  have agree := indexes_agree (.ofTypes nodes) (Resolver.faithful_ofTypes nodes) nodeLinks {}
  exact ⟨by decide +kernel, agree.1, agree.2 _ _ nodeCatalog rfl⟩

end TypeAtlas.Walk
