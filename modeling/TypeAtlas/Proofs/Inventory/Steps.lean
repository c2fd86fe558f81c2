import Mathlib.Logic.Relation
import TypeAtlas.Proofs.Inventory.Visits

/-!
The writes of a walk, one at a time. Each writes about something that the roots lead to, and
nothing that was found is ever taken back or changed. What every write preserves holds of every
walk before its placeholders are listed.
-/

namespace TypeAtlas.Walk

set_option autoImplicit false

open Naming (Nameable Canonical CanonicalWithin Truthful Placing)
open Relation (ReflTransGen)

/-- The addresses that the roots lead to, through the parts of types and through the parameters
and results of the methods of structs. -/
inductive Reached (describe : Address → Except DescriptorFault RuntimeType)
    (roots : List Address) : Address → Prop where
  | root {address : Address} : address ∈ roots → Reached describe roots address
  | part {holder part : Address} {type : RuntimeType} :
      Reached describe roots holder → describe holder = .ok type →
        type.shape.RefersTo (.address part) → Reached describe roots part
  | call {owner target part : Address} {holder method : RuntimeType} :
      Reached describe roots owner → describe owner = .ok holder →
        Signs holder (.address target) → CallForm describe owner target method →
          method.shape.RefersTo (.address part) → Reached describe roots part

/-- `method` is the type of a method of a struct that the roots lead to. -/
def ReachedMethod (describe : Address → Except DescriptorFault RuntimeType)
    (roots : List Address) (method : RuntimeType) : Prop :=
  ∃ owner target holder, Reached describe roots owner ∧ describe owner = .ok holder ∧
    Signs holder (.address target) ∧ CallForm describe owner target method

/-- The tables of a later walk hold what those of an earlier one held. -/
structure Extends (walk later : Walk) : Prop where
  addresses : ∀ (address : Address) (name : String), walk.found.byAddress[address]? = some name →
    later.found.byAddress[address]? = some name
  types : ∀ (name : String) (type : RuntimeType), walk.found.types[name]? = some type →
    later.found.types[name]? = some type
  failures : ∀ (name : String) (failure : TypeFailure),
    walk.found.failures[name]? = some failure → later.found.failures[name]? = some failure

theorem extends_refl (walk : Walk) : Extends walk walk :=
  ⟨fun _ _ held => held, fun _ _ held => held, fun _ _ held => held⟩

theorem extends_trans {walk between later : Walk} (first : Extends walk between)
    (second : Extends between later) : Extends walk later := by
  refine ⟨?_, ?_, ?_⟩
  · intro address name held
    exact second.addresses address name (first.addresses address name held)
  · intro name type held
    exact second.types name type (first.types name type held)
  · intro name failure held
    exact second.failures name failure (first.failures name failure held)

section Tables

variable {α β : Type} [Ord α] [Std.TransOrd α] {table : Std.TreeMap α β}

theorem mem_of_getElem? {key : α} {held : β} (found : table[key]? = some held) : key ∈ table := by
  rw [Std.TreeMap.mem_iff_isSome_getElem?, found]
  rfl

theorem getElem?_of_mem {key : α} (member : key ∈ table) : ∃ held, table[key]? = some held := by
  rw [Std.TreeMap.mem_iff_isSome_getElem?] at member
  exact Option.isSome_iff_exists.mp member

variable [Std.LawfulEqOrd α]

/-- A new entry leaves the others as they are. -/
theorem held_insert {key other : α} {value held : β} (fresh : key ∉ table)
    (found : table[other]? = some held) : (table.insert key value)[other]? = some held := by
  rw [Std.TreeMap.getElem?_insert]
  split
  · rename_i same
    cases Std.LawfulEqOrd.eq_of_compare same
    exact absurd (mem_of_getElem? found) fresh
  · exact found

theorem held_insertIfNew {key other : α} {value held : β} (found : table[other]? = some held) :
    (table.insertIfNew key value)[other]? = some held := by
  rw [Std.TreeMap.getElem?_insertIfNew]
  split
  · rename_i same
    cases Std.LawfulEqOrd.eq_of_compare same.1
    exact absurd (mem_of_getElem? found) same.2
  · exact found

/-- An entry of a table after an insertion is the new one or an old one. -/
theorem getElem?_insert_cases {key other : α} {value held : β}
    (found : (table.insert key value)[other]? = some held) :
    (other = key ∧ held = value) ∨ (other ≠ key ∧ table[other]? = some held) := by
  rw [Std.TreeMap.getElem?_insert] at found
  split at found
  · rename_i same
    cases Std.LawfulEqOrd.eq_of_compare same
    cases found
    exact Or.inl ⟨rfl, rfl⟩
  · rename_i different
    refine Or.inr ⟨?_, found⟩
    intro same
    rw [same] at different
    exact different Std.ReflOrd.compare_self

theorem getElem?_insertIfNew_cases {key other : α} {value held : β}
    (found : (table.insertIfNew key value)[other]? = some held) :
    (other = key ∧ held = value) ∨ table[other]? = some held := by
  rw [Std.TreeMap.getElem?_insertIfNew] at found
  split at found
  · rename_i same
    cases Std.LawfulEqOrd.eq_of_compare same.1
    cases found
    exact Or.inl ⟨rfl, rfl⟩
  · exact Or.inr found

theorem mem_values {held : β} :
    held ∈ table.toList.map Prod.snd ↔ ∃ key : α, table[key]? = some held := by
  constructor
  · intro member
    obtain ⟨⟨key, known⟩, entry, rfl⟩ := List.mem_map.mp member
    exact ⟨key, Std.TreeMap.mem_toList_iff_getElem?_eq_some.mp entry⟩
  · intro found
    obtain ⟨key, found⟩ := found
    exact List.mem_map.mpr ⟨(key, held), Std.TreeMap.mem_toList_iff_getElem?_eq_some.mpr found, rfl⟩

end Tables

theorem extends_addresses {walk later : Walk} (extended : Extends walk later) {address : Address}
    (member : address ∈ walk.found.byAddress) : address ∈ later.found.byAddress := by
  obtain ⟨name, held⟩ := getElem?_of_mem member
  exact mem_of_getElem? (extended.addresses address name held)

theorem extends_types {walk later : Walk} (extended : Extends walk later) {name : String}
    (member : name ∈ walk.found.types) : name ∈ later.found.types := by
  obtain ⟨type, held⟩ := getElem?_of_mem member
  exact mem_of_getElem? (extended.types name type held)

theorem extends_failures {walk later : Walk} (extended : Extends walk later) {name : String}
    (member : name ∈ walk.found.failures) : name ∈ later.found.failures := by
  obtain ⟨failure, held⟩ := getElem?_of_mem member
  exact mem_of_getElem? (extended.failures name failure held)

variable {plan : Plan} {roots : List Address}

theorem extends_withNames (names : NameCache) (walk : Walk) :
    Extends walk (walk.withNames names) :=
  ⟨fun _ _ held => held, fun _ _ held => held, fun _ _ held => held⟩

theorem extends_reached {walk : Walk} {target : Address} (fresh : target ∉ walk.found.byAddress)
    (name : String) (names : NameCache) : Extends walk (walk.reached target name names) :=
  ⟨fun _ _ held => held_insert fresh held, fun _ _ held => held, fun _ _ held => held⟩

theorem extends_listType {walk : Walk} {name : String} (free : name ∉ walk.found.types)
    (type : RuntimeType) : Extends walk (walk.listType name type) :=
  ⟨fun _ _ held => held, fun _ _ held => held_insert free held, fun _ _ held => held⟩

theorem extends_recordFailure (plan : Plan) (failure : TypeFailure) (walk : Walk) :
    Extends walk (walk.recordFailure plan failure) := by
  refine ⟨?_, ?_, ?_⟩
  · intro address name held
    rw [found_recordFailure]
    exact held
  · intro name type held
    rw [found_recordFailure]
    exact held
  · intro name other held
    rw [found_recordFailure]
    exact held_insertIfNew held

theorem arrival_extends {walk : Walk} {target : Address} {type : RuntimeType} {name : String}
    {names : NameCache} (arrives : Arrives plan walk target type name names)
    (free : name ∉ walk.found.types) :
    Extends walk ((walk.reached target name names).listType name type) := by
  have unlisted : name ∉ (walk.reached target name names).found.types := free
  exact extends_trans (extends_reached arrives.fresh name names) (extends_listType unlisted type)

theorem call_extends {walk : Walk} {name : String} (names : NameCache)
    (free : name ∉ walk.found.types) (method : RuntimeType) :
    Extends walk ((walk.withNames names).listType name (listed method name)) := by
  have unlisted : name ∉ (walk.withNames names).found.types := free
  exact extends_trans (extends_withNames names walk) (extends_listType unlisted _)

theorem visits_extend {errand : Errand} {walk : Walk} {visit : Visit}
    (visits : Visits plan errand walk visit) : Extends walk visit.2 := by
  induction visits with
  | placeholder | known | unread | placeholderMethod | methodUnread | methodMisfit | done =>
      exact extends_refl _
  | unnamed | methodUnnamed | methodShadowed => exact extends_withNames _ _
  | shadowed arrives _ => exact extends_reached arrives.fresh _ _
  | entered arrives free _ ih => exact extends_trans (arrival_extends arrives free) ih
  | blamed arrives free _ ih =>
      apply extends_trans (extends_trans (arrival_extends arrives free) ih)
      exact extends_recordFailure plan _ _
  | methodEntered _ free _ ih => exact extends_trans (call_extends _ free _) ih
  | next _ _ first rest => exact extends_trans first rest

theorem searches_extend {walk after : Walk} (search : Searches plan roots walk after) :
    Extends walk after := by
  induction search with
  | done => exact extends_refl _
  | visited visits _ ih => exact extends_trans (visits_extend visits) ih
  | @refused root later walk between after reason visits _ ih =>
      have recorded := extends_recordFailure plan (unreadableRoot root reason) between
      exact extends_trans (extends_trans (visits_extend visits) recorded) ih

/-- One write of a walk, with what was known when it was made. -/
inductive Step (plan : Plan) (roots : List Address) : Walk → Walk → Prop where
  | renamed (walk : Walk) (names : NameCache) : Step plan roots walk (walk.withNames names)
  | shadowed {walk : Walk} {target : Address} {type : RuntimeType} {name : String}
      {names : NameCache} :
      Reached plan.describe roots target → Arrives plan walk target type name names →
        name ∈ walk.found.types → Step plan roots walk (walk.reached target name names)
  | entered {walk : Walk} {target : Address} {type : RuntimeType} {name : String}
      {names : NameCache} :
      Reached plan.describe roots target → Arrives plan walk target type name names →
        name ∉ walk.found.types →
          Step plan roots walk ((walk.reached target name names).listType name type)
  | methodEntered {walk : Walk} {method : RuntimeType} {name : String} {names : NameCache} :
      ReachedMethod plan.describe roots method → Canonical plan.describe (.type method) name →
        name ∉ walk.found.types →
          Step plan roots walk ((walk.withNames names).listType name (listed method name))
  | blamed {walk : Walk} {target : Address} {type : RuntimeType} {name : String}
      (reason : DescriptorFault) :
      Reached plan.describe roots target → plan.describe target = .ok type →
        Canonical plan.describe (.type type) name → name ∈ walk.found.types →
          Step plan roots walk
            (walk.recordFailure plan ⟨name, some target, type.repr, reason⟩)
  | refused (walk : Walk) {root : Address} (reason : DescriptorFault) :
      root ∈ roots → Step plan roots walk (walk.recordFailure plan (unreadableRoot root reason))

/-- A stop at something that the roots lead to. -/
def Within (describe : Address → Except DescriptorFault RuntimeType) (roots : List Address) :
    Stop → Prop
  | .ref reference => ∀ target, reference = .address target → Reached describe roots target
  | .method owner signature => Reached describe roots owner ∧
      ∃ holder, describe owner = .ok holder ∧ Signs holder signature

def Errand.All (holds : Stop → Prop) : Errand → Prop
  | .one stop => holds stop
  | .each stops => ∀ stop ∈ stops, holds stop

theorem mem_stops {type : RuntimeType} {stop : Stop} :
    stop ∈ stops type ↔ (∃ part, type.shape.RefersTo part ∧ stop = .ref part) ∨
      ∃ owner signature, type.address = some owner ∧ Signs type signature ∧
        stop = .method owner signature := by
  unfold stops
  constructor
  · intro member
    rcases List.mem_append.mp member with among | among
    · obtain ⟨part, held, rfl⟩ := List.mem_map.mp among
      exact Or.inl ⟨part, Shape.mem_parts_iff.mp held, rfl⟩
    · obtain ⟨⟨owner, signature⟩, held, rfl⟩ := List.mem_map.mp among
      obtain ⟨claims, signs⟩ := mem_receivers.mp held
      exact Or.inr ⟨owner, signature, claims, signs, rfl⟩
  · intro either
    apply List.mem_append.mpr
    rcases either with ⟨part, held, rfl⟩ | ⟨owner, signature, claims, signs, rfl⟩
    · exact Or.inl (List.mem_map.mpr ⟨part, Shape.mem_parts_iff.mpr held, rfl⟩)
    · have held := mem_receivers.mpr ⟨claims, signs⟩
      exact Or.inr (List.mem_map.mpr ⟨(owner, signature), held, rfl⟩)

theorem stops_within (placing : Placing plan.describe) {target : Address} {type : RuntimeType}
    (within : Reached plan.describe roots target) (found : plan.describe target = .ok type) :
    ∀ stop ∈ stops type, Within plan.describe roots stop := by
  intro stop member
  rcases mem_stops.mp member with ⟨part, held, rfl⟩ | ⟨owner, signature, claims, signs, rfl⟩
  · intro address same
    rw [same] at held
    exact .part within found held
  · rw [placing target type found] at claims
    cases claims
    exact ⟨within, type, found, signs⟩

theorem method_stops_within {owner target : Address} {method : RuntimeType}
    (within : Within plan.describe roots (.method owner (.address target)))
    (form : CallForm plan.describe owner target method) :
    ∀ stop ∈ stops method, Within plan.describe roots stop := by
  obtain ⟨reached, holder, found, signs⟩ := within
  intro stop member
  rcases mem_stops.mp member with ⟨part, held, rfl⟩ | ⟨caller, signature, claims, _⟩
  · intro address same
    rw [same] at held
    exact .call reached found signs form held
  · cases form
    cases claims

theorem method_within {owner target : Address} {method : RuntimeType}
    (within : Within plan.describe roots (.method owner (.address target)))
    (form : CallForm plan.describe owner target method) :
    ReachedMethod plan.describe roots method := by
  obtain ⟨reached, holder, found, signs⟩ := within
  exact ⟨owner, target, holder, reached, found, signs, form⟩

/-- Every visit is a sequence of writes about what the roots lead to. -/
theorem visits_steps (placing : Placing plan.describe) {errand : Errand} {walk : Walk}
    {visit : Visit} (visits : Visits plan errand walk visit)
    (within : errand.All (Within plan.describe roots)) :
    ReflTransGen (Step plan roots) walk visit.2 := by
  induction visits with
  | placeholder | known | unread | placeholderMethod | methodUnread | methodMisfit | done =>
      exact .refl
  | unnamed | methodUnnamed | methodShadowed => exact .single (.renamed _ _)
  | shadowed arrives taken => exact .single (.shadowed (within _ rfl) arrives taken)
  | entered arrives free _ ih =>
      have below := stops_within placing (within _ rfl) arrives.described
      exact .head (.entered (within _ rfl) arrives free) (ih below)
  | @blamed walk after target type name names reason arrives free visits ih =>
      have below := stops_within placing (within _ rfl) arrives.described
      have listedName : name ∈ after.found.types := by
        apply extends_types (visits_extend visits)
        rw [found_listType]
        exact Std.TreeMap.mem_insert_self
      apply ReflTransGen.head (.entered (within _ rfl) arrives free)
      exact .tail (ih below)
        (.blamed reason (within _ rfl) arrives.described arrives.canonical listedName)
  | methodEntered calls free _ ih =>
      have below := method_stops_within within calls.form
      have method := method_within within calls.form
      exact .head (.methodEntered method calls.canonical free) (ih below)
  | next _ _ first rest =>
      have head := first (within _ List.mem_cons_self)
      have tail := rest fun stop member => within stop (List.mem_cons_of_mem _ member)
      exact head.trans tail

theorem root_within {root : Address} (among : root ∈ roots) :
    (Errand.one (.ref (.address root))).All (Within plan.describe roots) := by
  intro target same
  cases same
  exact .root among

theorem searches_steps (placing : Placing plan.describe) {subset : List Address}
    {walk after : Walk} (search : Searches plan subset walk after)
    (among : ∀ root ∈ subset, root ∈ roots) : ReflTransGen (Step plan roots) walk after := by
  induction search with
  | done => exact .refl
  | visited visits _ ih =>
      have head := visits_steps placing visits (root_within (among _ List.mem_cons_self))
      exact head.trans (ih fun root member => among root (List.mem_cons_of_mem _ member))
  | refused visits _ ih =>
      have head := visits_steps placing visits (root_within (among _ List.mem_cons_self))
      apply (head.tail (.refused _ _ (among _ List.mem_cons_self))).trans
      exact ih fun root member => among root (List.mem_cons_of_mem _ member)

theorem steps_keep {invariant : Walk → Prop}
    (kept : ∀ walk later, Step plan roots walk later → invariant walk → invariant later)
    {walk later : Walk} (steps : ReflTransGen (Step plan roots) walk later)
    (held : invariant walk) : invariant later := by
  induction steps with
  | refl => exact held
  | tail _ step ih => exact kept _ _ step ih

/-- An invariant of the writes that holds of nothing found holds at the end of every search. -/
theorem searched_invariant {resolve : Resolver} (faithful : resolve.Faithful) (links : TypeLinks)
    (config : Config) (invariant : Walk → Prop) (opens : ∀ walk, Blank walk → invariant walk)
    (kept : ∀ walk later, Step (planOf resolve links config) links.roots walk later →
      invariant walk → invariant later) : invariant (searched resolve links config) := by
  obtain ⟨opened, blank, search⟩ := searched_searches resolve faithful links config
  have placing := Naming.placing_of_faithful faithful links.sections
  have steps := searches_steps placing search fun root member => member
  exact steps_keep kept steps (opens opened blank)

end TypeAtlas.Walk
