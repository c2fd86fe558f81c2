import Mathlib.Data.Fintype.Card
import Mathlib.Data.List.Nodup
import TypeAtlas.Inventory.Walk
import TypeAtlas.Proofs.Naming.Answers

/-!
What a visit can do, said once. A walk is sent to one stop or to several in order, and every way
in which it comes back is one constructor of `Visits`, with its guards. The budget does not occur
in it: a budget that covers the addresses outside the table of addresses is never spent, since
each nested visit that gets past the table has put one more address into it.
-/

namespace TypeAtlas.Walk

set_option autoImplicit false

open Naming (Nameable Canonical CanonicalWithin Truthful Placing)

/-- One place a walk can be sent to: what a reference leads to, or a method with the signature
that is stored for it, called on `owner`. -/
inductive Stop where
  | ref (reference : TypeRef)
  | method (owner : Address) (signature : TypeRef)

/-- A struct has a method with this signature. -/
def Signs (type : RuntimeType) (signature : TypeRef) : Prop :=
  ∃ fields methods, type.shape = .struct fields methods ∧
    ∃ method ∈ methods, method.signature = some signature

/-- The type of the method whose signature stands at `target`, as it is called on `owner`: a
function without a name and an address of its own, with `owner` as the first parameter. -/
inductive CallForm (describe : Address → Except DescriptorFault RuntimeType)
    (owner target : Address) : RuntimeType → Prop where
  | mk {stored : RuntimeType} {params results : List TypeRef} {variadic : Bool} :
      describe target = .ok stored → stored.shape = .func params results variadic →
        CallForm describe owner target
          ⟨none, .func, stored.size, none, none, "",
            .func (.address owner :: params) results variadic⟩

/-- Where a walk goes below a type: to its parts, then to its methods. -/
def stops (type : RuntimeType) : List Stop :=
  type.shape.parts.map .ref ++
    (receivers type).map fun (owner, signature) => .method owner signature

def withNames (names : NameCache) (walk : Walk) : Walk := { walk with names := names }

/-- A method's type once it is listed: its own name is the string it is shown as. -/
def listed (method : RuntimeType) (name : String) : RuntimeType := { method with repr := name }

/-- The walk has come to `address` for the first time and given it a name. -/
def reached (address : Address) (name : String) (names : NameCache) (walk : Walk) : Walk :=
  (walk.withNames names).listAddress address name

/-- The walk comes to `target` for the first time, reads a descriptor there and names it. -/
structure Arrives (plan : Plan) (walk : Walk) (target : Address) (type : RuntimeType)
    (name : String) (names : NameCache) : Prop where
  fresh : target ∉ walk.found.byAddress
  described : plan.describe target = .ok type
  named : nameType plan type walk = (.ok name, walk.withNames names)
  canonical : Canonical plan.describe (.type type) name

/-- The walk reads the signature at `target` and names the method as called on `owner`. -/
structure Calls (plan : Plan) (walk : Walk) (owner target : Address) (method : RuntimeType)
    (name : String) (names : NameCache) : Prop where
  form : CallForm plan.describe owner target method
  named : nameType plan method walk = (.ok name, walk.withNames names)
  canonical : Canonical plan.describe (.type method) name

inductive Errand where
  | one (stop : Stop)
  | each (stops : List Stop)

/-- `Visits plan errand walk visit`: sent on the errand from `walk`, a walk that remembers
canonical names only comes back as `visit`. -/
inductive Visits (plan : Plan) : Errand → Walk → Visit → Prop where
  | placeholder (walk : Walk) : Visits plan (.one (.ref .opaquePointer)) walk (none, walk)
  | known {walk : Walk} {target : Address} :
      target ∈ walk.found.byAddress → Visits plan (.one (.ref (.address target))) walk (none, walk)
  | unread {walk : Walk} {target : Address} {reason : DescriptorFault} :
      target ∉ walk.found.byAddress → plan.describe target = .error reason →
        Visits plan (.one (.ref (.address target))) walk (some reason, walk)
  | unnamed {walk : Walk} {target : Address} {type : RuntimeType} {reason : DescriptorFault}
      {names : NameCache} :
      target ∉ walk.found.byAddress → plan.describe target = .ok type →
        nameType plan type walk = (.error reason, walk.withNames names) →
          (∀ name, ¬CanonicalWithin plan.describe plan.maxNameDepth (.type type) name) →
            Visits plan (.one (.ref (.address target))) walk (some reason, walk.withNames names)
  | shadowed {walk : Walk} {target : Address} {type : RuntimeType} {name : String}
      {names : NameCache} :
      Arrives plan walk target type name names → name ∈ walk.found.types →
        Visits plan (.one (.ref (.address target))) walk (none, walk.reached target name names)
  | entered {walk after : Walk} {target : Address} {type : RuntimeType} {name : String}
      {names : NameCache} :
      Arrives plan walk target type name names → name ∉ walk.found.types →
        Visits plan (.each (stops type))
          ((walk.reached target name names).listType name type) (none, after) →
          Visits plan (.one (.ref (.address target))) walk (none, after)
  | blamed {walk after : Walk} {target : Address} {type : RuntimeType} {name : String}
      {names : NameCache} {reason : DescriptorFault} :
      Arrives plan walk target type name names → name ∉ walk.found.types →
        Visits plan (.each (stops type))
          ((walk.reached target name names).listType name type) (some reason, after) →
          Visits plan (.one (.ref (.address target))) walk
            (none, after.recordFailure plan ⟨name, some target, type.repr, reason⟩)
  | placeholderMethod (owner : Address) (walk : Walk) :
      Visits plan (.one (.method owner .opaquePointer)) walk (none, walk)
  | methodUnread {walk : Walk} {owner target : Address} {reason : DescriptorFault} :
      plan.describe target = .error reason →
        Visits plan (.one (.method owner (.address target))) walk (some reason, walk)
  | methodMisfit {walk : Walk} {owner target : Address} {stored : RuntimeType} :
      plan.describe target = .ok stored →
        (∀ params results variadic, stored.shape ≠ .func params results variadic) →
          Visits plan (.one (.method owner (.address target))) walk
            (some (.layout target (.methodKind stored.kind)), walk)
  | methodUnnamed {walk : Walk} {owner target : Address} {method : RuntimeType}
      {reason : DescriptorFault} {names : NameCache} :
      CallForm plan.describe owner target method →
        nameType plan method walk = (.error reason, walk.withNames names) →
          (∀ name, ¬CanonicalWithin plan.describe plan.maxNameDepth (.type method) name) →
            Visits plan (.one (.method owner (.address target))) walk
              (some reason, walk.withNames names)
  | methodShadowed {walk : Walk} {owner target : Address} {method : RuntimeType} {name : String}
      {names : NameCache} :
      Calls plan walk owner target method name names → name ∈ walk.found.types →
        Visits plan (.one (.method owner (.address target))) walk (none, walk.withNames names)
  | methodEntered {walk : Walk} {owner target : Address} {method : RuntimeType} {name : String}
      {names : NameCache} {visit : Visit} :
      Calls plan walk owner target method name names → name ∉ walk.found.types →
        Visits plan (.each (stops method))
          ((walk.withNames names).listType name (listed method name)) visit →
          Visits plan (.one (.method owner (.address target))) walk visit
  | done (walk : Walk) : Visits plan (.each []) walk (none, walk)
  | next {walk between after : Walk} {stop : Stop} {later : List Stop}
      {first rest : Option DescriptorFault} :
      Visits plan (.one stop) walk (first, between) →
        Visits plan (.each later) between (rest, after) →
          Visits plan (.each (stop :: later)) walk (first.or rest, after)

theorem mem_receivers {type : RuntimeType} {owner : Address} {signature : TypeRef} :
    (owner, signature) ∈ receivers type ↔ type.address = some owner ∧ Signs type signature := by
  unfold receivers Signs
  cases shape : type.shape <;> cases claims : type.address <;> simp
  case struct.some fields methods place =>
    constructor
    · intro held
      obtain ⟨⟨method, member, signed⟩, rfl⟩ := held
      exact ⟨rfl, method, member, signed⟩
    · intro held
      obtain ⟨rfl, method, member, signed⟩ := held
      exact ⟨⟨method, member, signed⟩, rfl⟩

theorem unplaced_listed {describe : Address → Except DescriptorFault RuntimeType}
    {owner target : Address} {method : RuntimeType}
    (form : CallForm describe owner target method) (name : String) :
    (listed method name).address = none := by
  cases form
  rfl

variable {plan : Plan}

@[simp]
theorem found_listType (name : String) (type : RuntimeType) (walk : Walk) :
    (walk.listType name type).found = walk.found.insertType name type := rfl

@[simp]
theorem found_recordFailure (failure : TypeFailure) (walk : Walk) :
    (walk.recordFailure plan failure).found = walk.found.recordFailure failure := by
  unfold recordFailure
  split <;> rfl

@[simp]
theorem names_recordFailure (failure : TypeFailure) (walk : Walk) :
    (walk.recordFailure plan failure).names = walk.names := by
  unfold recordFailure
  split <;> rfl

/-- No visit takes an address out of the table. -/
theorem visits_size {errand : Errand} {walk : Walk} {visit : Visit}
    (visits : Visits plan errand walk visit) :
    walk.found.byAddress.size ≤ visit.2.found.byAddress.size := by
  induction visits with
  | placeholder | known | unread | unnamed | placeholderMethod | methodUnread | methodMisfit
    | methodUnnamed | methodShadowed | done => exact Nat.le_refl _
  | shadowed => exact Std.TreeMap.size_le_size_insert
  | entered _ _ _ ih => exact Nat.le_trans Std.TreeMap.size_le_size_insert ih
  | blamed _ _ _ ih =>
      rw [found_recordFailure]
      exact Nat.le_trans Std.TreeMap.size_le_size_insert ih
  | methodEntered _ _ _ ih => exact ih
  | next _ _ first rest => exact Nat.le_trans first rest

theorem visits_append {walk between after : Walk} {first rest : Option DescriptorFault}
    {earlier later : List Stop} (begun : Visits plan (.each earlier) walk (first, between))
    (continued : Visits plan (.each later) between (rest, after)) :
    Visits plan (.each (earlier ++ later)) walk (first.or rest, after) := by
  induction earlier generalizing walk first with
  | nil =>
      cases begun
      exact continued
  | cons stop earlier ih =>
      cases begun with
      | next one others =>
          rw [List.cons_append, Option.or_assoc]
          exact .next one (ih others)

/-- A table of addresses has no more entries than there are addresses. -/
theorem size_le_addressCount (table : Std.TreeMap Address String) : table.size ≤ addressCount := by
  have injective : Function.Injective fun address : Address => address.val.toFin := by
    intro left right same
    cases left
    cases right
    exact congrArg Address.mk (UInt64.toFin_inj.mp same)
  have distinct := Std.TreeMap.nodup_keys (t := table) |>.map injective
  have bound := distinct.length_le_card
  rw [List.length_map, Std.TreeMap.length_keys, Fintype.card_fin] at bound
  exact bound

theorem mem_of_full {table : Std.TreeMap Address String} (full : addressCount ≤ table.size)
    (address : Address) : address ∈ table := by
  by_contra absent
  have bound := size_le_addressCount (table.insert address "")
  simp only [Std.TreeMap.size_insert, Std.TreeMap.contains_iff_mem, absent, if_false] at bound
  omega

/-- The walk remembers canonical names, and the budget covers the addresses it has not been to. -/
structure Ready (plan : Plan) (budget : Nat) (walk : Walk) : Prop where
  truthful : Truthful plan.describe walk.names
  covered : addressCount ≤ walk.found.byAddress.size + budget

/-- What a visit does on a walk that is ready is one of the ways of `Visits`. -/
def Performs (plan : Plan) (budget : Nat) (errand : Errand) (visit : Walk → Visit) : Prop :=
  ∀ walk, Ready plan budget walk →
    Visits plan errand walk (visit walk) ∧ Truthful plan.describe (visit walk).2.names

theorem ready_after {budget : Nat} {errand : Errand} {walk : Walk} {visit : Visit}
    (ready : Ready plan budget walk) (visits : Visits plan errand walk visit)
    (truthful : Truthful plan.describe visit.2.names) : Ready plan budget visit.2 := by
  refine ⟨truthful, ?_⟩
  have grown := visits_size visits
  have covered := ready.covered
  omega

theorem performs_each {α : Type} {budget : Nat} {visit : α → Walk → Visit} {stop : α → Stop}
    (performs : ∀ item, Performs plan budget (.one (stop item)) (visit item)) (items : List α) :
    ∀ failure walk, Ready plan budget walk →
      ∃ rest after, visitEach visit items (failure, walk) = (failure.or rest, after) ∧
        Visits plan (.each (items.map stop)) walk (rest, after) ∧
          Truthful plan.describe after.names := by
  induction items with
  | nil =>
      intro failure walk ready
      exact ⟨none, walk, by simp [visitEach], .done walk, ready.truthful⟩
  | cons item items ih =>
      intro failure walk ready
      obtain ⟨visits, truthful⟩ := performs item walk ready
      rcases came : visit item walk with ⟨first, between⟩
      rw [came] at visits truthful
      rcases ih (failure.or first) between (ready_after ready visits truthful) with
        ⟨rest, after, same, others, kept⟩
      refine ⟨first.or rest, after, ?_, .next visits others, kept⟩
      rw [← Option.or_assoc, ← same]
      unfold visitEach
      rw [List.foldl_cons, came]

/-- Naming a type in its place leaves the walk as it was but for the names it remembers. -/
theorem nameType_outcome (placing : Placing plan.describe) {type : RuntimeType}
    (placed : Naming.Placed plan.describe type) {walk : Walk}
    (truthful : Truthful plan.describe walk.names) :
    (∃ name names, nameType plan type walk = (.ok name, walk.withNames names) ∧
        Canonical plan.describe (.type type) name ∧ Truthful plan.describe names) ∨
      ∃ reason names, nameType plan type walk = (.error reason, walk.withNames names) ∧
        (∀ name, ¬CanonicalWithin plan.describe plan.maxNameDepth (.type type) name) ∧
          Truthful plan.describe names := by
  have settled : Naming.Settles plan.describe
      (Naming.nameOf plan.describe plan.maxNameDepth type) _ _ :=
    Naming.settles_within placing (plan.maxNameDepth + 1) type placed
  obtain ⟨kept, sound, complete⟩ := settled walk.names truthful
  rcases came : (Naming.nameOf plan.describe plan.maxNameDepth type).run walk.names with
    ⟨result, names⟩
  rw [came] at kept sound complete
  have named : nameType plan type walk = (result, walk.withNames names) := by
    unfold nameType
    rw [came]
    rfl
  cases result with
  | ok name => exact Or.inl ⟨name, names, named, sound name rfl, kept⟩
  | error reason =>
      refine Or.inr ⟨reason, names, named, ?_, kept⟩
      intro name within
      cases complete name within

section Performed

variable {budget : Nat} (placing : Placing plan.describe)
  (performs : ∀ reference, Performs plan budget (.one (.ref reference))
    (visitRef plan budget reference))

include performs in
theorem performs_parts (type : RuntimeType) (bare : receivers type = []) :
    Performs plan budget (.each (stops type)) (visitParts (visitRef plan budget) type) := by
  intro walk ready
  rcases performs_each performs type.shape.parts none walk ready with
    ⟨rest, after, came, visits, truthful⟩
  have same : stops type = type.shape.parts.map .ref := by simp [stops, bare]
  unfold visitParts
  rw [same, came, Option.none_or]
  exact ⟨visits, truthful⟩

theorem visitMethod_named {visit : TypeRef → Walk → Visit} {walk : Walk}
    {owner target : Address} {method : RuntimeType} {name : String} {names : NameCache}
    (calls : Calls plan walk owner target method name names) :
    visitMethod plan visit owner (.address target) walk =
      if (walk.withNames names).found.types.contains name then (none, walk.withNames names)
      else visitParts visit (listed method name)
        ((walk.withNames names).listType name (listed method name)) := by
  obtain ⟨⟨found, shape⟩, named, _⟩ := calls
  unfold visitMethod
  simp only [found, shape, methodType, named]
  rfl

include performs in
theorem performs_call {walk : Walk} (ready : Ready plan budget walk) {owner target : Address}
    {method : RuntimeType} {name : String} {names : NameCache}
    (calls : Calls plan walk owner target method name names)
    (truthful : Truthful plan.describe names) :
    Visits plan (.one (.method owner (.address target))) walk
        (visitMethod plan (visitRef plan budget) owner (.address target) walk) ∧
      Truthful plan.describe
        (visitMethod plan (visitRef plan budget) owner (.address target) walk).2.names := by
  rw [visitMethod_named calls]
  by_cases taken : name ∈ walk.found.types
  · have contained : (walk.withNames names).found.types.contains name := taken
    rw [if_pos contained]
    exact ⟨.methodShadowed calls taken, truthful⟩
  · have missing : ¬(walk.withNames names).found.types.contains name := taken
    rw [if_neg missing]
    have bare : receivers (listed method name) = [] := by
      obtain ⟨form, _, _⟩ := calls
      cases form
      rfl
    have listedReady :
        Ready plan budget ((walk.withNames names).listType name (listed method name)) :=
      ⟨truthful, ready.covered⟩
    have below := performs_parts performs (listed method name) bare _ listedReady
    exact ⟨.methodEntered calls taken below.1, below.2⟩

include placing performs in
theorem performs_method (owner : Address) (signature : TypeRef) :
    Performs plan budget (.one (.method owner signature))
      (visitMethod plan (visitRef plan budget) owner signature) := by
  intro walk ready
  cases signature with
  | opaquePointer => exact ⟨.placeholderMethod owner walk, ready.truthful⟩
  | address target =>
      cases found : plan.describe target with
      | error reason =>
          unfold visitMethod
          simp only [found]
          exact ⟨.methodUnread found, ready.truthful⟩
      | ok stored =>
          by_cases fits : ∃ params results variadic, stored.shape = .func params results variadic
          · obtain ⟨params, results, variadic, shape⟩ := fits
            have form : CallForm plan.describe owner target
                (methodType owner stored params results variadic) := .mk found shape
            have placed : Naming.Placed plan.describe
                (methodType owner stored params results variadic) :=
              Naming.placed_of_unplaced rfl
            rcases nameType_outcome placing placed ready.truthful with
              ⟨name, names, named, canonical, truthful⟩ | ⟨reason, names, refused, beyond, truthful⟩
            · exact performs_call performs ready ⟨form, named, canonical⟩ truthful
            · unfold visitMethod
              simp only [found, shape, refused]
              exact ⟨.methodUnnamed form refused beyond, truthful⟩
          · have misfit : ∀ params results variadic,
                stored.shape ≠ .func params results variadic := by
              intro params results variadic shape
              exact fits ⟨params, results, variadic, shape⟩
            unfold visitMethod
            simp only [found]
            exact ⟨.methodMisfit found misfit, ready.truthful⟩

include placing performs in
theorem performs_below (type : RuntimeType) :
    Performs plan budget (.each (stops type)) (visitBelow plan (visitRef plan budget) type) := by
  intro walk ready
  rcases performs_each performs type.shape.parts none walk ready with
    ⟨first, between, cameParts, visitsParts, keptParts⟩
  have called : ∀ call : Address × TypeRef, Performs plan budget (.one (.method call.1 call.2))
      (visitMethod plan (visitRef plan budget) call.1 call.2) :=
    fun call => performs_method placing performs call.1 call.2
  rcases performs_each called (receivers type) first between
      (ready_after ready visitsParts keptParts) with ⟨rest, after, came, visits, kept⟩
  unfold visitBelow visitParts
  rw [cameParts, Option.none_or, came]
  exact ⟨visits_append visitsParts visits, kept⟩

end Performed

/-- Coming to a new address takes one off the budget that is still needed. -/
theorem ready_listed {budget : Nat} {walk : Walk} {target : Address} {type : RuntimeType}
    {name : String} {names : NameCache} (ready : Ready plan (budget + 1) walk)
    (arrives : Arrives plan walk target type name names)
    (truthful : Truthful plan.describe names) :
    Ready plan budget ((walk.reached target name names).listType name type) := by
  refine ⟨truthful, ?_⟩
  have covered := ready.covered
  have grown : (walk.found.byAddress.insert target name).size = walk.found.byAddress.size + 1 := by
    simp only [Std.TreeMap.size_insert, Std.TreeMap.contains_iff_mem, arrives.fresh, if_false]
  change addressCount ≤ (walk.found.byAddress.insert target name).size + budget
  omega

theorem visitRef_shadowed {budget : Nat} {walk : Walk} {target : Address} {type : RuntimeType}
    {name : String} {names : NameCache} (arrives : Arrives plan walk target type name names)
    (taken : name ∈ walk.found.types) :
    visitRef plan (budget + 1) (.address target) walk =
      (none, walk.reached target name names) := by
  have fresh : ¬walk.found.byAddress.contains target := arrives.fresh
  have contained : (walk.reached target name names).found.types.contains name := taken
  rw [visitRef, if_neg fresh, arrives.described]
  simp only [arrives.named]
  exact if_pos contained

theorem visitRef_listed {budget : Nat} {walk : Walk} {target : Address} {type : RuntimeType}
    {name : String} {names : NameCache} (arrives : Arrives plan walk target type name names)
    (free : name ∉ walk.found.types) :
    visitRef plan (budget + 1) (.address target) walk =
      match visitBelow plan (visitRef plan budget) type
        ((walk.reached target name names).listType name type) with
      | (none, after) => (none, after)
      | (some reason, after) =>
          (none, after.recordFailure plan ⟨name, some target, type.repr, reason⟩) := by
  have fresh : ¬walk.found.byAddress.contains target := arrives.fresh
  have missing : ¬(walk.reached target name names).found.types.contains name := free
  rw [visitRef, if_neg fresh, arrives.described]
  simp only [arrives.named]
  exact if_neg missing

theorem performs_arrival (placing : Placing plan.describe) {budget : Nat}
    (performs : ∀ reference, Performs plan budget (.one (.ref reference))
      (visitRef plan budget reference))
    {walk : Walk} (ready : Ready plan (budget + 1) walk) {target : Address} {type : RuntimeType}
    {name : String} {names : NameCache} (arrives : Arrives plan walk target type name names)
    (truthful : Truthful plan.describe names) :
    Visits plan (.one (.ref (.address target))) walk
        (visitRef plan (budget + 1) (.address target) walk) ∧
      Truthful plan.describe (visitRef plan (budget + 1) (.address target) walk).2.names := by
  by_cases taken : name ∈ walk.found.types
  · rw [visitRef_shadowed arrives taken]
    exact ⟨.shadowed arrives taken, truthful⟩
  · rw [visitRef_listed arrives taken]
    have below := performs_below placing performs type _ (ready_listed ready arrives truthful)
    rcases came : visitBelow plan (visitRef plan budget) type
      ((walk.reached target name names).listType name type) with ⟨result, after⟩
    rw [came] at below
    cases result with
    | none => exact ⟨.entered arrives taken below.1, below.2⟩
    | some reason =>
        refine ⟨.blamed arrives taken below.1, ?_⟩
        rw [names_recordFailure]
        exact below.2

/-- The induction is on the budget. It goes down with each nested visit, and the table of
addresses has grown by one address meanwhile. -/
theorem performs_ref (placing : Placing plan.describe) (budget : Nat) :
    ∀ reference, Performs plan budget (.one (.ref reference)) (visitRef plan budget reference) := by
  induction budget with
  | zero =>
      -- Nothing is left of the budget, so the table holds every address there is.
      intro reference walk ready
      cases reference with
      | opaquePointer => exact ⟨.placeholder walk, ready.truthful⟩
      | address target => exact ⟨.known (mem_of_full ready.covered target), ready.truthful⟩
  | succ budget ih =>
      intro reference walk ready
      cases reference with
      | opaquePointer => exact ⟨.placeholder walk, ready.truthful⟩
      | address target =>
          by_cases been : target ∈ walk.found.byAddress
          · have contained : walk.found.byAddress.contains target := been
            rw [visitRef, if_pos contained]
            exact ⟨.known been, ready.truthful⟩
          have fresh : ¬walk.found.byAddress.contains target := been
          cases found : plan.describe target with
          | error reason =>
              rw [visitRef, if_neg fresh, found]
              exact ⟨.unread been found, ready.truthful⟩
          | ok type =>
              have placed := Naming.placed_of_described placing found
              rcases nameType_outcome placing placed ready.truthful with
                ⟨name, names, named, canonical, truthful⟩ |
                  ⟨reason, names, refused, beyond, truthful⟩
              · exact performs_arrival placing ih ready ⟨been, found, named, canonical⟩ truthful
              · rw [visitRef, if_neg fresh, found]
                simp only [refused]
                exact ⟨.unnamed been found refused beyond, truthful⟩

/-- The failure kept of a root that cannot be read or named. -/
def unreadableRoot (root : Address) (reason : DescriptorFault) : TypeFailure :=
  ⟨s!"@{root}", some root, "<unreadable>", reason⟩

/-- The visits to the roots, one after another. -/
inductive Searches (plan : Plan) : List Address → Walk → Walk → Prop where
  | done (walk : Walk) : Searches plan [] walk walk
  | visited {root : Address} {later : List Address} {walk between after : Walk} :
      Visits plan (.one (.ref (.address root))) walk (none, between) →
        Searches plan later between after → Searches plan (root :: later) walk after
  | refused {root : Address} {later : List Address} {walk between after : Walk}
      {reason : DescriptorFault} :
      Visits plan (.one (.ref (.address root))) walk (some reason, between) →
        Searches plan later (between.recordFailure plan (unreadableRoot root reason)) after →
          Searches plan (root :: later) walk after

theorem searches_roots (placing : Placing plan.describe) (roots : List Address) {walk : Walk}
    (truthful : Truthful plan.describe walk.names) :
    Searches plan roots walk (roots.foldl (visitRoot plan) walk) := by
  induction roots generalizing walk with
  | nil => exact .done walk
  | cons root roots ih =>
      have ready : Ready plan addressCount walk := ⟨truthful, Nat.le_add_left _ _⟩
      have performed := performs_ref placing addressCount (.address root) walk ready
      rw [List.foldl_cons, visitRoot]
      rcases came : visitRef plan addressCount (.address root) walk with ⟨failure, between⟩
      rw [came] at performed
      cases failure with
      | none => exact .visited performed.1 (ih performed.2)
      | some reason =>
          apply Searches.refused performed.1
          apply ih
          rw [names_recordFailure]
          exact performed.2

/-- What a walk over these links goes by. -/
def planOf (resolve : Resolver) (links : TypeLinks) (config : Config) : Plan :=
  ⟨resolve links.sections, config.maxNameDepth, config.logFailures⟩

/-- A walk over these links once its roots are visited, before the placeholders are listed. -/
def searched (resolve : Resolver) (links : TypeLinks) (config : Config) : Walk :=
  links.roots.foldl (visitRoot (planOf resolve links config))
    ((sectionEvents links).foldl (fun walk event => walk.log event) start)

theorem found_run (resolve : Resolver) (links : TypeLinks) (config : Config) :
    (run resolve links config).found =
      (searched resolve links config).listPlaceholders.found := rfl

/-- The walk as it is before the first visit: some lines are logged, and nothing is found. -/
structure Blank (walk : Walk) : Prop where
  found : walk.found = .empty
  names : walk.names = .empty

theorem blank_opened (events : List WalkEvent) {walk : Walk} (blank : Blank walk) :
    Blank (events.foldl (fun walk event => walk.log event) walk) := by
  induction events generalizing walk with
  | nil => exact blank
  | cons event events ih => exact ih ⟨blank.found, blank.names⟩

/-- Every walk is a search of the roots that starts with nothing found. -/
theorem searched_searches (resolve : Resolver) (faithful : resolve.Faithful) (links : TypeLinks)
    (config : Config) :
    ∃ opened, Blank opened ∧ Searches (planOf resolve links config) links.roots opened
      (searched resolve links config) := by
  have empty : Blank start := ⟨rfl, rfl⟩
  have blank := blank_opened (sectionEvents links) empty
  refine ⟨_, blank, ?_⟩
  apply searches_roots (Naming.placing_of_faithful faithful links.sections)
  rw [blank.names]
  exact Naming.empty_truthful

end TypeAtlas.Walk
