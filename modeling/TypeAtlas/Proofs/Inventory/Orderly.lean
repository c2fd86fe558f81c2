import TypeAtlas.Proofs.Inventory.Agreement
import TypeAtlas.Proofs.Inventory.Closure

/-!
A walk over a graph of descriptors in which nothing goes wrong. No visit fails, everything in the
tables comes from the roots, and since nothing is lost but through a failure, everything that the
roots lead to is in the tables. A name that is taken cuts the walk short, so that whatever shares
a name has to lead to the same places.
-/

namespace TypeAtlas.Walk

set_option autoImplicit false

open Naming (Canonical CanonicalWithin Placing)

/-- Two types refer to the same addresses. -/
def SameParts (left right : RuntimeType) : Prop :=
  ∀ part, left.shape.RefersTo (.address part) ↔ right.shape.RefersTo (.address part)

/-- The canonical names of the descriptors and of the methods that the roots lead to. -/
def ReachedName (describe : Address → Except DescriptorFault RuntimeType) (roots : List Address)
    (name : String) : Prop :=
  (∃ address type, Reached describe roots address ∧ describe address = .ok type ∧
      Canonical describe (.type type) name) ∨
    ∃ method, ReachedMethod describe roots method ∧ Canonical describe (.type method) name

/-- Nothing goes wrong among what the roots lead to. A name that a method's type shares belongs
to types and methods with the same parts. -/
structure Orderly (describe : Address → Except DescriptorFault RuntimeType) (limit : Nat)
    (roots : List Address) : Prop where
  resolves : ∀ address, Reached describe roots address → ∃ type, describe address = .ok type
  signed : ∀ owner holder target, Reached describe roots owner → describe owner = .ok holder →
    Signs holder (.address target) → ∃ method, CallForm describe owner target method
  named : ∀ address type, Reached describe roots address → describe address = .ok type →
    ∃ name, CanonicalWithin describe limit (.type type) name
  methodNamed : ∀ method, ReachedMethod describe roots method →
    ∃ name, CanonicalWithin describe limit (.type method) name
  distinct : ∀ address other type otherType name, Reached describe roots address →
    Reached describe roots other → describe address = .ok type → describe other = .ok otherType →
      Canonical describe (.type type) name → Canonical describe (.type otherType) name →
        address = other
  alikeMethods : ∀ method other name, ReachedMethod describe roots method →
    ReachedMethod describe roots other → Canonical describe (.type method) name →
      Canonical describe (.type other) name → SameParts method other
  alikeTypes : ∀ method address type name, ReachedMethod describe roots method →
    Reached describe roots address → describe address = .ok type →
      Canonical describe (.type method) name → Canonical describe (.type type) name →
        SameParts method type

/-- A descriptor that shares its name with a method's type is not a struct with methods. -/
def Plain (describe : Address → Except DescriptorFault RuntimeType) (roots : List Address) :
    Prop :=
  ∀ method address type name target, ReachedMethod describe roots method →
    Reached describe roots address → describe address = .ok type →
      Canonical describe (.type method) name → Canonical describe (.type type) name →
        ¬Signs type (.address target)

variable {describe : Address → Except DescriptorFault RuntimeType} {plan : Plan} {limit : Nat}
  {roots : List Address}

theorem orderly_call (orderly : Orderly describe limit roots) {owner target : Address}
    (within : Within describe roots (.method owner (.address target))) :
    ∃ method, CallForm describe owner target method := by
  obtain ⟨reached, holder, found, signs⟩ := within
  exact orderly.signed owner holder target reached found signs

/-- Where nothing goes wrong, no visit reports or records a failure. -/
theorem visits_quiet (placing : Placing plan.describe)
    (orderly : Orderly plan.describe plan.maxNameDepth roots) {errand : Errand} {walk : Walk}
    {visit : Visit} (visits : Visits plan errand walk visit)
    (within : errand.All (Within plan.describe roots)) :
    visit.1 = none ∧ visit.2.found.failures = walk.found.failures := by
  induction visits with
  | placeholder | known | shadowed | placeholderMethod | methodShadowed | done => exact ⟨rfl, rfl⟩
  | unread _ unread =>
      obtain ⟨type, found⟩ := orderly.resolves _ (within _ rfl)
      rw [unread] at found
      cases found
  | unnamed _ described _ beyond =>
      obtain ⟨name, canonical⟩ := orderly.named _ _ (within _ rfl) described
      exact absurd canonical (beyond name)
  | entered arrives _ _ ih =>
      exact ih (stops_within placing (within _ rfl) arrives.described)
  | blamed arrives _ _ ih =>
      have quiet := ih (stops_within placing (within _ rfl) arrives.described)
      cases quiet.1
  | methodUnread unread =>
      obtain ⟨method, form⟩ := orderly_call orderly within
      cases form with
      | mk stored _ =>
          rw [unread] at stored
          cases stored
  | methodMisfit described misfit =>
      obtain ⟨method, form⟩ := orderly_call orderly within
      cases form with
      | mk stored shape =>
          rw [described] at stored
          cases stored
          exact absurd shape (misfit _ _ _)
  | methodUnnamed form _ beyond =>
      obtain ⟨name, canonical⟩ := orderly.methodNamed _ (method_within within form)
      exact absurd canonical (beyond name)
  | methodEntered calls _ _ ih => exact ih (method_stops_within within calls.form)
  | next _ _ first rest =>
      obtain ⟨firstQuiet, firstSame⟩ := first (within _ List.mem_cons_self)
      obtain ⟨restQuiet, restSame⟩ :=
        rest fun stop member => within stop (List.mem_cons_of_mem _ member)
      exact ⟨Option.or_eq_none_iff.mpr ⟨firstQuiet, restQuiet⟩, restSame.trans firstSame⟩

theorem searches_quiet (placing : Placing plan.describe)
    (orderly : Orderly plan.describe plan.maxNameDepth roots) {subset : List Address}
    {walk after : Walk} (search : Searches plan subset walk after)
    (among : ∀ root ∈ subset, root ∈ roots) :
    after.found.failures = walk.found.failures := by
  induction search with
  | done => rfl
  | visited visits _ ih =>
      have quiet := visits_quiet placing orderly visits (root_within (among _ List.mem_cons_self))
      exact (ih fun root member => among root (List.mem_cons_of_mem _ member)).trans quiet.2
  | refused visits _ ih =>
      have quiet := visits_quiet placing orderly visits (root_within (among _ List.mem_cons_self))
      cases quiet.1

/-- Everything in the tables comes from the roots. -/
structure Sourced (describe : Address → Except DescriptorFault RuntimeType)
    (roots : List Address) (found : Inventory) : Prop where
  addresses : ∀ address ∈ found.byAddress, Reached describe roots address
  types : ∀ name ∈ found.types, ReachedName describe roots name

theorem sourced_insertAddress {found : Inventory} (sourced : Sourced describe roots found)
    {target : Address} (within : Reached describe roots target) (name : String) :
    Sourced describe roots (found.insertAddress target name) := by
  refine ⟨?_, sourced.types⟩
  intro address member
  obtain ⟨other, held⟩ := getElem?_of_mem member
  rcases getElem?_insert_cases held with ⟨rfl, _⟩ | ⟨_, before⟩
  · exact within
  · exact sourced.addresses address (mem_of_getElem? before)

theorem sourced_insertType {found : Inventory} (sourced : Sourced describe roots found)
    {name : String} (source : ReachedName describe roots name) (type : RuntimeType) :
    Sourced describe roots (found.insertType name type) := by
  refine ⟨sourced.addresses, ?_⟩
  intro other member
  obtain ⟨known, held⟩ := getElem?_of_mem member
  rcases getElem?_insert_cases held with ⟨rfl, _⟩ | ⟨_, before⟩
  · exact source
  · exact sourced.types other (mem_of_getElem? before)

theorem step_sourced {walk later : Walk} (step : Step plan roots walk later)
    (sourced : Sourced plan.describe roots walk.found) :
    Sourced plan.describe roots later.found := by
  cases step with
  | renamed => exact sourced
  | shadowed within _ _ => exact sourced_insertAddress sourced within _
  | entered within arrives _ =>
      have source : ReachedName plan.describe roots _ :=
        Or.inl ⟨_, _, within, arrives.described, arrives.canonical⟩
      exact sourced_insertType (sourced_insertAddress sourced within _) source _
  | methodEntered method canonical _ =>
      exact sourced_insertType sourced (Or.inr ⟨_, method, canonical⟩) _
  | blamed | refused =>
      rw [found_recordFailure]
      exact ⟨sourced.addresses, sourced.types⟩

/-- A walk that has been to all its roots without a failure. -/
structure Finished (describe : Address → Except DescriptorFault RuntimeType)
    (roots : List Address) (walk : Walk) : Prop where
  agreed : Agreed describe roots (fun _ => False) walk.found
  sourced : Sourced describe roots walk.found
  quiet : walk.found.failures = .empty
  answered : ∀ root ∈ roots, root ∈ walk.found.byAddress
  met : ∀ (name : String) (type : RuntimeType), walk.found.types[name]? = some type →
    ∀ stop ∈ stops type, Met describe walk stop

theorem searched_sourced {resolve : Resolver} (faithful : resolve.Faithful) (links : TypeLinks)
    (config : Config) :
    Sourced (resolve links.sections) links.roots (searched resolve links config).found := by
  apply searched_invariant faithful links config fun walk =>
    Sourced (resolve links.sections) links.roots walk.found
  · intro walk blank
    rw [blank.found]
    refine ⟨?_, ?_⟩
    · intro address member
      cases member
    · intro name member
      cases member
  · intro walk later step held
    exact step_sourced step held

theorem searched_finished {resolve : Resolver} (faithful : resolve.Faithful) (links : TypeLinks)
    (config : Config)
    (orderly : Orderly (resolve links.sections) config.maxNameDepth links.roots) :
    Finished (resolve links.sections) links.roots (searched resolve links config) := by
  obtain ⟨opened, blank, search⟩ := searched_searches resolve faithful links config
  have placing : Placing (planOf resolve links config).describe :=
    Naming.placing_of_faithful faithful links.sections
  have quiet : (searched resolve links config).found.failures = .empty := by
    have same := searches_quiet placing orderly search fun root member => member
    rw [same, blank.found]
    rfl
  have unfailed : ∀ name : String, name ∉ (searched resolve links config).found.failures := by
    intro name failed
    rw [quiet] at failed
    cases failed
  refine ⟨searched_agreed faithful links config, searched_sourced faithful links config, quiet,
    ?_, ?_⟩
  · intro root member
    rcases searches_answer search root member with listedRoot | failed
    · exact listedRoot
    · exact absurd failed (unfailed _)
  · intro name type held
    rcases searched_kept faithful links config held with failed | met | ⟨_, troubled⟩
    · exact absurd failed (unfailed _)
    · exact met
    · rcases troubled with reason | ⟨other, failed⟩
      · exact absurd rfl reason
      · exact absurd failed (unfailed _)

theorem call_form_unique {owner target : Address} {method other : RuntimeType}
    (form : CallForm describe owner target method) (again : CallForm describe owner target other) :
    method = other := by
  obtain ⟨stored, shape⟩ := form
  obtain ⟨storedAgain, shapeAgain⟩ := again
  rw [stored] at storedAgain
  cases storedAgain
  rw [shape] at shapeAgain
  cases shapeAgain
  rfl

section Finished

variable {walk : Walk}

/-- An entry of a finished walk is a descriptor at its own address or the type of a method. -/
theorem entry_source (finished : Finished describe roots walk) {name : String}
    {type : RuntimeType} (held : walk.found.types[name]? = some type) :
    (∃ address, type.address = some address ∧ Reached describe roots address ∧
        describe address = .ok type ∧ Canonical describe (.type type) name) ∨
      ∃ method, ReachedMethod describe roots method ∧ type = listed method name ∧
        Canonical describe (.type method) name := by
  have canonical := finished.agreed.named name type held fun absurdly => absurdly
  cases claims : type.address with
  | some address =>
      have ⟨back, described⟩ := finished.agreed.placed name type address held claims
      have within := finished.sourced.addresses address (mem_of_getElem? back)
      exact Or.inl ⟨address, rfl, within, described, canonical⟩
  | none =>
      obtain ⟨method, within, rfl⟩ :=
        finished.agreed.unplaced name type held (fun absurdly => absurdly) claims
      have ⟨owner, target, holder, _, _, _, form⟩ := within
      have named := Naming.canonical_of_spelling (spelling_listed form name) canonical
      exact Or.inr ⟨method, within, rfl, named⟩

theorem parts_of_entry (finished : Finished describe roots walk) {name : String}
    {type : RuntimeType} (held : walk.found.types[name]? = some type) {part : Address}
    (member : type.shape.RefersTo (.address part)) : part ∈ walk.found.byAddress :=
  finished.met name type held (.ref (.address part))
    (mem_stops.mpr (Or.inl ⟨_, member, rfl⟩)) part rfl

/-- Whatever has the name of a method, the parts of the method are in the table. -/
theorem parts_of_method (finished : Finished describe roots walk)
    (orderly : Orderly describe limit roots) {method : RuntimeType} {name : String}
    (within : ReachedMethod describe roots method)
    (canonical : Canonical describe (.type method) name) (member : name ∈ walk.found.types)
    {part : Address} (among : method.shape.RefersTo (.address part)) :
    part ∈ walk.found.byAddress := by
  obtain ⟨type, held⟩ := getElem?_of_mem member
  apply parts_of_entry finished held
  rcases entry_source finished held with ⟨address, _, reached, described, named⟩ |
    ⟨other, otherWithin, rfl, named⟩
  · exact (orderly.alikeTypes _ _ _ _ within reached described canonical named part).mp among
  · exact (orderly.alikeMethods _ _ _ within otherWithin canonical named part).mp among

/-- What lies below a descriptor whose address is in the table has been met, also when the name
of the descriptor was taken. -/
theorem below_met (finished : Finished describe roots walk)
    (orderly : Orderly describe limit roots) (plain : Plain describe roots) {address : Address}
    {type : RuntimeType} (member : address ∈ walk.found.byAddress)
    (described : describe address = .ok type) : ∀ stop ∈ stops type, Met describe walk stop := by
  have within := finished.sourced.addresses address member
  obtain ⟨name, addressed⟩ := getElem?_of_mem member
  obtain ⟨taken, known, again, canonical⟩ := finished.agreed.addressed address name addressed
  rw [described] at again
  cases again
  obtain ⟨entry, held⟩ := getElem?_of_mem taken
  rcases entry_source finished held with ⟨other, _, otherWithin, otherDescribed, named⟩ |
    ⟨method, methodWithin, rfl, named⟩
  · -- The entry is the descriptor itself, since no other one has its name.
    cases orderly.distinct _ _ _ _ _ within otherWithin described otherDescribed canonical named
    rw [described] at otherDescribed
    cases otherDescribed
    exact finished.met name type held
  · intro stop below
    rcases mem_stops.mp below with ⟨part, among, rfl⟩ | ⟨owner, signature, _, signs, rfl⟩
    · intro target same
      rw [same] at among
      have alike := orderly.alikeTypes _ _ _ _ methodWithin within described named canonical
      exact parts_of_entry finished held ((alike target).mpr among)
    · intro target same
      rw [same] at signs
      exact absurd signs (plain _ _ _ _ _ methodWithin within described named canonical)

theorem method_listed (finished : Finished describe roots walk) (placing : Placing describe)
    (orderly : Orderly describe limit roots) (plain : Plain describe roots)
    {owner target : Address} {holder method : RuntimeType}
    (member : owner ∈ walk.found.byAddress) (described : describe owner = .ok holder)
    (signs : Signs holder (.address target)) (form : CallForm describe owner target method) :
    ∃ name, Canonical describe (.type method) name ∧ name ∈ walk.found.types := by
  have placed := placing owner holder described
  have stop := mem_stops.mpr (Or.inr ⟨owner, _, placed, signs, rfl⟩)
  have met := below_met finished orderly plain member described _ stop
  obtain ⟨other, name, again, canonical, taken⟩ := met target rfl
  cases call_form_unique form again
  exact ⟨name, canonical, taken⟩

theorem reached_listed (finished : Finished describe roots walk) (placing : Placing describe)
    (orderly : Orderly describe limit roots) (plain : Plain describe roots) {address : Address}
    (within : Reached describe roots address) : address ∈ walk.found.byAddress := by
  induction within with
  | root among => exact finished.answered _ among
  | part _ described among ih =>
      have stop := mem_stops.mpr (Or.inl ⟨_, among, rfl⟩)
      exact below_met finished orderly plain ih described _ stop _ rfl
  | call within described signs form among ih =>
      obtain ⟨name, canonical, taken⟩ :=
        method_listed finished placing orderly plain ih described signs form
      have method : ReachedMethod describe roots _ :=
        ⟨_, _, _, within, described, signs, form⟩
      exact parts_of_method finished orderly method canonical taken among

theorem reached_name_listed (finished : Finished describe roots walk) (placing : Placing describe)
    (orderly : Orderly describe limit roots) (plain : Plain describe roots) {name : String}
    (reached : ReachedName describe roots name) : name ∈ walk.found.types := by
  rcases reached with ⟨address, type, within, described, canonical⟩ | ⟨method, within, canonical⟩
  · have member := reached_listed finished placing orderly plain within
    obtain ⟨other, addressed⟩ := getElem?_of_mem member
    obtain ⟨taken, known, again, named⟩ := finished.agreed.addressed address other addressed
    rw [described] at again
    cases again
    rw [Naming.canonical_unique canonical named]
    exact taken
  · obtain ⟨owner, target, holder, ownerWithin, described, signs, form⟩ := within
    have member := reached_listed finished placing orderly plain ownerWithin
    obtain ⟨other, named, taken⟩ :=
      method_listed finished placing orderly plain member described signs form
    rw [Naming.canonical_unique canonical named]
    exact taken

end Finished

end TypeAtlas.Walk
