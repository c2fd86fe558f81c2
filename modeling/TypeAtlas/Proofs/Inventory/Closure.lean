import TypeAtlas.Proofs.Inventory.Steps

/-!
Nothing is lost in silence. The parts of the types that a walk is still busy with may be missing
from its tables, so the statement about them is one about what a visit adds: a visit that reports
no failure has met its errand, and a type that it has listed has all below it met or a failure
recorded under its name. The failures below a method's type are reported upwards, to the owner of
the method. At the end of a search this covers every type that has an address.
-/

namespace TypeAtlas.Walk

set_option autoImplicit false

open Naming (Canonical Placing)

/-- What the walk has been sent for is in its tables: the address that a reference leads to, or
the canonical name of a method as it is called on its owner. -/
def Met (describe : Address → Except DescriptorFault RuntimeType) (walk : Walk) : Stop → Prop
  | .ref reference => ∀ target, reference = .address target → target ∈ walk.found.byAddress
  | .method owner signature => ∀ target, signature = .address target →
      ∃ method name, CallForm describe owner target method ∧
        Canonical describe (.type method) name ∧ name ∈ walk.found.types

/-- The visit hands a failure up, or one has been recorded. -/
def Troubled (visit : Visit) : Prop :=
  visit.1 ≠ none ∨ ∃ name : String, name ∈ visit.2.found.failures

/-- Nothing below the type is missing, unless a failure says so under its name. The failures of a
method's type, which has no address, are its owner's. -/
def Kept (describe : Address → Except DescriptorFault RuntimeType) (visit : Visit)
    (name : String) (type : RuntimeType) : Prop :=
  name ∈ visit.2.found.failures ∨ (∀ stop ∈ stops type, Met describe visit.2 stop) ∨
    (type.address = none ∧ Troubled visit)

variable {describe : Address → Except DescriptorFault RuntimeType} {plan : Plan}
  {roots : List Address}

theorem extends_met {walk later : Walk} (extended : Extends walk later) {stop : Stop}
    (met : Met describe walk stop) : Met describe later stop := by
  cases stop with
  | ref reference =>
      intro target same
      exact extends_addresses extended (met target same)
  | method owner signature =>
      intro target same
      obtain ⟨method, name, form, canonical, member⟩ := met target same
      exact ⟨method, name, form, canonical, extends_types extended member⟩

theorem met_address {walk later : Walk} (extended : Extends walk later) {target : Address}
    (member : target ∈ walk.found.byAddress) :
    (Errand.one (.ref (.address target))).All (Met describe later) := by
  intro address same
  cases same
  exact extends_addresses extended member

theorem met_method {walk later : Walk} (extended : Extends walk later) {owner target : Address}
    {method : RuntimeType} {name : String} (form : CallForm describe owner target method)
    (canonical : Canonical describe (.type method) name) (member : name ∈ walk.found.types) :
    (Errand.one (.method owner (.address target))).All (Met describe later) := by
  intro address same
  cases same
  exact ⟨method, name, form, canonical, extends_types extended member⟩

theorem mem_failures_recorded (plan : Plan) (failure : TypeFailure) (walk : Walk) :
    failure.name ∈ (walk.recordFailure plan failure).found.failures := by
  rw [found_recordFailure]
  exact Std.TreeMap.mem_insertIfNew_self

/-- A visit that reports no failure has met its errand. -/
theorem visits_meet {errand : Errand} {walk : Walk} {visit : Visit}
    (visits : Visits plan errand walk visit) (quiet : visit.1 = none) :
    errand.All (Met plan.describe visit.2) := by
  induction visits with
  | unread | unnamed | methodUnread | methodMisfit | methodUnnamed => cases quiet
  | placeholder | placeholderMethod =>
      intro target same
      cases same
  | known been => exact met_address (extends_refl _) been
  | @shadowed walk target type name names =>
      have member : target ∈ (walk.reached target name names).found.byAddress :=
        Std.TreeMap.mem_insert_self
      exact met_address (extends_refl _) member
  | @entered walk after target type name names arrives free below ih =>
      have member : target ∈ ((walk.reached target name names).listType name type).found.byAddress :=
        Std.TreeMap.mem_insert_self
      exact met_address (visits_extend below) member
  | @blamed walk after target type name names reason arrives free below ih =>
      have member : target ∈ ((walk.reached target name names).listType name type).found.byAddress :=
        Std.TreeMap.mem_insert_self
      have recorded := extends_recordFailure plan ⟨name, some target, type.repr, reason⟩ after
      exact met_address (extends_trans (visits_extend below) recorded) member
  | methodShadowed calls taken =>
      exact met_method (extends_withNames _ _) calls.form calls.canonical taken
  | @methodEntered walk owner target method name names visit calls free below ih =>
      have member :
          name ∈ ((walk.withNames names).listType name (listed method name)).found.types :=
        Std.TreeMap.mem_insert_self
      exact met_method (visits_extend below) calls.form calls.canonical member
  | done =>
      intro stop member
      cases member
  | next one others first rest =>
      obtain ⟨firstQuiet, restQuiet⟩ := Option.or_eq_none_iff.mp quiet
      intro stop member
      rcases List.mem_cons.mp member with rfl | later
      · exact extends_met (visits_extend others) (first firstQuiet)
      · exact rest restQuiet stop later

/-- A name that was taken has kept its entry. -/
theorem entry_before {walk later : Walk} (extended : Extends walk later) {name : String}
    {type : RuntimeType} (held : later.found.types[name]? = some type)
    (before : name ∈ walk.found.types) : walk.found.types[name]? = some type := by
  obtain ⟨known, earlier⟩ := getElem?_of_mem before
  have again := extended.types name known earlier
  rw [held] at again
  cases again
  exact earlier

theorem kept_later {visit later : Visit} (extended : Extends visit.2 later.2)
    (passed : Troubled visit → Troubled later) {name : String} {type : RuntimeType}
    (kept : Kept describe visit name type) : Kept describe later name type := by
  rcases kept with failed | met | ⟨without, troubled⟩
  · exact Or.inl (extends_failures extended failed)
  · refine Or.inr (Or.inl ?_)
    intro stop member
    exact extends_met extended (met stop member)
  · exact Or.inr (Or.inr ⟨without, passed troubled⟩)

theorem troubled_later {visit later : Visit} (extended : Extends visit.2 later.2)
    (handed : visit.1 ≠ none → Troubled later) (troubled : Troubled visit) : Troubled later := by
  rcases troubled with reason | ⟨name, failed⟩
  · exact handed reason
  · exact Or.inr ⟨name, extends_failures extended failed⟩

/-- The types that the visit has listed are kept when it comes back. -/
def Completes (describe : Address → Except DescriptorFault RuntimeType) (walk : Walk)
    (visit : Visit) : Prop :=
  ∀ (name : String) (type : RuntimeType), visit.2.found.types[name]? = some type →
    name ∈ walk.found.types ∨ Kept describe visit name type

theorem completes_same {walk : Walk} {visit : Visit}
    (same : visit.2.found.types = walk.found.types) : Completes describe walk visit := by
  intro name type held
  rw [same] at held
  exact Or.inl (mem_of_getElem? held)

/-- One visit after another. The second may hand on the failure of the first. -/
theorem completes_trans {walk : Walk} {first second : Visit}
    (begun : Completes describe walk first) (continued : Completes describe first.2 second)
    (extended : Extends first.2 second.2) (passed : Troubled first → Troubled second) :
    Completes describe walk second := by
  intro name type held
  rcases continued name type held with before | kept
  · rcases begun name type (entry_before extended held before) with earlier | kept
    · exact Or.inl earlier
    · exact Or.inr (kept_later extended passed kept)
  · exact Or.inr kept

/-- A visit below a type that has just been listed completes the walk from before the listing,
provided that the type itself is kept. -/
theorem completes_listed {walk : Walk} {visit : Visit} {name : String} {type : RuntimeType}
    (below : Completes describe (walk.listType name type) visit)
    (extended : Extends (walk.listType name type) visit.2)
    (kept : Kept describe visit name type) : Completes describe walk visit := by
  intro other known held
  rcases below other known held with before | done
  · have earlier := entry_before extended held before
    rw [found_listType] at earlier
    rcases getElem?_insert_cases earlier with ⟨rfl, rfl⟩ | ⟨_, old⟩
    · exact Or.inr kept
    · exact Or.inl (mem_of_getElem? old)
  · exact Or.inr done

/-- A recorded failure excuses whatever the walk has not completed. -/
theorem completes_recorded {walk between : Walk} {reason : Option DescriptorFault}
    (completes : Completes describe walk (reason, between)) (failure : TypeFailure) :
    Completes describe walk (none, between.recordFailure plan failure) := by
  have extended := extends_recordFailure plan failure between
  apply completes_trans completes
  · apply completes_same
    rw [found_recordFailure]
    rfl
  · exact extended
  · intro _
    exact Or.inr ⟨failure.name, mem_failures_recorded plan failure between⟩

/-- Two visits in a row report the failure of either. -/
theorem completes_next {walk between after : Walk} {first rest : Option DescriptorFault}
    (begun : Completes describe walk (first, between))
    (continued : Completes describe between (rest, after)) (extended : Extends between after) :
    Completes describe walk (first.or rest, after) := by
  have firstPassed : Troubled (first, between) → Troubled (first.or rest, after) := by
    apply troubled_later extended
    intro reason
    exact Or.inl fun quiet => reason (Option.or_eq_none_iff.mp quiet).1
  have restPassed : Troubled (rest, after) → Troubled (first.or rest, after) := by
    apply troubled_later (extends_refl after)
    intro reason
    exact Or.inl fun quiet => reason (Option.or_eq_none_iff.mp quiet).2
  have whole : Completes describe between (first.or rest, after) := by
    intro name type held
    rcases continued name type held with before | kept
    · exact Or.inl before
    · exact Or.inr (kept_later (extends_refl after) restPassed kept)
  exact completes_trans begun whole extended firstPassed

/-- Whatever a visit lists is kept when it comes back. The entries that the walk is still busy
with were there before. -/
theorem visits_complete {errand : Errand} {walk : Walk} {visit : Visit}
    (visits : Visits plan errand walk visit) : Completes plan.describe walk visit := by
  induction visits with
  | placeholder | known | unread | unnamed | shadowed | placeholderMethod | methodUnread
    | methodMisfit | methodUnnamed | methodShadowed | done => exact completes_same rfl
  | @entered walk after target type name names _ _ below ih =>
      have kept : Kept plan.describe (none, after) name type :=
        Or.inr (Or.inl (visits_meet below rfl))
      have completes : Completes plan.describe (walk.reached target name names) (none, after) :=
        completes_listed ih (visits_extend below) kept
      exact completes
  | @blamed walk after target type name names reason _ _ below ih =>
      have recorded := extends_recordFailure plan ⟨name, some target, type.repr, reason⟩ after
      have completes : Completes plan.describe (walk.reached target name names)
          (none, after.recordFailure plan ⟨name, some target, type.repr, reason⟩) :=
        completes_listed (completes_recorded ih _)
          (extends_trans (visits_extend below) recorded)
          (Or.inl (mem_failures_recorded plan ⟨name, some target, type.repr, reason⟩ after))
      exact completes
  | @methodEntered walk owner target method name names visit calls _ below ih =>
      have kept : Kept plan.describe visit name (listed method name) := by
        cases reason : visit.1 with
        | none =>
            have met := visits_meet below reason
            exact Or.inr (Or.inl met)
        | some fault =>
            have troubled : visit.1 ≠ none := by simp [reason]
            exact Or.inr (Or.inr ⟨unplaced_listed calls.form name, Or.inl troubled⟩)
      have completes : Completes plan.describe (walk.withNames names) visit :=
        completes_listed ih (visits_extend below) kept
      exact completes
  | next _ others begun continued => exact completes_next begun continued (visits_extend others)

theorem searches_complete {walk after : Walk} (search : Searches plan roots walk after) :
    Completes plan.describe walk (none, after) := by
  induction search with
  | done => exact completes_same rfl
  | visited visits later ih =>
      have extended := searches_extend later
      apply completes_trans (visits_complete visits) ih extended
      apply troubled_later extended
      intro reason
      exact absurd rfl reason
  | refused visits later ih =>
      have extended := searches_extend later
      apply completes_trans (completes_recorded (visits_complete visits) _) ih extended
      apply troubled_later extended
      intro reason
      exact absurd rfl reason

/-- A root is in the table of addresses, or its failure is kept under its address. -/
theorem searches_answer {walk after : Walk} (search : Searches plan roots walk after) :
    ∀ root ∈ roots, root ∈ after.found.byAddress ∨ s!"@{root}" ∈ after.found.failures := by
  induction search with
  | done =>
      intro root member
      cases member
  | visited visits later ih =>
      intro root member
      rcases List.mem_cons.mp member with rfl | among
      · have met := visits_meet visits rfl root rfl
        exact Or.inl (extends_addresses (searches_extend later) met)
      · exact ih root among
  | @refused first others walk between after reason visits later ih =>
      intro root member
      rcases List.mem_cons.mp member with rfl | among
      · have recorded := mem_failures_recorded plan (unreadableRoot root reason) between
        exact Or.inr (extends_failures (searches_extend later) recorded)
      · exact ih root among

/-- All that a walk has listed when it has been to its roots is kept. -/
theorem searched_kept {resolve : Resolver} (faithful : resolve.Faithful) (links : TypeLinks)
    (config : Config) {name : String} {type : RuntimeType}
    (held : (searched resolve links config).found.types[name]? = some type) :
    Kept (resolve links.sections) (none, searched resolve links config) name type := by
  obtain ⟨opened, blank, search⟩ := searched_searches resolve faithful links config
  rcases searches_complete search name type held with before | kept
  · rw [blank.found] at before
    cases before
  · exact kept

/-- A struct with a field whose type cannot be read, a field of its own pointer's type, a method
that takes a boolean, and a method whose signature is no function. -/
def tornNodes : List RuntimeType :=
  [⟨some ⟨16⟩, .bool, 1, some "bool", none, "bool", .primitive⟩,
    ⟨some ⟨32⟩, .func, 8, none, none, "func(bool)", .func [.address ⟨16⟩] [] false⟩,
    ⟨some ⟨48⟩, .struct, 16, some "Torn", some "main", "main.Torn",
      .struct [⟨"lost", .address ⟨96⟩, 0, false⟩, ⟨"next", .address ⟨64⟩, 8, false⟩]
        [⟨"Bad", some (.address ⟨16⟩)⟩, ⟨"Set", some (.address ⟨32⟩)⟩]⟩,
    ⟨some ⟨64⟩, .pointer, 8, none, none, "*main.Torn", .pointer (.address ⟨48⟩)⟩]

def tornLinks : TypeLinks := ⟨[⟨0⟩], [[64, 112]]⟩

end TypeAtlas.Walk
