import TypeAtlas.Catalog.Basic
import TypeAtlas.Proofs.DebugInfo.Search
import TypeAtlas.Proofs.Registry.Invocation

/-!
The stages of a build. What a build reads and what it does to the binder is recorded without
changing anything, and the records tell how far the build came: each stage has its effects only if
all before it went well, and the first that did not gives the fault.
-/

namespace TypeAtlas

set_option autoImplicit false

/-- The reads of a build, what it does to the binder, and what it comes to. The resolver is asked
in the last stage and in no other. -/
inductive Course (config : Config) (resolve : Resolver) :
    List EntryRead → List Deed → Except CatalogFault Inventory → Prop where
  | misconfigured {fault : ConfigFault} : config.fault? = some fault →
      Course config resolve [] [] (.error (.config fault))
  | unlocated {reads : List EntryRead} {fault : CatalogFault} : config.fault? = none →
      Search config.registrySymbol reads (.error fault) →
        Course config resolve reads [] (.error fault)
  | unlinked {reads : List EntryRead} {entry : Address} {deeds : List Deed} {fault : CatalogFault} :
      config.fault? = none → Search config.registrySymbol reads (.ok entry) →
        Invocation entry deeds (.error fault) → Course config resolve reads deeds (.error fault)
  | walked {reads : List EntryRead} {entry : Address} {deeds : List Deed} {links : TypeLinks} :
      config.fault? = none → Search config.registrySymbol reads (.ok entry) →
        Invocation entry deeds (.ok links) →
          Course config resolve reads deeds (.ok (Walk.run resolve links config).found)

/-- The settings name a function, have pointers of eight bytes, and let names nest. -/
structure Config.Valid (config : Config) : Prop where
  named : config.registrySymbol ≠ ""
  pointers : config.pointerSize = 8
  nested : config.maxNameDepth ≠ 0

theorem Config.valid_iff {config : Config} : config.Valid ↔ config.fault? = none := by
  have named : config.registrySymbol.isEmpty = true ↔ config.registrySymbol = "" :=
    String.isEmpty_iff
  unfold Config.fault?
  constructor
  · intro valid
    rw [if_neg (mt named.mp valid.named), if_neg (Decidable.not_not.mpr valid.pointers),
      if_neg valid.nested]
  · intro faultless
    split at faultless
    · cases faultless
    rename_i filled
    split at faultless
    · cases faultless
    rename_i pointers
    split at faultless
    · cases faultless
    rename_i nested
    exact ⟨mt named.mpr filled, Decidable.not_not.mp pointers, nested⟩

/-- An address that may be bound: what a search came to under valid settings, and not null. -/
structure Bindable (config : Config) (reads : List EntryRead) (entry : Address) : Prop where
  valid : config.Valid
  located : Search config.registrySymbol reads (.ok entry)
  mapped : entry.isNull = false

/-- Nothing is read, bound, called or used but behind the checks that stand in front of it. What is
bound takes nothing and gives a list of addresses and a list of lists of offsets. -/
structure Guarded (config : Config) (reads : List EntryRead) (deeds : List Deed)
    (outcome : Except CatalogFault Inventory) : Prop where
  read_iff : reads ≠ [] ↔ config.Valid
  searched : config.Valid → ∃ result, Search config.registrySymbol reads result
  bound : ∀ entry, Bindable config reads entry →
    deeds.filterMap Deed.binding? =
      [(entry, ⟨[], [.sequence .opaquePointer, .sequence (.sequence .uint32)]⟩)]
  spared : (∀ entry, ¬Bindable config reads entry) → deeds = []
  called : ∀ entry signature, .bound entry signature none ∈ deeds →
    deeds.filterMap Deed.arguments? = [[]]
  uncalled : (∀ entry signature, .bound entry signature none ∉ deeds) →
    deeds.filterMap Deed.arguments? = []
  used_iff : (∃ inventory, outcome = .ok inventory) ↔
    ∃ values, .called [] (.ok values) ∈ deeds ∧ Checked values

/-- What is done for an address that was located. -/
theorem Invocation.guarded {config : Config} {reads : List EntryRead} {deeds : List Deed}
    {entry : Address} {result : Except CatalogFault TypeLinks}
    {outcome : Except CatalogFault Inventory} (valid : config.Valid)
    (located : Search config.registrySymbol reads (.ok entry))
    (invocation : Invocation entry deeds result)
    (settled : (∃ inventory, outcome = .ok inventory) ↔ ∃ links, result = .ok links) :
    Guarded config reads deeds outcome := by
  have read : reads ≠ [] ↔ config.Valid := ⟨fun _ => valid, fun _ => located.ne_nil⟩
  have searched : config.Valid → ∃ result, Search config.registrySymbol reads result :=
    fun _ => ⟨_, located⟩
  -- One search comes to one address, so the entry is all that may be bound.
  have same : ∀ other, Bindable config reads other → entry = other :=
    fun other bindable => Except.ok.inj (located.unique bindable.located)
  have bound : ∀ {done : List Deed}, done.filterMap Deed.binding? = [(entry, registrySignature)] →
      ∀ other, Bindable config reads other →
        done.filterMap Deed.binding? = [(other, registrySignature)] := by
    intro done once other bindable
    rw [← same other bindable]
    exact once
  have spared : entry.isNull = false → ∀ {done : List Deed},
      (∀ other, ¬Bindable config reads other) → done = [] := by
    intro mapped done unbindable
    exact absurd ⟨valid, located, mapped⟩ (unbindable entry)
  have uncalled : ∀ {later : List Deed} {calls : List (List DynValue)},
      (∀ other signature, .bound other signature none ∉ .bound entry registrySignature none :: later) →
        calls = [] := by
    intro later calls unbound
    exact absurd List.mem_cons_self (unbound entry registrySignature)
  cases invocation with
  | null null =>
      have unbindable : ∀ other, Bindable config reads other → False := by
        intro other bindable
        have mapped := bindable.mapped
        rw [← same other bindable, null] at mapped
        cases mapped
      exact ⟨read, searched, fun other bindable => (unbindable other bindable).elim,
        fun _ => rfl, by simp, fun _ => rfl, by simp [settled]⟩
  | refused fault mapped =>
      exact ⟨read, searched, bound rfl, spared mapped, by simp, fun _ => rfl, by simp [settled]⟩
  | failed fault mapped =>
      exact ⟨read, searched, bound rfl, spared mapped, fun _ _ _ => rfl, uncalled,
        by simp [settled]⟩
  | mismatched mapped unchecked unread =>
      exact ⟨read, searched, bound rfl, spared mapped, fun _ _ _ => rfl, uncalled,
        by simp [settled, unchecked]⟩
  | accepted mapped checked links =>
      exact ⟨read, searched, bound rfl, spared mapped, fun _ _ _ => rfl, uncalled,
        by simp [settled, checked]⟩

theorem Course.guarded {config : Config} {resolve : Resolver} {reads : List EntryRead}
    {deeds : List Deed} {outcome : Except CatalogFault Inventory}
    (course : Course config resolve reads deeds outcome) : Guarded config reads deeds outcome := by
  cases course with
  | misconfigured faulty =>
      have invalid : ¬config.Valid := by
        rw [Config.valid_iff, faulty]
        exact Option.some_ne_none _
      exact ⟨by simp [invalid], fun valid => absurd valid invalid,
        fun _ bindable => absurd bindable.valid invalid, fun _ => rfl, by simp, fun _ => rfl,
        by simp⟩
  | unlocated faultless search =>
      have valid := Config.valid_iff.mpr faultless
      refine ⟨⟨fun _ => valid, fun _ => search.ne_nil⟩, fun _ => ⟨_, search⟩, ?_, fun _ => rfl,
        by simp, fun _ => rfl, by simp⟩
      intro entry bindable
      cases search.unique bindable.located
  | unlinked faultless search invocation =>
      exact invocation.guarded (Config.valid_iff.mpr faultless) search (by simp)
  | walked faultless search invocation =>
      exact invocation.guarded (Config.valid_iff.mpr faultless) search (by simp)

namespace Catalog

variable {σ β : Type}

/-- The same catalog over sources that keep a record. -/
def watched (catalog : Catalog σ β) (reads : List EntryRead) (deeds : List Deed) :
    Catalog (WatchedStream σ) (WatchedBinder β) where
  config := catalog.config
  stream := ⟨catalog.stream, reads⟩
  binder := ⟨catalog.binder, deeds⟩
  resolve := catalog.resolve
  outcome := catalog.outcome
  events := catalog.events
  spent := catalog.spent

/-- The same catalog with another resolver. -/
def withResolver (catalog : Catalog σ β) (other : Resolver) : Catalog σ β :=
  { catalog with resolve := other }

section Linking

variable [CodeBinder β]

theorem buildFrom_unlinked {entry : Address} {catalog : Catalog σ β} {fault : CatalogFault}
    {rest : β} (invoked : invokeRegistry entry catalog.binder = (.error fault, rest)) :
    catalog.buildFrom entry = (.error fault, { catalog with binder := rest }) := by
  rw [buildFrom, invoked]

theorem buildFrom_linked {entry : Address} {catalog : Catalog σ β} {links : TypeLinks} {rest : β}
    (invoked : invokeRegistry entry catalog.binder = (.ok links, rest)) :
    catalog.buildFrom entry =
      (.ok (Walk.run catalog.resolve links catalog.config).found,
        (({ catalog with binder := rest }.log
          (.linked links.sections.length links.descriptorCount)).walkLinks links).2) := by
  rw [buildFrom, invoked]
  rfl

theorem buildFrom_watched (entry : Address) (catalog : Catalog σ β) (reads : List EntryRead)
    (deeds : List Deed) :
    ∃ done result, Invocation entry done result ∧
      (catalog.buildFrom entry).1 =
        result.map (fun links => (Walk.run catalog.resolve links catalog.config).found) ∧
        (catalog.watched reads deeds).buildFrom entry =
          ((catalog.buildFrom entry).1,
            (catalog.buildFrom entry).2.watched reads (deeds ++ done)) := by
  obtain ⟨done, invocation, recorded⟩ := invokeRegistry_watched entry catalog.binder deeds
  refine ⟨done, _, invocation, ?_⟩
  rcases invoked : invokeRegistry entry catalog.binder with ⟨fault | links, rest⟩
  · rw [invoked] at recorded
    rw [buildFrom_unlinked invoked, buildFrom_unlinked recorded]
    exact ⟨rfl, rfl⟩
  · rw [invoked] at recorded
    rw [buildFrom_linked invoked, buildFrom_linked recorded]
    exact ⟨rfl, rfl⟩

theorem buildFrom_unconsulted {entry : Address} {catalog : Catalog σ β} {fault : CatalogFault}
    (failed : (catalog.buildFrom entry).1 = .error fault) (other : Resolver) :
    (catalog.withResolver other).buildFrom entry =
      (.error fault, (catalog.buildFrom entry).2.withResolver other) := by
  rcases invoked : invokeRegistry entry catalog.binder with ⟨found | links, rest⟩
  · have invoked' : invokeRegistry entry (catalog.withResolver other).binder =
        (.error found, rest) := invoked
    rw [buildFrom_unlinked invoked] at failed ⊢
    cases failed
    rw [buildFrom_unlinked invoked']
    rfl
  · rw [buildFrom_linked invoked] at failed
    cases failed

end Linking

variable [EntryStream σ] [CodeBinder β]

/-- A catalog whose build has begun. -/
def begun (catalog : Catalog σ β) : Catalog σ β :=
  { catalog with spent := true }.log (.building catalog.config.registrySymbol)

theorem runBuild_misconfigured {catalog : Catalog σ β} {fault : ConfigFault}
    (faulty : catalog.config.fault? = some fault) :
    catalog.runBuild = (.error (.config fault), catalog) := by
  rw [runBuild, faulty]

theorem runBuild_unlocated {catalog : Catalog σ β} {fault : CatalogFault} {rest : σ}
    (valid : catalog.config.fault? = none) (unspent : catalog.spent = false)
    (searched : locate catalog.config.registrySymbol catalog.stream = (.error fault, rest)) :
    catalog.runBuild = (.error fault, { catalog.begun with stream := rest }) := by
  rw [runBuild, valid]
  simp only [unspent, Bool.false_eq_true, if_false, log, searched]
  rfl

theorem runBuild_located {catalog : Catalog σ β} {located : Located} {rest : σ}
    (valid : catalog.config.fault? = none) (unspent : catalog.spent = false)
    (searched : locate catalog.config.registrySymbol catalog.stream = (.ok located, rest)) :
    catalog.runBuild = ({ catalog.begun with stream := rest }.log
      (.located catalog.config.registrySymbol located)).buildFrom located.address := by
  rw [runBuild, valid]
  simp only [unspent, Bool.false_eq_true, if_false, log, searched]
  rfl

/-- A build over watched sources is the build over the sources themselves, and leaves a record of
its course. -/
theorem runBuild_watched {catalog : Catalog σ β} (unspent : catalog.spent = false)
    (reads : List EntryRead) (deeds : List Deed) :
    ∃ made done, Course catalog.config catalog.resolve made done catalog.runBuild.1 ∧
      (catalog.watched reads deeds).runBuild =
        (catalog.runBuild.1, catalog.runBuild.2.watched (reads ++ made) (deeds ++ done)) := by
  cases validity : catalog.config.fault? with
  | some fault =>
      have validity' : (catalog.watched reads deeds).config.fault? = some fault := validity
      refine ⟨[], [], ?_, ?_⟩
      · rw [runBuild_misconfigured validity]
        exact .misconfigured validity
      · rw [runBuild_misconfigured validity, runBuild_misconfigured validity', List.append_nil,
          List.append_nil]
  | none =>
      have validity' : (catalog.watched reads deeds).config.fault? = none := validity
      have unspent' : (catalog.watched reads deeds).spent = false := unspent
      obtain ⟨made, search, recorded⟩ :=
        locate_watched catalog.config.registrySymbol catalog.stream reads
      rcases searched : locate catalog.config.registrySymbol catalog.stream with
        ⟨fault | located, rest⟩
      · rw [searched] at search recorded
        refine ⟨made, [], ?_, ?_⟩
        · rw [runBuild_unlocated validity unspent searched]
          exact .unlocated validity search
        · rw [runBuild_unlocated validity unspent searched,
            runBuild_unlocated validity' unspent' recorded, List.append_nil]
          rfl
      -- Both searches came to the same place, and from there on only the binder is watched.
      · rw [searched] at search recorded
        rw [runBuild_located validity unspent searched,
          runBuild_located validity' unspent' recorded]
        obtain ⟨done, result, invocation, outcome, built⟩ := buildFrom_watched located.address
          ({ catalog.begun with stream := rest }.log
            (.located catalog.config.registrySymbol located)) (reads ++ made) deeds
        refine ⟨made, done, ?_, built⟩
        rw [outcome]
        cases result with
        | error fault => exact .unlinked validity search invocation
        | ok links => exact .walked validity search invocation

theorem force_failed {catalog built : Catalog σ β} {fault : CatalogFault}
    (unasked : catalog.outcome = none) (run : catalog.runBuild = (.error fault, built)) :
    catalog.force =
      (.error fault, { built.log (.failed fault) with outcome := some (.error fault) }) := by
  rw [force, unasked]
  simp only [run]

theorem force_built {catalog built : Catalog σ β} {inventory : Inventory}
    (unasked : catalog.outcome = none) (run : catalog.runBuild = (.ok inventory, built)) :
    catalog.force = (.ok inventory, { built with outcome := some (.ok inventory) }) := by
  rw [force, unasked]
  simp only [run]

theorem force_watched {catalog : Catalog σ β} (unasked : catalog.outcome = none)
    (unspent : catalog.spent = false) (reads : List EntryRead) (deeds : List Deed) :
    ∃ made done, Course catalog.config catalog.resolve made done catalog.force.1 ∧
      (catalog.watched reads deeds).force =
        (catalog.force.1, catalog.force.2.watched (reads ++ made) (deeds ++ done)) := by
  have unasked' : (catalog.watched reads deeds).outcome = none := unasked
  obtain ⟨made, done, course, recorded⟩ := runBuild_watched unspent reads deeds
  refine ⟨made, done, ?_⟩
  rcases run : catalog.runBuild with ⟨fault | inventory, built⟩
  · rw [run] at course recorded
    rw [force_failed unasked run, force_failed unasked' recorded]
    exact ⟨course, rfl⟩
  · rw [run] at course recorded
    rw [force_built unasked run, force_built unasked' recorded]
    exact ⟨course, rfl⟩

/-- A build that fails never asks the resolver: with any other it fails in the same way. -/
theorem runBuild_unconsulted {catalog : Catalog σ β} {fault : CatalogFault}
    (unspent : catalog.spent = false) (failed : catalog.runBuild.1 = .error fault)
    (other : Resolver) :
    (catalog.withResolver other).runBuild =
      (.error fault, catalog.runBuild.2.withResolver other) := by
  have unspent' : (catalog.withResolver other).spent = false := unspent
  cases validity : catalog.config.fault? with
  | some found =>
      have validity' : (catalog.withResolver other).config.fault? = some found := validity
      rw [runBuild_misconfigured validity] at failed ⊢
      cases failed
      rw [runBuild_misconfigured validity']
  | none =>
      have validity' : (catalog.withResolver other).config.fault? = none := validity
      rcases searched : locate catalog.config.registrySymbol catalog.stream with
        ⟨found | located, rest⟩
      · have searched' : locate (catalog.withResolver other).config.registrySymbol
            (catalog.withResolver other).stream = (.error found, rest) := searched
        rw [runBuild_unlocated validity unspent searched] at failed ⊢
        cases failed
        rw [runBuild_unlocated validity' unspent' searched']
        rfl
      · have searched' : locate (catalog.withResolver other).config.registrySymbol
            (catalog.withResolver other).stream = (.ok located, rest) := searched
        rw [runBuild_located validity unspent searched] at failed ⊢
        rw [runBuild_located validity' unspent' searched']
        exact buildFrom_unconsulted failed other

theorem force_unconsulted {catalog : Catalog σ β} {fault : CatalogFault}
    (unasked : catalog.outcome = none) (unspent : catalog.spent = false)
    (failed : catalog.force.1 = .error fault) (other : Resolver) :
    (catalog.withResolver other).force =
      (.error fault, catalog.force.2.withResolver other) := by
  have unasked' : (catalog.withResolver other).outcome = none := unasked
  rcases run : catalog.runBuild with ⟨found | inventory, built⟩
  · rw [force_failed unasked run] at failed ⊢
    cases failed
    have run' := runBuild_unconsulted unspent (congrArg Prod.fst run) other
    rw [run] at run'
    rw [force_failed unasked' run']
    rfl
  · rw [force_built unasked run] at failed
    cases failed

/-- One build of a catalog. Watching it changes nothing, and its records tell a course in which
every effect stands behind its checks. Unless checked values were returned, no resolver makes a
difference. -/
theorem build_guarded (config : Config) (stream : σ) (binder : β) (resolve : Resolver) :
    ∃ reads deeds,
      ((ofSources config stream binder resolve).watched [] []).force =
          ((ofSources config stream binder resolve).force.1,
            (ofSources config stream binder resolve).force.2.watched reads deeds) ∧
        Course config resolve reads deeds (ofSources config stream binder resolve).force.1 ∧
          Guarded config reads deeds (ofSources config stream binder resolve).force.1 ∧
            ((∀ values, .called [] (.ok values) ∈ deeds → ¬Checked values) → ∀ other,
              ((ofSources config stream binder other).watched [] []).force =
                ((ofSources config stream binder resolve).force.1,
                  ((ofSources config stream binder resolve).force.2.watched reads
                    deeds).withResolver other)) := by
  have unasked : (ofSources config stream binder resolve).outcome = none := rfl
  have unspent : (ofSources config stream binder resolve).spent = false := rfl
  obtain ⟨reads, deeds, course, recorded⟩ := force_watched unasked unspent [] []
  refine ⟨reads, deeds, recorded, course, course.guarded, ?_⟩
  intro unchecked other
  cases outcome : (ofSources config stream binder resolve).force.1 with
  | ok inventory =>
      obtain ⟨values, called, checked⟩ := course.guarded.used_iff.mp ⟨inventory, outcome⟩
      exact absurd checked (unchecked values called)
  | error fault =>
      rw [outcome] at recorded
      have unasked' : ((ofSources config stream binder resolve).watched [] []).outcome = none := rfl
      have unconsulted := force_unconsulted unasked' rfl (congrArg Prod.fst recorded) other
      rw [recorded] at unconsulted
      exact unconsulted

end Catalog

end TypeAtlas
