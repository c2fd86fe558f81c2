import Mathlib.Data.List.Count
import TypeAtlas.Proofs.Inventory.Nesting
import TypeAtlas.Proofs.Inventory.Refused

/-!
What a walk tells of, in the order in which it does, against its table of failures. Whatever the
resolver answers, a type is listed once, and what goes wrong below it is told of under its name
after that and before the visit to it ends. So nothing is told of twice under one name, unless a
root is refused again or is recorded under a name that a type has as well.
-/

namespace TypeAtlas

set_option autoImplicit false

def WalkEvent.failure? : WalkEvent → Option TypeFailure
  | .sectionFound _ _ _ => none
  | .failed failure => some failure
  | .finished _ _ _ => none

namespace Walk

/-- The failures that a walk has told of, the first one first. -/
def told (walk : Walk) : List TypeFailure := walk.events.toList.filterMap WalkEvent.failure?

/-- The table of failures after more of them. The first one under a name stays. -/
def record (table : Std.TreeMap String TypeFailure) (failures : List TypeFailure) :
    Std.TreeMap String TypeFailure :=
  failures.foldl (fun table failure => table.insertIfNew failure.name failure) table

/-- The name that a root is recorded under, for want of another. -/
def recordName (root : Address) : String := s!"@{root}"

/-- What a visit tells of. Each failure stands below a type that was listed meanwhile, and no two
below the same. -/
structure Reports (plan : Plan) (walk later : Walk) (failures : List TypeFailure) : Prop where
  recorded : later.found.failures = record walk.found.failures failures
  told : plan.logFailures = true → later.told = walk.told ++ failures
  kept : ∀ name ∈ walk.found.types, name ∈ later.found.types
  fresh : ∀ failure ∈ failures, failure.name ∉ walk.found.types
  listed : ∀ failure ∈ failures, failure.name ∈ later.found.types
  once : (failures.map TypeFailure.name).Nodup
  placed : ∀ failure ∈ failures, ∃ target type, failure.address = some target ∧
    plan.describe target = .ok type
  known : ∀ address ∈ later.found.byAddress, address ∈ walk.found.byAddress ∨
    ∃ type, plan.describe address = .ok type

/-- What a walk has told of once it has been to these roots. -/
structure Ledger (plan : Plan) (roots : List Address) (walk : Walk)
    (failures : List TypeFailure) : Prop where
  recorded : walk.found.failures = record .empty failures
  told : plan.logFailures = true → walk.told = failures
  again : ∀ name, (failures.map TypeFailure.name).count name ≤
    (if name ∈ walk.found.types then 1 else 0) + (roots.map recordName).count name
  unread : ∀ root reason, plan.describe root = .error reason →
    failures.count (unreadableRoot root reason) = roots.count root
  known : ∀ address ∈ walk.found.byAddress, ∃ type, plan.describe address = .ok type

variable {plan : Plan} {walk : Walk}

/-! ### Records -/

theorem record_append (table : Std.TreeMap String TypeFailure) (earlier later : List TypeFailure) :
    record table (earlier ++ later) = record (record table earlier) later :=
  List.foldl_append

theorem told_log (event : WalkEvent) (walk : Walk) :
    (walk.log event).told = walk.told ++ event.failure?.toList := by
  unfold told log
  rw [Array.toList_push, List.filterMap_append]
  cases event <;> rfl

theorem told_recordFailure (logs : plan.logFailures = true) (failure : TypeFailure)
    (walk : Walk) : (walk.recordFailure plan failure).told = walk.told ++ [failure] := by
  unfold recordFailure
  rw [if_pos logs]
  exact told_log (.failed failure) _

/-! ### Visits -/

theorem reports_nothing {later : Walk} (failures : later.found.failures = walk.found.failures)
    (events : later.events = walk.events)
    (kept : ∀ name ∈ walk.found.types, name ∈ later.found.types)
    (known : ∀ address ∈ later.found.byAddress, address ∈ walk.found.byAddress ∨
      ∃ type, plan.describe address = .ok type) : Reports plan walk later [] where
  recorded := failures
  told _ := by rw [List.append_nil, told, told, events]
  kept := kept
  fresh _ member := nomatch member
  listed _ member := nomatch member
  once := List.nodup_nil
  placed _ member := nomatch member
  known := known

theorem reports_rests {later : Walk} (rests : Rests plan walk later) :
    Reports plan walk later [] := by
  refine reports_nothing rests.failures rests.events ?_ rests.known
  intro name member
  rwa [rests.types]

theorem reports_listing {later : Walk} (rests : Rests plan walk later) (name : String)
    (type : RuntimeType) : Reports plan walk (later.listType name type) [] := by
  refine reports_nothing rests.failures rests.events ?_ rests.known
  intro other member
  rw [← rests.types] at member
  exact Std.TreeMap.mem_insert.mpr (Or.inr member)

theorem reports_trans {between later : Walk} {earlier failures : List TypeFailure}
    (first : Reports plan walk between earlier) (second : Reports plan between later failures) :
    Reports plan walk later (earlier ++ failures) where
  recorded := by rw [second.recorded, first.recorded, record_append]
  told logs := by rw [second.told logs, first.told logs, List.append_assoc]
  kept name member := second.kept name (first.kept name member)
  fresh failure member := by
    rcases List.mem_append.mp member with before | after
    · exact first.fresh failure before
    · exact fun taken => second.fresh failure after (first.kept failure.name taken)
  listed failure member := by
    rcases List.mem_append.mp member with before | after
    · exact second.kept failure.name (first.listed failure before)
    · exact second.listed failure after
  once := by
    rw [List.map_append]
    refine first.once.append second.once ?_
    -- What the second visit tells of was not listed when the first one ended.
    intro name before after
    obtain ⟨failure, told, rfl⟩ := List.mem_map.mp before
    obtain ⟨other, toldLater, same⟩ := List.mem_map.mp after
    apply second.fresh other toldLater
    rw [same]
    exact first.listed failure told
  placed failure member := by
    rcases List.mem_append.mp member with before | after
    · exact first.placed failure before
    · exact second.placed failure after
  known address member := by
    rcases second.known address member with before | described
    · exact first.known address before
    · exact Or.inr described

/-- A visit goes on from where a type was listed, and tells of nothing under its name. -/
theorem reports_listed {listing later : Walk} {name : String} {type : RuntimeType}
    {failures : List TypeFailure} (rests : Rests plan walk listing)
    (below : Reports plan (listing.listType name type) later failures) :
    Reports plan walk later failures ∧ name ∈ later.found.types ∧
      name ∉ failures.map TypeFailure.name := by
  have entered : name ∈ (listing.listType name type).found.types := Std.TreeMap.mem_insert_self
  refine ⟨reports_trans (reports_listing rests name type) below, below.kept name entered, ?_⟩
  intro told
  obtain ⟨failure, member, same⟩ := List.mem_map.mp told
  apply below.fresh failure member
  rw [same]
  exact entered

/-- What is told of a type is told after all that lies below it. -/
theorem reports_blamed {later : Walk} {failures : List TypeFailure} {target : Address}
    {type : RuntimeType} {failure : TypeFailure} (below : Reports plan walk later failures)
    (free : failure.name ∉ walk.found.types) (entered : failure.name ∈ later.found.types)
    (untold : failure.name ∉ failures.map TypeFailure.name)
    (place : failure.address = some target) (described : plan.describe target = .ok type) :
    Reports plan walk (later.recordFailure plan failure) (failures ++ [failure]) where
  recorded := by
    rw [found_recordFailure, record_append, ← below.recorded]
    rfl
  told logs := by rw [told_recordFailure logs, below.told logs, List.append_assoc]
  kept name member := by
    rw [found_recordFailure]
    exact below.kept name member
  fresh other member := by
    rcases List.mem_append.mp member with before | last
    · exact below.fresh other before
    · rw [List.mem_singleton.mp last]
      exact free
  listed other member := by
    rw [found_recordFailure]
    rcases List.mem_append.mp member with before | last
    · exact below.listed other before
    · rw [List.mem_singleton.mp last]
      exact entered
  once := by
    rw [List.map_append, List.map_singleton, List.nodup_append_comm]
    exact List.nodup_cons.mpr ⟨untold, below.once⟩
  placed other member := by
    rcases List.mem_append.mp member with before | last
    · exact below.placed other before
    · rw [List.mem_singleton.mp last]
      exact ⟨target, type, place, described⟩
  known address member := by
    rw [found_recordFailure] at member
    exact below.known address member

theorem reports_blame {after : Visit} {failures : List TypeFailure} {target : Address}
    {type : RuntimeType} {name : String} (below : Reports plan walk after.2 failures)
    (free : name ∉ walk.found.types) (entered : name ∈ after.2.found.types)
    (untold : name ∉ failures.map TypeFailure.name) (described : plan.describe target = .ok type) :
    ∃ more, Reports plan walk (blame plan target type name after).2 more := by
  rcases after with ⟨reason | reason, after⟩
  · exact ⟨failures, below⟩
  · exact ⟨_, reports_blamed below free entered untold rfl described⟩

theorem visitEach_reports {α : Type} {visit : α → Walk → Visit} (items : List α)
    (each : ∀ item ∈ items, ∀ walk, ∃ failures, Reports plan walk (visit item walk).2 failures)
    (before : Visit) :
    ∃ failures, Reports plan before.2 (visitEach visit items before).2 failures := by
  induction items generalizing before with
  | nil => exact ⟨[], reports_rests (rests_refl before.2)⟩
  | cons item items ih =>
      obtain ⟨first, reports⟩ := each item List.mem_cons_self before.2
      obtain ⟨rest, others⟩ := ih (fun item member => each item (List.mem_cons_of_mem _ member))
        (before.1.or (visit item before.2).1, (visit item before.2).2)
      exact ⟨first ++ rest, reports_trans reports others⟩

theorem ref_reports {budget : Nat} {target : Address}
    (below : ∀ stop walk, ∃ failures,
      Reports plan walk (visitStop plan budget stop walk).2 failures)
    (walk : Walk) : ∃ failures,
      Reports plan walk (visitStop plan (budget + 1) (.ref (.address target)) walk).2 failures := by
  by_cases entering :
      ∃ stops between, Enters plan ⟨.ref (.address target), walk⟩ stops between
  · obtain ⟨_, _, @⟨_, _, type, name, names, fresh, described, named, free⟩⟩ := entering
    rw [ref_entered fresh described named free]
    obtain ⟨failures, reports⟩ := visitEach_reports (stops type) (fun stop _ => below stop)
      (none, (walk.reached target name names).listType name type)
    obtain ⟨whole, entered, untold⟩ :=
      reports_listed (rests_reached fresh described names) reports
    exact reports_blame whole free entered untold described
  · obtain ⟨after, rests, same⟩ :=
      ref_rests fun stops between enters => entering ⟨stops, between, enters⟩
    rw [same]
    exact ⟨[], reports_rests rests⟩

theorem method_reports {budget : Nat} {owner : Address} {signature : TypeRef}
    (below : ∀ reference walk, ∃ failures,
      Reports plan walk (visitStop plan budget (.ref reference) walk).2 failures) (walk : Walk) :
    ∃ failures,
      Reports plan walk (visitStop plan budget (.method owner signature) walk).2 failures := by
  by_cases entering : ∃ stops between, Enters plan ⟨.method owner signature, walk⟩ stops between
  · obtain ⟨stops, between, enters⟩ := entering
    rw [method_entered enters]
    have each : ∀ stop ∈ stops, ∀ walk, ∃ failures,
        Reports plan walk (visitStop plan budget stop walk).2 failures := by
      intro stop member
      obtain ⟨reference, rfl⟩ := enters_method enters stop member
      exact below reference
    obtain ⟨failures, reports⟩ := visitEach_reports stops each (none, between)
    cases enters with
    | method _ _ _ =>
        obtain ⟨whole, _⟩ := reports_listed (rests_withNames _ walk) reports
        exact ⟨failures, whole⟩
  · obtain ⟨after, rests, same⟩ :=
      method_rests fun stops between enters => entering ⟨stops, between, enters⟩
    rw [same]
    exact ⟨[], reports_rests rests⟩

theorem visitStop_reports (plan : Plan) (budget : Nat) (stop : Stop) :
    ∀ walk, ∃ failures, Reports plan walk (visitStop plan budget stop walk).2 failures := by
  refine by_budget (fun budget stop => ∀ walk, ∃ failures,
    Reports plan walk (visitStop plan budget stop walk).2 failures) ?_ ?_ ?_ ?_ budget stop
  · intro budget walk
    rw [visit_placeholder]
    exact ⟨[], reports_rests (rests_refl walk)⟩
  · exact fun _ walk => ⟨[], reports_rests (rests_refl walk)⟩
  · exact fun budget target below => ref_reports below
  · exact fun budget owner signature below => method_reports below

/-! ### Roots -/

/-- What cannot be read is never in the table of addresses, so it is refused at every try. -/
theorem refused_of_unread {root : Address} {reason : DescriptorFault}
    (known : ∀ address ∈ walk.found.byAddress, ∃ type, plan.describe address = .ok type)
    (unread : plan.describe root = .error reason) :
    (visitStop plan addressCount (.ref (.address root)) walk).1 = some reason := by
  have fresh : ¬walk.found.byAddress.contains root := by
    intro contained
    obtain ⟨type, described⟩ := known root contained
    rw [unread] at described
    cases described
  have covered : Covered addressCount walk := Nat.le_add_left addressCount _
  rw [← visitStop_succ plan addressCount _ walk covered]
  show (visitRef plan (addressCount + 1) (.address root) walk).1 = _
  rw [visitRef, if_neg fresh, unread]

theorem ledger_reports {roots : List Address} {later : Walk} {failures more : List TypeFailure}
    (ledger : Ledger plan roots walk failures) (reports : Reports plan walk later more) :
    Ledger plan roots later (failures ++ more) where
  recorded := by rw [reports.recorded, ledger.recorded, record_append]
  told logs := by rw [reports.told logs, ledger.told logs]
  again name := by
    have before := ledger.again name
    have once := List.nodup_iff_count_le_one.mp reports.once name
    rw [List.map_append, List.count_append]
    by_cases late : name ∈ more.map TypeFailure.name
    · obtain ⟨failure, member, rfl⟩ := List.mem_map.mp late
      rw [if_neg (reports.fresh failure member)] at before
      rw [if_pos (reports.listed failure member)]
      omega
    · rw [List.count_eq_zero.mpr late]
      by_cases taken : name ∈ walk.found.types
      · rw [if_pos taken] at before
        rw [if_pos (reports.kept name taken)]
        exact before
      · rw [if_neg taken] at before
        omega
  unread root reason missing := by
    have untold : unreadableRoot root reason ∉ more := by
      intro member
      obtain ⟨target, type, place, described⟩ := reports.placed _ member
      cases place
      rw [missing] at described
      cases described
    rw [List.count_append, List.count_eq_zero.mpr untold]
    exact ledger.unread root reason missing
  known address member := by
    rcases reports.known address member with before | described
    · exact ledger.known address before
    · exact described

theorem ledger_root {roots : List Address} {failures : List TypeFailure} {root : Address}
    (ledger : Ledger plan roots walk failures)
    (read : ∀ reason, plan.describe root ≠ .error reason) :
    Ledger plan (roots ++ [root]) walk failures where
  recorded := ledger.recorded
  told := ledger.told
  again name := by
    rw [List.map_append, List.count_append]
    exact Nat.le_trans (ledger.again name) (by omega)
  unread other reason missing := by
    have different : other ∉ [root] := by
      rw [List.mem_singleton]
      rintro rfl
      exact read reason missing
    rw [List.count_append, List.count_eq_zero.mpr different]
    exact ledger.unread other reason missing
  known := ledger.known

theorem ledger_refused {roots : List Address} {failures : List TypeFailure} {root : Address}
    {reason : DescriptorFault} (ledger : Ledger plan roots walk failures)
    (cause : ∀ other, plan.describe root = .error other → other = reason) :
    Ledger plan (roots ++ [root]) (walk.recordFailure plan (unreadableRoot root reason))
      (failures ++ [unreadableRoot root reason]) where
  recorded := by
    rw [found_recordFailure, record_append, ← ledger.recorded]
    rfl
  told logs := by rw [told_recordFailure logs, ledger.told logs]
  again name := by
    have named : [unreadableRoot root reason].map TypeFailure.name = [root].map recordName := rfl
    have before := ledger.again name
    rw [found_recordFailure, List.map_append, List.map_append, List.count_append,
      List.count_append, named]
    show _ ≤ (if name ∈ walk.found.types then 1 else 0) + _
    omega
  unread other told missing := by
    rw [List.count_append, List.count_append, ledger.unread other told missing]
    by_cases same : other = root
    · subst same
      rw [cause told missing, List.count_singleton_self, List.count_singleton_self]
    · have elsewhere : unreadableRoot other told ∉ [unreadableRoot root reason] := by
        rw [List.mem_singleton]
        intro equal
        cases congrArg TypeFailure.address equal
        exact same rfl
      have apart : other ∉ [root] := mt List.mem_singleton.mp same
      rw [List.count_eq_zero.mpr elsewhere, List.count_eq_zero.mpr apart]
  known address member := by
    rw [found_recordFailure] at member
    exact ledger.known address member

theorem visitRoot_ledger {roots : List Address} {failures : List TypeFailure}
    (ledger : Ledger plan roots walk failures) (root : Address) :
    ∃ more, Ledger plan (roots ++ [root]) (visitRoot plan walk root) more := by
  obtain ⟨late, reports⟩ := visitStop_reports plan addressCount (.ref (.address root)) walk
  have visited := ledger_reports ledger reports
  have refused := fun reason => @refused_of_unread plan walk root reason ledger.known
  rcases came : visitStop plan addressCount (.ref (.address root)) walk with
    ⟨failure | reason, after⟩
  all_goals
    rw [came] at visited refused
    change visitRef plan addressCount (.address root) walk = _ at came
    rw [visitRoot, came]
  · refine ⟨_, ledger_root visited ?_⟩
    intro reason missing
    cases refused reason missing
  · refine ⟨_, ledger_refused visited ?_⟩
    intro other missing
    cases refused other missing
    rfl

theorem roots_ledger (roots : List Address) {before : List Address}
    {failures : List TypeFailure} (ledger : Ledger plan before walk failures) :
    ∃ more, Ledger plan (before ++ roots) (roots.foldl (visitRoot plan) walk) more := by
  induction roots generalizing before walk failures with
  | nil =>
      rw [List.append_nil]
      exact ⟨failures, ledger⟩
  | cons root roots ih =>
      obtain ⟨more, visited⟩ := visitRoot_ledger ledger root
      rw [List.append_cons]
      exact ih visited

/-! ### Walks -/

theorem told_logs (events : List WalkEvent) (walk : Walk) :
    (events.foldl (fun walk event => walk.log event) walk).told =
      walk.told ++ events.filterMap WalkEvent.failure? := by
  induction events generalizing walk with
  | nil => exact (List.append_nil _).symm
  | cons event events ih =>
      rw [List.foldl_cons, ih, told_log, List.append_assoc]
      cases event <;> rfl

theorem told_opening (links : TypeLinks) :
    ((sectionEvents links).foldl (fun walk event => walk.log event) start).told = [] := by
  have silent : (sectionEvents links).filterMap WalkEvent.failure? = [] := by
    rw [List.filterMap_eq_nil_iff]
    intro event member
    obtain ⟨_, _, rfl⟩ := List.mem_map.mp member
    rfl
  rw [told_logs, silent]
  rfl

theorem opening_ledger (plan : Plan) (links : TypeLinks) :
    Ledger plan [] ((sectionEvents links).foldl (fun walk event => walk.log event) start) [] := by
  have found := (blank_opened (sectionEvents links) (⟨rfl, rfl⟩ : Blank start)).found
  constructor
  case recorded => exact congrArg Inventory.failures found
  case told => exact fun _ => told_opening links
  case again => exact fun _ => Nat.zero_le _
  case unread => exact fun _ _ _ => rfl
  case known =>
    intro address member
    rw [found] at member
    exact absurd member Std.TreeMap.not_mem_emptyc

theorem run_ledger (resolve : Resolver) (links : TypeLinks) (config : Config) :
    ∃ failures, Ledger (planOf resolve links config) links.roots (run resolve links config)
      failures := by
  obtain ⟨failures, searchedLedger⟩ :=
    roots_ledger links.roots (opening_ledger (planOf resolve links config) links)
  rw [List.nil_append] at searchedLedger
  have told : (run resolve links config).told = (searched resolve links config).told :=
    (told_log _ _).trans (List.append_nil _)
  refine ⟨failures, searchedLedger.recorded, ?_, ?_, searchedLedger.unread, searchedLedger.known⟩
  · intro logs
    rw [told]
    exact searchedLedger.told logs
  · intro name
    have before := searchedLedger.again name
    by_cases taken : name ∈ (searched resolve links config).found.types
    · have kept : name ∈ (run resolve links config).found.types :=
        Std.TreeMap.mem_insert.mpr (Or.inr (Std.TreeMap.mem_insert.mpr (Or.inr taken)))
      rw [if_pos kept]
      exact Nat.le_trans before (Nat.add_le_add_right (by split <;> omega) _)
    · have absent : name ∉ (List.foldl (visitRoot (planOf resolve links config))
          ((sectionEvents links).foldl (fun walk event => walk.log event) start)
          links.roots).found.types := taken
      rw [if_neg absent] at before
      omega

/-! ### Tables of records -/

theorem getElem?_record (failures : List TypeFailure) (table : Std.TreeMap String TypeFailure)
    (name : String) : (record table failures)[name]? =
      table[name]?.or (failures.find? fun failure => failure.name == name) := by
  induction failures generalizing table with
  | nil => exact (Option.or_none).symm
  | cons failure failures ih =>
      show (record (table.insertIfNew failure.name failure) failures)[name]? = _
      rw [ih, Std.TreeMap.getElem?_insertIfNew, List.find?_cons]
      by_cases same : failure.name = name
      · subst same
        simp only [Std.ReflCmp.compare_self, true_and, beq_self_eq_true]
        by_cases taken : failure.name ∈ table <;> simp [taken]
      · have other : (failure.name == name) = false := beq_false_of_ne same
        simp [same, other]

/-- The first failure under a name is the one on record. -/
theorem getElem?_failures {roots : List Address} {failures : List TypeFailure}
    (ledger : Ledger plan roots walk failures) (name : String) :
    walk.found.failures[name]? = failures.find? fun failure => failure.name == name := by
  rw [ledger.recorded, getElem?_record]
  exact congrArg (Option.or · _) Std.TreeMap.getElem?_emptyc

/-- Failures are on record under the names they give. -/
theorem name_of_recorded {resolve : Resolver} {links : TypeLinks} {config : Config} {name : String}
    {failure : TypeFailure}
    (held : (run resolve links config).found.failures[name]? = some failure) :
    failure.name = name := by
  obtain ⟨failures, ledger⟩ := run_ledger resolve links config
  rw [getElem?_failures ledger] at held
  have named := List.find?_some held
  exact eq_of_beq named

theorem names_listFailures (resolve : Resolver) (links : TypeLinks) (config : Config) :
    (run resolve links config).found.listFailures.map TypeFailure.name =
      (run resolve links config).found.failures.keys := by
  rw [Inventory.listFailures, List.map_map, ← Std.TreeMap.map_fst_toList_eq_keys]
  apply List.map_congr_left
  intro entry member
  exact name_of_recorded (Std.TreeMap.mem_toList_iff_getElem?_eq_some.mp member)

theorem nodup_listFailures (resolve : Resolver) (links : TypeLinks) (config : Config) :
    ((run resolve links config).found.listFailures.map TypeFailure.name).Nodup := by
  rw [names_listFailures]
  exact Std.TreeMap.nodup_keys

theorem mem_listFailures {found : Inventory} {failure : TypeFailure} :
    failure ∈ found.listFailures ↔ ∃ name : String, found.failures[name]? = some failure :=
  mem_values

theorem find?_of_distinct {failures : List TypeFailure} {failure : TypeFailure}
    (distinct : (failures.map TypeFailure.name).Nodup) (member : failure ∈ failures) :
    failures.find? (fun other => other.name == failure.name) = some failure := by
  induction failures with
  | nil => cases member
  | cons first failures ih =>
      obtain ⟨absent, later⟩ := List.nodup_cons.mp distinct
      rw [List.find?_cons]
      rcases List.mem_cons.mp member with rfl | among
      · rw [beq_self_eq_true]
      · have different : first.name ≠ failure.name := by
          intro same
          exact absent (same ▸ List.mem_map_of_mem among)
        rw [beq_false_of_ne different]
        exact ih later among

/-- All that was told of is on record, and nothing else is, unless a name was told of twice. -/
theorem listFailures_perm_iff {resolve : Resolver} {links : TypeLinks} {config : Config}
    {failures : List TypeFailure} (ledger : Ledger (planOf resolve links config) links.roots
      (run resolve links config) failures) :
    failures.Perm (run resolve links config).found.listFailures ↔
      (failures.map TypeFailure.name).Nodup := by
  have keys := nodup_listFailures resolve links config
  constructor
  · intro same
    exact (same.map TypeFailure.name).nodup_iff.mpr keys
  · intro distinct
    rw [List.perm_ext_iff_of_nodup distinct.of_map keys.of_map]
    intro failure
    rw [mem_listFailures]
    constructor
    · intro member
      refine ⟨failure.name, ?_⟩
      rw [getElem?_failures ledger]
      exact find?_of_distinct distinct member
    · rintro ⟨name, held⟩
      rw [getElem?_failures ledger] at held
      exact List.mem_of_find?_eq_some held

/-- As many records as failures told of means that no name was told of twice. -/
theorem distinct_of_length {resolve : Resolver} {links : TypeLinks} {config : Config}
    {failures : List TypeFailure} (ledger : Ledger (planOf resolve links config) links.roots
      (run resolve links config) failures)
    (length : failures.length = (run resolve links config).found.listFailures.length) :
    (failures.map TypeFailure.name).Nodup := by
  have keys := nodup_listFailures resolve links config
  have told : (run resolve links config).found.listFailures.map TypeFailure.name ⊆
      failures.map TypeFailure.name := by
    apply List.map_subset
    intro failure member
    obtain ⟨name, held⟩ := mem_listFailures.mp member
    rw [getElem?_failures ledger] at held
    exact List.mem_of_find?_eq_some held
  have whole := (keys.subperm told).perm_of_length_le (by simp [length])
  exact whole.nodup_iff.mp keys

end Walk

end TypeAtlas
