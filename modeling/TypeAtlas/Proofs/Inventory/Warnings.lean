import TypeAtlas.Proofs.Inventory.Ledger

/-!
The warnings of a walk. With logging of failures off, a walk does what it does with logging on, but
for the warnings. With logging on it warns of every failure that it tells of, and the table keeps
the first of each name. A root that cannot be read is told of each time it is listed, so there is
one warning for each record only if no root is refused again.
-/

namespace TypeAtlas.Walk

set_option autoImplicit false

def warnings (walk : Walk) : List String :=
  (walk.events.toList.filter fun event => event.level == .warn).map WalkEvent.message

/-- The walk with its warnings left out of the log. -/
def muted (walk : Walk) : Walk :=
  { walk with events := walk.events.filter fun event => event.level != .warn }

def Plan.quiet (plan : Plan) : Plan := { plan with logFailures := false }

/-- The answer of a visit to a muted walk. -/
def hushed (visit : Visit) : Visit := (visit.1, visit.2.muted)

variable {plan : Plan}

/-! ### Muting -/

theorem describe_quiet : plan.quiet.describe = plan.describe := rfl

theorem muted_log {event : WalkEvent} (calm : event.level ≠ .warn) (walk : Walk) :
    (walk.log event).muted = walk.muted.log event := by
  simp [muted, log, calm]

theorem muted_recordFailure (failure : TypeFailure) (walk : Walk) :
    (walk.recordFailure plan failure).muted = walk.muted.recordFailure plan.quiet failure := by
  unfold recordFailure
  split
  · simp [muted, log, WalkEvent.level, Plan.quiet]
  · rfl

theorem nameType_muted (plan : Plan) (type : RuntimeType) (walk : Walk) :
    nameType plan.quiet type walk.muted =
      ((nameType plan type walk).1, (nameType plan type walk).2.muted) := rfl

theorem visitEach_muted {α : Type} {visit quietly : α → Walk → Visit}
    (same : ∀ item walk, quietly item walk.muted = hushed (visit item walk)) (items : List α)
    (before : Visit) :
    visitEach quietly items (hushed before) = hushed (visitEach visit items before) := by
  induction items generalizing before with
  | nil => rfl
  | cons item items ih =>
      have first := same item before.2
      have rest := ih (before.1.or (visit item before.2).1, (visit item before.2).2)
      unfold visitEach at rest ⊢
      rw [List.foldl_cons, List.foldl_cons, ← rest]
      simp only [hushed, first]

section Visits

variable {visit quietly : TypeRef → Walk → Visit}
  (same : ∀ reference walk, quietly reference walk.muted = hushed (visit reference walk))
include same

theorem visitParts_muted (type : RuntimeType) (walk : Walk) :
    visitParts quietly type walk.muted = hushed (visitParts visit type walk) :=
  visitEach_muted same type.shape.parts (none, walk)

theorem visitMethod_muted (owner : Address) (signature : TypeRef) (walk : Walk) :
    visitMethod plan.quiet quietly owner signature walk.muted =
      hushed (visitMethod plan visit owner signature walk) := by
  cases signature with
  | opaquePointer => rfl
  | address target =>
      simp only [visitMethod, describe_quiet, nameType_muted plan]
      cases plan.describe target with
      | error reason => rfl
      | ok stored =>
          dsimp only
          split
          · rename_i params results variadic _
            rcases nameType plan (methodType owner stored params results variadic) walk with
              ⟨reason | name, named⟩
            · rfl
            · by_cases taken : named.found.types.contains name
              · have contained : named.muted.found.types.contains name := taken
                simp only [if_pos taken, if_pos contained]
                rfl
              · have missing : ¬named.muted.found.types.contains name := taken
                simp only [if_neg taken, if_neg missing]
                exact visitParts_muted same _ (named.listType name _)
          · rfl

theorem visitBelow_muted (type : RuntimeType) (walk : Walk) :
    visitBelow plan.quiet quietly type walk.muted = hushed (visitBelow plan visit type walk) := by
  unfold visitBelow
  rw [visitParts_muted same]
  apply visitEach_muted
  rintro ⟨owner, signature⟩ walk
  exact visitMethod_muted same owner signature walk

end Visits

theorem blame_muted (target : Address) (type : RuntimeType) (name : String)
    {quietly after : Visit} (same : quietly = hushed after) :
    blame plan.quiet target type name quietly = hushed (blame plan target type name after) := by
  subst same
  rcases after with ⟨reason | reason, after⟩
  · rfl
  · exact congrArg (none, ·) (muted_recordFailure _ after).symm

theorem visitRef_muted (plan : Plan) (budget : Nat) : ∀ reference walk,
    visitRef plan.quiet budget reference walk.muted =
      hushed (visitRef plan budget reference walk) := by
  induction budget with
  | zero => exact fun _ _ => rfl
  | succ budget ih =>
      intro reference walk
      cases reference with
      | opaquePointer => rfl
      | address target =>
          simp only [visitRef, describe_quiet, nameType_muted plan]
          by_cases been : walk.found.byAddress.contains target
          · have contained : walk.muted.found.byAddress.contains target := been
            simp only [if_pos been, if_pos contained]
            rfl
          have fresh : ¬walk.muted.found.byAddress.contains target := been
          simp only [if_neg been, if_neg fresh]
          cases plan.describe target with
          | error reason => rfl
          | ok type =>
              dsimp only
              rcases nameType plan type walk with ⟨reason | name, named⟩
              · rfl
              · by_cases taken : (named.listAddress target name).found.types.contains name
                · have contained :
                    (named.muted.listAddress target name).found.types.contains name := taken
                  simp only [if_pos taken, if_pos contained]
                  rfl
                · have missing :
                    ¬(named.muted.listAddress target name).found.types.contains name := taken
                  simp only [if_neg taken, if_neg missing]
                  exact blame_muted target type name (visitBelow_muted ih type
                    ((named.listAddress target name).listType name type))

theorem visitRoot_muted (walk : Walk) (root : Address) :
    visitRoot plan.quiet walk.muted root = (visitRoot plan walk root).muted := by
  unfold visitRoot
  rw [visitRef_muted]
  rcases visitRef plan addressCount (.address root) walk with ⟨reason | reason, after⟩
  · rfl
  · exact (muted_recordFailure _ after).symm

theorem visitRoots_muted (plan : Plan) (roots : List Address) (walk : Walk) :
    roots.foldl (visitRoot plan.quiet) walk.muted = (roots.foldl (visitRoot plan) walk).muted := by
  induction roots generalizing walk with
  | nil => rfl
  | cons root roots ih => rw [List.foldl_cons, visitRoot_muted, ih, List.foldl_cons]

theorem muted_logs {events : List WalkEvent} (calm : ∀ event ∈ events, event.level ≠ .warn)
    (walk : Walk) : (events.foldl (fun walk event => walk.log event) walk).muted =
      events.foldl (fun walk event => walk.log event) walk.muted := by
  induction events generalizing walk with
  | nil => rfl
  | cons event events ih =>
      rw [List.foldl_cons, ih fun event member => calm event (List.mem_cons_of_mem _ member),
        muted_log (calm event List.mem_cons_self), List.foldl_cons]

theorem run_eq (resolve : Resolver) (links : TypeLinks) (config : Config) :
    run resolve links config = (searched resolve links config).listPlaceholders.log
      (.finished (searched resolve links config).listPlaceholders.found.types.size
        links.descriptorCount
        (searched resolve links config).listPlaceholders.found.failures.size) := rfl

/-- With logging of failures off, a walk is the same but for its warnings. -/
theorem run_muted (resolve : Resolver) (links : TypeLinks) (config : Config) :
    run resolve links { config with logFailures := false } =
      (run resolve links config).muted := by
  have calm : ∀ event ∈ sectionEvents links, event.level ≠ .warn := by
    intro event member
    obtain ⟨_, _, rfl⟩ := List.mem_map.mp member
    exact LogLevel.noConfusion
  have visited := visitRoots_muted (planOf resolve links config) links.roots
    ((sectionEvents links).foldl (fun walk event => walk.log event) start)
  rw [muted_logs calm] at visited
  have quietly : searched resolve links { config with logFailures := false } =
      (searched resolve links config).muted := visited
  rw [run_eq, run_eq, muted_log LogLevel.noConfusion, quietly]
  rfl

theorem warnings_muted (walk : Walk) : walk.muted.warnings = [] := by
  unfold warnings muted
  rw [List.map_eq_nil_iff, List.filter_eq_nil_iff]
  intro event member
  have calm := (Array.mem_filter.mp (Array.mem_toList_iff.mp member)).2
  simpa using calm

/-! ### Warnings and records -/

theorem warnings_eq_told (walk : Walk) : walk.warnings = walk.told.map TypeFailure.message := by
  unfold warnings told
  induction walk.events.toList with
  | nil => rfl
  | cons event events ih =>
      cases event with
      | failed failure => exact congrArg (failure.message :: ·) ih
      | sectionFound | finished => exact ih

theorem hexadecimal_injective {left right : Nat}
    (same : Nat.toDigits 16 left = Nat.toDigits 16 right) : left = right := by
  have digits : ∀ left < 16, ∀ right < 16, Nat.digitChar left = Nat.digitChar right →
      left = right := by decide
  have small : ∀ number < 16, Nat.toDigits 16 number = [] ++ [Nat.digitChar number] :=
    fun _ below => Nat.toDigits_of_lt_base below
  have large : ∀ number, ¬number < 16 → Nat.toDigits 16 number =
      Nat.toDigits 16 (number / 16) ++ [Nat.digitChar (number % 16)] :=
    fun _ above => Nat.toDigits_of_base_le (by omega) (by omega)
  induction left using Nat.strongRecOn generalizing right with
  | _ left ih =>
      by_cases leftSmall : left < 16 <;> by_cases rightSmall : right < 16
      · rw [small left leftSmall, small right rightSmall] at same
        exact digits left leftSmall right rightSmall (List.singleton_inj.mp same)
      · rw [small left leftSmall, large right rightSmall] at same
        exact absurd (List.append_inj' same rfl).1.symm Nat.toDigits_ne_nil
      · rw [large left leftSmall, small right rightSmall] at same
        exact absurd (List.append_inj' same rfl).1 Nat.toDigits_ne_nil
      · rw [large left leftSmall, large right rightSmall] at same
        obtain ⟨front, last⟩ := List.append_inj' same rfl
        have high := ih (left / 16) (by omega) front
        have low := digits (left % 16) (by omega) (right % 16) (by omega)
          (List.singleton_inj.mp last)
        omega

theorem recordName_injective : Function.Injective recordName := by
  intro left right same
  have letters : (recordName left).toList = (recordName right).toList := congrArg _ same
  rw [recordName, recordName, recordName_letters, recordName_letters] at letters
  have digits : Nat.toDigits 16 left.val.toNat = Nat.toDigits 16 right.val.toNat := by
    simpa using letters
  have words := UInt64.toNat_inj.mp (hexadecimal_injective digits)
  cases left
  cases right
  exact congrArg Address.mk words

/-- The warnings of a walk, against its own table of failures and against the walk that logging of
failures is off for. -/
structure Warned (describe : Address → Except DescriptorFault RuntimeType) (links : TypeLinks)
    (loud quiet : Walk) : Prop where
  told : loud.warnings = loud.told.map TypeFailure.message
  recorded (name : String) : loud.found.failures[name]? =
    loud.told.find? fun failure => failure.name == name
  each : loud.warnings.Perm (loud.found.listFailures.map TypeFailure.message) ↔
    (loud.told.map TypeFailure.name).Nodup
  distinct : links.roots.Nodup → (∀ root ∈ links.roots, recordName root ∉ loud.found.types) →
    loud.warnings.Perm (loud.found.listFailures.map TypeFailure.message)
  again (name : String) : (loud.told.map TypeFailure.name).count name ≤
    (if name ∈ loud.found.types then 1 else 0) + (links.roots.map recordName).count name
  unread (root : Address) (reason : DescriptorFault) : describe root = .error reason →
    loud.told.count (unreadableRoot root reason) = links.roots.count root
  silent : quiet.warnings = []
  same : quiet.found = loud.found

section Loud

variable {resolve : Resolver} {links : TypeLinks} {config : Config}

theorem run_ledger_told (resolve : Resolver) (links : TypeLinks) {config : Config}
    (logs : config.logFailures = true) : Ledger (planOf resolve links config) links.roots
      (run resolve links config) (run resolve links config).told := by
  obtain ⟨failures, ledger⟩ := run_ledger resolve links config
  rw [ledger.told logs]
  exact ledger

theorem warnings_perm_iff (logs : config.logFailures = true) :
    (run resolve links config).warnings.Perm
        ((run resolve links config).found.listFailures.map TypeFailure.message) ↔
      ((run resolve links config).told.map TypeFailure.name).Nodup := by
  have ledger := run_ledger_told resolve links logs
  rw [warnings_eq_told]
  constructor
  · intro same
    have length := same.length_eq
    rw [List.length_map, List.length_map] at length
    exact distinct_of_length ledger length
  · intro distinct
    exact ((listFailures_perm_iff ledger).mpr distinct).map TypeFailure.message

/-- Roots that are listed once, and whose records no type's name clashes with, are told of once. -/
theorem told_distinct (logs : config.logFailures = true) (once : links.roots.Nodup)
    (apart : ∀ root ∈ links.roots, recordName root ∉ (run resolve links config).found.types) :
    ((run resolve links config).told.map TypeFailure.name).Nodup := by
  rw [List.nodup_iff_count_le_one]
  intro name
  have bound := (run_ledger_told resolve links logs).again name
  by_cases listed : name ∈ (run resolve links config).found.types
  · have absent : name ∉ links.roots.map recordName := by
      intro member
      obtain ⟨root, among, rfl⟩ := List.mem_map.mp member
      exact apart root among listed
    rw [if_pos listed, List.count_eq_zero.mpr absent] at bound
    exact bound
  · have single := List.nodup_iff_count_le_one.mp (once.map recordName_injective) name
    rw [if_neg listed] at bound
    omega

/-- A root that cannot be read and is listed again is warned of more often than it is recorded. -/
theorem warnings_of_relisted (logs : config.logFailures = true) {root : Address}
    {reason : DescriptorFault} (unread : resolve links.sections root = .error reason)
    (relisted : 1 < links.roots.count root) :
    ¬(run resolve links config).warnings.Perm
      ((run resolve links config).found.listFailures.map TypeFailure.message) := by
  rw [warnings_perm_iff logs]
  intro distinct
  have told := (run_ledger_told resolve links logs).unread root reason unread
  have once := List.nodup_iff_count_le_one.mp distinct.of_map (unreadableRoot root reason)
  omega

end Loud

/-- A walk warns of each failure that it tells of. It records one of each name, so each record is
warned of once just if no name is told of twice; and a name is told of again only for a root that
is listed again, or recorded under a type's name. -/
theorem warned (resolve : Resolver) (links : TypeLinks) (config : Config) :
    Warned (resolve links.sections) links
      (run resolve links { config with logFailures := true })
      (run resolve links { config with logFailures := false }) where
  told := warnings_eq_told _
  recorded := getElem?_failures (run_ledger_told resolve links rfl)
  each := warnings_perm_iff rfl
  distinct once apart := (warnings_perm_iff rfl).mpr (told_distinct rfl once apart)
  again := (run_ledger_told resolve links rfl).again
  unread := (run_ledger_told resolve links rfl).unread
  silent := by
    rw [run_muted]
    exact warnings_muted _
  same := by
    have muted := run_muted resolve links { config with logFailures := true }
    exact (congrArg Walk.found muted).trans rfl

/-- One root, listed twice, with nothing there to be read. -/
theorem relisted_root_warned_twice :
    ¬(run (.ofTypes []) ⟨[⟨0⟩], [[80, 80]]⟩ {}).warnings.Perm
      ((run (.ofTypes []) ⟨[⟨0⟩], [[80, 80]]⟩ {}).found.listFailures.map
        TypeFailure.message) := by
  have unread : Resolver.ofTypes [] [⟨0⟩] ⟨80⟩ = .error (.layout ⟨80⟩ .absent) := rfl
  exact warnings_of_relisted rfl unread (by decide)

end TypeAtlas.Walk
