import TypeAtlas.Proofs.Inventory.Agreement
import TypeAtlas.Proofs.Naming.Plain

/-!
Roots that were refused. A root that cannot be read or named when its turn comes is recorded under
its address. A later visit may come to it again, when more names are remembered, and then name
what the limit on nesting kept from it before. Nothing else that was recorded is ever registered.
-/

namespace TypeAtlas.Walk

set_option autoImplicit false

open Naming (Canonical CanonicalWithin Truthful Placing)

/-- Why a root is refused: there is nothing to read, or it has no name within the limit, and then
the limit is to blame if it has a name at all. -/
inductive Refused (plan : Plan) (root : Address) (reason : DescriptorFault) : Prop where
  | unread : plan.describe root = .error reason → Refused plan root reason
  | unnamed {type : RuntimeType} : plan.describe root = .ok type →
      (∀ name, ¬CanonicalWithin plan.describe plan.maxNameDepth (.type type) name) →
        (∀ name, Canonical plan.describe (.type type) name →
          reason = .nameTooDeep plan.maxNameDepth) → Refused plan root reason

/-- Every record of a root gives the reason why it was refused. -/
def Justified (plan : Plan) (walk : Walk) : Prop :=
  ∀ root reason, walk.found.failures[s!"@{root}"]? = some (unreadableRoot root reason) →
    Refused plan root reason

/-- A root that is registered although it was refused: it nests too deep to be named by itself,
and was named when the walk came to it again. -/
structure NamedLater (describe : Address → Except DescriptorFault RuntimeType) (limit : Nat)
    (found : Inventory) (root : Address) (reason : DescriptorFault) : Prop where
  limited : reason = .nameTooDeep limit
  named : ∃ type name, describe root = .ok type ∧ found.byAddress[root]? = some name ∧
    Canonical describe (.type type) name ∧
      ∀ other, ¬CanonicalWithin describe limit (.type type) other

/-- No root is both recorded and registered. -/
def RecordsApart (found : Inventory) : Prop :=
  ∀ root reason, found.failures[s!"@{root}"]? = some (unreadableRoot root reason) →
    root ∉ found.byAddress

theorem hexadecimal_without_point (number : Nat) : '.' ∉ Nat.toDigits 16 number := by
  induction number using Nat.strongRecOn with
  | _ number ih =>
      have digit : ∀ small < 16, '.' ≠ Nat.digitChar small := by decide
      by_cases small : number < 16
      · rw [Nat.toDigits_of_lt_base small, List.mem_singleton]
        exact digit number small
      · rw [Nat.toDigits_of_base_le (by omega) (by omega), List.mem_append, List.mem_singleton]
        intro either
        rcases either with front | last
        · exact ih (number / 16) (by omega) front
        · exact digit (number % 16) (by omega) last

theorem recordName_letters (root : Address) :
    (s!"@{root}").toList = '@' :: '0' :: 'x' :: Nat.toDigits 16 root.val.toNat := by
  have spelled : s!"@{root}" = "@" ++ ("0x" ++ String.ofList (Nat.toDigits 16 root.val.toNat)) :=
    rfl
  rw [spelled]
  simp [String.toList_append]

/-- No type that is shown as the record of a root is has such a record's name. -/
theorem recordName_not_canonical {describe : Address → Except DescriptorFault RuntimeType}
    {type : RuntimeType} (shown : type.repr = "<unreadable>") (root : Address) :
    ¬Canonical describe (.type type) s!"@{root}" := by
  intro canonical
  obtain ⟨levels, derived⟩ := canonical
  generalize same : s!"@{root}" = name at derived
  have letters := recordName_letters root
  rw [same] at letters
  cases derived with
  | @qualified _ _ declared path =>
      have point : '.' ∈ (path ++ "." ++ declared).toList := by
        simp [String.toList_append]
      rw [letters] at point
      have absent := hexadecimal_without_point root.val.toNat
      simp [absent] at point
  | unqualified | primitive | interface =>
      rw [shown] at letters
      simp at letters
  | bare _ _ _ blank | kind _ _ blank =>
      rw [shown] at blank
      exact absurd blank (by decide)
  | pointer | slice | array | recv | send | both | map | func | struct =>
      simp [String.toList_append] at letters

variable {plan : Plan}

/-- Naming a type in its place keeps the remembered names canonical, whatever it answers. -/
theorem nameType_truthful (placing : Placing plan.describe) {type : RuntimeType}
    (placed : Naming.Placed plan.describe type) {walk : Walk}
    (truthful : Truthful plan.describe walk.names) {result : Except DescriptorFault String}
    {names : NameCache} (named : nameType plan type walk = (result, walk.withNames names)) :
    Truthful plan.describe names := by
  rcases nameType_outcome placing placed truthful with
    ⟨_, _, again, _, kept⟩ | ⟨_, _, again, _, kept⟩
  all_goals
    rw [again] at named
    cases congrArg (fun outcome => outcome.2.names) named
    exact kept

theorem visits_truthful (placing : Placing plan.describe) {errand : Errand} {walk : Walk}
    {visit : Visit} (visits : Visits plan errand walk visit)
    (truthful : Truthful plan.describe walk.names) : Truthful plan.describe visit.2.names := by
  have arrived : ∀ {before : Walk} {target : Address} {type : RuntimeType} {name : String}
      {names : NameCache}, Arrives plan before target type name names →
        Truthful plan.describe before.names → Truthful plan.describe names :=
    fun arrives kept => nameType_truthful placing
      (Naming.placed_of_described placing arrives.described) kept arrives.named
  have unplaced : ∀ {owner target : Address} {method : RuntimeType},
      CallForm plan.describe owner target method → Naming.Placed plan.describe method := by
    intro owner target method form
    cases form
    exact Naming.placed_of_unplaced rfl
  induction visits with
  | placeholder | known | unread | placeholderMethod | methodUnread | methodMisfit | done =>
      exact truthful
  | unnamed _ described refused _ =>
      exact nameType_truthful placing (Naming.placed_of_described placing described) truthful refused
  | methodUnnamed form refused _ =>
      exact nameType_truthful placing (unplaced form) truthful refused
  | shadowed arrives _ => exact arrived arrives truthful
  | entered arrives _ _ ih => exact ih (arrived arrives truthful)
  | blamed arrives _ _ ih =>
      rw [names_recordFailure]
      exact ih (arrived arrives truthful)
  | methodShadowed calls _ =>
      exact nameType_truthful placing (unplaced calls.form) truthful calls.named
  | methodEntered calls _ _ ih =>
      exact ih (nameType_truthful placing (unplaced calls.form) truthful calls.named)
  | next _ _ first rest => exact rest (first truthful)

/-- A visit hands its failure up for one of two reasons. -/
theorem refused_of_visit (placing : Placing plan.describe) {root : Address} {walk between : Walk}
    {reason : DescriptorFault} (truthful : Truthful plan.describe walk.names)
    (visits : Visits plan (.one (.ref (.address root))) walk (some reason, between)) :
    Refused plan root reason := by
  cases visits with
  | unread _ failed => exact .unread failed
  | @unnamed _ _ type _ names _ described refused beyond =>
      refine .unnamed described beyond ?_
      intro name canonical
      have placed := Naming.placed_of_described placing described
      have run : (Naming.nameOf plan.describe plan.maxNameDepth type).run walk.names =
          (.error reason, names) := by
        unfold nameType at refused
        rcases came : (Naming.nameOf plan.describe plan.maxNameDepth type).run walk.names with
          ⟨result, after⟩
        rw [came] at refused
        cases refused
        rfl
      exact Naming.tooDeep_of_refused placing placed truthful run canonical

/-- Failures below a type are recorded under its name, which no record of a root has. -/
theorem visits_justified {errand : Errand} {walk : Walk} {visit : Visit}
    (visits : Visits plan errand walk visit) (justified : Justified plan walk) :
    Justified plan visit.2 := by
  induction visits with
  | placeholder | known | unread | unnamed | shadowed | placeholderMethod | methodUnread
    | methodMisfit | methodUnnamed | methodShadowed | done => exact justified
  | entered _ _ _ ih => exact ih justified
  | @blamed _ after target type name names reason arrives _ _ ih =>
      intro root cause held
      rw [found_recordFailure] at held
      rcases getElem?_insertIfNew_cases held with ⟨named, same⟩ | before
      · have shown : type.repr = "<unreadable>" := (congrArg TypeFailure.repr same).symm
        have canonical := arrives.canonical
        rw [← show s!"@{root}" = name from named] at canonical
        exact absurd canonical (recordName_not_canonical shown root)
      · exact ih justified root cause before
  | methodEntered _ _ _ ih => exact ih justified
  | next _ _ first rest => exact rest (first justified)

theorem searches_justified (placing : Placing plan.describe) {roots : List Address}
    {walk after : Walk} (search : Searches plan roots walk after)
    (truthful : Truthful plan.describe walk.names) (justified : Justified plan walk) :
    Justified plan after := by
  induction search with
  | done => exact justified
  | visited visits _ ih =>
      exact ih (visits_truthful placing visits truthful) (visits_justified visits justified)
  | @refused root _ _ between _ reason visits _ ih =>
      apply ih
      · rw [names_recordFailure]
        exact visits_truthful placing visits truthful
      · intro other cause held
        rw [found_recordFailure] at held
        rcases getElem?_insertIfNew_cases held with ⟨_, same⟩ | before
        · cases Option.some.inj (congrArg TypeFailure.address same)
          cases congrArg TypeFailure.reason same
          exact refused_of_visit placing truthful visits
        · exact visits_justified visits justified other cause before

theorem run_justified {resolve : Resolver} (faithful : resolve.Faithful) (links : TypeLinks)
    (config : Config) : Justified (planOf resolve links config) (run resolve links config) := by
  obtain ⟨opened, blank, search⟩ := searched_searches resolve faithful links config
  have placing := Naming.placing_of_faithful faithful links.sections
  have truthful : Truthful (resolve links.sections) opened.names := by
    rw [blank.names]
    exact Naming.empty_truthful
  have unrecorded : Justified (planOf resolve links config) opened := by
    intro root reason held
    rw [blank.found] at held
    cases held
  have justified := searches_justified placing search truthful unrecorded
  -- The placeholders leave the failures as they are.
  exact fun root reason held => justified root reason held

/-- A root that was recorded under its address is not in the table of addresses, unless the limit
on nesting was the reason, and a later visit to it found enough names to spare the levels that
the limit lacks. -/
theorem recorded_root_unregistered (resolve : Resolver) (faithful : resolve.Faithful)
    (links : TypeLinks) (config : Config) (root : Address) (reason : DescriptorFault)
    (recorded : (run resolve links config).found.failures[s!"@{root}"]? =
      some (unreadableRoot root reason)) :
    root ∉ (run resolve links config).found.byAddress ∨
      NamedLater (resolve links.sections) config.maxNameDepth (run resolve links config).found
        root reason := by
  by_cases member : root ∈ (run resolve links config).found.byAddress
  · obtain ⟨name, addressed⟩ := getElem?_of_mem member
    obtain ⟨_, type, described, canonical⟩ :=
      (run_agreed faithful links config).addressed root name addressed
    cases run_justified faithful links config root reason recorded with
    | unread failed =>
        rw [show resolve links.sections root = .error reason from failed] at described
        cases described
    | unnamed again beyond limited =>
        rw [show resolve links.sections root = _ from again] at described
        cases described
        exact Or.inr ⟨limited name canonical, type, name, again, addressed, canonical, beyond⟩
  · exact Or.inl member

/-- A declared struct that refers to the outer end of a chain of pointers. -/
def chainHolder : RuntimeType :=
  ⟨some ⟨64⟩, .struct, 8, some "Holder", some "main", "main.Holder",
    .struct [⟨"chain", .address ⟨16⟩, 0, false⟩] []⟩

def chainResolver : Resolver := .ofTypes (chainHolder :: Naming.pointerChain)

/-- The outer end of the chain, an address where nothing stands, the inner pointer, the struct. -/
def chainLinks : TypeLinks := ⟨[⟨0⟩], [[16, 80, 32, 64]]⟩

def shallowConfig : Config := { maxNameDepth := 1 }

theorem recorded_root_unregistered_over_chain :
    chainResolver.Faithful ∧
      (run chainResolver chainLinks shallowConfig).found.failures[s!"@{(⟨80⟩ : Address)}"]? =
          some (unreadableRoot ⟨80⟩ (.layout ⟨80⟩ .absent)) ∧
        ((⟨80⟩ : Address) ∉ (run chainResolver chainLinks shallowConfig).found.byAddress ∨
          NamedLater (chainResolver [⟨0⟩]) 1 (run chainResolver chainLinks shallowConfig).found
            ⟨80⟩ (.layout ⟨80⟩ .absent)) := by
  have faithful : chainResolver.Faithful := Resolver.faithful_ofTypes _
  have recorded : (run chainResolver chainLinks shallowConfig).found.failures[
      s!"@{(⟨80⟩ : Address)}"]? = some (unreadableRoot ⟨80⟩ (.layout ⟨80⟩ .absent)) := by
    decide +kernel
  exact ⟨faithful, recorded,
    recorded_root_unregistered chainResolver faithful chainLinks shallowConfig ⟨80⟩ _ recorded⟩

/-- The outer end of the chain nests too deep for a limit of one. Once the inner pointer has a
name, the struct leads to it again, and it is registered beside its record. -/
theorem recorded_root_registered :
    shallowConfig.fault? = none ∧
      ¬RecordsApart (run chainResolver chainLinks shallowConfig).found := by
  refine ⟨by decide, ?_⟩
  intro apart
  have recorded : (run chainResolver chainLinks shallowConfig).found.failures[
      s!"@{(⟨16⟩ : Address)}"]? = some (unreadableRoot ⟨16⟩ (.nameTooDeep 1)) := by
    decide +kernel
  have registered : (run chainResolver chainLinks shallowConfig).found.byAddress[
      (⟨16⟩ : Address)]? = some "**int" := by
    decide +kernel
  exact apart ⟨16⟩ _ recorded (mem_of_getElem? registered)

end TypeAtlas.Walk
