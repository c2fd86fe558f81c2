import TypeAtlas.Proofs.Catalog.Forcing
import TypeAtlas.Proofs.Catalog.Stages

/-!
Histories of questions. All that a catalog does to its sources it does for the first question that
forces the build. What the build comes to stays, and every question, early or late, has the reply
it would have had as the first.
-/

namespace TypeAtlas

set_option autoImplicit false

namespace Catalog

variable {σ β : Type} [EntryStream σ] [CodeBinder β]

/-- The catalog after some questions. -/
def asked (queries : List Query) (catalog : Catalog σ β) : Catalog σ β :=
  queries.foldl (fun catalog query => (catalog.ask query).2) catalog

/-- The replies to questions put one after another. -/
def replies : List Query → Catalog σ β → List (Except CatalogFault Reply)
  | [], _ => []
  | query :: later, catalog => (catalog.ask query).1 :: replies later (catalog.ask query).2

theorem force_again (catalog : Catalog σ β) :
    catalog.force.2.force = (catalog.force.1, catalog.force.2) :=
  force_settled (outcome_force catalog)

theorem asked_cons (query : Query) (later : List Query) (catalog : Catalog σ β) :
    asked (query :: later) catalog = asked later (catalog.ask query).2 := rfl

/-- What a question leaves behind. -/
theorem state_ask (catalog : Catalog σ β) (query : Query) :
    (catalog.ask query).2 = if query.forces then catalog.force.2 else catalog := by
  cases forcing : query.forces with
  | true => rw [ask_eq catalog forcing, if_pos rfl]
  | false => rw [ask_idle catalog forcing, if_neg Bool.false_ne_true]

/-- A catalog replies the same before and after its build. -/
theorem reply_force (catalog : Catalog σ β) (query : Query) :
    (catalog.force.2.ask query).1 = (catalog.ask query).1 := by
  cases forcing : query.forces with
  | true => rw [ask_eq _ forcing, ask_eq _ forcing, force_again]
  | false => rw [ask_idle _ forcing, ask_idle _ forcing]

theorem reply_asked (catalog : Catalog σ β) (earlier query : Query) :
    ((catalog.ask earlier).2.ask query).1 = (catalog.ask query).1 := by
  rw [state_ask]
  split
  · exact reply_force catalog query
  · rfl

theorem replies_eq (queries : List Query) (catalog : Catalog σ β) :
    replies queries catalog = queries.map fun query => (catalog.ask query).1 := by
  induction queries generalizing catalog with
  | nil => rfl
  | cons query later ih =>
      rw [replies, ih, List.map_cons]
      simp only [reply_asked]

/-- Only the first question that forces the build changes anything. -/
theorem asked_eq (queries : List Query) (catalog : Catalog σ β) :
    asked queries catalog = if queries.any Query.forces then catalog.force.2 else catalog := by
  induction queries generalizing catalog with
  | nil => rfl
  | cons query later ih =>
      rw [asked_cons, ih, state_ask, List.any_cons]
      cases forcing : query.forces with
      | true => simp [force_again]
      | false => simp

end Catalog

theorem orMissing_fault {missing : Missing} {found : Option RuntimeType} {fault : CatalogFault}
    (missed : Catalog.orMissing missing found = .error fault) : fault = .notFound missing := by
  cases found <;> cases missed
  rfl

theorem Inventory.debugTypes_fault {inventory : Inventory} {types : List DebugType}
    {fault : CatalogFault} (missed : inventory.debugTypes types = .error fault) :
    ∃ missing, fault = .notFound missing := by
  induction types with
  | nil => cases missed
  | cons type later ih =>
      rw [debugTypes_cons] at missed
      cases looked : Catalog.orMissing (.debugType type.key) (inventory.typeNamed? type.key) with
      | error first =>
          rw [looked] at missed
          cases missed
          exact ⟨_, orMissing_fault looked⟩
      | ok found =>
          rw [looked] at missed
          cases rest : inventory.debugTypes later with
          | error second =>
              rw [rest] at missed
              cases missed
              exact ih rest
          | ok others =>
              rw [rest] at missed
              cases missed

theorem fault_of_map {α β : Type} {found : Except CatalogFault α} {reply : α → β}
    {fault : CatalogFault} (missed : found.map reply = .error fault) : found = .error fault := by
  cases found <;> cases missed
  rfl

theorem Query.answer_fault {query : Query} {inventory : Inventory} {fault : CatalogFault}
    (missed : query.answer inventory = .error fault) : ∃ missing, fault = .notFound missing := by
  cases query with
  | typeNamed _ | typeAt _ | debugType _ => exact ⟨_, orMissing_fault (fault_of_map missed)⟩
  | debugTypes types => exact Inventory.debugTypes_fault (fault_of_map missed)
  | _ => cases missed

/-- No build of a catalog that has its sources ends for want of them. -/
theorem Course.supplied {config : Config} {resolve : Resolver} {reads : List EntryRead}
    {deeds : List Deed} {outcome : Except CatalogFault Inventory}
    (course : Course config resolve reads deeds outcome) :
    outcome ≠ .error (.invocation .spent) := by
  intro spent
  cases course with
  | misconfigured _ => cases spent
  | unlocated _ search =>
      cases spent
      rcases search.fault rfl with ⟨_, found⟩ | missing
      · cases found
      · cases missing
  | unlinked _ _ invocation =>
      cases spent
      cases invocation
  | walked _ _ _ => cases spent

namespace Catalog

variable {σ β : Type} [EntryStream σ] [CodeBinder β]

/-- What a history of questions comes to, from a catalog that has not been asked for anything. -/
structure OneShot (fresh : Catalog σ β) : Prop where
  replied : ∀ queries, replies queries fresh = queries.map fun query => (fresh.ask query).1
  supplied : ∀ queries, .error (.invocation .spent) ∉ replies queries fresh
  built_iff : ∀ queries, (asked queries fresh).isBuilt = queries.any Query.forces
  waiting : ∀ before, before.any Query.forces = false → asked before fresh = fresh
  built_once : ∀ before query after, before.any Query.forces = false → query.forces = true →
    asked (before ++ query :: after) fresh = (fresh.ask query).2
  kept : ∀ before query after, query.forces = true →
    (asked (before ++ query :: after) fresh).outcome = some fresh.force.1

theorem oneShot_of_unasked {fresh : Catalog σ β} (unasked : fresh.outcome = none)
    (unspent : fresh.spent = false) : OneShot fresh := by
  have forced : ∀ before query after, query.forces = true →
      asked (before ++ query :: after) fresh = fresh.force.2 := by
    intro before query after forcing
    rw [asked_eq]
    simp [forcing]
  refine ⟨fun queries => replies_eq queries fresh, ?_, ?_, ?_, ?_, ?_⟩
  · intro queries spent
    rw [replies_eq] at spent
    obtain ⟨query, _, reply⟩ := List.mem_map.mp spent
    obtain ⟨_, _, course, _⟩ := force_watched unasked unspent [] []
    cases forcing : query.forces with
    | false =>
        rw [ask_idle fresh forcing] at reply
        cases reply
    | true =>
        rw [ask_eq fresh forcing] at reply
        cases built : fresh.force.1 with
        | error fault =>
            rw [built] at reply
            cases reply
            exact course.supplied built
        | ok inventory =>
            -- Once everything is found, a question can only miss what it asks for.
            rw [built] at reply
            obtain ⟨_, missing⟩ := Query.answer_fault reply
            cases missing
  · intro queries
    rw [asked_eq]
    cases queries.any Query.forces with
    | true => exact isBuilt_force fresh
    | false =>
        rw [if_neg Bool.false_ne_true, isBuilt, unasked]
        rfl
  · intro before idle
    rw [asked_eq, idle, if_neg Bool.false_ne_true]
  · intro before query after _ forcing
    rw [forced before query after forcing, state_ask, if_pos forcing]
  · intro before query after forcing
    rw [forced before query after forcing, outcome_force]

/-- Whatever a new catalog is asked, every reply is the one the question would have had as the
first, and everything is done for the first question that forces the build. Watching changes no
reply: the records are empty until then, and hold one build ever after. -/
theorem history_irrelevant (config : Config) (stream : σ) (binder : β) (resolve : Resolver) :
    OneShot (ofSources config stream binder resolve) ∧
      OneShot ((ofSources config stream binder resolve).watched [] []) ∧
        ∃ reads deeds,
          Course config resolve reads deeds (ofSources config stream binder resolve).force.1 ∧
            ∀ queries,
              replies queries ((ofSources config stream binder resolve).watched [] []) =
                  replies queries (ofSources config stream binder resolve) ∧
                asked queries ((ofSources config stream binder resolve).watched [] []) =
                  if queries.any Query.forces then
                    (asked queries (ofSources config stream binder resolve)).watched reads deeds
                  else (ofSources config stream binder resolve).watched [] [] := by
  have unasked : (ofSources config stream binder resolve).outcome = none := rfl
  have unspent : (ofSources config stream binder resolve).spent = false := rfl
  obtain ⟨reads, deeds, course, recorded⟩ := force_watched unasked unspent [] []
  refine ⟨oneShot_of_unasked unasked unspent, oneShot_of_unasked rfl rfl, reads, deeds, course, ?_⟩
  intro queries
  constructor
  · rw [replies_eq, replies_eq]
    apply List.map_congr_left
    intro query _
    cases forcing : query.forces with
    | true => rw [ask_eq _ forcing, ask_eq _ forcing, recorded]
    | false => rw [ask_idle _ forcing, ask_idle _ forcing]
  · rw [asked_eq, asked_eq, recorded]
    cases queries.any Query.forces <;> rfl

end Catalog

end TypeAtlas
