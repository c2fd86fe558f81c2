import Mathlib.Data.List.Perm.Subperm
import TypeAtlas.Proofs.Inventory.Steps
import TypeAtlas.Proofs.Naming.Levels

/-!
How deep the recursion of a walk goes, whatever stands at the addresses. A visit that gets past the
table of addresses puts its own address there before it goes on, so that the visits nested in it
find the table larger, and there are only so many addresses. A method puts nothing there, but goes
on to references only. So the recursion ends, and no visit meets the end of its budget.
-/

namespace TypeAtlas.Walk

set_option autoImplicit false

open Relation (TransGen)

/-- The visit to a stop, with a budget for the visits to references. -/
def visitStop (plan : Plan) (budget : Nat) : Stop → Walk → Visit
  | .ref reference => visitRef plan budget reference
  | .method owner signature => visitMethod plan (visitRef plan budget) owner signature

/-- One visit under way: where it was sent, and the walk as it was then. -/
structure Activation where
  stop : Stop
  walk : Walk

/-- The visit gets past the table of addresses. -/
structure Activation.Passes (activation : Activation) (target : Address) : Prop where
  sent : activation.stop = .ref (.address target)
  fresh : target ∉ activation.walk.found.byAddress

/-- The visit has listed a type and goes on below it: to which stops, and from which walk. -/
inductive Enters (plan : Plan) : Activation → List Stop → Walk → Prop where
  | ref {walk : Walk} {target : Address} {type : RuntimeType} {name : String} {names : NameCache} :
      target ∉ walk.found.byAddress → plan.describe target = .ok type →
        nameType plan type walk = (.ok name, walk.withNames names) → name ∉ walk.found.types →
          Enters plan ⟨.ref (.address target), walk⟩ (stops type)
            ((walk.reached target name names).listType name type)
  | method {walk : Walk} {owner target : Address} {method : RuntimeType} {name : String}
      {names : NameCache} :
      CallForm plan.describe owner target method →
        nameType plan method walk = (.ok name, walk.withNames names) → name ∉ walk.found.types →
          Enters plan ⟨.method owner (.address target), walk⟩ (stops (listed method name))
            ((walk.withNames names).listType name (listed method name))

/-- The walk after visits to these stops, one after another. -/
def passing (plan : Plan) (stops : List Stop) (walk : Walk) : Walk :=
  stops.foldl (fun walk stop => (visitStop plan addressCount stop walk).2) walk

/-- One visit directly starts another: it goes on below a type, and has been to the stops before. -/
inductive Opens (plan : Plan) : Activation → Activation → Prop where
  | mk {outer : Activation} {before after : List Stop} {stop : Stop} {walk : Walk} :
      Enters plan outer (before ++ stop :: after) walk →
        Opens plan outer ⟨stop, passing plan before walk⟩

/-- The walk is the same, or one more failure is recorded. -/
def Closes (plan : Plan) (walk later : Walk) : Prop :=
  later = walk ∨ ∃ failure, later = walk.recordFailure plan failure

/-- Nothing was listed and no failure was recorded. -/
structure Idle (walk later : Walk) : Prop where
  extended : Extends walk later
  types : later.found.types = walk.found.types
  failures : later.found.failures = walk.found.failures

/-- A visit came to its end: it told of nothing, and put no address into the table but one where it
had read a descriptor. -/
structure Rests (plan : Plan) (walk later : Walk) : Prop extends Idle walk later where
  events : later.events = walk.events
  known : ∀ address ∈ later.found.byAddress, address ∈ walk.found.byAddress ∨
    ∃ type, plan.describe address = .ok type

/-- What a visit comes to, with every budget: it goes on below a type and then closes, or it has
come to its end. -/
structure Course (plan : Plan) (activation : Activation) (visit : Nat → Visit) : Prop where
  entered : ∀ below between, Enters plan activation below between →
    ∃ close : Visit → Visit, (∀ after, Closes plan after.2 (close after).2) ∧
      ∀ budget, visit budget = close (visitEach (visitStop plan budget) below (none, between))
  ended : (∀ below between, ¬Enters plan activation below between) →
    ∃ after, Idle activation.walk after.2 ∧ ∀ budget, visit budget = after

variable {plan : Plan} {walk : Walk}

theorem nameType_keeps (plan : Plan) (type : RuntimeType) (walk : Walk) :
    ∃ result names, nameType plan type walk = (result, walk.withNames names) :=
  ⟨_, _, rfl⟩

theorem rests_withNames (names : NameCache) (walk : Walk) :
    Rests plan walk (walk.withNames names) :=
  ⟨⟨extends_withNames names walk, rfl, rfl⟩, rfl, fun _ member => Or.inl member⟩

theorem rests_refl (walk : Walk) : Rests plan walk walk := rests_withNames walk.names walk

theorem rests_reached {target : Address} {type : RuntimeType} {name : String}
    (fresh : target ∉ walk.found.byAddress) (described : plan.describe target = .ok type)
    (names : NameCache) : Rests plan walk (walk.reached target name names) := by
  refine ⟨⟨extends_reached fresh name names, rfl, rfl⟩, rfl, ?_⟩
  intro address member
  rcases Std.TreeMap.mem_insert.mp member with same | before
  · cases Std.LawfulEqOrd.eq_of_compare same
    exact Or.inr ⟨type, described⟩
  · exact Or.inl before

theorem closes_refl (walk : Walk) : Closes plan walk walk := Or.inl rfl

/-! ### One visit -/

theorem visitParts_eq (budget : Nat) {type : RuntimeType} (bare : receivers type = []) :
    visitParts (visitRef plan budget) type walk =
      visitEach (visitStop plan budget) (stops type) (none, walk) := by
  unfold visitParts visitEach stops
  rw [bare, List.map_nil, List.append_nil, List.foldl_map]
  rfl

theorem visitBelow_eq (budget : Nat) (type : RuntimeType) :
    visitBelow plan (visitRef plan budget) type walk =
      visitEach (visitStop plan budget) (stops type) (none, walk) := by
  unfold visitBelow visitParts visitEach stops
  rw [List.foldl_append, List.foldl_map, List.foldl_map]
  rfl

theorem method_entered {owner : Address} {signature : TypeRef} {below : List Stop}
    {between : Walk} (enters : Enters plan ⟨.method owner signature, walk⟩ below between)
    (budget : Nat) : visitStop plan budget (.method owner signature) walk =
      visitEach (visitStop plan budget) below (none, between) := by
  cases enters with
  | @method _ owner target method name names form named free =>
      obtain ⟨described, shape⟩ := form
      have missing : ¬(walk.withNames names).found.types.contains name := free
      show visitMethod plan (visitRef plan budget) owner (.address target) walk = _
      simp only [visitMethod, described, shape, methodType, named, if_neg missing]
      exact visitParts_eq budget rfl

theorem method_rests {owner : Address} {signature : TypeRef}
    (none_below : ∀ below between, ¬Enters plan ⟨.method owner signature, walk⟩ below between) :
    ∃ after, Rests plan walk after.2 ∧
      ∀ budget, visitStop plan budget (.method owner signature) walk = after := by
  cases signature with
  | opaquePointer => exact ⟨_, rests_refl walk, fun _ => rfl⟩
  | address target =>
      have unfolded : ∀ budget, visitStop plan budget (.method owner (.address target)) walk =
          visitMethod plan (visitRef plan budget) owner (.address target) walk := fun _ => rfl
      simp only [unfolded, visitMethod]
      cases described : plan.describe target with
      | error reason => exact ⟨_, rests_refl walk, fun _ => rfl⟩
      | ok stored =>
          dsimp only
          split
          · rename_i params results variadic shape
            obtain ⟨result, names, named⟩ :=
              nameType_keeps plan (methodType owner stored params results variadic) walk
            simp only [named]
            cases result with
            | error reason => exact ⟨_, rests_withNames names walk, fun _ => rfl⟩
            | ok name =>
                by_cases taken : name ∈ walk.found.types
                · have contained : (walk.withNames names).found.types.contains name := taken
                  simp only [if_pos contained]
                  exact ⟨_, rests_withNames names walk, fun _ => rfl⟩
                · exact absurd (.method (.mk described shape) named taken) (none_below _ _)
          · exact ⟨_, rests_refl walk, fun _ => rfl⟩

theorem method_course (owner : Address) (signature : TypeRef) (walk : Walk) :
    Course plan ⟨.method owner signature, walk⟩
      fun budget => visitStop plan budget (.method owner signature) walk := by
  constructor
  · intro below between enters
    exact ⟨id, fun _ => closes_refl _, method_entered enters⟩
  · intro none_below
    obtain ⟨after, rests, same⟩ := method_rests none_below
    exact ⟨after, rests.toIdle, same⟩

/-- A failure below is recorded for the type, and is not handed up. -/
def blame (plan : Plan) (target : Address) (type : RuntimeType) (name : String) : Visit → Visit
  | (none, after) => (none, after)
  | (some reason, after) =>
      (none, after.recordFailure plan ⟨name, some target, type.repr, reason⟩)

theorem blame_closes (plan : Plan) (target : Address) (type : RuntimeType) (name : String)
    (after : Visit) : Closes plan after.2 (blame plan target type name after).2 := by
  rcases after with ⟨reason | reason, after⟩
  · exact closes_refl after
  · exact Or.inr ⟨_, rfl⟩

theorem ref_entered {target : Address} {type : RuntimeType} {name : String} {names : NameCache}
    (fresh : target ∉ walk.found.byAddress) (described : plan.describe target = .ok type)
    (named : nameType plan type walk = (.ok name, walk.withNames names))
    (free : name ∉ walk.found.types) (budget : Nat) :
    visitStop plan (budget + 1) (.ref (.address target)) walk =
      blame plan target type name (visitEach (visitStop plan budget) (stops type)
        (none, (walk.reached target name names).listType name type)) := by
  have unvisited : ¬walk.found.byAddress.contains target := fresh
  have missing : ¬((walk.withNames names).listAddress target name).found.types.contains name :=
    free
  show visitRef plan (budget + 1) (.address target) walk = _
  rw [visitRef, if_neg unvisited, described]
  simp only [named]
  rw [if_neg missing, visitBelow_eq]
  rfl

theorem ref_rests {target : Address}
    (none_below : ∀ below between, ¬Enters plan ⟨.ref (.address target), walk⟩ below between) :
    ∃ after, Rests plan walk after.2 ∧
      ∀ budget, visitStop plan (budget + 1) (.ref (.address target)) walk = after := by
  have unfolded : ∀ budget, visitStop plan (budget + 1) (.ref (.address target)) walk =
      visitRef plan (budget + 1) (.address target) walk := fun _ => rfl
  simp only [unfolded, visitRef]
  by_cases been : target ∈ walk.found.byAddress
  · have contained : walk.found.byAddress.contains target := been
    simp only [if_pos contained]
    exact ⟨_, rests_refl walk, fun _ => rfl⟩
  have fresh : ¬walk.found.byAddress.contains target := been
  simp only [if_neg fresh]
  cases described : plan.describe target with
  | error reason => exact ⟨_, rests_refl walk, fun _ => rfl⟩
  | ok type =>
      obtain ⟨result, names, named⟩ := nameType_keeps plan type walk
      simp only [named]
      cases result with
      | error reason => exact ⟨_, rests_withNames names walk, fun _ => rfl⟩
      | ok name =>
          by_cases taken : name ∈ walk.found.types
          · have contained : ((walk.withNames names).listAddress target name).found.types.contains
                name := taken
            simp only [if_pos contained]
            exact ⟨_, rests_reached been described names, fun _ => rfl⟩
          · exact absurd (.ref been described named taken) (none_below _ _)

/-- A visit to a reference hands one visit less on than it has. -/
theorem ref_course (target : Address) (walk : Walk) :
    Course plan ⟨.ref (.address target), walk⟩
      fun budget => visitStop plan (budget + 1) (.ref (.address target)) walk := by
  constructor
  · intro below between enters
    cases enters with
    | @ref _ target type name names fresh described named free =>
        exact ⟨blame plan target type name, blame_closes plan target type name,
          ref_entered fresh described named free⟩
  · intro none_below
    obtain ⟨after, rests, same⟩ := ref_rests none_below
    exact ⟨after, rests.toIdle, same⟩

/-! ### Tables grow on the way down -/

theorem size_le_of_extends {later : Walk} (extended : Extends walk later) :
    walk.found.byAddress.size ≤ later.found.byAddress.size := by
  have kept : walk.found.byAddress.keys ⊆ later.found.byAddress.keys := by
    intro address member
    rw [Std.TreeMap.mem_keys] at member ⊢
    exact extends_addresses extended member
  have fewer := (Std.TreeMap.nodup_keys.subperm kept).length_le
  rwa [Std.TreeMap.length_keys, Std.TreeMap.length_keys] at fewer

theorem size_lt_of_new {later : Walk} (extended : Extends walk later) {target : Address}
    (fresh : target ∉ walk.found.byAddress) (found : target ∈ later.found.byAddress) :
    walk.found.byAddress.size < later.found.byAddress.size := by
  have distinct : (target :: walk.found.byAddress.keys).Nodup := by
    refine List.nodup_cons.mpr ⟨?_, Std.TreeMap.nodup_keys⟩
    rw [Std.TreeMap.mem_keys]
    exact fresh
  have kept : target :: walk.found.byAddress.keys ⊆ later.found.byAddress.keys := by
    intro address member
    rw [Std.TreeMap.mem_keys]
    rcases List.mem_cons.mp member with rfl | earlier
    · exact found
    · exact extends_addresses extended (Std.TreeMap.mem_keys.mp earlier)
  have fewer := (distinct.subperm kept).length_le
  rwa [List.length_cons, Std.TreeMap.length_keys, Std.TreeMap.length_keys] at fewer

theorem enters_extend {activation : Activation} {below : List Stop} {between : Walk}
    (enters : Enters plan activation below between) : Extends activation.walk between := by
  cases enters with
  | @ref walk target type name names fresh _ _ free =>
      have unlisted : name ∉ (walk.reached target name names).found.types := free
      exact extends_trans (extends_reached fresh name names) (extends_listType unlisted type)
  | method _ _ free => exact call_extends _ free _

theorem enters_target {activation : Activation} {below : List Stop} {between : Walk}
    (enters : Enters plan activation below between) {target : Address}
    (sent : activation.stop = .ref (.address target)) :
    target ∉ activation.walk.found.byAddress ∧ target ∈ between.found.byAddress := by
  cases enters with
  | ref fresh _ _ _ =>
      cases sent
      exact ⟨fresh, Std.TreeMap.mem_insert_self⟩
  | method _ _ _ => cases sent

/-- Below a method there are references only. -/
theorem enters_method {owner : Address} {signature : TypeRef} {below : List Stop} {between : Walk}
    (enters : Enters plan ⟨.method owner signature, walk⟩ below between) :
    ∀ stop ∈ below, ∃ reference, stop = .ref reference := by
  intro stop member
  cases enters with
  | method form _ _ =>
      rcases mem_stops.mp member with ⟨part, _, rfl⟩ | ⟨_, _, claims, _⟩
      · exact ⟨part, rfl⟩
      · rw [unplaced_listed form] at claims
        cases claims

theorem visitEach_extends {α : Type} {visit : α → Walk → Visit} {items : List α}
    (extend : ∀ item ∈ items, ∀ walk, Extends walk (visit item walk).2) (before : Visit) :
    Extends before.2 (visitEach visit items before).2 := by
  induction items generalizing before with
  | nil => exact extends_refl before.2
  | cons item items ih =>
      have first := extend item List.mem_cons_self before.2
      have rest := ih (fun item member => extend item (List.mem_cons_of_mem _ member))
        (before.1.or (visit item before.2).1, (visit item before.2).2)
      exact extends_trans first rest

theorem closes_extends {later : Walk} (closes : Closes plan walk later) : Extends walk later := by
  rcases closes with rfl | ⟨failure, rfl⟩
  · exact extends_refl later
  · exact extends_recordFailure plan failure walk

/-- What a visit does keeps the tables, if the visits below do. -/
theorem course_extends {activation : Activation} {visit : Nat → Visit} {budget : Nat}
    (course : Course plan activation visit)
    (below : ∀ stops between, Enters plan activation stops between → ∀ stop ∈ stops, ∀ walk,
      Extends walk (visitStop plan budget stop walk).2) :
    Extends activation.walk (visit budget).2 := by
  by_cases entering : ∃ stops between, Enters plan activation stops between
  · obtain ⟨stops, between, enters⟩ := entering
    obtain ⟨close, closes, same⟩ := course.entered stops between enters
    have passed := visitEach_extends (below stops between enters) (none, between)
    rw [same]
    exact extends_trans (enters_extend enters) (extends_trans passed (closes_extends (closes _)))
  · obtain ⟨after, idle, same⟩ :=
      course.ended fun stops between enters => entering ⟨stops, between, enters⟩
    rw [same]
    exact idle.extended

/-- The order in which the recursion goes down: a method hands its budget on to references, and a
reference hands on one visit less. -/
theorem by_budget (holds : Nat → Stop → Prop)
    (placeholder : ∀ budget, holds budget (.ref .opaquePointer))
    (spent : ∀ target, holds 0 (.ref (.address target)))
    (reference : ∀ budget target, (∀ stop, holds budget stop) →
      holds (budget + 1) (.ref (.address target)))
    (method : ∀ budget owner signature, (∀ reference, holds budget (.ref reference)) →
      holds budget (.method owner signature)) (budget : Nat) :
    ∀ stop, holds budget stop := by
  have all : ∀ budget, (∀ target, holds budget (.ref (.address target))) →
      ∀ stop, holds budget stop := by
    intro budget addresses stop
    have references : ∀ reference, holds budget (.ref reference) := by
      intro reference
      cases reference with
      | opaquePointer => exact placeholder budget
      | address target => exact addresses target
    cases stop with
    | ref target => exact references target
    | method owner signature => exact method budget owner signature references
  induction budget with
  | zero => exact all 0 spent
  | succ budget ih => exact all (budget + 1) fun target => reference budget target ih

theorem visit_placeholder (budget : Nat) (walk : Walk) :
    visitStop plan budget (.ref .opaquePointer) walk = (none, walk) := by
  cases budget <;> rfl

theorem visitStop_extends (plan : Plan) (budget : Nat) (stop : Stop) :
    ∀ walk, Extends walk (visitStop plan budget stop walk).2 := by
  refine by_budget (fun budget stop => ∀ walk, Extends walk (visitStop plan budget stop walk).2)
    ?_ ?_ ?_ ?_ budget stop
  · intro budget walk
    rw [visit_placeholder]
    exact extends_refl walk
  · exact fun _ walk => extends_refl walk
  · intro budget target below walk
    exact course_extends (ref_course target walk) fun _ _ _ stop _ => below stop
  · intro budget owner signature references walk
    apply course_extends (method_course owner signature walk)
    intro below between enters stop member
    obtain ⟨reference, rfl⟩ := enters_method enters stop member
    exact references reference

/-! ### No budget is spent -/

/-- The budget is for as many visits as there are addresses that the walk has not been to. -/
def Covered (budget : Nat) (walk : Walk) : Prop :=
  addressCount ≤ walk.found.byAddress.size + budget

theorem covered_later {budget : Nat} {later : Walk} (covered : Covered budget walk)
    (extended : Extends walk later) : Covered budget later := by
  have grown := size_le_of_extends extended
  unfold Covered at covered ⊢
  omega

theorem visitEach_congr {α : Type} {left right : α → Walk → Visit} {holds : Walk → Prop}
    (kept : ∀ item walk, holds walk → holds (right item walk).2) {items : List α}
    (same : ∀ item ∈ items, ∀ walk, holds walk → left item walk = right item walk) (before : Visit)
    (held : holds before.2) : visitEach left items before = visitEach right items before := by
  induction items generalizing before with
  | nil => rfl
  | cons item items ih =>
      have first := same item List.mem_cons_self before.2 held
      have rest := ih (fun item member => same item (List.mem_cons_of_mem _ member))
        (before.1.or (right item before.2).1, (right item before.2).2) (kept item before.2 held)
      unfold visitEach at rest ⊢
      rw [List.foldl_cons, List.foldl_cons, first]
      exact rest

/-- A visit makes the same of two budgets, if the visits below do. -/
theorem course_same {activation : Activation} {visit : Nat → Visit} {budget more : Nat}
    (course : Course plan activation visit)
    (below : ∀ stops between, Enters plan activation stops between → Covered budget between ∧
      ∀ stop ∈ stops, ∀ walk, Covered budget walk →
        visitStop plan more stop walk = visitStop plan budget stop walk) :
    visit more = visit budget := by
  by_cases entering : ∃ stops between, Enters plan activation stops between
  · obtain ⟨stops, between, enters⟩ := entering
    obtain ⟨close, _, same⟩ := course.entered stops between enters
    obtain ⟨covered, agree⟩ := below stops between enters
    have kept : ∀ stop walk, Covered budget walk →
        Covered budget (visitStop plan budget stop walk).2 :=
      fun stop walk held => covered_later held (visitStop_extends plan budget stop walk)
    rw [same, same, visitEach_congr kept agree (none, between) covered]
  · obtain ⟨after, _, same⟩ :=
      course.ended fun stops between enters => entering ⟨stops, between, enters⟩
    rw [same, same]

/-- One visit more in the budget changes nothing. -/
theorem visitStop_succ (plan : Plan) (budget : Nat) (stop : Stop) :
    ∀ walk, Covered budget walk →
      visitStop plan (budget + 1) stop walk = visitStop plan budget stop walk := by
  refine by_budget (fun budget stop => ∀ walk, Covered budget walk →
    visitStop plan (budget + 1) stop walk = visitStop plan budget stop walk) ?_ ?_ ?_ ?_ budget stop
  · intro budget walk _
    rw [visit_placeholder, visit_placeholder]
  · intro target walk covered
    -- Nothing is left of the budget, so the table holds every address there is.
    have been : walk.found.byAddress.contains target := mem_of_full covered target
    show visitRef plan 1 (.address target) walk = (none, walk)
    rw [visitRef, if_pos been]
  · intro budget target agree walk covered
    refine course_same (ref_course target walk) ?_
    intro stops between enters
    refine ⟨?_, fun stop _ => agree stop⟩
    obtain ⟨fresh, found⟩ := enters_target enters rfl
    have grown : walk.found.byAddress.size < between.found.byAddress.size :=
      size_lt_of_new (enters_extend enters) fresh found
    unfold Covered at covered ⊢
    omega
  · intro budget owner signature agree walk covered
    refine course_same (method_course owner signature walk) ?_
    intro stops between enters
    refine ⟨covered_later covered (enters_extend enters), ?_⟩
    intro stop member
    obtain ⟨reference, rfl⟩ := enters_method enters stop member
    exact agree reference

theorem visitStop_add (plan : Plan) (budget more : Nat) (stop : Stop) {walk : Walk}
    (covered : Covered budget walk) :
    visitStop plan (budget + more) stop walk = visitStop plan budget stop walk := by
  induction more with
  | zero => rfl
  | succ more ih =>
      have later : Covered (budget + more) walk := by
        unfold Covered at covered ⊢
        omega
      rw [← Nat.add_assoc, visitStop_succ plan (budget + more) stop walk later, ih]

theorem visitStop_unspent (plan : Plan) {budget : Nat} (stop : Stop) {walk : Walk}
    (covered : Covered budget walk) :
    visitStop plan budget stop walk = visitStop plan addressCount stop walk := by
  have whole : Covered addressCount walk := Nat.le_add_left addressCount _
  have more := visitStop_add plan budget addressCount stop covered
  have again := visitStop_add plan addressCount budget stop whole
  rw [Nat.add_comm] at again
  exact more.symm.trans again

/-! ### Visits within visits -/

theorem passing_extends (plan : Plan) (before : List Stop) (walk : Walk) :
    Extends walk (passing plan before walk) := by
  induction before generalizing walk with
  | nil => exact extends_refl walk
  | cons stop before ih =>
      exact extends_trans (visitStop_extends plan addressCount stop walk) (ih _)

theorem visitEach_passing (plan : Plan) (stops : List Stop) (before : Visit) :
    (visitEach (visitStop plan addressCount) stops before).2 = passing plan stops before.2 := by
  induction stops generalizing before with
  | nil => rfl
  | cons stop stops ih => exact ih (before.1.or _, (visitStop plan addressCount stop before.2).2)

theorem opens_extend {outer inner : Activation} (opens : Opens plan outer inner) :
    Extends outer.walk inner.walk := by
  cases opens with
  | mk enters => exact extends_trans (enters_extend enters) (passing_extends plan _ _)

theorem opens_target {outer inner : Activation} (opens : Opens plan outer inner) {target : Address}
    (sent : outer.stop = .ref (.address target)) :
    target ∉ outer.walk.found.byAddress ∧ target ∈ inner.walk.found.byAddress := by
  cases opens with
  | mk enters =>
      obtain ⟨fresh, found⟩ := enters_target enters sent
      exact ⟨fresh, extends_addresses (passing_extends plan _ _) found⟩

theorem opens_method {owner : Address} {signature : TypeRef} {inner : Activation}
    (opens : Opens plan ⟨.method owner signature, walk⟩ inner) :
    ∃ reference, inner.stop = .ref reference := by
  cases opens with
  | mk enters => exact enters_method enters _ (by simp)

/-- How far down the recursion can still go: two visits for each address that is not in the table,
and one more for a method. -/
def Activation.room (activation : Activation) : Nat :=
  2 * (addressCount - activation.walk.found.byAddress.size) + match activation.stop with
    | .ref _ => 0
    | .method _ _ => 1

theorem opens_room {outer inner : Activation} (opens : Opens plan outer inner) :
    inner.room < outer.room := by
  have kept := size_le_of_extends (opens_extend opens)
  have bound := size_le_addressCount inner.walk.found.byAddress
  obtain ⟨stop, walk⟩ := outer
  cases stop with
  | ref reference =>
      cases reference with
      | opaquePointer => cases opens with | mk enters => cases enters
      | address target =>
          obtain ⟨fresh, found⟩ := opens_target opens rfl
          have grown := size_lt_of_new (opens_extend opens) fresh found
          simp only [Activation.room] at grown ⊢
          split <;> omega
  | method owner signature =>
      obtain ⟨reference, sent⟩ := opens_method opens
      simp only [Activation.room, sent] at kept ⊢
      omega

theorem opens_wellFounded (plan : Plan) :
    WellFounded fun inner outer => Opens plan outer inner :=
  Subrelation.wf opens_room (measure Activation.room).wf

theorem nested_extend {outer inner : Activation} (nested : TransGen (Opens plan) outer inner) :
    Extends outer.walk inner.walk := by
  induction nested with
  | single opens => exact opens_extend opens
  | tail _ opens ih => exact extends_trans ih (opens_extend opens)

theorem nested_target {outer inner : Activation} (nested : TransGen (Opens plan) outer inner)
    {target : Address} (sent : outer.stop = .ref (.address target)) :
    target ∈ inner.walk.found.byAddress := by
  induction nested with
  | single opens => exact (opens_target opens sent).2
  | tail _ opens ih => exact extends_addresses (opens_extend opens) ih

/-- Every visit has a course, with a budget that covers all addresses as with any other. -/
theorem visit_course (plan : Plan) (activation : Activation) : ∃ visit,
    Course plan activation visit ∧
      visit addressCount = visitStop plan addressCount activation.stop activation.walk := by
  obtain ⟨stop, walk⟩ := activation
  cases stop with
  | ref reference =>
      cases reference with
      | opaquePointer =>
          refine ⟨fun _ => (none, walk), ⟨?_, ?_⟩, (visit_placeholder addressCount walk).symm⟩
          · intro below between enters
            cases enters
          · exact fun _ => ⟨_, (@rests_refl plan walk).toIdle, fun _ => rfl⟩
      | address target =>
          have covered : Covered addressCount walk := Nat.le_add_left addressCount _
          exact ⟨_, ref_course target walk, visitStop_succ plan addressCount _ walk covered⟩
  | method owner signature => exact ⟨_, method_course owner signature walk, rfl⟩

theorem visit_idle {activation : Activation}
    (none_below : ∀ below between, ¬Enters plan activation below between) :
    Idle activation.walk (visitStop plan addressCount activation.stop activation.walk).2 := by
  obtain ⟨visit, course, whole⟩ := visit_course plan activation
  obtain ⟨after, idle, same⟩ := course.ended none_below
  rw [← whole, same]
  exact idle

theorem visit_followed {activation : Activation} {below : List Stop} {between : Walk}
    (enters : Enters plan activation below between) :
    Closes plan (passing plan below between)
      (visitStop plan addressCount activation.stop activation.walk).2 := by
  obtain ⟨visit, course, whole⟩ := visit_course plan activation
  obtain ⟨close, closes, same⟩ := course.entered below between enters
  have passed := closes (visitEach (visitStop plan addressCount) below (none, between))
  rw [visitEach_passing] at passed
  rw [← whole, same]
  exact passed

/-- The recursion of a walk ends. It is what the visits go through, with any budget that covers the
addresses the walk has not been to. Whatever is nested in a visit that got past the table of
addresses finds the address of that visit there, and a method has no methods right below it. -/
structure Ends (plan : Plan) : Prop where
  unspent : ∀ budget stop walk, Covered budget walk →
    visitStop plan budget stop walk = visitStop plan addressCount stop walk
  idle : ∀ outer, (∀ below between, ¬Enters plan outer below between) →
    Idle outer.walk (visitStop plan addressCount outer.stop outer.walk).2
  followed : ∀ outer below between, Enters plan outer below between →
    Closes plan (passing plan below between)
      (visitStop plan addressCount outer.stop outer.walk).2
  grounded : WellFounded fun inner outer => Opens plan outer inner
  grown : ∀ outer inner target, TransGen (Opens plan) outer inner → outer.Passes target →
    target ∈ inner.walk.found.byAddress ∧
      ∀ address ∈ outer.walk.found.byAddress, address ∈ inner.walk.found.byAddress
  belowMethod : ∀ owner signature walk inner, Opens plan ⟨.method owner signature, walk⟩ inner →
    ∃ reference, inner.stop = .ref reference

theorem walk_ends (plan : Plan) : Ends plan where
  unspent _ stop _ covered := visitStop_unspent plan stop covered
  idle _ none_below := visit_idle none_below
  followed _ _ _ enters := visit_followed enters
  grounded := opens_wellFounded plan
  grown _ _ _ nested passes :=
    ⟨nested_target nested passes.sent,
      fun _ member => extends_addresses (nested_extend nested) member⟩
  belowMethod _ _ _ _ opens := opens_method opens

/-- Naming and walking end, whatever the resolver answers. No naming needs more than two levels
above the limit, and the recursion of the walk is well founded. -/
theorem naming_and_walking_end (resolve : Resolver) (links : TypeLinks) (config : Config)
    (bounded : config.maxNameDepth < 2 ^ 64 - 1) :
    Naming.FitsStack (resolve links.sections) config.maxNameDepth (config.maxNameDepth + 2) ∧
      Ends (planOf resolve links config) :=
  ⟨Naming.fits_stack (resolve links.sections) bounded (Nat.le_refl _),
    walk_ends (planOf resolve links config)⟩

/-- At every address a struct whose field leads to the next one, through the whole address space
and round again, with itself as the signature of a method. All of them claim the null address. -/
def endlessChain : Resolver := fun _ address =>
  .ok ⟨some .null, .struct, 8, some s!"Link{address}", none, s!"Link{address}",
    .struct [⟨"next", .address (address + 1), 0, false⟩] [⟨"Self", some (.address address)⟩]⟩

theorem naming_and_walking_end_over_endless_chain :
    (({} : Config).maxNameDepth < 2 ^ 64 - 1) ∧
      Naming.FitsStack (endlessChain [⟨4096⟩]) 64 66 ∧
        Ends (planOf endlessChain ⟨[⟨4096⟩], [[0, 1]]⟩ {}) :=
  ⟨by decide, naming_and_walking_end endlessChain ⟨[⟨4096⟩], [[0, 1]]⟩ {} (by decide)⟩

end TypeAtlas.Walk
