import TypeAtlas.Proofs.Naming.Answers

/-!
Naming beside the same recursion with nothing remembered. Whatever is remembered was found by the
plain recursion at some depth, so that it may spare a naming the levels below it, and it changes
nothing else: an answer is the plain one, unless the plain recursion is stopped by its limit, and
an answer that is no such stop is what the plain recursion gives if it may go deeper.
-/

namespace TypeAtlas.Naming

set_option autoImplicit false

section Spelled

variable {m n : Type → Type} [Monad m] [Monad n] [LawfulMonad m] [LawfulMonad n]
  {relate : (α : Type) → m α → n α → Prop} {α β : Type} {left : α → m β} {right : α → n β}

/-- A spelling names its parts in one order, whatever kind of computation names them. -/
theorem carried_spelling (carried : Carried relate)
    (each : ∀ part, relate β (left part) (right part)) (spelling : Spelling α) :
    relate (Spelling β) (spelling.mapM left) (spelling.mapM right) := by
  cases spelling with
  | verbatim text => exact carried.pure _
  | pointer elem | slice elem | array length elem | chan dir elem =>
      exact carried_build carried (each elem) _
  | map key elem =>
      exact carried.bind (each key) fun keyName => carried_build carried (each elem) _
  | func params results variadic =>
      apply carried.bind (carried_list carried each params)
      intro paramNames
      exact carried_build carried (carried_list carried each results) _
  | struct fields =>
      have eachField : ∀ field : String × α, relate (String × β)
          (left field.2 >>= fun name => pure (field.1, name))
          (right field.2 >>= fun name => pure (field.1, name)) :=
        fun field => carried_build carried (each field.2) _
      exact carried_build carried (carried_list carried eachField fields) _

end Spelled

section Recursion

variable (describe : Address → Except DescriptorFault RuntimeType) (limit : Nat)

def plainRefWith (nameType : RuntimeType → Except DescriptorFault String) :
    TypeRef → Except DescriptorFault String
  | .opaquePointer => .ok opaquePointerName
  | .address target => do
      let type ← describe target
      nameType type

/-- The recursion through at most `levels` levels that remembers nothing. -/
def plainWithin : Nat → RuntimeType → Except DescriptorFault String
  | 0, _ => .error (.nameTooDeep limit)
  | levels + 1, type => do
      let spelled ← type.spelling.mapM (plainRefWith describe (plainWithin levels))
      return spelled.render

/-- The plain recursion on whatever may be asked for, through at most `levels` levels. -/
def plainAsk (levels : Nat) : Nameable → Except DescriptorFault String
  | .type type => plainWithin describe limit levels type
  | .ref reference => plainRefWith describe (plainWithin describe limit levels) reference

end Recursion

/-- Stopped by the limit on nesting. -/
def TooDeep (limit : Nat) {α : Type} (answer : Except DescriptorFault α) : Prop :=
  answer = .error (.nameTooDeep limit)

/-- How an answer compares to the plain recursion under the same limit, which is that on the
levels below the outermost one, and under higher limits. -/
structure AgreesWithPlain (describe : Address → Except DescriptorFault RuntimeType) (limit : Nat)
    (subject : Nameable) (answer : Except DescriptorFault String) : Prop where
  exact : ¬TooDeep limit (plainAsk describe limit (limit + 1) subject) →
    answer = plainAsk describe limit (limit + 1) subject
  deeper : ¬TooDeep limit answer →
    ∃ levels, limit < levels ∧ answer = plainAsk describe limit levels subject

variable {describe : Address → Except DescriptorFault RuntimeType} {limit : Nat}

/-- An answer that the limit had no part in is given again. -/
def Stays (limit : Nat) {α : Type} (first later : Except DescriptorFault α) : Prop :=
  ¬TooDeep limit first → later = first

theorem not_tooDeep_ok {α : Type} (value : α) :
    ¬TooDeep limit (.ok value : Except DescriptorFault α) := by
  intro stopped
  cases stopped

theorem tooDeep_bind {α β : Type} {first : Except DescriptorFault α}
    (stopped : TooDeep limit first) (next : α → Except DescriptorFault β) :
    TooDeep limit (first >>= next) := by
  unfold TooDeep at stopped
  rw [stopped]
  rfl

theorem carried_stays :
    Carried (m := Except DescriptorFault) (n := Except DescriptorFault) fun _ => Stays limit := by
  constructor
  · intro α value _
    rfl
  · intro α β first later firstNext laterNext stays next settled
    rw [stays fun stopped => settled (tooDeep_bind stopped firstNext)]
    cases first with
    | error fault => rfl
    | ok value => exact next value settled

theorem plainRef_stays {first later : RuntimeType → Except DescriptorFault String}
    (stays : ∀ type, Stays limit (first type) (later type)) (reference : TypeRef) :
    Stays limit (plainRefWith describe first reference)
      (plainRefWith describe later reference) := by
  cases reference with
  | opaquePointer => exact fun _ => rfl
  | address target =>
      apply carried_stays.bind
      · exact fun _ => rfl
      · exact stays

/-- Where the limit had no part in it, going deeper changes nothing. -/
theorem plainWithin_stays (levels : Nat) :
    ∀ more, levels ≤ more → ∀ type,
      Stays limit (plainWithin describe limit levels type)
        (plainWithin describe limit more type) := by
  induction levels with
  | zero =>
      intro more _ type settled
      exact absurd rfl settled
  | succ levels ih =>
      intro more below type
      cases more with
      | zero => omega
      | succ more =>
          have parts : ∀ reference,
              Stays limit (plainRefWith describe (plainWithin describe limit levels) reference)
                (plainRefWith describe (plainWithin describe limit more) reference) :=
            plainRef_stays (ih more (by omega))
          have spelled := carried_spelling carried_stays parts type.spelling
          exact carried_build carried_stays spelled Spelling.render

/-- The plain recursion as a computation that is told how many levels it may go through. -/
abbrev Plain := ReaderT Nat (Except DescriptorFault)

def plainRef (describe : Address → Except DescriptorFault RuntimeType) (limit : Nat)
    (reference : TypeRef) : Plain String :=
  fun levels => plainRefWith describe (plainWithin describe limit levels) reference

theorem carried_levels (levels : Nat) :
    Carried (m := Plain) (n := Except DescriptorFault)
      fun _ plain answer => plain levels = answer := by
  constructor
  · intro α value
    rfl
  · intro α β plain answer plainNext answerNext same next
    subst same
    exact bind_congr next

theorem plainWithin_succ (levels : Nat) (type : RuntimeType) :
    plainWithin describe limit (levels + 1) type =
      (type.spelling.mapM (plainRef describe limit)) levels >>= fun spelled =>
        pure spelled.render := by
  have parts : ∀ reference, plainRef describe limit reference levels =
      plainRefWith describe (plainWithin describe limit levels) reference := fun _ => rfl
  rw [carried_spelling (carried_levels levels) parts type.spelling]
  rfl

/-- Every remembered name is one that the plain recursion finds at some depth. -/
def Recalled (describe : Address → Except DescriptorFault RuntimeType) (limit : Nat)
    (names : NameCache) : Prop :=
  ∀ (address : Address) (name : String), names[address]? = some name →
    ∃ levels, plainRef describe limit (.address address) levels = .ok name

theorem empty_recalled : Recalled describe limit .empty := by
  intro address name found
  have absent : (Std.TreeMap.empty : NameCache)[address]? = none := Std.TreeMap.getElem?_emptyc
  rw [absent] at found
  cases found

theorem insert_recalled {names : NameCache} (recalled : Recalled describe limit names)
    {known : Address} {given : String} {levels : Nat}
    (named : plainRef describe limit (.address known) levels = .ok given) :
    Recalled describe limit (names.insert known given) := by
  intro address name found
  rw [Std.TreeMap.getElem?_insert] at found
  split at found
  · rename_i same
    cases Std.LawfulEqOrd.eq_of_compare same
    cases found
    exact ⟨levels, named⟩
  · exact recalled address name found

/-- What came of a naming beside the plain recursion through `levels` levels. It is the answer of
the recursion where the limit has no part in that, and if it is no stop itself, it is what the
recursion answers at some depth. -/
structure Beside (describe : Address → Except DescriptorFault RuntimeType) (limit levels : Nat)
    {α : Type} (plain : Plain α) (outcome : Except DescriptorFault α × NameCache) : Prop where
  recalled : Recalled describe limit outcome.2
  exact : Stays limit (plain levels) outcome.1
  deeper : ¬TooDeep limit outcome.1 → ∃ depth, plain depth = outcome.1

/-- From every table of recalled names a naming comes out beside the plain recursion, which for
its part gives the same at every depth unless it is stopped. -/
structure Follows (describe : Address → Except DescriptorFault RuntimeType) (limit levels : Nat)
    {α : Type} (naming : Naming α) (plain : Plain α) : Prop where
  stays : ∀ fewer more, fewer ≤ more → Stays limit (plain fewer) (plain more)
  beside : ∀ names, Recalled describe limit names →
    Beside describe limit levels plain (naming.run names)

section Followed

variable {levels : Nat}

/-- A value that is found at some depth is the only one that the recursion gives. -/
theorem beside_found {α : Type} {plain : Plain α}
    (stays : ∀ fewer more, fewer ≤ more → Stays limit (plain fewer) (plain more))
    {names : NameCache} (recalled : Recalled describe limit names) {depth : Nat} {value : α}
    (found : plain depth = .ok value) : Beside describe limit levels plain (.ok value, names) := by
  refine ⟨recalled, ?_, fun _ => ⟨depth, found⟩⟩
  intro unstopped
  have fromDepth := stays depth (max depth levels) (Nat.le_max_left _ _)
  have fromLevels := stays levels (max depth levels) (Nat.le_max_right _ _) unstopped
  rw [found] at fromDepth
  rw [← fromLevels, fromDepth (not_tooDeep_ok value)]

theorem follows_pure {α : Type} (value : α) :
    Follows describe limit levels (pure value) (pure value) := by
  constructor
  · exact fun _ _ _ _ => rfl
  · intro names recalled
    exact ⟨recalled, fun _ => rfl, fun _ => ⟨0, rfl⟩⟩

theorem follows_bind {α β : Type} {first : Naming α} {plain : Plain α} {next : α → Naming β}
    {plainNext : α → Plain β} (begun : Follows describe limit levels first plain)
    (continued : ∀ value, Follows describe limit levels (next value) (plainNext value)) :
    Follows describe limit levels (first >>= next) (plain >>= plainNext) := by
  have unfolded : ∀ depth, (plain >>= plainNext) depth =
      plain depth >>= fun value => plainNext value depth := fun _ => rfl
  constructor
  · intro fewer more below
    apply carried_stays.bind (begun.stays fewer more below)
    intro value
    exact (continued value).stays fewer more below
  intro names recalled
  have beside := begun.beside names recalled
  rw [run_bind]
  rcases run : first.run names with ⟨fault | value, after⟩
  · rw [run] at beside
    refine ⟨beside.recalled, ?_, ?_⟩
    · intro unstopped
      rw [unfolded] at unstopped ⊢
      have same := beside.exact fun stopped => unstopped (tooDeep_bind stopped _)
      rw [← same]
      rfl
    · intro unstopped
      have failed : ¬TooDeep limit (.error fault : Except DescriptorFault α) := by
        intro stopped
        cases stopped
        exact unstopped rfl
      obtain ⟨depth, found⟩ := beside.deeper failed
      refine ⟨depth, ?_⟩
      rw [unfolded, found]
      rfl
  · rw [run] at beside
    have later := (continued value).beside after beside.recalled
    refine ⟨later.recalled, ?_, ?_⟩
    · intro unstopped
      rw [unfolded] at unstopped ⊢
      have same := beside.exact fun stopped => unstopped (tooDeep_bind stopped _)
      rw [← same] at unstopped ⊢
      exact later.exact unstopped
    · intro unstopped
      obtain ⟨depth, found⟩ := beside.deeper (not_tooDeep_ok value)
      obtain ⟨more, same⟩ := later.deeper unstopped
      have foundDeeper := begun.stays depth (max depth more) (Nat.le_max_left _ _)
      have sameDeeper := (continued value).stays more (max depth more) (Nat.le_max_right _ _)
      rw [found] at foundDeeper
      rw [same] at sameDeeper
      refine ⟨max depth more, ?_⟩
      rw [unfolded, foundDeeper (not_tooDeep_ok value)]
      exact sameDeeper unstopped

theorem carried_follows :
    Carried (m := Naming) (n := Plain) fun _ => Follows describe limit levels :=
  ⟨follows_pure, follows_bind⟩

end Followed

theorem plainRef_rises (reference : TypeRef) :
    ∀ fewer more, fewer ≤ more → Stays limit (plainRef describe limit reference fewer)
      (plainRef describe limit reference more) := by
  intro fewer more below
  exact plainRef_stays (plainWithin_stays fewer more below) reference

/-- The plain recursion on a type, at every number of levels. -/
def plainType (describe : Address → Except DescriptorFault RuntimeType) (limit : Nat)
    (type : RuntimeType) : Plain String :=
  fun levels => plainWithin describe limit levels type

theorem plainRef_described {target : Address} {type : RuntimeType}
    (found : describe target = .ok type) (levels : Nat) :
    plainRef describe limit (.address target) levels = plainType describe limit type levels := by
  change (describe target >>= fun type => plainWithin describe limit levels type) = _
  rw [found]
  rfl

theorem follows_ref (placing : Placing describe) {levels : Nat}
    (each : ∀ type, Placed describe type →
      Follows describe limit levels (nameWithin describe limit levels type)
        (plainType describe limit type))
    (reference : TypeRef) :
    Follows describe limit levels
      (nameRefWith describe (nameWithin describe limit levels) reference)
      (plainRef describe limit reference) := by
  cases reference with
  | opaquePointer => exact follows_pure opaquePointerName
  | address target =>
      refine ⟨plainRef_rises _, ?_⟩
      intro names recalled
      cases remembered : names[target]? with
      | some known =>
          rw [run_ref_remembered remembered]
          obtain ⟨depth, found⟩ := recalled target known remembered
          exact beside_found (plainRef_rises _) recalled found
      | none =>
          rw [run_ref_forgotten remembered]
          cases found : describe target with
          | error fault =>
              have failed : ∀ depth,
                  plainRef describe limit (.address target) depth = .error fault := by
                intro depth
                change (describe target >>= fun type => plainWithin describe limit depth type) = _
                rw [found]
                rfl
              exact ⟨recalled, fun _ => (failed levels).symm, fun _ => ⟨0, failed 0⟩⟩
          | ok type =>
              have same : ∀ depth, plainRef describe limit (.address target) depth =
                  plainType describe limit type depth := plainRef_described found
              have named := each type (placed_of_described placing found)
              have beside := named.beside names recalled
              refine ⟨beside.recalled, ?_, ?_⟩
              · rw [same]
                exact beside.exact
              · intro unstopped
                obtain ⟨depth, answer⟩ := beside.deeper unstopped
                exact ⟨depth, (same depth).trans answer⟩

/-- Remembering what the recursion finds for a type in its place keeps the names recalled. -/
theorem remember_recalled {names : NameCache} (recalled : Recalled describe limit names)
    {type : RuntimeType} (placed : Placed describe type) {levels : Nat} {name : String}
    (found : plainType describe limit type levels = .ok name) :
    Recalled describe limit ((remember type.address name).run names).2 := by
  unfold remember
  cases claims : type.address with
  | none => exact recalled
  | some known =>
      have named : plainRef describe limit (.address known) levels = .ok name :=
        (plainRef_described (placed known claims) levels).trans found
      exact insert_recalled recalled named

theorem plainType_succ (type : RuntimeType) (levels : Nat) :
    plainType describe limit type (levels + 1) =
      (type.spelling.mapM (plainRef describe limit) >>= fun spelled => pure spelled.render)
        levels :=
  plainWithin_succ levels type

/-- Naming the parts of a type beside the recursion on them goes one level further in. -/
theorem beside_succ {levels : Nat} {type : RuntimeType}
    {outcome : Except DescriptorFault String × NameCache}
    (beside : Beside describe limit levels
      (type.spelling.mapM (plainRef describe limit) >>= fun spelled => pure spelled.render)
      outcome) : Beside describe limit (levels + 1) (plainType describe limit type) outcome := by
  refine ⟨beside.recalled, ?_, ?_⟩
  · rw [plainType_succ]
    exact beside.exact
  · intro unstopped
    obtain ⟨depth, found⟩ := beside.deeper unstopped
    exact ⟨depth + 1, (plainType_succ type depth).trans found⟩

/-- The induction is on the levels left, as that of the recursion is. -/
theorem follows_within (placing : Placing describe) (levels : Nat) :
    ∀ type, Placed describe type →
      Follows describe limit levels (nameWithin describe limit levels type)
        (plainType describe limit type) := by
  induction levels with
  | zero =>
      intro type _
      refine ⟨fun fewer more below => plainWithin_stays fewer more below type, ?_⟩
      intro names recalled
      exact ⟨recalled, fun unstopped => absurd rfl unstopped, fun unstopped => absurd rfl unstopped⟩
  | succ levels ih =>
      intro type placed
      have rises : ∀ fewer more, fewer ≤ more →
          Stays limit (plainType describe limit type fewer) (plainType describe limit type more) :=
        fun fewer more below => plainWithin_stays fewer more below type
      refine ⟨rises, ?_⟩
      intro names recalled
      cases remembered : (type.address.bind fun address => names[address]?) with
      | some known =>
          rw [run_within_remembered remembered]
          obtain ⟨address, claims, held⟩ := Option.bind_eq_some_iff.mp remembered
          obtain ⟨depth, found⟩ := recalled address known held
          rw [plainRef_described (placed address claims)] at found
          exact beside_found rises recalled found
      | none =>
          rw [run_within_forgotten remembered]
          have parts := carried_spelling carried_follows (follows_ref placing ih) type.spelling
          have beside := beside_succ
            ((carried_build carried_follows parts Spelling.render).beside names recalled)
          rw [run_bind] at beside
          rcases run : (type.spelling.mapM
            (nameRefWith describe (nameWithin describe limit levels))).run names with
            ⟨fault | named, after⟩
          · rw [run] at beside
            exact beside
          · rw [run] at beside
            obtain ⟨depth, found⟩ := beside.deeper (not_tooDeep_ok named.render)
            have kept := remember_recalled beside.recalled placed found
            exact ⟨kept, beside.exact, beside.deeper⟩

theorem follows_ask (placing : Placing describe) {subject : Nameable}
    (admitted : Admitted describe subject) :
    Follows describe limit (limit + 1) (ask describe limit subject)
      (fun levels => plainAsk describe limit levels subject) := by
  cases subject with
  | type type => exact follows_within placing (limit + 1) type (placed_of_admitted placing admitted)
  | ref reference => exact follows_ref placing (follows_within placing (limit + 1)) reference

theorem agrees_of_beside {subject : Nameable}
    {outcome : Except DescriptorFault String × NameCache}
    (stays : ∀ fewer more, fewer ≤ more →
      Stays limit (plainAsk describe limit fewer subject) (plainAsk describe limit more subject))
    (beside : Beside describe limit (limit + 1)
      (fun levels => plainAsk describe limit levels subject) outcome) :
    AgreesWithPlain describe limit subject outcome.1 := by
  refine ⟨beside.exact, ?_⟩
  intro unstopped
  obtain ⟨depth, found⟩ := beside.deeper unstopped
  have settled := stays depth (max depth (limit + 1)) (Nat.le_max_left _ _)
  rw [found] at settled
  exact ⟨max depth (limit + 1), by omega, (settled unstopped).symm⟩

theorem answers_follow (placing : Placing describe) (subjects : List Nameable)
    (admitted : ∀ subject ∈ subjects, Admitted describe subject) {names : NameCache}
    (recalled : Recalled describe limit names) :
    List.Forall₂ (AgreesWithPlain describe limit) subjects
      (answers describe limit subjects names) := by
  induction subjects generalizing names with
  | nil => exact .nil
  | cons subject later ih =>
      have follows : Follows describe limit (limit + 1) (ask describe limit subject) _ :=
        follows_ask placing (admitted subject List.mem_cons_self)
      have beside := follows.beside names recalled
      apply List.Forall₂.cons
      · exact agrees_of_beside follows.stays beside
      · apply ih _ beside.recalled
        intro other member
        exact admitted other (List.mem_cons_of_mem _ member)

/-- A spelling is named if each of its parts is. -/
theorem mapM_of_matches {α β ε : Type} {name : α → Except ε β} {spelling : Spelling α}
    {named : Spelling β}
    (spelled : Matches (fun part found => name part = .ok found) spelling named) :
    spelling.mapM name = .ok named := by
  cases spelled with
  | verbatim text => rfl
  | pointer elem | slice elem | array _ elem | chan _ elem =>
      rw [Spelling.mapM, elem]
      rfl
  | map key elem =>
      rw [Spelling.mapM, key, elem]
      rfl
  | func _ params results =>
      rw [Spelling.mapM, mapM_of_each params, mapM_of_each results]
      rfl
  | struct fields =>
      have labelled : ∀ (field : String × α) (found : String × β),
          field.1 = found.1 ∧ name field.2 = .ok found.2 →
            (do return (field.1, ← name field.2)) = (.ok found : Except ε (String × β)) := by
        intro field found both
        rw [both.2, both.1]
        rfl
      rw [Spelling.mapM, mapM_of_each (fields.imp labelled)]
      rfl

theorem plainRef_of_derivable {levels : Nat}
    (each : ∀ type name, Derivable describe levels (.type type) name →
      plainWithin describe limit levels type = .ok name)
    {reference : TypeRef} {name : String}
    (derived : Derivable describe levels (.ref reference) name) :
    plainRefWith describe (plainWithin describe limit levels) reference = .ok name := by
  cases derived with
  | opaquePointer => rfl
  | described found derived =>
      rw [plainRefWith, found]
      exact each _ _ derived

/-- The induction is on the levels, which bound the derivation as they bound the recursion. -/
theorem plainWithin_of_derivable (levels : Nat) :
    ∀ type name, Derivable describe levels (.type type) name →
      plainWithin describe limit levels type = .ok name := by
  induction levels with
  | zero => intro type name derived; cases derived
  | succ levels ih =>
      intro type name derived
      obtain ⟨named, spelled, rfl⟩ := derivable_type_iff.mp derived
      have each := matches_imp (fun _ _ part => plainRef_of_derivable ih part) spelled
      rw [plainWithin, mapM_of_matches each]
      rfl

/-- What the rules derive through some levels is what the plain recursion finds through as
many. -/
theorem plainAsk_of_derivable {levels : Nat} {subject : Nameable} {name : String}
    (derived : Derivable describe levels subject name) :
    plainAsk describe limit levels subject = .ok name := by
  cases subject with
  | type type => exact plainWithin_of_derivable levels type name derived
  | ref reference => exact plainRef_of_derivable (plainWithin_of_derivable levels) derived

theorem plainAsk_rises (subject : Nameable) {fewer more : Nat} (below : fewer ≤ more) :
    Stays limit (plainAsk describe limit fewer subject) (plainAsk describe limit more subject) := by
  cases subject with
  | type type => exact plainWithin_stays fewer more below type
  | ref reference => exact plainRef_rises reference fewer more below

/-- A subject that has a name is given that name, unless the limit stops it. -/
theorem answer_of_canonical {subject : Nameable} {answer : Except DescriptorFault String}
    (agrees : AgreesWithPlain describe limit subject answer) {name : String}
    (canonical : Canonical describe subject name) (unstopped : ¬TooDeep limit answer) :
    answer = .ok name := by
  obtain ⟨levels, derived⟩ := canonical
  obtain ⟨deeper, _, same⟩ := agrees.deeper unstopped
  have found : plainAsk describe limit levels subject = .ok name := plainAsk_of_derivable derived
  have fromLevels : Stays limit (plainAsk describe limit levels subject)
      (plainAsk describe limit (max levels deeper) subject) :=
    plainAsk_rises subject (Nat.le_max_left levels deeper)
  have fromDeeper : Stays limit (plainAsk describe limit deeper subject)
      (plainAsk describe limit (max levels deeper) subject) :=
    plainAsk_rises subject (Nat.le_max_right levels deeper)
  rw [found] at fromLevels
  rw [← same] at fromDeeper
  rw [← fromDeeper unstopped, fromLevels (not_tooDeep_ok name)]

/-- A name that the rules give is one that the plain recursion finds. -/
theorem recalled_of_truthful {names : NameCache} (truthful : Truthful describe names) :
    Recalled describe limit names := by
  intro address name found
  obtain ⟨levels, derived⟩ := truthful address name found
  exact ⟨levels, plainAsk_of_derivable derived⟩

/-- Only the limit keeps a type that has a name from being given it. -/
theorem tooDeep_of_refused (placing : Placing describe) {type : RuntimeType}
    (placed : Placed describe type) {names after : NameCache}
    (truthful : Truthful describe names) {reason : DescriptorFault}
    (refused : (nameOf describe limit type).run names = (.error reason, after)) {name : String}
    (canonical : Canonical describe (.type type) name) : reason = .nameTooDeep limit := by
  have follows : Follows describe limit (limit + 1) (nameOf describe limit type) _ :=
    follows_within placing (limit + 1) type placed
  have beside := follows.beside names (recalled_of_truthful truthful)
  have agrees : AgreesWithPlain describe limit (.type type)
      ((nameOf describe limit type).run names).1 := agrees_of_beside follows.stays beside
  rw [refused] at agrees
  by_contra other
  have unstopped : ¬TooDeep limit (.error reason : Except DescriptorFault String) := by
    intro stopped
    cases stopped
    exact other rfl
  cases answer_of_canonical agrees canonical unstopped

/-- However many questions are put to one table of names, each is answered as the recursion that
remembers nothing would answer it, unless that is stopped by its limit. An answer other than such
a stop is the one that the recursion gives under a limit that is high enough. -/
theorem answers_agree_with_plain (resolve : Resolver) (faithful : resolve.Faithful)
    (sections : List Address) (limit : Nat) (subjects : List Nameable)
    (admitted : ∀ subject ∈ subjects, Admitted (resolve sections) subject) :
    List.Forall₂ (AgreesWithPlain (resolve sections) limit) subjects
      (answers (resolve sections) limit subjects .empty) :=
  answers_follow (placing_of_faithful faithful sections) subjects admitted empty_recalled

/-- A pointer to a pointer to a declared integer. -/
def pointerChain : List RuntimeType :=
  [⟨some ⟨16⟩, .pointer, 8, none, none, "**int", .pointer (.address ⟨32⟩)⟩,
    ⟨some ⟨32⟩, .pointer, 8, none, none, "*int", .pointer (.address ⟨48⟩)⟩,
    .primitive ⟨48⟩ .int 8]

/-- A map whose key may nest too deep and whose element cannot be read. -/
def tornMap : RuntimeType :=
  ⟨none, .map, 8, none, none, "", .map (.address ⟨16⟩) (.address ⟨64⟩)⟩

theorem answers_agree_with_plain_over_chain :
    List.Forall₂ (AgreesWithPlain (Resolver.ofTypes pointerChain []) 1)
      [.ref (.address ⟨16⟩), .ref (.address ⟨32⟩), .type tornMap, .ref (.address ⟨16⟩)]
      (answers (Resolver.ofTypes pointerChain []) 1
        [.ref (.address ⟨16⟩), .ref (.address ⟨32⟩), .type tornMap, .ref (.address ⟨16⟩)]
        .empty) := by
  apply answers_agree_with_plain _ (Resolver.faithful_ofTypes _)
  intro subject member
  simp only [List.mem_cons, List.not_mem_nil, or_false] at member
  rcases member with rfl | rfl | rfl | rfl
  · trivial
  · trivial
  · exact Or.inl rfl
  · trivial

/-- A type that nests too deep for the recursion, and for the first question about it, is named
once its part has been. -/
theorem limit_spared_by_remembered_name :
    plainAsk (Resolver.ofTypes pointerChain []) 1 2 (.ref (.address ⟨16⟩)) =
        .error (.nameTooDeep 1) ∧
      answers (Resolver.ofTypes pointerChain []) 1
          [.ref (.address ⟨16⟩), .ref (.address ⟨32⟩), .ref (.address ⟨16⟩)] .empty =
        [.error (.nameTooDeep 1), .ok "*int", .ok "**int"] :=
  ⟨by decide +kernel, by decide +kernel⟩

end TypeAtlas.Naming
