import TypeAtlas.Descriptor.Resolver
import TypeAtlas.Naming.Namer
import TypeAtlas.Proofs.Naming.Rules

/-!
The names that are remembered are canonical ones. From a table that holds nothing else, each
naming answers a canonical name or a failure, answers every name whose derivation fits the limit,
and leaves a table that holds nothing else. The names found on the way to a failure are kept, so
the table is carried through failures too.
-/

namespace TypeAtlas.Naming

set_option autoImplicit false

variable {describe : Address → Except DescriptorFault RuntimeType} {limit : Nat}

/-- Every remembered name is the canonical one of what stands at its address. -/
def Truthful (describe : Address → Except DescriptorFault RuntimeType) (names : NameCache) :
    Prop :=
  ∀ (address : Address) (name : String), names[address]? = some name →
    Canonical describe (.ref (.address address)) name

theorem empty_truthful : Truthful describe .empty := by
  intro address name found
  have absent : (Std.TreeMap.empty : NameCache)[address]? = none := Std.TreeMap.getElem?_emptyc
  rw [absent] at found
  cases found

theorem insert_truthful {names : NameCache} (truthful : Truthful describe names)
    {known : Address} {given : String}
    (canonical : Canonical describe (.ref (.address known)) given) :
    Truthful describe (names.insert known given) := by
  intro address name found
  rw [Std.TreeMap.getElem?_insert] at found
  split at found
  · rename_i same
    cases Std.LawfulEqOrd.eq_of_compare same
    cases found
    exact canonical
  · exact truthful address name found

/-- A computation on a truthful table answers only what is `sound`, answers whatever is
`expected`, and keeps the table truthful whether it succeeds or fails. -/
def Settles (describe : Address → Except DescriptorFault RuntimeType) {α : Type}
    (naming : Naming α) (sound expected : α → Prop) : Prop :=
  ∀ names, Truthful describe names →
    Truthful describe (naming.run names).2 ∧
      (∀ value, (naming.run names).1 = .ok value → sound value) ∧
        ∀ value, expected value → (naming.run names).1 = .ok value

theorem settles_pure {α : Type} (value : α) :
    Settles describe (pure value) (· = value) (· = value) := by
  intro names truthful
  refine ⟨truthful, ?_, ?_⟩
  · intro other same
    exact (Except.ok.inj same).symm
  · intro other same
    rw [same]
    rfl

theorem settles_throw {α : Type} (fault : DescriptorFault) {sound expected : α → Prop}
    (hopeless : ∀ value, ¬expected value) :
    Settles describe (throw fault) sound expected := by
  intro names truthful
  refine ⟨truthful, ?_, ?_⟩
  · intro value same
    cases same
  · intro value wanted
    exact absurd wanted (hopeless value)

theorem settles_weaken {α : Type} {naming : Naming α} {sound expected weaker fewer : α → Prop}
    (settled : Settles describe naming sound expected)
    (implied : ∀ value, sound value → weaker value)
    (required : ∀ value, fewer value → expected value) :
    Settles describe naming weaker fewer := by
  intro names truthful
  obtain ⟨kept, answers, complete⟩ := settled names truthful
  refine ⟨kept, ?_, ?_⟩
  · intro value answered
    exact implied value (answers value answered)
  · intro value wanted
    exact complete value (required value wanted)

/-- A failure ends a computation, and the table goes on from where it failed. -/
theorem run_bind {α β : Type} (first : Naming α) (next : α → Naming β) (names : NameCache) :
    (first >>= next).run names = match first.run names with
      | (.ok value, after) => (next value).run after
      | (.error fault, after) => (.error fault, after) := by
  rw [ExceptT.run_bind]
  simp only [bind, StateT.bind]
  rcases first.run names with ⟨result | result, after⟩ <;> rfl

theorem settles_bind {α β : Type} {first : Naming α} {next : α → Naming β}
    {sound expected : α → Prop} {soundNext expectedNext : α → β → Prop}
    (begun : Settles describe first sound expected)
    (continued : ∀ value, sound value →
      Settles describe (next value) (soundNext value) (expectedNext value)) :
    Settles describe (first >>= next) (fun result => ∃ value, sound value ∧ soundNext value result)
      (fun result => ∃ value, expected value ∧ expectedNext value result) := by
  intro names truthful
  obtain ⟨kept, answers, complete⟩ := begun names truthful
  rw [run_bind]
  rcases run : first.run names with ⟨result, after⟩
  rw [run] at kept answers complete
  cases result with
  | error fault =>
      refine ⟨kept, ?_, ?_⟩
      · intro value same
        cases same
      · intro result wanted
        obtain ⟨value, wantedFirst, _⟩ := wanted
        cases complete value wantedFirst
  | ok value =>
      obtain ⟨keptNext, answersNext, completeNext⟩ := continued value (answers value rfl) after kept
      refine ⟨keptNext, ?_, ?_⟩
      · intro result answered
        exact ⟨value, answers value rfl, answersNext result answered⟩
      · intro result wanted
        obtain ⟨other, wantedFirst, wantedNext⟩ := wanted
        cases complete other wantedFirst
        exact completeNext result wantedNext

theorem settles_build {α β : Type} {naming : Naming α} {sound expected : α → Prop}
    (settled : Settles describe naming sound expected) (build : α → β) :
    Settles describe (naming >>= fun value => pure (build value))
      (fun result => ∃ value, sound value ∧ result = build value)
      (fun result => ∃ value, expected value ∧ result = build value) :=
  settles_bind settled fun value _ => settles_pure (build value)

section Spelled

variable {α β : Type} {name : α → Naming β} {sound expected : α → β → Prop}

theorem settles_list
    (each : ∀ part, Settles describe (name part) (sound part) (expected part)) (parts : List α) :
    Settles describe (parts.mapM name) (List.Forall₂ sound parts)
      (List.Forall₂ expected parts) := by
  induction parts with
  | nil =>
      rw [List.mapM_nil]
      apply settles_weaken (settles_pure [])
      · intro names same
        rw [same]
        exact .nil
      · intro names none
        cases none
        rfl
  | cons part parts ih =>
      rw [List.mapM_cons]
      apply settles_weaken
        (settles_bind (each part) fun first _ => settles_build ih fun rest => first :: rest)
      · intro names built
        obtain ⟨first, firstSound, rest, restSound, rfl⟩ := built
        exact .cons firstSound restSound
      · intro names wanted
        cases wanted with
        | cons first rest => exact ⟨_, first, _, rest, rfl⟩

/-- The parts of a spelling are settled one after another, so the whole is. -/
theorem settles_spelling
    (each : ∀ part, Settles describe (name part) (sound part) (expected part))
    (spelling : Spelling α) :
    Settles describe (spelling.mapM name) (Matches sound spelling)
      (Matches expected spelling) := by
  cases spelling with
  | verbatim text =>
      apply settles_weaken (settles_pure (Spelling.verbatim text))
      · intro named same
        rw [same]
        exact .verbatim text
      · intro named wanted
        cases wanted
        rfl
  | pointer elem =>
      apply settles_weaken (settles_build (each elem) Spelling.pointer)
      · intro named built
        obtain ⟨elemName, elemSound, rfl⟩ := built
        exact .pointer elemSound
      · intro named wanted
        cases wanted with
        | pointer elemWanted => exact ⟨_, elemWanted, rfl⟩
  | slice elem =>
      apply settles_weaken (settles_build (each elem) Spelling.slice)
      · intro named built
        obtain ⟨elemName, elemSound, rfl⟩ := built
        exact .slice elemSound
      · intro named wanted
        cases wanted with
        | slice elemWanted => exact ⟨_, elemWanted, rfl⟩
  | array length elem =>
      apply settles_weaken (settles_build (each elem) (Spelling.array length))
      · intro named built
        obtain ⟨elemName, elemSound, rfl⟩ := built
        exact .array length elemSound
      · intro named wanted
        cases wanted with
        | array _ elemWanted => exact ⟨_, elemWanted, rfl⟩
  | chan dir elem =>
      apply settles_weaken (settles_build (each elem) (Spelling.chan dir))
      · intro named built
        obtain ⟨elemName, elemSound, rfl⟩ := built
        exact .chan dir elemSound
      · intro named wanted
        cases wanted with
        | chan _ elemWanted => exact ⟨_, elemWanted, rfl⟩
  | map key elem =>
      apply settles_weaken
        (settles_bind (each key) fun keyName _ => settles_build (each elem) (Spelling.map keyName))
      · intro named built
        obtain ⟨keyName, keySound, elemName, elemSound, rfl⟩ := built
        exact .map keySound elemSound
      · intro named wanted
        cases wanted with
        | map keyWanted elemWanted => exact ⟨_, keyWanted, _, elemWanted, rfl⟩
  | func params results variadic =>
      apply settles_weaken
        (settles_bind (settles_list each params) fun paramNames _ =>
          settles_build (settles_list each results)
            fun resultNames => Spelling.func paramNames resultNames variadic)
      · intro named built
        obtain ⟨paramNames, paramsSound, resultNames, resultsSound, rfl⟩ := built
        exact .func variadic paramsSound resultsSound
      · intro named wanted
        cases wanted with
        | func _ paramsWanted resultsWanted =>
            exact ⟨_, paramsWanted, _, resultsWanted, rfl⟩
  | struct fields =>
      have eachField : ∀ field : String × α,
          Settles describe (name field.2 >>= fun named => pure (field.1, named))
            (fun named => field.1 = named.1 ∧ sound field.2 named.2)
            (fun named => field.1 = named.1 ∧ expected field.2 named.2) := by
        intro field
        apply settles_weaken (settles_build (each field.2) (Prod.mk field.1))
        · intro named built
          obtain ⟨fieldName, fieldSound, rfl⟩ := built
          exact ⟨rfl, fieldSound⟩
        · intro named wanted
          obtain ⟨label, fieldName⟩ := named
          obtain ⟨rfl, fieldWanted⟩ := wanted
          exact ⟨fieldName, fieldWanted, rfl⟩
      apply settles_weaken (settles_build (settles_list eachField fields) Spelling.struct)
      · intro named built
        obtain ⟨fieldNames, fieldsSound, rfl⟩ := built
        exact .struct fieldsSound
      · intro named wanted
        cases wanted with
        | struct fieldsWanted => exact ⟨_, fieldsWanted, rfl⟩

end Spelled

/-- A type that claims an address is what stands there. Made-up types claim none. -/
def Placed (describe : Address → Except DescriptorFault RuntimeType) (type : RuntimeType) : Prop :=
  ∀ address, type.address = some address → describe address = .ok type

/-- Descriptors carry the address they are found at. -/
def Placing (describe : Address → Except DescriptorFault RuntimeType) : Prop :=
  ∀ address type, describe address = .ok type → type.address = some address

theorem placed_of_described (placing : Placing describe) {address : Address} {type : RuntimeType}
    (found : describe address = .ok type) : Placed describe type := by
  intro claimed claims
  rw [placing address type found] at claims
  cases claims
  exact found

theorem placed_of_unplaced {type : RuntimeType} (unplaced : type.address = none) :
    Placed describe type := by
  intro claimed claims
  rw [unplaced] at claims
  cases claims

/-- What a truthful table remembers for a type in its place is the type's own name. -/
theorem canonical_of_remembered {names : NameCache} (truthful : Truthful describe names)
    {type : RuntimeType} (placed : Placed describe type) {name : String}
    (remembered : (type.address.bind fun address => names[address]?) = some name) :
    Canonical describe (.type type) name := by
  obtain ⟨address, claims, found⟩ := Option.bind_eq_some_iff.mp remembered
  obtain ⟨levels, derived⟩ := truthful address name found
  cases derived with
  | described again derived =>
      rw [placed address claims] at again
      cases again
      exact ⟨levels, derived⟩

theorem canonical_ref {address : Address} {type : RuntimeType} {name : String}
    (found : describe address = .ok type) (canonical : Canonical describe (.type type) name) :
    Canonical describe (.ref (.address address)) name := by
  obtain ⟨levels, derived⟩ := canonical
  exact ⟨levels, .described found derived⟩

/-- Remembering the name of a type in its place keeps the table truthful. -/
theorem remember_truthful {names : NameCache} (truthful : Truthful describe names)
    {type : RuntimeType} (placed : Placed describe type) {name : String}
    (canonical : Canonical describe (.type type) name) :
    Truthful describe ((remember type.address name).run names).2 := by
  unfold remember
  cases claims : type.address with
  | none => exact truthful
  | some known => exact insert_truthful truthful (canonical_ref (placed known claims) canonical)

theorem run_get (names : NameCache) : (get : Naming NameCache).run names = (.ok names, names) := rfl

theorem run_ref_remembered {nameType : RuntimeType → Naming String} {names : NameCache}
    {target : Address} {known : String} (remembered : names[target]? = some known) :
    (nameRefWith describe nameType (.address target)).run names = (.ok known, names) := by
  unfold nameRefWith
  rw [run_bind, run_get]
  simp only [remembered]
  rfl

theorem run_ref_forgotten {nameType : RuntimeType → Naming String} {names : NameCache}
    {target : Address} (forgotten : names[target]? = none) :
    (nameRefWith describe nameType (.address target)).run names =
      match describe target with
      | .ok type => (nameType type).run names
      | .error fault => (.error fault, names) := by
  unfold nameRefWith
  rw [run_bind, run_get]
  simp only [forgotten]
  rw [run_bind]
  cases describe target <;> rfl

theorem run_within_remembered {levels : Nat} {type : RuntimeType} {names : NameCache}
    {known : String}
    (remembered : (type.address.bind fun address => names[address]?) = some known) :
    (nameWithin describe limit (levels + 1) type).run names = (.ok known, names) := by
  unfold nameWithin
  rw [run_bind, run_get]
  simp only [remembered]
  rfl

theorem run_within_forgotten {levels : Nat} {type : RuntimeType} {names : NameCache}
    (forgotten : (type.address.bind fun address => names[address]?) = none) :
    (nameWithin describe limit (levels + 1) type).run names =
      match (type.spelling.mapM (nameRefWith describe (nameWithin describe limit levels))).run
        names with
      | (.ok spelled, after) => (.ok spelled.render, ((remember type.address spelled.render).run after).2)
      | (.error fault, after) => (.error fault, after) := by
  rw [nameWithin, run_bind, run_get]
  simp only [forgotten]
  rw [run_bind]
  rcases (type.spelling.mapM (nameRefWith describe (nameWithin describe limit levels))).run names
    with ⟨result | result, after⟩
  · rfl
  · cases type.address <;> rfl

/-- A canonical name is an answer that is sound, and it is the only one that can be expected. -/
theorem answer_of_known {levels : Nat} {subject : Nameable} {known : String}
    (canonical : Canonical describe subject known) :
    (∀ name, (.ok known : Except DescriptorFault String) = .ok name →
        Canonical describe subject name) ∧
      ∀ name, Derivable describe levels subject name →
        (.ok known : Except DescriptorFault String) = .ok name := by
  constructor
  · intro name same
    cases same
    exact canonical
  · intro name derived
    rw [canonical_unique canonical ⟨levels, derived⟩]

theorem settles_ref (placing : Placing describe) {levels : Nat}
    {nameType : RuntimeType → Naming String}
    (each : ∀ type, Placed describe type → Settles describe (nameType type)
      (Canonical describe (.type type)) (Derivable describe levels (.type type)))
    (reference : TypeRef) :
    Settles describe (nameRefWith describe nameType reference)
      (Canonical describe (.ref reference)) (Derivable describe levels (.ref reference)) := by
  cases reference with
  | opaquePointer =>
      apply settles_weaken (settles_pure opaquePointerName)
      · intro name same
        rw [same]
        exact ⟨0, .opaquePointer⟩
      · intro name derived
        cases derived
        rfl
  | address target =>
      intro names truthful
      cases remembered : names[target]? with
      | some known =>
          rw [run_ref_remembered remembered]
          exact ⟨truthful, answer_of_known (truthful target known remembered)⟩
      | none =>
          rw [run_ref_forgotten remembered]
          cases found : describe target with
          | error fault =>
              refine ⟨truthful, ?_, ?_⟩
              · intro name same
                cases same
              · intro name derived
                cases derived with
                | described again => rw [found] at again; cases again
          | ok type =>
              rcases each type (placed_of_described placing found) names truthful with
                ⟨kept, answers, complete⟩
              refine ⟨kept, ?_, ?_⟩
              · intro name answered
                exact canonical_ref found (answers name answered)
              · intro name derived
                cases derived with
                | described again derived =>
                    rw [found] at again
                    cases again
                    exact complete name derived

/-- The induction is on the levels left: the parts of a type have one less than the type. -/
theorem settles_within (placing : Placing describe) (levels : Nat) :
    ∀ type, Placed describe type → Settles describe (nameWithin describe limit levels type)
      (Canonical describe (.type type)) (Derivable describe levels (.type type)) := by
  induction levels with
  | zero =>
      intro type _
      apply settles_throw
      intro name derived
      cases derived
  | succ levels ih =>
      intro type placed names truthful
      cases remembered : (type.address.bind fun address => names[address]?) with
      | some known =>
          rw [run_within_remembered remembered]
          exact ⟨truthful, answer_of_known (canonical_of_remembered truthful placed remembered)⟩
      | none =>
          rw [run_within_forgotten remembered]
          rcases settles_spelling (settles_ref placing ih) type.spelling names truthful with
            ⟨kept, answers, complete⟩
          rcases run : (type.spelling.mapM
            (nameRefWith describe (nameWithin describe limit levels))).run names with ⟨result, after⟩
          rw [run] at kept answers complete
          cases result with
          | error fault =>
              refine ⟨kept, ?_, ?_⟩
              · intro name same
                cases same
              · intro name derived
                obtain ⟨spelled, parts, _⟩ := derivable_type_iff.mp derived
                cases complete spelled parts
          | ok spelled =>
              have canonical := canonical_of_matches (answers spelled rfl)
              exact ⟨remember_truthful kept placed canonical, answer_of_known canonical⟩

end TypeAtlas.Naming
