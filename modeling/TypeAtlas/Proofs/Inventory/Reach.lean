import TypeAtlas.Proofs.Inventory.Orderly

/-!
The keys of an inventory as the set of what the roots lead to, which depends neither on the order
of the roots nor on how often one is named.
-/

namespace TypeAtlas.Walk

set_option autoImplicit false

open Naming (Canonical)

variable {describe : Address → Except DescriptorFault RuntimeType} {limit : Nat}
  {roots : List Address}

/-- The tables hold what the roots lead to and nothing else, and there are no failures. -/
structure ExactlyReached (describe : Address → Except DescriptorFault RuntimeType)
    (roots : List Address) (found : Inventory) : Prop where
  addresses : ∀ address, address ∈ found.byAddress ↔ Reached describe roots address
  types : ∀ name, name ∈ found.types ↔ ReachedName describe roots name ∨ Reserved name
  failures : found.failures = .empty

/-- Two inventories list the same addresses and the same names. -/
structure SameKeys (left right : Inventory) : Prop where
  addresses : ∀ address, address ∈ left.byAddress ↔ address ∈ right.byAddress
  types : ∀ name, name ∈ left.types ↔ name ∈ right.types

theorem mem_listPlaceholders {walk : Walk} {name : String} :
    name ∈ walk.listPlaceholders.found.types ↔ name ∈ walk.found.types ∨ Reserved name := by
  unfold listPlaceholders Reserved
  rw [found_listType, found_listType]
  simp only [Inventory.insertType, Std.TreeMap.mem_insert, Std.LawfulEqCmp.compare_eq_iff_eq]
  tauto

theorem run_exact {resolve : Resolver} (faithful : resolve.Faithful) (links : TypeLinks)
    (config : Config)
    (orderly : Orderly (resolve links.sections) config.maxNameDepth links.roots)
    (plain : Plain (resolve links.sections) links.roots) :
    ExactlyReached (resolve links.sections) links.roots (run resolve links config).found := by
  have placing := Naming.placing_of_faithful faithful links.sections
  have finished := searched_finished faithful links config orderly
  refine ⟨?_, ?_, finished.quiet⟩
  · intro address
    constructor
    · intro member
      exact finished.sourced.addresses address member
    · intro within
      exact reached_listed finished placing orderly plain within
  · intro name
    rw [found_run, mem_listPlaceholders]
    constructor
    · intro either
      exact either.imp_left (finished.sourced.types name)
    · intro either
      exact either.imp_left (reached_name_listed finished placing orderly plain)

section Roots

variable {others : List Address}

theorem reached_of_roots (among : ∀ root ∈ roots, root ∈ others) {address : Address}
    (within : Reached describe roots address) : Reached describe others address := by
  induction within with
  | root member => exact .root (among _ member)
  | part _ described member ih => exact .part ih described member
  | call _ described signs form member ih => exact .call ih described signs form member

theorem method_of_roots (among : ∀ root ∈ roots, root ∈ others) {method : RuntimeType}
    (within : ReachedMethod describe roots method) : ReachedMethod describe others method := by
  obtain ⟨owner, target, holder, reached, described, signs, form⟩ := within
  exact ⟨owner, target, holder, reached_of_roots among reached, described, signs, form⟩

theorem name_of_roots (among : ∀ root ∈ roots, root ∈ others) {name : String}
    (reached : ReachedName describe roots name) : ReachedName describe others name := by
  rcases reached with ⟨address, type, within, described, canonical⟩ | ⟨method, within, canonical⟩
  · exact Or.inl ⟨address, type, reached_of_roots among within, described, canonical⟩
  · exact Or.inr ⟨method, method_of_roots among within, canonical⟩

/-- Fewer roots lead to fewer things that could go wrong. -/
theorem orderly_of_roots (among : ∀ root ∈ roots, root ∈ others)
    (orderly : Orderly describe limit others) : Orderly describe limit roots := by
  refine ⟨?_, ?_, ?_, ?_, ?_, ?_, ?_⟩
  · intro address within
    exact orderly.resolves address (reached_of_roots among within)
  · intro owner holder target within
    exact orderly.signed owner holder target (reached_of_roots among within)
  · intro address type within
    exact orderly.named address type (reached_of_roots among within)
  · intro method within
    exact orderly.methodNamed method (method_of_roots among within)
  · intro address other type otherType name within otherWithin
    exact orderly.distinct address other type otherType name (reached_of_roots among within)
      (reached_of_roots among otherWithin)
  · intro method other name within otherWithin
    exact orderly.alikeMethods method other name (method_of_roots among within)
      (method_of_roots among otherWithin)
  · intro method address type name within otherWithin
    exact orderly.alikeTypes method address type name (method_of_roots among within)
      (reached_of_roots among otherWithin)

theorem plain_of_roots (among : ∀ root ∈ roots, root ∈ others)
    (plain : Plain describe others) : Plain describe roots := by
  intro method address type name target within otherWithin
  exact plain method address type name target (method_of_roots among within)
    (reached_of_roots among otherWithin)

end Roots

/-- Where nothing goes wrong, a walk finds what the roots lead to and nothing else. It finds the
same from the same roots in another order or repeated. -/
theorem exactly_reached (resolve : Resolver) (faithful : resolve.Faithful) (links : TypeLinks)
    (config : Config)
    (orderly : Orderly (resolve links.sections) config.maxNameDepth links.roots)
    (plain : Plain (resolve links.sections) links.roots) :
    ExactlyReached (resolve links.sections) links.roots (run resolve links config).found ∧
      ∀ other : TypeLinks, resolve other.sections = resolve links.sections →
        (∀ root, root ∈ other.roots ↔ root ∈ links.roots) →
          SameKeys (run resolve other config).found (run resolve links config).found := by
  have reached := run_exact faithful links config orderly plain
  refine ⟨reached, ?_⟩
  intro other sections same
  have among : ∀ root ∈ other.roots, root ∈ links.roots := fun root => (same root).mp
  have back : ∀ root ∈ links.roots, root ∈ other.roots := fun root => (same root).mpr
  have again := run_exact faithful other config
    (sections ▸ orderly_of_roots among orderly) (sections ▸ plain_of_roots among plain)
  rw [sections] at again
  refine ⟨?_, ?_⟩
  · intro address
    rw [reached.addresses, again.addresses]
    exact ⟨reached_of_roots among, reached_of_roots back⟩
  · intro name
    rw [reached.types, again.types]
    exact or_congr_left ⟨name_of_roots among, name_of_roots back⟩

def emptySignature : RuntimeType := ⟨some ⟨32⟩, .func, 8, none, none, "func()", .func [] [] false⟩

def getMethod : Method := ⟨"Get", some (.address ⟨32⟩)⟩

def holder : RuntimeType :=
  ⟨some ⟨48⟩, .struct, 8, some "T", some "main", "main.T", .struct [] [getMethod]⟩

/-- A struct that is declared under the name of a method of `holder` and refers to it. -/
def namesake (methods : List Method) : RuntimeType :=
  ⟨some ⟨64⟩, .struct, 8, some "func(main.T)", none, "func(main.T)",
    .struct [⟨"t", .address ⟨48⟩, 0, false⟩] methods⟩

def namesakes (methods : List Method) : List RuntimeType :=
  [emptySignature, holder, namesake methods]

def namesakeGraph (methods : List Method) : Address → Except DescriptorFault RuntimeType :=
  Resolver.ofTypes (namesakes methods) [⟨0⟩]

/-- The type of the method as it is called on `owner`. -/
def getOn (owner : Address) : RuntimeType := methodType owner emptySignature [] [] false

section Namesakes

variable {methods : List Method}

theorem signature_described :
    namesakeGraph methods ⟨32⟩ = .ok emptySignature := rfl

theorem holder_described : namesakeGraph methods ⟨48⟩ = .ok holder := rfl

theorem namesake_described :
    namesakeGraph methods ⟨64⟩ = .ok (namesake methods) := rfl

theorem holder_named (levels : Nat) :
    Naming.Derivable (namesakeGraph methods) (levels + 1) (.type holder)
      "main.T" := by
  have spelled : "main" ++ "." ++ "T" = "main.T" := by decide
  rw [← spelled]
  exact .qualified rfl (by decide) rfl (by decide)

theorem namesake_named (levels : Nat) :
    Naming.Derivable (namesakeGraph methods) (levels + 1)
      (.type (namesake methods)) "func(main.T)" := by
  have filled : "func(main.T)" ≠ "" := by decide
  have named : (namesake methods).name = some "func(main.T)" := rfl
  exact .unqualified named filled rfl filled

theorem get_named {owner : Address} {type : RuntimeType} {name : String} {levels : Nat}
    (described : namesakeGraph methods owner = .ok type)
    (derived : Naming.Derivable (namesakeGraph methods) levels (.type type) name) :
    Naming.Derivable (namesakeGraph methods) (levels + 1) (.type (getOn owner))
      ("func(" ++ String.intercalate ", " [name] ++ ")" ++ "") := by
  have params : ∀ part paramName, (part, paramName) ∈ [TypeRef.address owner].zip [name] →
      Naming.Derivable (namesakeGraph methods) levels (.ref part) paramName := by
    intro part paramName member
    cases List.mem_singleton.mp member
    exact .described described derived
  have results : ∀ part resultName, (part, resultName) ∈ ([] : List TypeRef).zip [] →
      Naming.Derivable (namesakeGraph methods) levels (.ref part) resultName := by
    intro part resultName member
    cases member
  exact .func rfl rfl rfl rfl params results (.fixed _) .none

theorem get_holder_named (levels : Nat) :
    Naming.Derivable (namesakeGraph methods) (levels + 2) (.type (getOn ⟨48⟩)) "func(main.T)" := by
  have derived : Naming.Derivable (namesakeGraph methods) (levels + 2) (.type (getOn ⟨48⟩)) _ :=
    get_named holder_described (holder_named levels)
  have spelled : "func(" ++ String.intercalate ", " ["main.T"] ++ ")" ++ "" = "func(main.T)" := by
    decide
  rw [← spelled]
  exact derived

theorem get_namesake_named (levels : Nat) :
    Naming.Derivable (namesakeGraph methods) (levels + 2) (.type (getOn ⟨64⟩))
      "func(func(main.T))" := by
  have derived : Naming.Derivable (namesakeGraph methods) (levels + 2) (.type (getOn ⟨64⟩)) _ :=
    get_named namesake_described (namesake_named levels)
  have spelled : "func(" ++ String.intercalate ", " ["func(main.T)"] ++ ")" ++ "" =
      "func(func(main.T))" := by decide
  rw [← spelled]
  exact derived

variable (getters : ∀ method ∈ methods, method = getMethod)

include getters

theorem namesakes_signature {address target : Address} {type : RuntimeType}
    (among : address = ⟨48⟩ ∨ address = ⟨64⟩)
    (described : namesakeGraph methods address = .ok type)
    (signs : Signs type (.address target)) : target = ⟨32⟩ := by
  obtain ⟨fields, known, shape, method, member, signed⟩ := signs
  rcases among with rfl | rfl
  · rw [holder_described] at described
    cases described
    cases shape
    cases List.mem_singleton.mp member
    cases signed
    rfl
  · rw [namesake_described] at described
    cases described
    cases shape
    rw [getters method member] at signed
    cases signed
    rfl

theorem namesakes_called {address owner target : Address} {type method : RuntimeType}
    (among : address = ⟨48⟩ ∨ address = ⟨64⟩)
    (described : namesakeGraph methods address = .ok type)
    (signs : Signs type (.address target))
    (form : CallForm (namesakeGraph methods) owner target method) : method = getOn owner := by
  rw [namesakes_signature getters among described signs] at form
  obtain ⟨stored, shape⟩ := form
  rw [signature_described] at stored
  cases stored
  cases shape
  rfl

theorem namesakes_reached {address : Address}
    (within : Reached (namesakeGraph methods) [⟨48⟩, ⟨64⟩] address) :
    address = ⟨48⟩ ∨ address = ⟨64⟩ := by
  induction within with
  | root member => simpa using member
  | part _ described refers ih =>
      have member := Shape.mem_parts_iff.mpr refers
      rcases ih with rfl | rfl
      · rw [holder_described] at described
        cases described
        cases member
      · rw [namesake_described] at described
        cases described
        cases List.mem_singleton.mp member
        exact Or.inl rfl
  | call _ described signs form refers ih =>
      have member := Shape.mem_parts_iff.mpr refers
      rw [namesakes_called getters ih described signs form] at member
      cases List.mem_singleton.mp member
      exact ih

/-- The descriptors that the roots lead to, with their only names. -/
theorem namesakes_types {address : Address} {type : RuntimeType} {name : String}
    (within : Reached (namesakeGraph methods) [⟨48⟩, ⟨64⟩] address)
    (described : namesakeGraph methods address = .ok type)
    (canonical : Canonical (namesakeGraph methods) (.type type) name) :
    (address = ⟨48⟩ ∧ type = holder ∧ name = "main.T") ∨
      (address = ⟨64⟩ ∧ type = namesake methods ∧ name = "func(main.T)") := by
  rcases namesakes_reached getters within with rfl | rfl
  · rw [holder_described] at described
    cases described
    exact Or.inl ⟨rfl, rfl, Naming.canonical_unique canonical ⟨_, holder_named 0⟩⟩
  · rw [namesake_described] at described
    cases described
    exact Or.inr ⟨rfl, rfl, Naming.canonical_unique canonical ⟨_, namesake_named 0⟩⟩

theorem namesakes_methods {method : RuntimeType}
    (within : ReachedMethod (namesakeGraph methods) [⟨48⟩, ⟨64⟩] method) :
    method = getOn ⟨48⟩ ∨ method = getOn ⟨64⟩ := by
  obtain ⟨owner, target, type, reached, described, signs, form⟩ := within
  have among := namesakes_reached getters reached
  rw [namesakes_called getters among described signs form]
  rcases among with rfl | rfl
  · exact Or.inl rfl
  · exact Or.inr rfl

theorem namesakes_method_names {method : RuntimeType} {name : String}
    (within : ReachedMethod (namesakeGraph methods) [⟨48⟩, ⟨64⟩] method)
    (canonical : Canonical (namesakeGraph methods) (.type method) name) :
    (method = getOn ⟨48⟩ ∧ name = "func(main.T)") ∨
      (method = getOn ⟨64⟩ ∧ name = "func(func(main.T))") := by
  rcases namesakes_methods getters within with rfl | rfl
  · exact Or.inl ⟨rfl, Naming.canonical_unique canonical ⟨_, get_holder_named 0⟩⟩
  · exact Or.inr ⟨rfl, Naming.canonical_unique canonical ⟨_, get_namesake_named 0⟩⟩

/-- Whether or not the namesake has methods, nothing goes wrong, and only the method and the
namesake share a name. -/
theorem namesakes_orderly :
    Orderly (namesakeGraph methods) 64 [⟨48⟩, ⟨64⟩] := by
  refine ⟨?_, ?_, ?_, ?_, ?_, ?_, ?_⟩
  · intro address within
    rcases namesakes_reached getters within with rfl | rfl
    · exact ⟨holder, holder_described⟩
    · exact ⟨namesake methods, namesake_described⟩
  · intro owner type target within described signs
    have signature := namesakes_signature getters (namesakes_reached getters within) described signs
    rw [signature]
    exact ⟨_, .mk signature_described rfl⟩
  · intro address type within described
    rcases namesakes_reached getters within with rfl | rfl
    · rw [holder_described] at described
      cases described
      exact ⟨_, holder_named 64⟩
    · rw [namesake_described] at described
      cases described
      exact ⟨_, namesake_named 64⟩
  · intro method within
    rcases namesakes_methods getters within with rfl | rfl
    · exact ⟨_, get_holder_named 63⟩
    · exact ⟨_, get_namesake_named 63⟩
  · intro address other type otherType name within otherWithin described otherDescribed canonical
      again
    rcases namesakes_types getters within described canonical with ⟨rfl, _, rfl⟩ | ⟨rfl, _, rfl⟩
    · rcases namesakes_types getters otherWithin otherDescribed again with ⟨rfl, _⟩ | ⟨_, _, same⟩
      · rfl
      · exact absurd same (by decide)
    · rcases namesakes_types getters otherWithin otherDescribed again with ⟨_, _, same⟩ | ⟨rfl, _⟩
      · exact absurd same (by decide)
      · rfl
  · intro method other name within otherWithin canonical again
    rcases namesakes_method_names getters within canonical with ⟨rfl, rfl⟩ | ⟨rfl, rfl⟩
    · rcases namesakes_method_names getters otherWithin again with ⟨rfl, _⟩ | ⟨_, same⟩
      · exact fun _ => Iff.rfl
      · exact absurd same (by decide)
    · rcases namesakes_method_names getters otherWithin again with ⟨_, same⟩ | ⟨rfl, _⟩
      · exact absurd same (by decide)
      · exact fun _ => Iff.rfl
  · intro method address type name within otherWithin described canonical again
    rcases namesakes_types getters otherWithin described again with
      ⟨rfl, rfl, rfl⟩ | ⟨rfl, rfl, rfl⟩
    · rcases namesakes_method_names getters within canonical with ⟨_, same⟩ | ⟨_, same⟩
      · exact absurd same (by decide)
      · exact absurd same (by decide)
    · rcases namesakes_method_names getters within canonical with ⟨rfl, _⟩ | ⟨_, same⟩
      · intro part
        rw [← Shape.mem_parts_iff, ← Shape.mem_parts_iff]
        rfl
      · exact absurd same (by decide)

end Namesakes

def namesakeLinks : TypeLinks := ⟨[⟨0⟩], [[48, 64]]⟩

def namesakeLinksAgain : TypeLinks := ⟨[⟨0⟩], [[64, 48, 64]]⟩

theorem exactly_reached_under_one_name :
    ExactlyReached (namesakeGraph []) [⟨48⟩, ⟨64⟩]
        (run (.ofTypes (namesakes [])) namesakeLinks {}).found ∧
      SameKeys (run (.ofTypes (namesakes [])) namesakeLinksAgain {}).found
        (run (.ofTypes (namesakes [])) namesakeLinks {}).found := by
  have getters : ∀ method ∈ ([] : List Method), method = getMethod := by simp
  have plain : Plain (namesakeGraph []) [⟨48⟩, ⟨64⟩] := by
    intro method address type name target within otherWithin described canonical again signs
    rcases namesakes_types getters otherWithin described again with ⟨_, _, rfl⟩ | ⟨_, rfl, _⟩
    · rcases namesakes_method_names getters within canonical with ⟨_, same⟩ | ⟨_, same⟩
      · exact absurd same (by decide)
      · exact absurd same (by decide)
    · obtain ⟨fields, known, shape, method, member, _⟩ := signs
      cases shape
      cases member
  have reached := exactly_reached (.ofTypes (namesakes [])) (Resolver.faithful_ofTypes _)
    namesakeLinks {} (namesakes_orderly getters) plain
  refine ⟨reached.1, reached.2 namesakeLinksAgain rfl ?_⟩
  have roots : namesakeLinks.roots = [⟨48⟩, ⟨64⟩] := by decide
  have again : namesakeLinksAgain.roots = [⟨64⟩, ⟨48⟩, ⟨64⟩] := by decide
  intro root
  rw [roots, again]
  simp only [List.mem_cons, List.not_mem_nil, or_false]
  tauto

/-- The methods of a struct that has the name of a method's type are missed if the method comes
first. -/
theorem methods_of_namesake_missed :
    Orderly (namesakeGraph [getMethod]) 64 [⟨48⟩, ⟨64⟩] ∧
      ¬ExactlyReached (namesakeGraph [getMethod]) [⟨48⟩, ⟨64⟩]
        (run (.ofTypes (namesakes [getMethod])) namesakeLinks {}).found := by
  have getters : ∀ method ∈ [getMethod], method = getMethod := by simp
  refine ⟨namesakes_orderly getters, ?_⟩
  intro reached
  have within : Reached (namesakeGraph [getMethod]) [⟨48⟩, ⟨64⟩] ⟨64⟩ :=
    .root (List.mem_cons_of_mem _ List.mem_cons_self)
  have signs : Signs (namesake [getMethod]) (.address ⟨32⟩) :=
    ⟨_, _, rfl, getMethod, List.mem_cons_self, rfl⟩
  have method : ReachedMethod (namesakeGraph [getMethod]) [⟨48⟩, ⟨64⟩] (getOn ⟨64⟩) :=
    ⟨⟨64⟩, ⟨32⟩, _, within, namesake_described, signs, .mk signature_described rfl⟩
  have listedName := (reached.types "func(func(main.T))").mpr
    (Or.inl (Or.inr ⟨_, method, ⟨_, get_namesake_named 0⟩⟩))
  have missing : (run (.ofTypes (namesakes [getMethod])) namesakeLinks {}).found.types.contains
      "func(func(main.T))" = false := by decide +kernel
  rw [Std.TreeMap.mem_iff_contains, missing] at listedName
  cases listedName

end TypeAtlas.Walk
