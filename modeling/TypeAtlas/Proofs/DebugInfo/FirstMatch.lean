import TypeAtlas.Proofs.DebugInfo.Search
import TypeAtlas.Proofs.Lists

/-!
Where in a source the search for a function stops. It answers by the first item that settles the
matter, a fault or a usable entry of the function, and takes the items up to that one and no
other, whether or not the source ever ends. Without such an item it finds nothing at the end, and
it never comes back if there is no end either. Searches made one after another divide what the
source gives among them.
-/

namespace TypeAtlas

set_option autoImplicit false

/-- An item of a source is an entry, or the fault that stands in its place. -/
abbrev EntryItem := Except EntryFault Entry

namespace EntrySource

variable {σ : Type} [EntrySource σ]

/-- The source after so many reads. -/
def readOn : Nat → σ → σ
  | 0, source => source
  | reads + 1, source => readOn reads (next source).2

/-- The source answers its next reads with these items. -/
def Gives : List EntryItem → σ → Prop
  | [], _ => True
  | item :: later, source => (next source).1 = item.map some ∧ Gives later (readOn 1 source)

/-- These items are all that the source gives before it answers its end. -/
structure Ending (items : List EntryItem) (source : σ) : Prop where
  given : Gives items source
  ended : (next (readOn items.length source)).1 = .ok none

theorem readOn_add (first second : Nat) (source : σ) :
    readOn (first + second) source = readOn second (readOn first source) := by
  induction first generalizing source with
  | zero => rw [Nat.zero_add, readOn]
  | succ first ih => rw [Nat.succ_add, readOn, readOn, ih]

/-- A read takes the first of what is given. -/
theorem next_of_gives {source : σ} {item : EntryItem} {later : List EntryItem}
    (given : Gives (item :: later) source) :
    next source = (item.map some, readOn 1 source) :=
  Prod.ext given.1 rfl

/-- What is given in a row is given one after the other. -/
theorem gives_append {taken later : List EntryItem} {source : σ} :
    Gives (taken ++ later) source ↔ Gives taken source ∧ Gives later (readOn taken.length source) := by
  induction taken generalizing source with
  | nil => simp [Gives, readOn]
  | cons item taken ih =>
      rw [List.cons_append, Gives, Gives, ih, and_assoc]
      rfl

theorem gives_left {taken later : List EntryItem} {source : σ}
    (given : Gives (taken ++ later) source) : Gives taken source :=
  (gives_append.mp given).1

theorem gives_right {taken later : List EntryItem} {source : σ}
    (given : Gives (taken ++ later) source) : Gives later (readOn taken.length source) :=
  (gives_append.mp given).2

theorem ending_right {taken later : List EntryItem} {source : σ}
    (ending : Ending (taken ++ later) source) : Ending later (readOn taken.length source) := by
  refine ⟨gives_right ending.given, ?_⟩
  rw [← readOn_add, ← List.length_append]
  exact ending.ended

/-- Any items can be the items of a source that ends. -/
theorem ending_list (items : List EntryItem) : Ending items (⟨items⟩ : EntryList) := by
  induction items with
  | nil => exact ⟨trivial, rfl⟩
  | cons item items ih =>
      have first : next (⟨item :: items⟩ : EntryList) = (item.map some, ⟨items⟩) := by
        cases item <;> rfl
      have rest : readOn 1 (⟨item :: items⟩ : EntryList) = ⟨items⟩ := congrArg Prod.snd first
      refine ⟨⟨congrArg Prod.fst first, rest ▸ ih.given⟩, ?_⟩
      rw [List.length_cons, Nat.add_comm, readOn_add, rest]
      exact ih.ended

end EntrySource

/-- The items that settle where a function starts, and what they settle. -/
inductive Settles (symbol : String) : EntryItem → Except CatalogFault Address → Prop where
  | fault (fault : EntryFault) : Settles symbol (.error fault) (.error (.debugInfo fault))
  | usable {entry : Entry} {address : Address} :
      Usable symbol entry address → Settles symbol (.ok entry) (.ok address)

/-- Nothing among the items settles where the function starts. -/
def NoneSettles (symbol : String) (items : List EntryItem) : Prop :=
  ∀ item ∈ items, ∀ result, ¬Settles symbol item result

/-- The least place whose item settles where the function starts. -/
def FirstSettled (symbol : String) (items : List EntryItem) (place : Nat)
    (result : Except CatalogFault Address) : Prop :=
  NoneSettles symbol (items.take place) ∧
    ∃ item, items[place]? = some item ∧ Settles symbol item result

/-- How many entries of the function are among the items. -/
def candidates (symbol : String) (items : List EntryItem) : Nat :=
  items.countP fun item => item.toOption.any (·.isCandidate symbol)

/-- Searches for one function, one after another on the same source. -/
noncomputable def locateTimes? {σ : Type} [EntrySource σ] (symbol : String) :
    Nat → σ → Option (List (Except CatalogFault Located) × σ)
  | 0, source => some ([], source)
  | times + 1, source => do
      let (result, rest) ← locate? symbol source
      let (results, last) ← locateTimes? symbol times rest
      return (result :: results, last)

/-- Items divided behind each one that settles where the function starts. -/
structure Divided (symbol : String) (items : List EntryItem) (blocks : List (List EntryItem))
    (results : List (Except CatalogFault Address)) (rest : List EntryItem) : Prop where
  whole : items = blocks.flatten ++ rest
  each : List.Forall₂ (fun block result => FirstSettled symbol block (block.length - 1) result)
    blocks results
  behind : NoneSettles symbol rest

section Statement

variable {σ : Type} [EntrySource σ]

open EntrySource

/-- Every read gives an entry that is of no use. -/
def Endless (symbol : String) (source : σ) : Prop :=
  ∀ reads, ∃ entry, (next (readOn reads source)).1 = .ok (some entry) ∧
    ∀ address, ¬Usable symbol entry address

/-- Successive searches take the blocks of what is given one by one, each whole, and answer what
each of them settles. The search behind the last block finds nothing if the source ends there. -/
structure TakesBlocks (symbol : String) (source : σ) (blocks : List (List EntryItem))
    (results : List (Except CatalogFault Address)) (rest : List EntryItem) : Prop where
  answers : ∀ times ≤ blocks.length, ∃ found,
    locateTimes? symbol times source =
      some (found, readOn (blocks.take times).flatten.length source) ∧
        found.map (Except.map Located.address) = results.take times
  left : ∀ times ≤ blocks.length, Gives ((blocks.drop times).flatten ++ rest)
    (readOn (blocks.take times).flatten.length source)
  exhausted : Ending (blocks.flatten ++ rest) source →
    locate? symbol (readOn blocks.flatten.length source) =
      some (.error (.notFound (.registryFunction symbol)),
        readOn ((blocks.flatten ++ rest).length + 1) source)

/-- The search settles on the first item it can and leaves the source right behind it, or at the
end if there is none. A fault is told in its own words. With an address comes the number of entries
of the function that were passed over for want of one. -/
structure FindsFirst (symbol : String) (source : σ) : Prop where
  settled : ∀ items place result, Gives items source → FirstSettled symbol items place result →
    locate? symbol source =
      some (result.map fun address => ⟨address, candidates symbol (items.take place)⟩,
        readOn (place + 1) source)
  told : ∀ items place fault, FirstSettled symbol items place (.error fault) →
    ∃ found, items[place]? = some (.error found) ∧ fault = .debugInfo found ∧
      fault.message = "debug info error: " ++ found.message
  unsettled : ∀ items, Ending items source → NoneSettles symbol items →
    locate? symbol source =
      some (.error (.notFound (.registryFunction symbol)), readOn (items.length + 1) source)
  unreturned : locate? symbol source = none ↔ Endless symbol source
  left : ∀ items reads, reads ≤ items.length → Gives items source →
    Gives (items.drop reads) (readOn reads source)
  divided : ∀ items, ∃ blocks results rest, Divided symbol items blocks results rest
  successive : ∀ items blocks results rest, Gives items source →
    Divided symbol items blocks results rest → TakesBlocks symbol source blocks results rest

end Statement

section Places

variable {symbol : String} {items : List EntryItem} {place : Nat}
  {result : Except CatalogFault Address}

/-- What settles nothing is an entry that does not serve. -/
theorem NoneSettles.head {item : EntryItem} (none : NoneSettles symbol (item :: items)) :
    ∃ entry, item = .ok entry ∧ ∀ address, ¬Usable symbol entry address := by
  have useless := none item List.mem_cons_self
  cases item with
  | error fault => exact absurd (.fault fault) (useless _)
  | ok entry =>
      exact ⟨entry, rfl, fun address usable => useless _ (.usable usable)⟩

theorem NoneSettles.tail {item : EntryItem} (none : NoneSettles symbol (item :: items)) :
    NoneSettles symbol items :=
  fun other member => none other (List.mem_cons_of_mem _ member)

theorem FirstSettled.split (first : FirstSettled symbol items place result) :
    ∃ item, items = items.take place ++ item :: items.drop (place + 1) ∧
      (items.take place).length = place ∧ Settles symbol item result := by
  obtain ⟨_, item, found, settles⟩ := first
  obtain ⟨inside, rfl⟩ := List.getElem?_eq_some_iff.mp found
  refine ⟨items[place], ?_, List.length_take_of_le (Nat.le_of_lt inside), settles⟩
  rw [List.getElem_cons_drop, List.take_append_drop]

theorem FirstSettled.singleton {item : EntryItem} (settles : Settles symbol item result) :
    FirstSettled symbol [item] 0 result :=
  ⟨fun _ member => absurd member List.not_mem_nil, item, rfl, settles⟩

/-- An item that settles nothing moves the place on by one. -/
theorem FirstSettled.cons {item : EntryItem} (useless : ∀ result, ¬Settles symbol item result)
    (first : FirstSettled symbol items place result) :
    FirstSettled symbol (item :: items) (place + 1) result := by
  obtain ⟨none, found⟩ := first
  refine ⟨?_, found⟩
  intro other member
  rcases List.mem_cons.mp member with rfl | later
  · exact useless
  · exact none other later

/-- What follows does not move the place. -/
theorem FirstSettled.append (first : FirstSettled symbol items place result)
    (later : List EntryItem) : FirstSettled symbol (items ++ later) place result := by
  obtain ⟨none, item, found, settles⟩ := first
  have inside : place < items.length := (List.getElem?_eq_some_iff.mp found).1
  refine ⟨?_, item, ?_, settles⟩
  · rw [List.take_append_of_le_length (Nat.le_of_lt inside)]
    exact none
  · rw [List.getElem?_append_left inside]
    exact found

/-- All items can be divided. The induction is on the items, from the last to the first. -/
theorem exists_divided (symbol : String) (items : List EntryItem) :
    ∃ blocks results rest, Divided symbol items blocks results rest := by
  induction items with
  | nil => exact ⟨[], [], [], rfl, .nil, fun _ member => absurd member List.not_mem_nil⟩
  | cons item items ih =>
      obtain ⟨blocks, results, rest, whole, each, behind⟩ := ih
      by_cases settled : ∃ result, Settles symbol item result
      · obtain ⟨result, settles⟩ := settled
        exact ⟨[item] :: blocks, result :: results, rest, by simp [whole],
          .cons (.singleton settles) each, behind⟩
      have useless : ∀ result, ¬Settles symbol item result :=
        fun result settles => settled ⟨result, settles⟩
      -- The item joins the block behind it, or the rest if no block is left.
      cases each with
      | nil =>
          refine ⟨[], [], item :: rest, by simp [whole], .nil, ?_⟩
          intro other member
          rcases List.mem_cons.mp member with rfl | later
          · exact useless
          · exact behind other later
      | @cons block result blocks results first each =>
          refine ⟨(item :: block) :: blocks, result :: results, rest, by simp [whole],
            .cons ?_ each, behind⟩
          cases block with
          | nil => exact absurd first.2 (by simp)
          | cons head block => exact first.cons useless

end Places

section Searches

variable {σ : Type} [EntrySource σ] {symbol : String} {source : σ}

open EntrySource

/-- The search goes on behind items that settle nothing. -/
theorem locateFrom?_over {taken : List EntryItem} (skipped : Nat) (given : Gives taken source)
    (none : NoneSettles symbol taken) :
    locateFrom? symbol skipped source =
      locateFrom? symbol (skipped + candidates symbol taken) (readOn taken.length source) := by
  induction taken generalizing skipped source with
  | nil => rfl
  | cons item taken ih =>
      obtain ⟨entry, rfl, useless⟩ := none.head
      rw [locateFrom?_passed (next_of_gives given) useless, ih _ given.2 none.tail]
      have counted : candidates symbol (.ok entry :: taken) =
          candidates symbol taken + if entry.isCandidate symbol then 1 else 0 :=
        List.countP_cons
      rw [counted]
      congr 1
      split <;> omega

/-- The search of a source whose next item settles the matter. -/
theorem locateFrom?_settled {item : EntryItem} {result : Except CatalogFault Address}
    (skipped : Nat) (given : (next source).1 = item.map some)
    (settles : Settles symbol item result) :
    locateFrom? symbol skipped source =
      some (result.map fun address => ⟨address, skipped⟩, readOn 1 source) := by
  have read : next source = (item.map some, readOn 1 source) := Prod.ext given rfl
  cases settles with
  | fault fault => exact locateFrom?_fault read
  | usable usable => exact locateFrom?_found read usable

theorem locate?_of_first {items : List EntryItem} {place : Nat}
    {result : Except CatalogFault Address} (given : Gives items source)
    (first : FirstSettled symbol items place result) :
    locate? symbol source =
      some (result.map fun address => ⟨address, candidates symbol (items.take place)⟩,
        readOn (place + 1) source) := by
  obtain ⟨item, whole, reads, settles⟩ := first.split
  rw [whole] at given
  have there := (gives_right given).1
  rw [reads] at there
  rw [locate?, locateFrom?_over 0 (gives_left given) first.1, reads, Nat.zero_add,
    locateFrom?_settled _ there settles, readOn_add]

theorem locate?_of_none {items : List EntryItem} (ending : Ending items source)
    (none : NoneSettles symbol items) :
    locate? symbol source =
      some (.error (.notFound (.registryFunction symbol)), readOn (items.length + 1) source) := by
  rw [locate?, locateFrom?_over 0 ending.given none, readOn_add]
  exact locateFrom?_end (Prod.ext ending.ended rfl)

/-- A search of a source without an end comes back only if something settles it. The induction is
on the search. -/
theorem unreturned_of_endless (endless : Endless symbol source) : locate? symbol source = none := by
  cases returned : locate? symbol source with
  | none => rfl
  | some answer =>
      refine absurd endless (search_induction (fun _ source _ => ¬Endless symbol source)
        ?_ ?_ ?_ ?_ returned)
      · intro skipped source rest found read endless
        obtain ⟨entry, given, _⟩ := endless 0
        rw [readOn, read] at given
        cases given
      · intro skipped source rest read endless
        obtain ⟨entry, given, _⟩ := endless 0
        rw [readOn, read] at given
        cases given
      · intro skipped source rest entry address read usable endless
        obtain ⟨other, given, useless⟩ := endless 0
        rw [readOn, read] at given
        cases given
        exact useless address usable
      · intro skipped source rest entry answer read _ finite endless
        apply finite
        intro reads
        have later := endless (reads + 1)
        rwa [readOn, read] at later

/-- What one read answers ends the search, or it is an entry of no use. The induction is on the
reads made before. -/
theorem returned_of_stop {reads : Nat}
    (stops : ¬∃ entry, (next (readOn reads source)).1 = .ok (some entry) ∧
      ∀ address, ¬Usable symbol entry address) :
    ∀ skipped, ∃ answer, locateFrom? symbol skipped source = some answer := by
  induction reads generalizing source with
  | zero =>
      intro skipped
      rcases read : next source with ⟨fault | entry?, rest⟩
      · exact ⟨_, locateFrom?_fault read⟩
      cases entry? with
      | none => exact ⟨_, locateFrom?_end read⟩
      | some entry =>
          have useful : ∃ address, Usable symbol entry address := by
            by_contra useless
            exact stops ⟨entry, congrArg Prod.fst read, not_exists.mp useless⟩
          obtain ⟨address, usable⟩ := useful
          exact ⟨_, locateFrom?_found read usable⟩
  | succ reads ih =>
      intro skipped
      rw [readOn] at stops
      rcases read : next source with ⟨fault | entry?, rest⟩
      · exact ⟨_, locateFrom?_fault read⟩
      cases entry? with
      | none => exact ⟨_, locateFrom?_end read⟩
      | some entry =>
          by_cases useful : ∃ address, Usable symbol entry address
          · obtain ⟨address, usable⟩ := useful
            exact ⟨_, locateFrom?_found read usable⟩
          · rw [read] at stops
            rw [locateFrom?_passed read (not_exists.mp useful)]
            exact ih stops _

theorem unreturned_iff : locate? symbol source = none ↔ Endless symbol source := by
  refine ⟨?_, unreturned_of_endless⟩
  intro unreturned reads
  by_contra stops
  obtain ⟨answer, returned⟩ := returned_of_stop stops 0
  have both := unreturned.symm.trans returned
  cases both

/-- One search takes the first block. -/
theorem locate?_of_block {block : List EntryItem} {result : Except CatalogFault Address}
    (given : Gives block source) (first : FirstSettled symbol block (block.length - 1) result) :
    ∃ found, locate? symbol source = some (found, readOn block.length source) ∧
      found.map Located.address = result := by
  have inside : block.length - 1 + 1 = block.length := by
    obtain ⟨_, item, found, _⟩ := first
    have bound := (List.getElem?_eq_some_iff.mp found).1
    omega
  have answered := locate?_of_first given first
  rw [inside] at answered
  refine ⟨_, answered, ?_⟩
  cases result <;> rfl

/-- As many searches as there are blocks take them all. The induction is on the blocks, of which
the first search takes the first. -/
theorem locateTimes?_of_blocks {blocks : List (List EntryItem)}
    {results : List (Except CatalogFault Address)}
    (each : List.Forall₂ (fun block result => FirstSettled symbol block (block.length - 1) result)
      blocks results) (given : Gives blocks.flatten source) :
    ∃ found, locateTimes? symbol blocks.length source =
        some (found, readOn blocks.flatten.length source) ∧
      found.map (Except.map Located.address) = results := by
  induction each generalizing source with
  | nil => exact ⟨[], rfl, rfl⟩
  | @cons block result blocks results first _ ih =>
      rw [List.flatten_cons] at given
      obtain ⟨answer, searched, same⟩ := locate?_of_block (gives_left given) first
      obtain ⟨answers, later, others⟩ := ih (gives_right given)
      refine ⟨answer :: answers, ?_, congrArg₂ List.cons same others⟩
      rw [List.length_cons, locateTimes?, searched, List.flatten_cons, List.length_append,
        readOn_add]
      simp only [Option.bind_eq_bind, Option.bind_some, later]
      rfl

theorem takesBlocks_of_divided {items : List EntryItem} {blocks : List (List EntryItem)}
    {results : List (Except CatalogFault Address)} {rest : List EntryItem}
    (given : Gives items source) (divided : Divided symbol items blocks results rest) :
    TakesBlocks symbol source blocks results rest := by
  have whole : ∀ times, Gives ((blocks.take times).flatten ++
      ((blocks.drop times).flatten ++ rest)) source := by
    intro times
    rw [← List.append_assoc, ← List.flatten_append, List.take_append_drop, ← divided.whole]
    exact given
  refine ⟨?_, fun times _ => gives_right (whole times), ?_⟩
  · intro times bound
    have taken := locateTimes?_of_blocks (List.forall₂_take times divided.each)
      (gives_left (whole times))
    rwa [List.length_take_of_le bound] at taken
  · intro ending
    rw [locate?_of_none (ending_right ending) divided.behind, ← readOn_add, List.length_append,
      Nat.add_assoc]

end Searches

/-- The first usable entry or fault of a source is what the search answers, and it takes the items
up to that one only. The search of a stream always answers. -/
theorem locate_finds_first :
    (∀ (σ : Type) [EntrySource σ] (symbol : String) (source : σ), FindsFirst symbol source) ∧
      (∀ (σ : Type) [EntryStream σ] (symbol : String) (stream : σ),
        locate? symbol stream = some (locate symbol stream)) ∧
        ∀ items, EntrySource.Ending items (⟨items⟩ : EntryList) := by
  refine ⟨?_, fun σ _ symbol stream => locate?_eq symbol stream, EntrySource.ending_list⟩
  intro σ _ symbol source
  refine ⟨fun items place result => locate?_of_first, ?_, fun items => locate?_of_none,
    unreturned_iff, ?_, exists_divided symbol,
    fun items blocks results rest => takesBlocks_of_divided⟩
  · intro items place fault first
    obtain ⟨-, item, found, settles⟩ := first
    cases settles
    exact ⟨_, found, rfl, rfl⟩
  · intro items reads bound given
    rw [← List.take_append_drop reads items] at given
    have left := EntrySource.gives_right given
    rwa [List.length_take_of_le bound] at left

/-- The first entry has a name that is hidden by an attribute before it, and the second one has no
address. The search takes both and the entry behind them, and leaves the last. -/
example :
    let hidden : Entry :=
      ⟨.subprogram, [(.name, .unsigned 1), (.name, .text "f"), (.lowPc, .address 8)]⟩
    locate "f" (EntryList.ofEntries
      [hidden, .subprogram "f" none, .subprogram "f" (some 16), .subprogram "f" (some 32)]) =
        (.ok ⟨⟨16⟩, 1⟩, .ofEntries [.subprogram "f" (some 32)]) := by
  cbv

end TypeAtlas
