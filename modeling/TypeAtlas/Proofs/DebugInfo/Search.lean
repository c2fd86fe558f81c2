import TypeAtlas.DebugInfo.Locate

/-!
The search for a function, told by the reads it makes. It reads past the entries that are of no
use, and its last read is the first that finds one that is, a fault, or the end. Where there is no
such read it does not come back, so that what it comes to is a partial answer. A source that keeps
a record of its reads is searched as the source itself is.
-/

namespace TypeAtlas

set_option autoImplicit false

/-- A stream with the reads made from it, oldest first. -/
structure WatchedStream (σ : Type) where
  stream : σ
  reads : List EntryRead

namespace WatchedStream

variable {σ : Type}

def next [EntrySource σ] (watched : WatchedStream σ) : EntryRead × WatchedStream σ :=
  let (read, stream) := EntrySource.next watched.stream
  (read, ⟨stream, watched.reads ++ [read]⟩)

instance [EntrySource σ] : EntrySource (WatchedStream σ) := ⟨next⟩

theorem behind_stream [EntrySource σ] {rest watched : WatchedStream σ}
    (behind : EntrySource.Behind rest watched) :
    EntrySource.Behind rest.stream watched.stream := by
  obtain ⟨entry, read⟩ := behind
  obtain ⟨same, rfl⟩ := Prod.mk.inj read
  exact ⟨entry, Prod.ext same rfl⟩

instance [EntryStream σ] : EntryStream (WatchedStream σ) where
  pauses := Subrelation.wf behind_stream (InvImage.wf WatchedStream.stream EntryStream.pauses)

theorem next_eq [EntrySource σ] {stream rest : σ} {read : EntryRead}
    (found : EntrySource.next stream = (read, rest)) (reads : List EntryRead) :
    EntrySource.next (⟨stream, reads⟩ : WatchedStream σ) = (read, ⟨rest, reads ++ [read]⟩) := by
  change next ⟨stream, reads⟩ = _
  rw [next, found]

end WatchedStream

/-- The first attribute of a name has this value. Later ones of the name may have any. -/
def Entry.FirstIs (entry : Entry) (wanted : AttributeName) (value : AttributeValue) : Prop :=
  ∃ before after, entry.attributes = before ++ (wanted, value) :: after ∧
    ∀ earlier ∈ before, earlier.1 ≠ wanted

/-- An entry of the function that tells where the function starts. -/
structure Usable (symbol : String) (entry : Entry) (address : Address) : Prop where
  tag : entry.tag = .subprogram
  named : entry.FirstIs .name (.text symbol)
  starts : entry.FirstIs .lowPc (.address address.val) ∨
    entry.FirstIs .lowPc (.unsigned address.val)

/-- The reads of a search, and what it comes to. -/
inductive Search (symbol : String) : List EntryRead → Except CatalogFault Address → Prop where
  | faulted (fault : EntryFault) : Search symbol [.error fault] (.error (.debugInfo fault))
  | exhausted : Search symbol [.ok none] (.error (.notFound (.registryFunction symbol)))
  | found {entry : Entry} {address : Address} :
      Usable symbol entry address → Search symbol [.ok (some entry)] (.ok address)
  | passed {entry : Entry} {reads : List EntryRead} {result : Except CatalogFault Address} :
      (∀ address, ¬Usable symbol entry address) → Search symbol reads result →
        Search symbol (.ok (some entry) :: reads) result

theorem Entry.attribute?_eq_some_iff {entry : Entry} {wanted : AttributeName}
    {value : AttributeValue} :
    entry.attribute? wanted = some value ↔ entry.FirstIs wanted value := by
  rw [Entry.attribute?, Option.map_eq_some_iff]
  constructor
  · intro found
    obtain ⟨⟨held, _⟩, found, rfl⟩ := found
    obtain ⟨same, before, after, whole, others⟩ := List.find?_eq_some_iff_append.mp found
    obtain rfl : held = wanted := by simpa using same
    exact ⟨before, after, whole, fun earlier member => by simpa using others earlier member⟩
  · intro first
    obtain ⟨before, after, whole, others⟩ := first
    refine ⟨(wanted, value), List.find?_eq_some_iff_append.mpr ?_, rfl⟩
    refine ⟨by simp, before, after, whole, ?_⟩
    intro earlier member
    simpa using others earlier member

theorem Entry.name?_eq_some_iff {entry : Entry} {symbol : String} :
    entry.name? = some symbol ↔ entry.FirstIs .name (.text symbol) := by
  rw [← Entry.attribute?_eq_some_iff, Entry.name?]
  split <;> simp_all

theorem Entry.lowPc?_eq_some_iff {entry : Entry} {address : Address} :
    entry.lowPc? = some address ↔
      entry.FirstIs .lowPc (.address address.val) ∨
        entry.FirstIs .lowPc (.unsigned address.val) := by
  rw [← Entry.attribute?_eq_some_iff, ← Entry.attribute?_eq_some_iff, Entry.lowPc?]
  obtain ⟨value⟩ := address
  split <;> simp_all

/-- What the search looks at in an entry: whether it is the function, and then its address. -/
theorem usable_iff {symbol : String} {entry : Entry} {address : Address} :
    Usable symbol entry address ↔
      entry.isCandidate symbol = true ∧ entry.lowPc? = some address := by
  rw [Entry.isCandidate, Bool.and_eq_true, beq_iff_eq, beq_iff_eq, Entry.name?_eq_some_iff,
    Entry.lowPc?_eq_some_iff, and_assoc]
  exact ⟨fun usable => ⟨usable.tag, usable.named, usable.starts⟩,
    fun parts => ⟨parts.1, parts.2.1, parts.2.2⟩⟩

theorem unaddressed_of_useless {symbol : String} {entry : Entry}
    (candidate : entry.isCandidate symbol = true)
    (useless : ∀ address, ¬Usable symbol entry address) : entry.lowPc? = none :=
  Option.eq_none_iff_forall_ne_some.mpr fun address starts =>
    useless address (usable_iff.mpr ⟨candidate, starts⟩)

theorem Search.ne_nil {symbol : String} {reads : List EntryRead}
    {result : Except CatalogFault Address} (search : Search symbol reads result) : reads ≠ [] := by
  cases search <;> exact List.cons_ne_nil _ _

/-- The reads of a search settle what it comes to. -/
theorem Search.unique {symbol : String} {reads : List EntryRead}
    {first second : Except CatalogFault Address} (left : Search symbol reads first)
    (right : Search symbol reads second) : first = second := by
  induction left with
  | faulted fault =>
      cases right
      rfl
  | exhausted =>
      cases right
      rfl
  | found usable =>
      cases right with
      | found again =>
          have starts := (usable_iff.mp usable).2
          have same := Option.some.inj (starts.symm.trans (usable_iff.mp again).2)
          rw [same]
      | passed useless _ => exact absurd usable (useless _)
  | passed useless _ ih =>
      cases right with
      | found usable => exact absurd usable (useless _)
      | passed _ rest => exact ih rest

/-- A search fails by a read or for want of an entry. -/
theorem Search.fault {symbol : String} {reads : List EntryRead}
    {result : Except CatalogFault Address} (search : Search symbol reads result)
    {fault : CatalogFault} (failed : result = .error fault) :
    (∃ found, fault = .debugInfo found) ∨ fault = .notFound (.registryFunction symbol) := by
  induction search with
  | faulted found =>
      cases failed
      exact .inl ⟨found, rfl⟩
  | exhausted =>
      cases failed
      exact .inr rfl
  | found _ => cases failed
  | passed _ _ ih => exact ih failed

/-! ### Searches that may not come back -/

section Steps

variable {σ : Type} [EntrySource σ] {symbol : String} {skipped : Nat} {source rest : σ}

open scoped Classical in
/-- What the search after `skipped` entries without an address comes to, if it comes back. -/
noncomputable def locateFrom? (symbol : String) (skipped : Nat) (source : σ) :
    Option (Except CatalogFault Located × σ) :=
  if back : ComesBack symbol source then some (locateFrom symbol skipped source back) else none

noncomputable def locate? (symbol : String) (source : σ) :
    Option (Except CatalogFault Located × σ) :=
  locateFrom? symbol 0 source

theorem passed_iff {entry : Entry} (read : EntrySource.next source = (.ok (some entry), rest))
    (other : σ) : Passed symbol other source ↔
      other = rest ∧ ∀ address, ¬Usable symbol entry address := by
  constructor
  · rintro ⟨found, again, useless⟩
    rw [read] at again
    cases again
    refine ⟨rfl, ?_⟩
    intro address usable
    obtain ⟨candidate, starts⟩ := usable_iff.mp usable
    rw [useless candidate] at starts
    cases starts
  · rintro ⟨rfl, useless⟩
    exact ⟨entry, read, fun candidate => unaddressed_of_useless candidate useless⟩

/-- Only an entry can be passed. -/
theorem comesBack_of_read {read : EntryRead} (found : EntrySource.next source = (read, rest))
    (entryless : ∀ entry, read ≠ .ok (some entry)) : ComesBack symbol source := by
  refine Acc.intro source ?_
  rintro other ⟨entry, again, _⟩
  rw [found] at again
  exact absurd (Prod.mk.inj again).1 (entryless entry)

theorem locateFrom?_fault {fault : EntryFault}
    (read : EntrySource.next source = (.error fault, rest)) :
    locateFrom? symbol skipped source = some (.error (.debugInfo fault), rest) := by
  have back : ComesBack symbol source := comesBack_of_read read (by simp)
  rw [locateFrom?, dif_pos back, locateFrom]
  split <;> simp_all

theorem locateFrom?_end (read : EntrySource.next source = (.ok none, rest)) :
    locateFrom? symbol skipped source =
      some (.error (.notFound (.registryFunction symbol)), rest) := by
  have back : ComesBack symbol source := comesBack_of_read read (by simp)
  rw [locateFrom?, dif_pos back, locateFrom]
  split <;> simp_all

theorem locateFrom?_found {entry : Entry} {address : Address}
    (read : EntrySource.next source = (.ok (some entry), rest))
    (usable : Usable symbol entry address) :
    locateFrom? symbol skipped source = some (.ok ⟨address, skipped⟩, rest) := by
  have back : ComesBack symbol source := by
    refine Acc.intro source ?_
    intro other passed
    exact absurd usable (((passed_iff read other).mp passed).2 address)
  obtain ⟨candidate, starts⟩ := usable_iff.mp usable
  rw [locateFrom?, dif_pos back, locateFrom]
  split
  · simp_all
  · simp_all
  · rename_i again
    obtain ⟨rfl, rfl⟩ : entry = _ ∧ rest = _ := by simpa [read] using again
    rw [dif_pos candidate]
    split <;> simp_all

/-- An entry that is of no use is read past, and counted if it has the name. -/
theorem locateFrom?_passed {entry : Entry}
    (read : EntrySource.next source = (.ok (some entry), rest))
    (useless : ∀ address, ¬Usable symbol entry address) :
    locateFrom? symbol skipped source =
      locateFrom? symbol (if entry.isCandidate symbol then skipped + 1 else skipped) rest := by
  have passed := (passed_iff read rest).mpr ⟨rfl, useless⟩
  by_cases back : ComesBack symbol source
  · have later : ComesBack symbol rest := back.later passed
    rw [locateFrom?, locateFrom?, dif_pos back, dif_pos later, locateFrom]
    split
    · simp_all
    · simp_all
    · rename_i again
      obtain ⟨rfl, rfl⟩ : entry = _ ∧ rest = _ := by simpa [read] using again
      by_cases candidate : entry.isCandidate symbol = true
      · have unaddressed := unaddressed_of_useless candidate useless
        rw [dif_pos candidate]
        split <;> simp_all
      · rw [dif_neg candidate, if_neg candidate]
  · have astray : ¬ComesBack symbol rest := by
      intro later
      apply back
      refine Acc.intro source fun other passed => ?_
      rw [((passed_iff read other).mp passed).1]
      exact later
    rw [locateFrom?, locateFrom?, dif_neg back, dif_neg astray]

end Steps

/-- What holds of every search that comes back: it holds of those that end with their first read,
and goes from the rest of a source to the source with one more entry of no use. -/
theorem search_induction {σ : Type} [EntrySource σ] {symbol : String}
    (told : Nat → σ → Except CatalogFault Located × σ → Prop)
    (fault : ∀ skipped source rest found, EntrySource.next source = (.error found, rest) →
      told skipped source (.error (.debugInfo found), rest))
    (ended : ∀ skipped source rest, EntrySource.next source = (.ok none, rest) →
      told skipped source (.error (.notFound (.registryFunction symbol)), rest))
    (found : ∀ skipped source rest entry address,
      EntrySource.next source = (.ok (some entry), rest) → Usable symbol entry address →
        told skipped source (.ok ⟨address, skipped⟩, rest))
    (passed : ∀ skipped source rest entry answer,
      EntrySource.next source = (.ok (some entry), rest) →
        (∀ address, ¬Usable symbol entry address) →
          told (if entry.isCandidate symbol then skipped + 1 else skipped) rest answer →
            told skipped source answer)
    {skipped : Nat} {source : σ} {answer : Except CatalogFault Located × σ}
    (returned : locateFrom? symbol skipped source = some answer) :
    told skipped source answer := by
  have back : ComesBack symbol source := by
    rw [locateFrom?] at returned
    split at returned
    · assumption
    · cases returned
  induction back generalizing skipped with
  | intro source _ later =>
      rcases read : EntrySource.next source with ⟨failure | entry?, rest⟩
      · rw [locateFrom?_fault read] at returned
        cases returned
        exact fault skipped source rest failure read
      cases entry? with
      | none =>
          rw [locateFrom?_end read] at returned
          cases returned
          exact ended skipped source rest read
      | some entry =>
          by_cases useful : ∃ address, Usable symbol entry address
          · obtain ⟨address, usable⟩ := useful
            rw [locateFrom?_found read usable] at returned
            cases returned
            exact found skipped source rest entry address read usable
          · have useless := not_exists.mp useful
            have step := (passed_iff read rest).mpr ⟨rfl, useless⟩
            rw [locateFrom?_passed read useless] at returned
            exact passed skipped source rest entry answer read useless (later rest step returned)

/-- A search of a watched source comes to the same, and adds the reads of the search to the
record. -/
theorem locateFrom?_watched {σ : Type} [EntrySource σ] {symbol : String} {skipped : Nat}
    {source : σ} {answer : Except CatalogFault Located × σ}
    (returned : locateFrom? symbol skipped source = some answer) :
    ∀ reads : List EntryRead, ∃ made, Search symbol made (answer.1.map Located.address) ∧
      locateFrom? symbol skipped (⟨source, reads⟩ : WatchedStream σ) =
        some (answer.1, ⟨answer.2, reads ++ made⟩) := by
  refine search_induction (fun skipped source answer => ∀ reads : List EntryRead,
    ∃ made, Search symbol made (answer.1.map Located.address) ∧
      locateFrom? symbol skipped (⟨source, reads⟩ : WatchedStream σ) =
        some (answer.1, ⟨answer.2, reads ++ made⟩)) ?_ ?_ ?_ ?_ returned
  · intro skipped source rest found read reads
    exact ⟨[.error found], .faulted found, locateFrom?_fault (WatchedStream.next_eq read reads)⟩
  · intro skipped source rest read reads
    exact ⟨[.ok none], .exhausted, locateFrom?_end (WatchedStream.next_eq read reads)⟩
  · intro skipped source rest entry address read usable reads
    exact ⟨[.ok (some entry)], .found usable,
      locateFrom?_found (WatchedStream.next_eq read reads) usable⟩
  · intro skipped source rest entry answer read useless ih reads
    obtain ⟨made, search, watched⟩ := ih (reads ++ [.ok (some entry)])
    refine ⟨.ok (some entry) :: made, .passed useless search, ?_⟩
    rw [locateFrom?_passed (WatchedStream.next_eq read reads) useless, watched, List.append_assoc]
    rfl

/-- The search of a stream is a search that comes back. -/
theorem locate?_eq {σ : Type} [EntryStream σ] (symbol : String) (stream : σ) :
    locate? symbol stream = some (locate symbol stream) :=
  dif_pos (EntryStream.comesBack symbol stream)

theorem locate_watched {σ : Type} [EntryStream σ] (symbol : String) (stream : σ)
    (reads : List EntryRead) :
    ∃ made, Search symbol made ((locate symbol stream).1.map Located.address) ∧
      locate symbol (⟨stream, reads⟩ : WatchedStream σ) =
        ((locate symbol stream).1, ⟨(locate symbol stream).2, reads ++ made⟩) := by
  obtain ⟨made, search, watched⟩ := locateFrom?_watched (locate?_eq symbol stream) reads
  exact ⟨made, search, Option.some.inj ((locate?_eq symbol _).symm.trans watched)⟩

end TypeAtlas
