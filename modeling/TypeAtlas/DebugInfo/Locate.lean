import TypeAtlas.Catalog.Fault
import TypeAtlas.DebugInfo.Stream

/-!
The search for a function by name in a source of entries. The source is read up to the first entry
that serves and no further, so that a later search goes on behind it. A source may go on for ever
with entries that do not serve; a stream does not, so that every search of it comes back.
-/

namespace TypeAtlas

set_option autoImplicit false

/-- Where a function starts, and how many entries of its name without a usable address came
before. -/
structure Located where
  address : Address
  skipped : Nat
deriving DecidableEq, Repr

namespace Located

def message (symbol : String) (located : Located) : String :=
  s!"located {symbol} at {located.address} " ++
    s!"({located.skipped} candidates without entry address skipped)"

end Located

/-- Whether the entry is the function, with or without an address. -/
def Entry.isCandidate (entry : Entry) (symbol : String) : Bool :=
  entry.tag == .subprogram && entry.name? == some symbol

variable {σ : Type}

/-- What is left by a read that does not end the search: of an entry that is not the function, or
has no usable address. -/
def Passed [EntrySource σ] (symbol : String) (rest source : σ) : Prop :=
  ∃ entry, EntrySource.next source = (.ok (some entry), rest) ∧
    (entry.isCandidate symbol = true → entry.lowPc? = none)

/-- A search does not pass entries for ever. -/
def ComesBack [EntrySource σ] (symbol : String) (source : σ) : Prop :=
  Acc (Passed symbol) source

theorem ComesBack.later [EntrySource σ] {symbol : String} {rest source : σ}
    (back : ComesBack symbol source) (passed : Passed symbol rest source) :
    ComesBack symbol rest :=
  back.inv passed

/-- The search after `skipped` entries without an address, of a source from which it comes back. -/
def locateFrom [EntrySource σ] (symbol : String) (skipped : Nat) (source : σ)
    (back : ComesBack symbol source) : Except CatalogFault Located × σ :=
  match read : EntrySource.next source with
  | (.error fault, rest) => (.error (.debugInfo fault), rest)
  | (.ok none, rest) => (.error (.notFound (.registryFunction symbol)), rest)
  | (.ok (some entry), rest) =>
      if candidate : entry.isCandidate symbol = true then
        match starts : entry.lowPc? with
        | some address => (.ok ⟨address, skipped⟩, rest)
        | none => locateFrom symbol (skipped + 1) rest (back.later ⟨entry, read, fun _ => starts⟩)
      else locateFrom symbol skipped rest
        (back.later ⟨entry, read, fun other => absurd other candidate⟩)
termination_by (⟨source, back⟩ : { source : σ // Acc (Passed symbol) source })
decreasing_by
  · exact ⟨entry, read, fun _ => starts⟩
  · exact ⟨entry, read, fun other => absurd other candidate⟩

theorem EntryStream.comesBack [EntryStream σ] (symbol : String) (stream : σ) :
    ComesBack symbol stream := by
  refine Subrelation.accessible ?_ (EntryStream.pauses.apply stream)
  rintro rest source ⟨entry, read, _⟩
  exact ⟨entry, read⟩

/-- The search of a stream. -/
def locate [EntryStream σ] (symbol : String) (stream : σ) : Except CatalogFault Located × σ :=
  locateFrom symbol 0 stream (EntryStream.comesBack symbol stream)

end TypeAtlas
