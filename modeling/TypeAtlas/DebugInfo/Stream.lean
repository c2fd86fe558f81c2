import TypeAtlas.DebugInfo.Entry

/-!
Sources of debug information entries, read forwards. A read answers an entry, the end, or a fault,
after which reading may go on. A source that does not give entries for ever is a stream: whatever
was read, its end or a fault comes after finitely many of them.
-/

namespace TypeAtlas

set_option autoImplicit false

/-- What a source answers to a read. -/
abbrev EntryRead := Except EntryFault (Option Entry)

class EntrySource (σ : Type) where
  next : σ → EntryRead × σ

/-- What is left of a source by a read that gave an entry. -/
def EntrySource.Behind {σ : Type} [EntrySource σ] (rest source : σ) : Prop :=
  ∃ entry, next source = (.ok (some entry), rest)

class EntryStream (σ : Type) extends EntrySource σ where
  pauses : WellFounded fun rest stream : σ => EntrySource.Behind rest stream

namespace EntryStream

export EntrySource (next)

end EntryStream

/-- Entries and faults already at hand. -/
structure EntryList where
  items : List (Except EntryFault Entry)

namespace EntryList

def ofEntries (entries : List Entry) : EntryList := ⟨entries.map .ok⟩

def next (list : EntryList) : EntryRead × EntryList :=
  match list.items with
  | [] => (.ok none, list)
  | .ok entry :: later => (.ok (some entry), ⟨later⟩)
  | .error fault :: later => (.error fault, ⟨later⟩)

/-- The entries still to come, faults not counted. -/
def entriesLeft (list : EntryList) : Nat := list.items.countP (·.isOk)

instance : EntrySource EntryList := ⟨next⟩

theorem shorter_behind {rest list : EntryList} (behind : EntrySource.Behind rest list) :
    rest.items.length < list.items.length := by
  obtain ⟨entry, read⟩ := behind
  obtain ⟨items⟩ := list
  change next ⟨items⟩ = _ at read
  cases items with
  | nil => cases read
  | cons item later =>
      cases item with
      | error fault => cases read
      | ok first =>
          cases read
          exact Nat.lt_succ_self later.length

instance : EntryStream EntryList where
  pauses := Subrelation.wf shorter_behind (measure fun list : EntryList => list.items.length).wf

end EntryList

/-- A source together with the number of reads made from it. -/
structure CountedStream (σ : Type) where
  stream : σ
  reads : Nat

namespace CountedStream

variable {σ : Type}

def next [EntrySource σ] (counted : CountedStream σ) : EntryRead × CountedStream σ :=
  let (read, stream) := EntrySource.next counted.stream
  (read, ⟨stream, counted.reads + 1⟩)

instance [EntrySource σ] : EntrySource (CountedStream σ) := ⟨next⟩

theorem behind_stream [EntrySource σ] {rest counted : CountedStream σ}
    (behind : EntrySource.Behind rest counted) :
    EntrySource.Behind rest.stream counted.stream := by
  obtain ⟨entry, read⟩ := behind
  obtain ⟨same, rfl⟩ := Prod.mk.inj read
  exact ⟨entry, Prod.ext same rfl⟩

instance [EntryStream σ] : EntryStream (CountedStream σ) where
  pauses := Subrelation.wf behind_stream (InvImage.wf CountedStream.stream EntryStream.pauses)

end CountedStream

end TypeAtlas
