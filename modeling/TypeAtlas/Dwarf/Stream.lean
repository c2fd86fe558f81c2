import TypeAtlas.DebugInfo.Stream
import TypeAtlas.Dwarf.Unit

/-!
The entries of DWARF data as a stream, unit by unit. The entries of a unit wait until it has been
read; the fault that ends a unit is answered at once, and what was read before it comes after. A
bad header ends the stream.
-/

namespace TypeAtlas.Dwarf

set_option autoImplicit false

/-- The units still to be delivered, and the entries of the unit at hand. -/
structure UnitStream where
  units : List UnitOutcome
  waiting : List Entry

namespace UnitStream

def ofSections (sections : Sections) : UnitStream := ⟨sections.units, []⟩

/-- Goes on to the next unit that has an entry or a fault. -/
def nextUnit : List UnitOutcome → EntryRead × UnitStream
  | [] => (.ok none, ⟨[], []⟩)
  | .badHeader fault :: _ => (.error (.dwarf fault), ⟨[], []⟩)
  | .unopened fault :: units => (.error (.dwarf fault), ⟨units, []⟩)
  | .read entries (some fault) :: units => (.error (.dwarf fault), ⟨units, entries⟩)
  | .read (entry :: entries) none :: units => (.ok (some entry), ⟨units, entries⟩)
  | .read [] none :: units => nextUnit units

def next (stream : UnitStream) : EntryRead × UnitStream :=
  match stream.waiting with
  | entry :: waiting => (.ok (some entry), ⟨stream.units, waiting⟩)
  | [] => nextUnit stream.units

/-- How much a unit still has to give: its entries and perhaps a fault. -/
def unitSize : UnitOutcome → Nat
  | .badHeader _ | .unopened _ => 1
  | .read entries _ => entries.length + 1

def unitsSize : List UnitOutcome → Nat
  | [] => 0
  | unit :: units => unitSize unit + unitsSize units

def remaining (stream : UnitStream) : Nat := stream.waiting.length + unitsSize stream.units

theorem remaining_nextUnit (units : List UnitOutcome)
    (unfinished : (nextUnit units).1 ≠ .ok none) :
    (nextUnit units).2.remaining < unitsSize units := by
  fun_induction nextUnit units with
  | case1 => exact absurd rfl unfinished
  | case2 fault units =>
      simp only [remaining, unitSize, unitsSize, List.length_nil]
      omega
  | case3 fault units =>
      simp only [remaining, unitSize, unitsSize, List.length_nil]
      omega
  | case4 entries fault units =>
      simp only [remaining, unitSize, unitsSize]
      omega
  | case5 entry entries units =>
      simp only [remaining, unitSize, unitsSize, List.length_cons]
      omega
  | case6 units later =>
      have shorter := later unfinished
      rw [unitsSize]
      omega

instance : EntrySource UnitStream := ⟨next⟩

theorem remaining_behind {rest stream : UnitStream} (behind : EntrySource.Behind rest stream) :
    rest.remaining < stream.remaining := by
  obtain ⟨entry, read⟩ := behind
  change stream.next = _ at read
  obtain ⟨units, waiting⟩ := stream
  cases waiting with
  | nil =>
      have given : nextUnit units = (.ok (some entry), rest) := read
      have shorter := remaining_nextUnit units (by simp [given])
      rw [given] at shorter
      simpa only [remaining, List.length_nil, Nat.zero_add] using shorter
  | cons first later =>
      cases read
      simp only [remaining, List.length_cons]
      omega

instance : EntryStream UnitStream where
  pauses := Subrelation.wf remaining_behind (measure remaining).wf

end UnitStream

end TypeAtlas.Dwarf
