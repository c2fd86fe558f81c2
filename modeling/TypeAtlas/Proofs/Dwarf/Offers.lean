import Mathlib.Data.List.Forall2
import TypeAtlas.Dwarf.Stream

/-!
What is offered for each unit before anything of it is converted. A header may be bad, a unit may
fail to open, and an opened unit offers its entries in order and may end in a fault. A unit is
read by converting what it offers until that fails, and the units of DWARF data are read so.
-/

namespace TypeAtlas.Dwarf

set_option autoImplicit false

/-- What is offered for one unit, with the entries as they stand in the data. -/
inductive UnitOffer (ρ : Type) where
  | badHeader (fault : Fault)
  | unopened (fault : Fault)
  | opened (items : List ρ) (ending : Option Fault)

variable {ρ : Type}

/-- The entries of a unit up to the point where it fails, and the fault if it does. The unit fails
where an item cannot be converted, or else where it ends in a fault of its own. -/
inductive ReadsAs (convert : ρ → Except Fault Entry) :
    UnitOffer ρ → List Entry → Option Fault → Prop where
  | badHeader (fault : Fault) : ReadsAs convert (.badHeader fault) [] (some fault)
  | unopened (fault : Fault) : ReadsAs convert (.unopened fault) [] (some fault)
  | whole {items : List ρ} {entries : List Entry} (ending : Option Fault) :
      List.Forall₂ (fun item entry => convert item = .ok entry) items entries →
        ReadsAs convert (.opened items ending) entries ending
  | torn {before later : List ρ} {item : ρ} {entries : List Entry} {fault : Fault}
      (ending : Option Fault) :
      List.Forall₂ (fun item entry => convert item = .ok entry) before entries →
        convert item = .error fault →
          ReadsAs convert (.opened (before ++ item :: later) ending) entries (some fault)

/-- Converts items in order, up to the first that cannot be. -/
def convertEach (convert : ρ → Except Fault Entry) (ending : Option Fault) :
    List ρ → List Entry × Option Fault
  | [] => ([], ending)
  | item :: items =>
      match convert item with
      | .error fault => ([], some fault)
      | .ok entry =>
          let (later, fault) := convertEach convert ending items
          (entry :: later, fault)

namespace UnitOffer

def isBadHeader : UnitOffer ρ → Bool
  | .badHeader _ => true
  | _ => false

def outcome (convert : ρ → Except Fault Entry) : UnitOffer ρ → UnitOutcome
  | .badHeader fault => .badHeader fault
  | .unopened fault => .unopened fault
  | .opened items ending =>
      let (entries, fault) := convertEach convert ending items
      .read entries fault

end UnitOffer

namespace UnitOutcome

def isBadHeader : UnitOutcome → Bool
  | .badHeader _ => true
  | _ => false

def entries : UnitOutcome → List Entry
  | .badHeader _ | .unopened _ => []
  | .read entries _ => entries

def fault? : UnitOutcome → Option Fault
  | .badHeader fault | .unopened fault => some fault
  | .read _ fault => fault

end UnitOutcome

section Conversion

variable {convert : ρ → Except Fault Entry}

theorem isBadHeader_outcome (offer : UnitOffer ρ) :
    (offer.outcome convert).isBadHeader = offer.isBadHeader := by
  cases offer <;> rfl

theorem convertEach_ok {item : ρ} {entry : Entry} (converted : convert item = .ok entry)
    (ending : Option Fault) (items : List ρ) :
    convertEach convert ending (item :: items) =
      (entry :: (convertEach convert ending items).1, (convertEach convert ending items).2) := by
  rw [convertEach, converted]

theorem convertEach_error {item : ρ} {fault : Fault} (refused : convert item = .error fault)
    (ending : Option Fault) (items : List ρ) :
    convertEach convert ending (item :: items) = ([], some fault) := by
  rw [convertEach, refused]

theorem convertEach_append {before : List ρ} {entries : List Entry}
    (each : List.Forall₂ (fun item entry => convert item = .ok entry) before entries)
    (ending : Option Fault) (later : List ρ) :
    convertEach convert ending (before ++ later) =
      (entries ++ (convertEach convert ending later).1, (convertEach convert ending later).2) := by
  induction each with
  | nil => rfl
  | cons converted _ ih => rw [List.cons_append, convertEach_ok converted, ih, List.cons_append]

theorem readsAs_opened (ending : Option Fault) (items : List ρ) :
    ReadsAs convert (.opened items ending) (convertEach convert ending items).1
      (convertEach convert ending items).2 := by
  induction items with
  | nil => exact .whole ending .nil
  | cons item items ih =>
      cases converted : convert item with
      | error fault =>
          rw [convertEach_error converted]
          exact .torn ending .nil converted
      | ok entry =>
          rw [convertEach_ok converted]
          generalize came : convertEach convert ending items = result at ih
          obtain ⟨entries, fault⟩ := result
          cases ih with
          | whole _ each => exact .whole _ (.cons converted each)
          | torn _ each refused => exact .torn ending (.cons converted each) refused

/-- A unit has one reading, that of its outcome. -/
theorem readsAs_iff {offer : UnitOffer ρ} {entries : List Entry} {fault : Option Fault} :
    ReadsAs convert offer entries fault ↔
      entries = (offer.outcome convert).entries ∧ fault = (offer.outcome convert).fault? := by
  constructor
  · intro reads
    cases reads with
    | badHeader | unopened => exact ⟨rfl, rfl⟩
    | whole _ each =>
        have converted := convertEach_append each fault []
        rw [List.append_nil] at converted
        simp only [UnitOffer.outcome, converted, convertEach, UnitOutcome.entries,
          UnitOutcome.fault?, List.append_nil, and_self]
    | @torn before later item _ _ ending each refused =>
        have converted := convertEach_append each ending (item :: later)
        rw [convertEach_error refused] at converted
        simp only [UnitOffer.outcome, converted, UnitOutcome.entries, UnitOutcome.fault?,
          List.append_nil, and_self]
  · intro same
    obtain ⟨rfl, rfl⟩ := same
    cases offer with
    | badHeader fault => exact .badHeader fault
    | unopened fault => exact .unopened fault
    | opened items ending => exact readsAs_opened ending items

end Conversion

/-- An entry as it stands in DWARF data: its unit, its abbreviation, and the bytes from its
attributes on. -/
structure RawEntry where
  unit : OpenUnit
  abbreviation : Abbreviation
  bytes : List UInt8

def RawEntry.convert (sections : Sections) (raw : RawEntry) : Except Fault Entry :=
  raw.unit.entryOf sections raw.abbreviation raw.bytes

/-- The entries of a unit in the order of the data, and the fault that ends them early. -/
def OpenUnit.rawEntries (unit : OpenUnit) : Nat → List UInt8 → List RawEntry × Option Fault
  | 0, _ => ([], none)
  | rounds + 1, bytes =>
      if bytes.isEmpty then ([], none)
      else
        match (readHead unit.abbreviations).run bytes with
        | .error fault => ([], some fault)
        | .ok (none, rest) => rawEntries unit rounds rest
        | .ok (some abbreviation, body) =>
            match (readAttributes unit.encoding abbreviation.attributes).run body with
            | .error fault => ([⟨unit, abbreviation, body⟩], some fault)
            | .ok (_, rest) =>
                let (later, ending) := rawEntries unit rounds rest
                (⟨unit, abbreviation, body⟩ :: later, ending)

def UnitOffer.ofHeader (sections : Sections) (header : UnitHeader) : UnitOffer RawEntry :=
  match OpenUnit.ofHeader sections header with
  | .error fault => .unopened fault
  | .ok unit =>
      let (items, ending) := unit.rawEntries unit.entries.length unit.entries
      .opened items ending

def readOffers (sections : Sections) : Nat → List UInt8 → List (UnitOffer RawEntry)
  | 0, _ => []
  | rounds + 1, bytes =>
      if bytes.isEmpty then []
      else
        match UnitHeader.read.run bytes with
        | .error fault => [.badHeader fault]
        | .ok (header, rest) => .ofHeader sections header :: readOffers sections rounds rest

/-- What DWARF data offers, unit by unit. -/
def Sections.offers (sections : Sections) : List (UnitOffer RawEntry) :=
  readOffers sections sections.info.length sections.info

theorem readEntries_eq (sections : Sections) (unit : OpenUnit) (rounds : Nat)
    (bytes : List UInt8) :
    unit.readEntries sections rounds bytes =
      convertEach (RawEntry.convert sections) (unit.rawEntries rounds bytes).2
        (unit.rawEntries rounds bytes).1 := by
  induction rounds generalizing bytes with
  | zero => rfl
  | succ rounds ih =>
      unfold OpenUnit.readEntries OpenUnit.rawEntries
      by_cases empty : bytes.isEmpty
      · rw [if_pos empty, if_pos empty]
        rfl
      · rw [if_neg empty, if_neg empty]
        rcases (OpenUnit.readHead unit.abbreviations).run bytes with fault | ⟨_ | abbreviation, body⟩
        · rfl
        · exact ih body
        · simp only
          rcases converted : unit.entryOf sections abbreviation body with fault | entry
          · have refused : RawEntry.convert sections ⟨unit, abbreviation, body⟩ = .error fault :=
              converted
            -- However the attributes end, the entry is not converted.
            rcases (OpenUnit.readAttributes unit.encoding abbreviation.attributes).run body with
              ending | ⟨_, rest⟩
            · exact (convertEach_error refused (some ending) []).symm
            · exact (convertEach_error refused _ _).symm
          · have accepted : RawEntry.convert sections ⟨unit, abbreviation, body⟩ = .ok entry :=
              converted
            rcases (OpenUnit.readAttributes unit.encoding abbreviation.attributes).run body with
              ending | ⟨_, rest⟩
            · exact (convertEach_ok accepted (some ending) []).symm
            · simp only [ih rest]
              exact (convertEach_ok accepted _ _).symm

/-- Reading a unit is converting what its header offers. -/
theorem ofHeader_eq (sections : Sections) (header : UnitHeader) :
    UnitOutcome.ofHeader sections header =
      (UnitOffer.ofHeader sections header).outcome (RawEntry.convert sections) := by
  unfold UnitOutcome.ofHeader UnitOffer.ofHeader
  rcases OpenUnit.ofHeader sections header with fault | unit
  · rfl
  · simp only [readEntries_eq]
    rfl

theorem readUnits_eq (sections : Sections) (rounds : Nat) (bytes : List UInt8) :
    readUnits sections rounds bytes =
      (readOffers sections rounds bytes).map (UnitOffer.outcome (RawEntry.convert sections)) := by
  induction rounds generalizing bytes with
  | zero => rfl
  | succ rounds ih =>
      unfold readUnits readOffers
      by_cases empty : bytes.isEmpty
      · rw [if_pos empty, if_pos empty]
        rfl
      · rw [if_neg empty, if_neg empty]
        rcases UnitHeader.read.run bytes with fault | ⟨header, rest⟩
        · rfl
        · simp only [List.map_cons, ofHeader_eq, ih]

/-- The units of DWARF data are what it offers, converted. -/
theorem units_eq (sections : Sections) :
    sections.units = sections.offers.map (UnitOffer.outcome (RawEntry.convert sections)) :=
  readUnits_eq sections _ _

end TypeAtlas.Dwarf
