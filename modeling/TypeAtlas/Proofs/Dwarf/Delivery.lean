import TypeAtlas.Proofs.DebugInfo.Search
import TypeAtlas.Proofs.Dwarf.Offers
import TypeAtlas.Proofs.Lists

/-!
What the reads of DWARF data deliver. Whatever is offered, every entry up to the point where its
unit fails is delivered once and in order, every unit that fails gives one fault, and after the
last delivery every read answers the end. A unit's fault is delivered before its entries, so that
it stands in its place only where it has no entries before it.
-/

namespace TypeAtlas

set_option autoImplicit false

/-- The answers of the first `reads` reads of a stream. -/
def EntryStream.answers {σ : Type} [EntryStream σ] : Nat → σ → List EntryRead
  | 0, _ => []
  | reads + 1, stream => (EntryStream.next stream).1 :: answers reads (EntryStream.next stream).2

namespace Dwarf

/-- An entry or a fault. Every read that does not answer the end delivers one. -/
abbrev Delivery := Except EntryFault Entry

namespace Delivery

def entry? : Delivery → Option Entry
  | .ok entry => some entry
  | .error _ => none

def fault? : Delivery → Option EntryFault
  | .ok _ => none
  | .error fault => some fault

/-- The answer of the read that delivers it. -/
def answer (delivery : Delivery) : EntryRead := delivery.map some

end Delivery

/-- The items up to the first that is the last one, which is among them. -/
def upTo {α : Type} (last : α → Bool) : List α → List α
  | [] => []
  | item :: items => if last item then [item] else item :: upTo last items

section Statements

variable {ρ : Type} (convert : ρ → Except Fault Entry)

/-- A unit's own deliveries, wherever its fault stands among them: its entries up to the point
where it fails, in order and each once, and its fault, once if it fails. -/
def Delivers (offer : UnitOffer ρ) (deliveries : List Delivery) : Prop :=
  ∃ entries fault, ReadsAs convert offer entries fault ∧
    deliveries.filterMap Delivery.entry? = entries ∧
      deliveries.filterMap Delivery.fault? = (fault.map EntryFault.dwarf).toList

/-- The stream delivers one block for each unit, up to a bad header, in the order of the units.
However often it is read, the end comes after the last delivery only, and nothing comes after
the end. -/
structure DeliversBlocks (offers : List (UnitOffer ρ)) (stream : UnitStream)
    (blocks : List (List Delivery)) : Prop where
  units : List.Forall₂ (Delivers convert) (upTo UnitOffer.isBadHeader offers) blocks
  answers : ∀ reads, EntryStream.answers reads stream =
    (blocks.flatten.map Delivery.answer ++ List.replicate reads (Except.ok none)).take reads

/-- No entry of a unit is delivered after the fault that ends the unit. -/
def FaultLast (block : List Delivery) : Prop :=
  ∀ before after fault, block = before ++ .error fault :: after → ∀ entry, .ok entry ∉ after

/-- The fault of a unit is the first thing delivered of it. -/
def FaultFirst (block : List Delivery) : Prop :=
  ∀ before after fault, block = before ++ .error fault :: after → before = []

/-- Every fault is delivered in its place, behind the entries of its unit that are delivered. -/
def ReportsInPlace (offers : List (UnitOffer ρ)) (stream : UnitStream) : Prop :=
  ∃ blocks, DeliversBlocks convert offers stream blocks ∧ ∀ block ∈ blocks, FaultLast block

/-- In every unit that fails the fault leads. It is in its place only in a unit that offers no
entry before the point where it fails. -/
structure FaultsLead (offers : List (UnitOffer ρ)) (stream : UnitStream) : Prop where
  lead : ∃ blocks, DeliversBlocks convert offers stream blocks ∧ ∀ block ∈ blocks, FaultFirst block
  inPlace : ReportsInPlace convert offers stream ↔
    ∀ offer ∈ upTo UnitOffer.isBadHeader offers, ∀ entries fault,
      ReadsAs convert offer entries (some fault) → entries = []

end Statements

namespace UnitOutcome

/-- What comes of one unit: its fault first, then the entries that were read before it. -/
def deliveries (unit : UnitOutcome) : List Delivery :=
  (unit.fault?.map fun fault => .error (.dwarf fault)).toList ++ unit.entries.map .ok

end UnitOutcome

namespace UnitStream

/-- The stream of units that are read by converting what is offered. -/
def ofOffers {ρ : Type} (convert : ρ → Except Fault Entry) (offers : List (UnitOffer ρ)) :
    UnitStream :=
  ⟨offers.map (UnitOffer.outcome convert), []⟩

theorem ofSections_eq (sections : Sections) :
    ofSections sections = ofOffers (RawEntry.convert sections) sections.offers := by
  rw [ofSections, ofOffers, units_eq]

/-- All that is still to be delivered. -/
def pending (stream : UnitStream) : List Delivery :=
  stream.waiting.map .ok ++
    (upTo UnitOutcome.isBadHeader stream.units).flatMap UnitOutcome.deliveries

/-- A read delivers the first of what is left, or nothing when nothing is left. -/
inductive Takes : List Delivery → EntryRead × UnitStream → Prop where
  | nothing {after : UnitStream} : after.pending = [] → Takes [] (.ok none, after)
  | first (delivery : Delivery) (after : UnitStream) :
      Takes (delivery :: after.pending) (delivery.answer, after)

theorem nextUnit_takes (units : List UnitOutcome) :
    Takes (⟨units, []⟩ : UnitStream).pending (nextUnit units) := by
  fun_induction nextUnit units with
  | case1 => exact .nothing rfl
  | case2 fault units => exact .first (.error (.dwarf fault)) ⟨[], []⟩
  | case3 fault units => exact .first (.error (.dwarf fault)) ⟨units, []⟩
  | case4 entries fault units => exact .first (.error (.dwarf fault)) ⟨units, entries⟩
  | case5 entry entries units => exact .first (.ok entry) ⟨units, entries⟩
  | case6 units ih => exact ih

theorem next_takes (stream : UnitStream) : Takes stream.pending stream.next := by
  obtain ⟨units, waiting⟩ := stream
  cases waiting with
  | nil => exact nextUnit_takes units
  | cons entry waiting => exact .first (.ok entry) ⟨units, waiting⟩

/-- The induction is on the reads, each of which takes the first of what is left. -/
theorem answers_eq (reads : Nat) (stream : UnitStream) :
    EntryStream.answers reads stream =
      (stream.pending.map Delivery.answer ++ List.replicate reads (Except.ok none)).take reads := by
  induction reads generalizing stream with
  | zero => rfl
  | succ reads ih =>
      have taken := next_takes stream
      change stream.next.1 :: EntryStream.answers reads stream.next.2 = _
      rw [ih]
      generalize stream.pending = left at taken
      generalize stream.next = outcome at taken
      cases taken with
      | nothing settled => simp [settled, List.replicate_succ]
      | first => rw [List.map_cons, List.cons_append, List.take_succ_cons, take_replicate_succ]

/-- What all units deliver, block by block. -/
def blocks {ρ : Type} (convert : ρ → Except Fault Entry) (offers : List (UnitOffer ρ)) :
    List (List Delivery) :=
  (upTo UnitOffer.isBadHeader offers).map fun offer => (offer.outcome convert).deliveries

end UnitStream

section Blocks

variable {ρ : Type} {convert : ρ → Except Fault Entry} {offers : List (UnitOffer ρ)}

theorem upTo_map {α β : Type} (last : β → Bool) (image : α → β) (items : List α) :
    upTo last (items.map image) = (upTo (fun item => last (image item)) items).map image := by
  induction items with
  | nil => rfl
  | cons item items ih =>
      rw [List.map_cons, upTo, upTo, ih]
      split <;> rfl

theorem pending_ofOffers :
    (UnitStream.ofOffers convert offers).pending = (UnitStream.blocks convert offers).flatten := by
  have same : (fun offer : UnitOffer ρ => (offer.outcome convert).isBadHeader) =
      UnitOffer.isBadHeader := funext isBadHeader_outcome
  unfold UnitStream.pending UnitStream.ofOffers UnitStream.blocks
  rw [upTo_map, same, List.flatMap_map, List.map_nil, List.nil_append, List.flatMap_def]

theorem entries_of_deliveries (unit : UnitOutcome) :
    unit.deliveries.filterMap Delivery.entry? = unit.entries := by
  have kept : Delivery.entry? ∘ .ok = some := rfl
  have own : (unit.entries.map .ok).filterMap Delivery.entry? = unit.entries := by
    rw [List.filterMap_map, kept, List.filterMap_some]
  unfold UnitOutcome.deliveries
  rw [List.filterMap_append, own]
  cases unit.fault? <;> rfl

theorem faults_of_deliveries (unit : UnitOutcome) :
    unit.deliveries.filterMap Delivery.fault? = (unit.fault?.map EntryFault.dwarf).toList := by
  have dropped : (unit.entries.map .ok).filterMap Delivery.fault? = [] := by
    rw [List.filterMap_map, List.filterMap_eq_nil_iff]
    exact fun entry _ => rfl
  unfold UnitOutcome.deliveries
  rw [List.filterMap_append, dropped]
  cases unit.fault? <;> rfl

theorem delivers_iff {offer : UnitOffer ρ} {block : List Delivery} :
    Delivers convert offer block ↔
      block.filterMap Delivery.entry? = (offer.outcome convert).entries ∧
        block.filterMap Delivery.fault? =
          ((offer.outcome convert).fault?.map EntryFault.dwarf).toList := by
  unfold Delivers
  constructor
  · intro delivers
    obtain ⟨entries, fault, reads, entered, faulted⟩ := delivers
    obtain ⟨rfl, rfl⟩ := readsAs_iff.mp reads
    exact ⟨entered, faulted⟩
  · intro both
    exact ⟨_, _, readsAs_iff.mpr ⟨rfl, rfl⟩, both⟩

theorem delivers_deliveries (offer : UnitOffer ρ) :
    Delivers convert offer (offer.outcome convert).deliveries :=
  delivers_iff.mpr ⟨entries_of_deliveries _, faults_of_deliveries _⟩

/-- What a stream delivers is divided into the blocks of its units. -/
theorem deliversBlocks (convert : ρ → Except Fault Entry) (offers : List (UnitOffer ρ)) :
    DeliversBlocks convert offers (.ofOffers convert offers)
      (UnitStream.blocks convert offers) := by
  constructor
  · exact List.forall₂_map_right_iff.mpr
      (List.forall₂_same.mpr fun offer _ => delivers_deliveries offer)
  · intro reads
    rw [UnitStream.answers_eq, pending_ofOffers]

theorem length_eq_entries_add_faults (deliveries : List Delivery) :
    deliveries.length = (deliveries.filterMap Delivery.entry?).length +
      (deliveries.filterMap Delivery.fault?).length := by
  induction deliveries with
  | nil => rfl
  | cons delivery later ih =>
      cases delivery with
      | ok entry =>
          rw [List.filterMap_cons_some (rfl : Delivery.entry? (.ok entry) = some entry),
            List.filterMap_cons_none (rfl : Delivery.fault? (.ok entry) = none),
            List.length_cons, List.length_cons, ih]
          omega
      | error fault =>
          rw [List.filterMap_cons_none (rfl : Delivery.entry? (.error fault) = none),
            List.filterMap_cons_some (rfl : Delivery.fault? (.error fault) = some fault),
            List.length_cons, List.length_cons, ih]
          omega

/-- What an answer delivers. -/
def delivery? : EntryRead → Option Delivery
  | .ok none => none
  | .ok (some entry) => some (.ok entry)
  | .error fault => some (.error fault)

/-- Enough answers tell all that is delivered. -/
theorem deliveries_of_answers (deliveries : List Delivery) (more : Nat) :
    ((deliveries.map Delivery.answer ++
      List.replicate (deliveries.length + more) (Except.ok none)).take
        (deliveries.length + more)).filterMap delivery? = deliveries := by
  have told : delivery? ∘ Delivery.answer = some := by
    funext delivery
    cases delivery <;> rfl
  have silent : ∀ count, (List.replicate count (.ok none : EntryRead)).filterMap delivery? = [] := by
    intro count
    rw [List.filterMap_eq_nil_iff]
    intro answer member
    rw [List.eq_of_mem_replicate member]
    rfl
  have within : (deliveries.map Delivery.answer).length ≤ deliveries.length + more := by
    rw [List.length_map]
    omega
  rw [List.take_append, List.take_of_length_le within, List.take_replicate,
    List.filterMap_append, List.filterMap_map, told, List.filterMap_some, silent, List.append_nil]

theorem lengths_of_blocks {blocks : List (List Delivery)}
    (units : List.Forall₂ (Delivers convert) (upTo UnitOffer.isBadHeader offers) blocks) :
    blocks.map List.length = (upTo UnitOffer.isBadHeader offers).map fun offer =>
      (offer.outcome convert).entries.length + (offer.outcome convert).fault?.toList.length := by
  apply map_eq_of_each
  refine units.imp fun offer block delivers => ?_
  obtain ⟨entered, faulted⟩ := delivers_iff.mp delivers
  rw [length_eq_entries_add_faults, entered, faulted]
  cases (offer.outcome convert).fault? <;> rfl

/-- There is one way to divide what a stream delivers into the blocks of its units. -/
theorem deliversBlocks_unique {stream : UnitStream} {blocks others : List (List Delivery)}
    (left : DeliversBlocks convert offers stream blocks)
    (right : DeliversBlocks convert offers stream others) : blocks = others := by
  have flat : blocks.flatten = others.flatten := by
    have leftTold := deliveries_of_answers blocks.flatten others.flatten.length
    have rightTold := deliveries_of_answers others.flatten blocks.flatten.length
    rw [← left.answers] at leftTold
    rw [Nat.add_comm, ← right.answers] at rightTold
    exact leftTold.symm.trans rightTold
  have lengths : blocks.map List.length = others.map List.length :=
    (lengths_of_blocks left.units).trans (lengths_of_blocks right.units).symm
  exact List.eq_iff_flatten_eq.mpr ⟨flat, lengths⟩

theorem entries_without_fault {entries : List Entry} {before after : List Delivery}
    {fault : EntryFault} : entries.map .ok ≠ before ++ .error fault :: after := by
  intro same
  have member : (.error fault : Delivery) ∈ entries.map .ok := by
    rw [same]
    exact List.mem_append_right _ List.mem_cons_self
  obtain ⟨entry, _, wrong⟩ := List.mem_map.mp member
  cases wrong

/-- A fault can stand in the deliveries of a unit at their head only. -/
theorem split_at_fault {unit : UnitOutcome} {before after : List Delivery} {fault : EntryFault}
    (same : unit.deliveries = before ++ .error fault :: after) :
    before = [] ∧ (∃ own, unit.fault? = some own) ∧ after = unit.entries.map .ok := by
  unfold UnitOutcome.deliveries at same
  cases own : unit.fault? with
  | none =>
      rw [own] at same
      exact absurd same entries_without_fault
  | some found =>
      rw [own] at same
      cases before with
      | nil => exact ⟨rfl, ⟨found, rfl⟩, (List.cons.inj same).2.symm⟩
      | cons delivery before => exact absurd (List.cons.inj same).2 entries_without_fault

/-- The fault of a unit stands behind the entries only where there are none. -/
theorem faultLast_deliveries_iff (unit : UnitOutcome) :
    FaultLast unit.deliveries ↔ ∀ fault, unit.fault? = some fault → unit.entries = [] := by
  constructor
  · intro last fault own
    have split : unit.deliveries = [] ++ .error (.dwarf fault) :: unit.entries.map .ok := by
      unfold UnitOutcome.deliveries
      rw [own]
      rfl
    apply List.eq_nil_iff_forall_not_mem.mpr
    intro entry member
    exact last _ _ _ split entry (List.mem_map.mpr ⟨entry, member, rfl⟩)
  · intro empty before after fault same entry member
    obtain ⟨_, ⟨own, failed⟩, rfl⟩ := split_at_fault same
    rw [empty own failed] at member
    cases member

/-- Faults are in their places exactly where no unit that fails has an entry before its fault. -/
theorem reportsInPlace_iff :
    ReportsInPlace convert offers (.ofOffers convert offers) ↔
      ∀ offer ∈ upTo UnitOffer.isBadHeader offers, ∀ entries fault,
        ReadsAs convert offer entries (some fault) → entries = [] := by
  have divided := deliversBlocks convert offers
  constructor
  · intro inPlace offer member entries fault reads
    obtain ⟨blocks, again, last⟩ := inPlace
    rw [deliversBlocks_unique again divided] at last
    obtain ⟨rfl, failed⟩ := readsAs_iff.mp reads
    exact (faultLast_deliveries_iff _).mp (last _ (List.mem_map.mpr ⟨offer, member, rfl⟩)) fault
      failed.symm
  · intro empty
    refine ⟨_, divided, ?_⟩
    intro block among
    obtain ⟨offer, member, rfl⟩ := List.mem_map.mp among
    rw [faultLast_deliveries_iff]
    intro fault failed
    exact empty offer member _ fault (readsAs_iff.mpr ⟨rfl, failed.symm⟩)

theorem faultsLead : FaultsLead convert offers (.ofOffers convert offers) := by
  refine ⟨⟨_, deliversBlocks convert offers, ?_⟩, reportsInPlace_iff⟩
  intro block among before after fault same
  obtain ⟨offer, _, rfl⟩ := List.mem_map.mp among
  exact (split_at_fault same).1

end Blocks

/-- Whatever is offered, and in particular what DWARF data offers, is delivered unit by unit: each
entry that comes before its unit fails, once and in order, and one fault for each unit that fails.
The end is answered to every read after the last delivery and to none before. -/
theorem entries_delivered_once :
    (∀ {ρ : Type} (convert : ρ → Except Fault Entry) (offers : List (UnitOffer ρ)),
      ∃ blocks, DeliversBlocks convert offers (.ofOffers convert offers) blocks) ∧
    ∀ sections : Sections, ∃ blocks, DeliversBlocks (RawEntry.convert sections) sections.offers
      (.ofSections sections) blocks := by
  refine ⟨fun convert offers => ⟨_, deliversBlocks convert offers⟩, ?_⟩
  intro sections
  rw [UnitStream.ofSections_eq]
  exact ⟨_, deliversBlocks _ _⟩

/-- Whatever is offered, and in particular what DWARF data offers, the fault of a unit that fails is
delivered first, and the entries that stand before it in the data are delivered after it. So
faults are in their places exactly where none of them has an entry of its unit before it. -/
theorem faults_before_entries {ρ : Type} (convert : ρ → Except Fault Entry)
    (offers : List (UnitOffer ρ)) (sections : Sections) :
    FaultsLead convert offers (.ofOffers convert offers) ∧
      FaultsLead (RawEntry.convert sections) sections.offers (.ofSections sections) := by
  refine ⟨faultsLead, ?_⟩
  rw [UnitStream.ofSections_eq]
  exact faultsLead

/-- One unit of two entries, of which the second has an abbreviation that does not exist. -/
def tornSections : Sections where
  info := [9, 0, 0, 0, 4, 0, 0, 0, 0, 0, 8, 1, 2]
  abbreviations := [1, 17, 0, 0, 0, 0]
  texts := []
  lineTexts := []
  textOffsets := []
  addresses := []

/-- The entry before the one that is torn is delivered after the fault. -/
theorem entry_delivered_after_fault :
    EntryStream.answers 3 (UnitStream.ofSections tornSections) =
        [.error (.dwarf .unknownAbbreviation), .ok (some ⟨.compileUnit, []⟩), .ok none] ∧
      ¬ReportsInPlace (RawEntry.convert tornSections) tornSections.offers
        (.ofSections tornSections) := by
  refine ⟨by decide +kernel, ?_⟩
  rw [UnitStream.ofSections_eq, reportsInPlace_iff]
  intro empty
  have units : tornSections.units = [.read [⟨.compileUnit, []⟩] (some .unknownAbbreviation)] := by
    decide +kernel
  rw [units_eq] at units
  obtain ⟨offer, alone, outcome⟩ := List.map_eq_singleton_iff.mp units
  have member : offer ∈ upTo UnitOffer.isBadHeader tornSections.offers := by
    rw [alone, upTo]
    split <;> exact List.mem_cons_self
  have reads : ReadsAs (RawEntry.convert tornSections) offer [⟨.compileUnit, []⟩]
      (some .unknownAbbreviation) := by
    rw [readsAs_iff, outcome]
    exact ⟨rfl, rfl⟩
  cases empty offer member _ _ reads

end Dwarf

end TypeAtlas
