import Mathlib.Algebra.Order.Group.Nat
import TypeAtlas.Descriptor.Decode
import TypeAtlas.Proofs.Text.Utf8

/-!
The declared name within a runtime string is what follows its last dot outside of brackets. A scan
from the end looks for that dot and counts brackets in a word of 32 bits, so that it finds the dot
as long as fewer than 2 ^ 31 brackets are open at once. A name whose brackets are matched and whose
dots are all inside of brackets is found again behind any package and dot.
-/

namespace TypeAtlas.RuntimeType

set_option autoImplicit false

/-! ### Brackets and dots -/

/-- As many brackets are opened as closed. -/
def Balanced (text : List Char) : Prop := text.count '[' = text.count ']'

/-- Fewer than 2 ^ 31 brackets are open at once: from every place to the end, the numbers of opened
and of closed ones differ by less. -/
def Shallow (text : List Char) : Prop :=
  ∀ front rest, text = front ++ rest → rest.count ']' < rest.count '[' + 2 ^ 31 ∧
    rest.count '[' < rest.count ']' + 2 ^ 31

/-- No dot is outside, which is told by the text behind it. -/
def Undotted (outside : List Char → Prop) (text : List Char) : Prop :=
  ∀ front rest, text = front ++ '.' :: rest → ¬outside rest

/-- The name is the text, or what follows a dot that is outside, and holds no other such dot. -/
structure PartBehind (outside : List Char → Prop) (text name : List Char) : Prop where
  whole : name = text ∨ ∃ front, text = front ++ '.' :: name ∧ outside name
  undotted : Undotted outside name

/-- The name is the text, or what follows a dot outside of brackets, and holds no other such
dot. -/
abbrev LastPart : List Char → List Char → Prop := PartBehind Balanced

section Parts

variable {outside : List Char → Prop} {text name other : List Char}

theorem partBehind_unique (left : PartBehind outside text name)
    (right : PartBehind outside text other) : name = other := by
  rcases left.whole with rfl | ⟨front, shape, leftOutside⟩
  · rcases right.whole with rfl | ⟨front, shape, rightOutside⟩
    · rfl
    · exact absurd rightOutside (left.undotted front other shape)
  · rcases right.whole with rfl | ⟨otherFront, otherShape, rightOutside⟩
    · exact absurd leftOutside (right.undotted front name shape)
    · rw [shape] at otherShape
      rcases List.append_eq_append_iff.mp otherShape with
        ⟨between, _, later⟩ | ⟨between, _, later⟩
      · cases between with
        | nil => exact (List.cons.inj later).2
        | cons _ between =>
            exact absurd rightOutside (left.undotted between other (List.cons.inj later).2)
      · cases between with
        | nil => exact (List.cons.inj later).2.symm
        | cons _ between =>
            exact absurd leftOutside (right.undotted between name (List.cons.inj later).2)

theorem undotted_cons {character : Char} {kept : List Char} (undotted : Undotted outside kept)
    (inside : character = '.' → ¬outside kept) : Undotted outside (character :: kept) := by
  intro front rest same
  cases front with
  | nil =>
      obtain ⟨rfl, rfl⟩ := List.cons.inj same
      exact inside rfl
  | cons _ front => exact undotted front rest (List.cons.inj same).2

theorem undotted_of_not_mem (absent : '.' ∉ text) : Undotted outside text := by
  intro front rest same
  rw [same] at absent
  simp at absent

end Parts

/-! ### The counter

The scan counts in a word of 32 bits. Its zero tells a balanced text from others as long as the
text is shallow. -/

/-- The brackets closed but not opened, as the scan counts them. -/
def level (text : List Char) : Int32 :=
  Int32.ofInt ((text.count ']' : Int) - text.count '[')

/-- What follows is outside of brackets for all that the scan can tell. -/
def Levelled (text : List Char) : Prop := level text = 0

theorem level_close (text : List Char) : level (']' :: text) = level text + 1 := by
  have counts : ((']' :: text).count ']' : Int) - (']' :: text).count '[' =
      text.count ']' - text.count '[' + 1 := by
    simp
    omega
  rw [level, counts, Int32.ofInt_add]
  rfl

theorem level_open (text : List Char) : level ('[' :: text) = level text - 1 := by
  have counts : (('[' :: text).count ']' : Int) - ('[' :: text).count '[' =
      text.count ']' - text.count '[' - 1 := by
    simp
    omega
  rw [level, counts, Int32.ofInt_sub]
  rfl

theorem level_plain {character : Char} (unclosed : character ≠ ']') (unopened : character ≠ '[')
    (text : List Char) : level (character :: text) = level text := by
  simp [level, unclosed, unopened]

theorem levelled_of_balanced {text : List Char} (balanced : Balanced text) : Levelled text := by
  unfold Balanced at balanced
  rw [Levelled, level, balanced, Int.sub_self]
  rfl

theorem balanced_of_levelled {text : List Char} (shallow : Shallow text)
    (levelled : Levelled text) : Balanced text := by
  obtain ⟨closed, opened⟩ := shallow [] text rfl
  have number := congrArg Int32.toInt levelled
  rw [level, Int32.toInt_ofInt_of_le (by omega) (by omega), Int32.toInt_zero] at number
  unfold Balanced
  omega

theorem shallow_rest {front rest : List Char} (shallow : Shallow (front ++ rest)) :
    Shallow rest := by
  intro before behind same
  exact shallow (front ++ before) behind (by rw [same, List.append_assoc])

theorem shallow_of_short {text : List Char} (short : text.length < 2 ^ 31) : Shallow text := by
  intro front rest same
  have closings := List.count_le_length (a := ']') (l := rest)
  have openings := List.count_le_length (a := '[') (l := rest)
  rw [same, List.length_append] at short
  omega

theorem lastPart_iff {text name : List Char} (shallow : Shallow name) :
    PartBehind Levelled text name ↔ LastPart text name := by
  have outside : ∀ front rest, name = front ++ rest → (Levelled rest ↔ Balanced rest) := by
    intro front rest same
    rw [same] at shallow
    exact ⟨balanced_of_levelled (shallow_rest shallow), levelled_of_balanced⟩
  have whole := outside [] name rfl
  constructor
  · intro part
    refine ⟨part.whole.imp_right ?_, ?_⟩
    · rintro ⟨front, shape, levelled⟩
      exact ⟨front, shape, whole.mp levelled⟩
    · intro front rest same balanced
      exact part.undotted front rest same (levelled_of_balanced balanced)
  · intro part
    refine ⟨part.whole.imp_right ?_, ?_⟩
    · rintro ⟨front, shape, balanced⟩
      exact ⟨front, shape, whole.mpr balanced⟩
    · intro front rest same levelled
      refine part.undotted front rest same ((outside (front ++ ['.']) rest ?_).mp levelled)
      simp [same]

/-! ### The scan -/

/-- The depth counts the brackets of what has been kept, in which no dot is outside. -/
theorem afterLastDot_partBehind (reversed : List Char) :
    ∀ (kept : List Char) (depth : Int32), depth = level kept → Undotted Levelled kept →
      PartBehind Levelled (reversed.reverse ++ kept) (afterLastDot depth reversed kept) := by
  induction reversed with
  | nil =>
      intro kept depth counted undotted
      exact ⟨Or.inl rfl, undotted⟩
  | cons character reversed ih =>
      intro kept depth counted undotted
      rw [List.reverse_cons, List.append_assoc, List.singleton_append, afterLastDot]
      split
      · rename_i closing
        subst closing
        apply ih
        · rw [counted, level_close]
        · exact undotted_cons undotted (by simp)
      · split
        · rename_i opening
          subst opening
          apply ih
          · rw [counted, level_open]
          · exact undotted_cons undotted (by simp)
        · split
          · rename_i dot
            obtain ⟨rfl, rfl⟩ := dot
            exact ⟨Or.inr ⟨reversed.reverse, rfl, counted.symm⟩, undotted⟩
          · rename_i unclosed unopened inside
            apply ih
            · rw [counted, level_plain unclosed unopened]
            · apply undotted_cons undotted
              intro dot levelled
              exact inside ⟨dot, counted.trans levelled⟩

theorem toList_qualified (front name : String) :
    (front ++ "." ++ name).toList = front.toList ++ '.' :: name.toList := by
  simp [String.toList_append]

theorem shortName_partBehind (text : String) :
    PartBehind Levelled text.toList (shortName text).toList := by
  have part := afterLastDot_partBehind text.toList.reverse [] 0 rfl (undotted_of_not_mem (by simp))
  simpa [shortName] using part

/-- However its brackets are counted, a short name is the text or what follows one of its dots. -/
theorem shortName_ends (text : String) :
    shortName text = text ∨ ∃ front, text = front ++ "." ++ shortName text := by
  rcases (shortName_partBehind text).whole with same | ⟨front, shape, _⟩
  · exact Or.inl (String.toList_inj.mp same)
  · refine Or.inr ⟨String.ofList front, String.toList_inj.mp ?_⟩
    rw [toList_qualified, String.toList_ofList]
    exact shape

theorem shortName_of_partBehind {text name : String}
    (part : PartBehind Levelled text.toList name.toList) : shortName text = name :=
  String.toList_inj.mp (partBehind_unique (shortName_partBehind text) part)

theorem shortName_of_lastPart {text name : String} (shallow : Shallow name.toList)
    (part : LastPart text.toList name.toList) : shortName text = name :=
  shortName_of_partBehind ((lastPart_iff shallow).mpr part)

/-! ### Matched brackets -/

/-- Every bracket is matched by another one. -/
inductive Matched : List Char → Prop where
  | nil : Matched []
  | plain {character : Char} {rest : List Char} : character ≠ '[' → character ≠ ']' →
      Matched rest → Matched (character :: rest)
  | bracketed {inner rest : List Char} : Matched inner → Matched rest →
      Matched ('[' :: (inner ++ ']' :: rest))

/-- Every bracket is matched by another one, and every dot is inside of brackets. -/
inductive Enclosed : List Char → Prop where
  | nil : Enclosed []
  | plain {character : Char} {rest : List Char} : character ≠ '[' → character ≠ ']' →
      character ≠ '.' → Enclosed rest → Enclosed (character :: rest)
  | bracketed {inner rest : List Char} : Matched inner → Enclosed rest →
      Enclosed ('[' :: (inner ++ ']' :: rest))

theorem matched_of_enclosed {text : List Char} (enclosed : Enclosed text) : Matched text := by
  induction enclosed with
  | nil => exact .nil
  | plain unopened unclosed _ _ ih => exact .plain unopened unclosed ih
  | bracketed inner _ ih => exact .bracketed inner ih

theorem matched_balanced {text : List Char} (matched : Matched text) : Balanced text := by
  unfold Balanced
  induction matched with
  | nil => rfl
  | plain unopened unclosed _ ih => simp [unopened, unclosed, ih]
  | bracketed _ _ inner rest =>
      simp [inner, rest]
      omega

/-- From any place to the end, no fewer brackets are closed than opened. -/
theorem closed_behind {text : List Char} (matched : Matched text) :
    ∀ front rest, text = front ++ rest → rest.count '[' ≤ rest.count ']' := by
  have whole : ∀ {text : List Char}, Matched text → text.count '[' ≤ text.count ']' :=
    fun matched => Nat.le_of_eq (matched_balanced matched)
  induction matched with
  | nil =>
      intro front rest same
      obtain ⟨rfl, rfl⟩ := List.append_eq_nil_iff.mp same.symm
      simp
  | @plain character later unopened unclosed matched ih =>
      intro front rest same
      cases front with
      | nil =>
          rw [List.nil_append] at same
          rw [← same]
          exact whole (.plain unopened unclosed matched)
      | cons _ front => exact ih front rest (List.cons.inj same).2
  | @bracketed inner later innerMatched laterMatched innerBehind laterBehind =>
      intro front rest same
      cases front with
      | nil =>
          rw [List.nil_append] at same
          rw [← same]
          exact whole (.bracketed innerMatched laterMatched)
      | cons _ front =>
          rcases List.append_eq_append_iff.mp (List.cons.inj same).2 with
            ⟨between, _, split⟩ | ⟨between, split, rfl⟩
          · cases between with
            | nil =>
                have closed := whole laterMatched
                rw [← List.nil_append rest, ← split]
                simp
                omega
            | cons _ between => exact laterBehind between rest (List.cons.inj split).2
          · have innerClosed := innerBehind front between split
            have laterClosed := whole laterMatched
            simp
            omega

/-- Behind a dot that is inside of brackets more brackets are closed than opened. -/
theorem undotted_of_enclosed {text : List Char} (enclosed : Enclosed text) :
    Undotted Balanced text := by
  have inside : ∀ front rest, text = front ++ '.' :: rest → rest.count '[' < rest.count ']' := by
    induction enclosed with
    | nil =>
        intro front rest same
        simp at same
    | @plain character later _ _ plain _ ih =>
        intro front rest same
        cases front with
        | nil => exact absurd (List.cons.inj same).1 plain
        | cons _ front => exact ih front rest (List.cons.inj same).2
    | @bracketed inner later matched enclosed ih =>
        intro front rest same
        cases front with
        | nil => simp at same
        | cons _ front =>
            rcases List.append_eq_append_iff.mp (List.cons.inj same).2 with
              ⟨between, _, split⟩ | ⟨between, split, shape⟩
            · cases between with
              | nil => simp at split
              | cons _ between => exact ih between rest (List.cons.inj split).2
            · cases between with
              | nil => simp at shape
              | cons _ between =>
                  obtain ⟨rfl, rfl⟩ := List.cons.inj shape
                  have innerClosed := closed_behind matched (front ++ ['.']) between (by simp [split])
                  have laterClosed := matched_balanced (matched_of_enclosed enclosed)
                  unfold Balanced at laterClosed
                  simp
                  omega
  intro front rest same balanced
  unfold Balanced at balanced
  have closed := inside front rest same
  omega

theorem matched_run {front rest : List Char} (unbracketed : ∀ character ∈ front,
    character ≠ '[' ∧ character ≠ ']') (matched : Matched rest) : Matched (front ++ rest) := by
  induction front with
  | nil => exact matched
  | cons character front ih =>
      obtain ⟨unopened, unclosed⟩ := unbracketed character List.mem_cons_self
      exact .plain unopened unclosed
        (ih fun other member => unbracketed other (List.mem_cons_of_mem _ member))

theorem lastPart_self {name : List Char} (enclosed : Enclosed name) : LastPart name name :=
  ⟨Or.inl rfl, undotted_of_enclosed enclosed⟩

theorem lastPart_qualified {name : List Char} (enclosed : Enclosed name) (front : List Char) :
    LastPart (front ++ '.' :: name) name :=
  ⟨Or.inr ⟨front, rfl, matched_balanced (matched_of_enclosed enclosed)⟩,
    undotted_of_enclosed enclosed⟩

theorem shortName_enclosed {name : String} (enclosed : Enclosed name.toList)
    (shallow : Shallow name.toList) : shortName name = name :=
  shortName_of_lastPart shallow (lastPart_self enclosed)

theorem shortName_qualified {name : String} (enclosed : Enclosed name.toList)
    (shallow : Shallow name.toList) (front : String) :
    shortName (front ++ "." ++ name) = name := by
  apply shortName_of_lastPart shallow
  rw [toList_qualified]
  exact lastPart_qualified enclosed front.toList

/-! ### A name in which the counter wraps -/

/-- A dot inside of so many brackets. -/
def nested (levels : Nat) : List Char :=
  List.replicate levels '[' ++ '.' :: List.replicate levels ']'

def nestedName (levels : Nat) : String := String.ofList (nested levels)

def closings (levels : Nat) : String := String.ofList (List.replicate levels ']')

theorem nested_succ (levels : Nat) :
    nested (levels + 1) = '[' :: (nested levels ++ ']' :: []) := by
  rw [nested, nested, List.replicate_succ, List.replicate_succ']
  simp

theorem matched_nested (levels : Nat) : Matched (nested levels) := by
  induction levels with
  | zero => exact .plain (by decide) (by decide) .nil
  | succ levels inner =>
      rw [nested_succ]
      exact .bracketed inner .nil

theorem nestedName_enclosed {levels : Nat} (bracketed : 0 < levels) :
    Enclosed (nestedName levels).toList := by
  rw [nestedName, String.toList_ofList]
  cases levels with
  | zero => omega
  | succ levels =>
      rw [nested_succ]
      exact .bracketed (matched_nested levels) .nil

theorem utf8ByteSize_nestedName (levels : Nat) :
    (nestedName levels).utf8ByteSize = 2 * levels + 1 := by
  rw [← Text.Utf8.length_encode, Text.Utf8.encode_chars, nestedName, String.toList_ofList,
    List.length_flatMap]
  simp [nested, String.utf8EncodeChar]
  omega

theorem levelled_closings {levels : Nat} (wrapped : Int32.ofInt levels = 0) :
    Levelled (List.replicate levels ']') := by
  simpa [Levelled, level, List.count_replicate] using wrapped

/-- The dot inside of 2 ^ 32 brackets is taken for one outside. -/
theorem shortName_nestedName {levels : Nat} (wrapped : Int32.ofInt levels = 0) (front : String) :
    shortName (front ++ "." ++ nestedName levels) = closings levels := by
  apply shortName_of_partBehind
  refine ⟨Or.inr ⟨front.toList ++ '.' :: List.replicate levels '[', ?_, ?_⟩,
    undotted_of_not_mem ?_⟩
  · simp [nestedName, nested, closings, String.toList_append]
  · simpa [closings] using levelled_closings wrapped
  · simp [closings]

theorem closings_ne_nestedName (levels : Nat) : closings levels ≠ nestedName levels := by
  intro same
  have lengths := congrArg String.length same
  simp [closings, nestedName, nested] at lengths

end TypeAtlas.RuntimeType
