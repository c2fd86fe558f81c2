import TypeAtlas.Proofs.Naming.Tree

/-!
Names can be read back. As long as the words in a tree hold none of the notation's own characters,
no other such tree has its name. What tells the form of a type is the first word of its name and
the character or two behind it; where one part ends and the next begins is told by the characters
that can stand behind a whole name.
-/

namespace TypeAtlas.Naming

set_option autoImplicit false

/-- The characters that the notation of types sets between words. -/
def punctuation : List Char :=
  [' ', '*', '[', ']', '(', ')', '\x7b', '\x7d', ',', ';', '<']

/-- What a leaf or a field may be called. A dot in front would look like an ellipsis. -/
structure Word (text : String) : Prop where
  filled : text ≠ ""
  plain : ∀ character ∈ text.toList, character ∉ punctuation
  undotted : text.toList.head? ≠ some '.'

/-- Trees whose names can be read back: of words, none of which is the opaque pointer's, and with
a slice as the last parameter of every variadic function. -/
inductive Readable : TypeTree → Prop where
  | leaf {name : String} : Word name → name ≠ "void" → Readable (.leaf name)
  | opaquePointer : Readable .opaquePointer
  | pointer {elem : TypeTree} : Readable elem → Readable (.pointer elem)
  | slice {elem : TypeTree} : Readable elem → Readable (.slice elem)
  | array {length : UInt64} {elem : TypeTree} : Readable elem → Readable (.array length elem)
  | chan {dir : ChanDir} {elem : TypeTree} : Readable elem → Readable (.chan dir elem)
  | map {key elem : TypeTree} : Readable key → Readable elem → Readable (.map key elem)
  | func {params results : List TypeTree} {variadic : Bool} :
      (∀ param ∈ params, Readable param) → (∀ result ∈ results, Readable result) →
        (variadic = true → ∃ front elem, params = front ++ [.slice elem]) →
          Readable (.func params results variadic)
  | struct {fields : List (String × TypeTree)} :
      (∀ field ∈ fields, Word field.1) → (∀ field ∈ fields, Readable field.2) →
        Readable (.struct fields)

/-- The characters of a tree's name. -/
def letters (tree : TypeTree) : List Char := tree.name.toList

/-- The characters that can stand right behind a whole name. -/
def closers : List Char := [',', ';', ')', ']', '\x7d']

/-- A text that can stand behind a whole name. -/
def Closed (text : List Char) : Prop := ∀ first rest, text = first :: rest → first ∈ closers

theorem closed_nil : Closed [] := by
  intro first rest same
  cases same

theorem closed_cons {first : Char} (closes : first ∈ closers) (rest : List Char) :
    Closed (first :: rest) := by
  intro other others same
  cases same
  exact closes

/-! ### Words -/

def inWord (character : Char) : Bool := !punctuation.contains character

theorem word_plain {text : String} (word : Word text) : ∀ character ∈ text.toList,
    inWord character = true := by
  intro character member
  simpa [inWord] using word.plain character member

instance (text : String) : Decidable (Word text) :=
  decidable_of_iff
    (text ≠ "" ∧ text.toList.all inWord = true ∧ text.toList.head? ≠ some '.')
    ⟨fun checked => ⟨checked.1, by simpa [inWord] using checked.2.1, checked.2.2⟩,
      fun word => ⟨word.filled, by simpa using word_plain word, word.undotted⟩⟩

theorem word_cons {text : String} (word : Word text) :
    ∃ first rest, text.toList = first :: rest ∧ first ∉ punctuation ∧ first ≠ '.' := by
  cases shape : text.toList with
  | nil => exact absurd (String.toList_eq_nil_iff.mp shape) word.filled
  | cons first rest =>
      refine ⟨first, rest, rfl, word.plain first (by simp [shape]), ?_⟩
      intro dotted
      exact word.undotted (by simp [shape, dotted])

/-- A text that a word does not go on into. -/
def Broken (text : List Char) : Prop := ∀ first rest, text = first :: rest → inWord first = false

theorem broken_of_closed {text : List Char} (closed : Closed text) : Broken text := by
  intro first rest same
  have closes := closed first rest same
  simp only [closers, List.mem_cons, List.not_mem_nil, or_false] at closes
  rcases closes with rfl | rfl | rfl | rfl | rfl <;> decide

theorem takeWhile_broken {text : List Char} (broken : Broken text) :
    text.takeWhile inWord = [] ∧ text.dropWhile inWord = text := by
  cases text with
  | nil => simp
  | cons first rest => simp [broken first rest rfl]

/-- A run of word characters ends where the word does. -/
theorem split_plain {run : List Char} (plain : ∀ character ∈ run, inWord character = true)
    {after : List Char} (broken : Broken after) :
    (run ++ after).takeWhile inWord = run ∧ (run ++ after).dropWhile inWord = after := by
  obtain ⟨taken, dropped⟩ := takeWhile_broken broken
  simp [List.takeWhile_append_of_pos plain, List.dropWhile_append_of_pos plain, taken, dropped]

theorem plain_apart {run other : List Char}
    (plain : ∀ character ∈ run, inWord character = true)
    (otherPlain : ∀ character ∈ other, inWord character = true)
    {after behind : List Char} (broken : Broken after) (otherBroken : Broken behind)
    (same : run ++ after = other ++ behind) : run = other ∧ after = behind := by
  obtain ⟨taken, dropped⟩ := split_plain plain broken
  obtain ⟨otherTaken, otherDropped⟩ := split_plain otherPlain otherBroken
  rw [same] at taken dropped
  exact ⟨taken.symm.trans otherTaken, dropped.symm.trans otherDropped⟩

theorem words_apart {text other : String} (word : Word text) (otherWord : Word other)
    {after behind : List Char} (broken : Broken after) (otherBroken : Broken behind)
    (same : text.toList ++ after = other.toList ++ behind) : text = other ∧ after = behind := by
  obtain ⟨texts, rests⟩ :=
    plain_apart (word_plain word) (word_plain otherWord) broken otherBroken same
  exact ⟨String.toList_inj.mp texts, rests⟩

/-! ### Lengths of arrays -/

theorem digits_plain (number : Nat) : ∀ character ∈ Nat.toDigits 10 number,
    inWord character = true := by
  intro character member
  have digit := Nat.isDigit_of_mem_toDigits (by omega) (by omega) member
  by_contra broken
  have among : character ∈ punctuation := by simpa [inWord] using broken
  simp only [punctuation, List.mem_cons, List.not_mem_nil, or_false] at among
  rcases among with rfl | rfl | rfl | rfl | rfl | rfl | rfl | rfl | rfl | rfl | rfl <;>
    exact absurd digit (by decide)

theorem digits_cons (number : Nat) :
    ∃ first rest, Nat.toDigits 10 number = first :: rest ∧ first ≠ ']' := by
  cases shape : Nat.toDigits 10 number with
  | nil => exact absurd shape Nat.toDigits_ne_nil
  | cons first rest =>
      refine ⟨first, rest, rfl, ?_⟩
      intro bracket
      have plain := digits_plain number first (by simp [shape])
      simp [bracket, inWord, punctuation] at plain

theorem digits_injective {number other : Nat}
    (same : Nat.toDigits 10 number = Nat.toDigits 10 other) : number = other := by
  rw [← Nat.ofDigitChars_ten_toDigits (n := number), same, Nat.ofDigitChars_ten_toDigits]

/-- A length ends at its closing bracket. -/
theorem lengths_apart {length other : UInt64} {after behind : List Char}
    (same : Nat.toDigits 10 length.toNat ++ ']' :: after =
      Nat.toDigits 10 other.toNat ++ ']' :: behind) : length = other ∧ after = behind := by
  have broken : ∀ rest, Broken (']' :: rest) :=
    fun rest => broken_of_closed (closed_cons (by decide) rest)
  obtain ⟨digits, rests⟩ :=
    plain_apart (digits_plain _) (digits_plain _) (broken after) (broken behind) same
  exact ⟨UInt64.toNat_inj.mp (digits_injective digits), (List.cons.inj rests).2⟩

/-! ### The letters of each form -/

/-- The parameters as they are written: the last one of a variadic function is marked. -/
def marked (variadic : Bool) (params : List TypeTree) : List (Bool × TypeTree) :=
  match variadic, params.getLast? with
  | true, some last => params.dropLast.map (false, ·) ++ [(true, last)]
  | _, _ => params.map (false, ·)

def paramLetters (param : Bool × TypeTree) : List Char :=
  if param.1 then (Spelling.spread param.2.name).toList else letters param.2

def fieldLetters (field : String × TypeTree) : List Char :=
  field.1.toList ++ ' ' :: letters field.2

def resultLetters (results : List TypeTree) : List Char :=
  (Spelling.renderResults (results.map TypeTree.name)).toList

/-- Items between a mark and a blank each. -/
def listed (mark : Char) (items : List (List Char)) : List Char :=
  [mark, ' '].intercalate items

theorem marked_trees (variadic : Bool) (params : List TypeTree) :
    (marked variadic params).map Prod.snd = params := by
  rcases List.eq_nil_or_concat' params with rfl | ⟨front, last, rfl⟩ <;> cases variadic <;>
    simp [marked, Function.comp_def]

theorem marked_any {variadic : Bool} {params : List TypeTree}
    (filled : variadic = true → params ≠ []) :
    (marked variadic params).any Prod.fst = variadic := by
  rcases List.eq_nil_or_concat' params with rfl | ⟨front, last, rfl⟩ <;> cases variadic <;>
    simp_all [marked, Function.comp_def]

@[simp] theorem letters_leaf (name : String) : letters (.leaf name) = name.toList := by
  simp [letters, TypeTree.name]

@[simp] theorem letters_opaquePointer : letters .opaquePointer = '*' :: "void".toList := by
  simp [letters, TypeTree.name, opaquePointerName]

@[simp] theorem letters_pointer (elem : TypeTree) :
    letters (.pointer elem) = '*' :: letters elem := by
  simp [letters, TypeTree.name, Spelling.render]

@[simp] theorem letters_slice (elem : TypeTree) :
    letters (.slice elem) = '[' :: ']' :: letters elem := by
  simp [letters, TypeTree.name, Spelling.render]

@[simp] theorem letters_array (length : UInt64) (elem : TypeTree) :
    letters (.array length elem) =
      '[' :: Nat.toDigits 10 length.toNat ++ ']' :: letters elem := by
  simp [letters, TypeTree.name, Spelling.render]

@[simp] theorem letters_recv (elem : TypeTree) :
    letters (.chan .recv elem) = "<-chan ".toList ++ letters elem := by
  simp [letters, TypeTree.name, Spelling.render, Spelling.renderChan]

@[simp] theorem letters_send (elem : TypeTree) :
    letters (.chan .send elem) = "chan<- ".toList ++ letters elem := by
  simp [letters, TypeTree.name, Spelling.render, Spelling.renderChan]

@[simp] theorem letters_both (elem : TypeTree) :
    letters (.chan .both elem) = "chan ".toList ++ letters elem := by
  simp [letters, TypeTree.name, Spelling.render, Spelling.renderChan]

@[simp] theorem letters_map (key elem : TypeTree) :
    letters (.map key elem) = "map[".toList ++ letters key ++ ']' :: letters elem := by
  simp [letters, TypeTree.name, Spelling.render]

theorem written_letters (variadic : Bool) (params : List TypeTree) :
    (if variadic then Spelling.spreadLast (params.map TypeTree.name)
      else params.map TypeTree.name).map String.toList =
        (marked variadic params).map paramLetters := by
  rcases List.eq_nil_or_concat' params with rfl | ⟨front, last, rfl⟩ <;> cases variadic <;>
    simp [marked, paramLetters, letters, Spelling.spreadLast, Function.comp_def]

@[simp] theorem letters_func (params results : List TypeTree) (variadic : Bool) :
    letters (.func params results variadic) =
      "func(".toList ++ listed ',' ((marked variadic params).map paramLetters) ++
        ')' :: resultLetters results := by
  rw [← written_letters]
  simp [letters, TypeTree.name, Spelling.render, String.toList_intercalate, listed, resultLetters]

@[simp] theorem letters_struct (fields : List (String × TypeTree)) :
    letters (.struct fields) =
      "struct ".toList ++ '\x7b' :: listed ';' (fields.map fieldLetters) ++ ['\x7d'] := by
  have each : fieldLetters = fun field => field.1.toList ++ ' ' :: field.2.name.toList := rfl
  simp [letters, TypeTree.name, Spelling.render, String.toList_intercalate, listed, each,
    Function.comp_def]

/-! ### The form of a type -/

/-- What the first word of a name and the characters behind it tell. -/
inductive Form where
  | word
  | star
  | slice
  | array
  | chan (dir : ChanDir)
  | map
  | func
  | struct

def form : TypeTree → Form
  | .leaf _ => .word
  | .opaquePointer | .pointer _ => .star
  | .slice _ => .slice
  | .array _ _ => .array
  | .chan dir _ => .chan dir
  | .map _ _ => .map
  | .func _ _ _ => .func
  | .struct _ => .struct

def formOf (text : List Char) : Form :=
  match text.takeWhile inWord, text.dropWhile inWord with
  | [], '*' :: _ => .star
  | [], '[' :: ']' :: _ => .slice
  | [], '[' :: _ => .array
  | [], '<' :: _ => .chan .recv
  | _ :: _, '<' :: _ => .chan .send
  | _ :: _, '[' :: _ => .map
  | _ :: _, '(' :: _ => .func
  | _ :: _, ' ' :: '\x7b' :: _ => .struct
  | _ :: _, ' ' :: _ => .chan .both
  | _, _ => .word

/-- How a name can begin. -/
def Begins (first : Char) : Prop := first ∉ ['.', ' ', '(', ')', '\x7b', '\x7d']

theorem begins_of_word {text : String} (word : Word text) :
    ∃ first rest, text.toList = first :: rest ∧ Begins first := by
  obtain ⟨first, rest, shape, plain, undotted⟩ := word_cons word
  refine ⟨first, rest, shape, ?_⟩
  simp only [punctuation, List.mem_cons, List.not_mem_nil, or_false, not_or] at plain
  simp [Begins, undotted, plain]

theorem letters_begin {tree : TypeTree} (readable : Readable tree) :
    ∃ first rest, letters tree = first :: rest ∧ Begins first := by
  cases readable with
  | leaf word =>
      rw [letters_leaf]
      exact begins_of_word word
  | @chan dir elem _ => cases dir <;> simp [Begins]
  | opaquePointer | pointer | slice | array | map | func | struct => simp [Begins]

theorem form_word {text : String} (word : Word text) {after : List Char} (closed : Closed after) :
    formOf (text.toList ++ after) = .word := by
  obtain ⟨taken, dropped⟩ := split_plain (word_plain word) (broken_of_closed closed)
  obtain ⟨first, rest, shape, _⟩ := word_cons word
  unfold formOf
  rw [taken, dropped, shape]
  cases after with
  | nil => rfl
  | cons next others =>
      have closes := closed next others rfl
      simp only [closers, List.mem_cons, List.not_mem_nil, or_false] at closes
      rcases closes with rfl | rfl | rfl | rfl | rfl <;> rfl

theorem form_letters {tree : TypeTree} (readable : Readable tree) {after : List Char}
    (closed : Closed after) : formOf (letters tree ++ after) = form tree := by
  cases readable with
  | leaf word =>
      rw [letters_leaf]
      exact form_word word closed
  | @array length elem _ =>
      obtain ⟨first, rest, shape, unbracketed⟩ := digits_cons length.toNat
      simp [shape, formOf, form, inWord, punctuation, unbracketed]
  | @chan dir elem part =>
      cases dir with
      | recv | send => simp [formOf, form, inWord, punctuation]
      | both =>
          obtain ⟨first, rest, shape, begins⟩ := letters_begin part
          have unbraced : first ≠ '\x7b' := by
            intro brace
            simp [Begins, brace] at begins
          simp [shape, formOf, form, inWord, punctuation, unbraced]
  | opaquePointer | pointer | slice | map | func | struct =>
      simp [formOf, form, inWord, punctuation]

/-! ### Reading apart -/

/-- No other item, whatever stands behind the two, is written like this one. -/
def ReadsApart {α : Type} (text : α → List Char) (good : α → Prop) (item : α) : Prop :=
  ∀ other, good other → ∀ after behind, Closed after → Closed behind →
    text item ++ after = text other ++ behind → item = other ∧ after = behind

section Lists

variable {α : Type} (text : α → List Char) (mark close : Char)

/-- What stands behind an item: the end of the list or more items, and then `after`. -/
def behindItem (after : List Char) : List α → List Char
  | [] => close :: after
  | next :: more => mark :: ' ' :: (listed mark ((next :: more).map text) ++ close :: after)

theorem listed_cons (item : α) (items : List α) (after : List Char) :
    listed mark ((item :: items).map text) ++ close :: after =
      text item ++ behindItem text mark close after items := by
  cases items with
  | nil => simp [listed, behindItem]
  | cons next more => simp [listed, behindItem, List.intercalate_cons_cons]

variable {text mark close}

theorem closed_behindItem (markCloses : mark ∈ closers) (closeCloses : close ∈ closers)
    (items : List α) (after : List Char) : Closed (behindItem text mark close after items) := by
  cases items with
  | nil => exact closed_cons closeCloses _
  | cons next more => exact closed_cons markCloses _

variable {good : α → Prop}

theorem not_listed_nil (begins : ∀ item, good item → ∃ first rest, text item = first :: rest ∧
    first ≠ close) {item : α} (fits : good item) (items : List α) (after behind : List Char) :
    listed mark ((item :: items).map text) ++ close :: after ≠ close :: behind := by
  intro same
  obtain ⟨first, rest, shape, differs⟩ := begins item fits
  rw [listed_cons, shape] at same
  exact differs (List.cons.inj same).1

/-- Items that read apart one by one do so in lists, provided none begins like the end of the
list. -/
theorem listed_apart (differ : mark ≠ close) (markCloses : mark ∈ closers)
    (closeCloses : close ∈ closers)
    (begins : ∀ item, good item → ∃ first rest, text item = first :: rest ∧ first ≠ close)
    {items others : List α} (fit : ∀ item ∈ items, good item)
    (othersFit : ∀ item ∈ others, good item)
    (apart : ∀ item ∈ items, ReadsApart text good item) {after behind : List Char}
    (same : listed mark (items.map text) ++ close :: after =
      listed mark (others.map text) ++ close :: behind) : items = others ∧ after = behind := by
  induction items generalizing others with
  | nil =>
      cases others with
      | nil => simpa [listed] using same
      | cons other others =>
          exact absurd same.symm (not_listed_nil begins (othersFit other (by simp)) _ _ _)
  | cons item items ih =>
      cases others with
      | nil => exact absurd same (not_listed_nil begins (fit item (by simp)) _ _ _)
      | cons other others =>
          rw [listed_cons, listed_cons] at same
          obtain ⟨rfl, rests⟩ := apart item (by simp) other (othersFit other (by simp)) _ _
            (closed_behindItem markCloses closeCloses _ _)
            (closed_behindItem markCloses closeCloses _ _) same
          cases items with
          | nil =>
              cases others with
              | nil => simpa [behindItem] using rests
              | cons next more => exact absurd (List.cons.inj rests).1.symm differ
          | cons next more =>
              cases others with
              | nil => exact absurd (List.cons.inj rests).1 differ
              | cons nextOther moreOthers =>
                  have later := (List.cons.inj (List.cons.inj rests).2).2
                  obtain ⟨same, ends⟩ := ih (fun item member => fit item (by simp [member]))
                    (fun item member => othersFit item (by simp [member]))
                    (fun item member => apart item (by simp [member])) later
                  exact ⟨by rw [same], ends⟩

end Lists

/-- What a function's parameter can be: only a slice is marked. -/
structure ParamFits (param : Bool × TypeTree) : Prop where
  readable : Readable param.2
  slice : param.1 = true → ∃ elem, param.2 = .slice elem

structure FieldFits (field : String × TypeTree) : Prop where
  word : Word field.1
  readable : Readable field.2

theorem letters_spread (elem : TypeTree) :
    paramLetters (true, .slice elem) = '.' :: '.' :: '.' :: letters elem := by
  simp [paramLetters, TypeTree.name, Spelling.render, spread_slice, letters]

theorem param_begins {param : Bool × TypeTree} (fits : ParamFits param) :
    ∃ first rest, paramLetters param = first :: rest ∧ first ≠ ')' := by
  obtain ⟨spread, tree⟩ := param
  cases spread with
  | false =>
      obtain ⟨first, rest, shape, begins⟩ := letters_begin fits.readable
      refine ⟨first, rest, shape, ?_⟩
      intro closing
      simp [Begins, closing] at begins
  | true =>
      obtain ⟨elem, rfl⟩ := fits.slice rfl
      exact ⟨_, _, letters_spread elem, by decide⟩

/-- An ellipsis is not how a name begins, and stands for the brackets of a slice. -/
theorem param_apart {param : Bool × TypeTree} (fits : ParamFits param)
    (apart : ReadsApart letters Readable param.2) : ReadsApart paramLetters ParamFits param := by
  intro other otherFits after behind closed otherClosed same
  have undotted : ∀ {tree : TypeTree} {rest others : List Char}, Readable tree →
      '.' :: rest ≠ letters tree ++ others := by
    intro tree rest others readable same
    obtain ⟨first, _, shape, begins⟩ := letters_begin readable
    rw [shape] at same
    simp [Begins, ← (List.cons.inj same).1] at begins
  obtain ⟨spread, tree⟩ := param
  obtain ⟨otherSpread, otherTree⟩ := other
  cases spread with
  | false =>
      cases otherSpread with
      | false =>
          obtain ⟨rfl, rests⟩ := apart _ otherFits.readable _ _ closed otherClosed same
          exact ⟨rfl, rests⟩
      | true =>
          obtain ⟨elem, rfl⟩ := otherFits.slice rfl
          rw [letters_spread] at same
          exact absurd same.symm (undotted fits.readable)
  | true =>
      obtain ⟨elem, rfl⟩ := fits.slice rfl
      cases otherSpread with
      | false =>
          rw [letters_spread] at same
          exact absurd same (undotted otherFits.readable)
      | true =>
          obtain ⟨otherElem, rfl⟩ := otherFits.slice rfl
          rw [letters_spread, letters_spread] at same
          have slices : letters (.slice elem) ++ after = letters (.slice otherElem) ++ behind := by
            simpa using same
          obtain ⟨trees, rests⟩ := apart _ otherFits.readable _ _ closed otherClosed slices
          exact ⟨Prod.ext rfl trees, rests⟩

theorem field_begins {field : String × TypeTree} (fits : FieldFits field) :
    ∃ first rest, fieldLetters field = first :: rest ∧ first ≠ '\x7d' := by
  obtain ⟨first, rest, shape, begins⟩ := begins_of_word fits.word
  refine ⟨first, rest ++ ' ' :: letters field.2, by simp [fieldLetters, shape], ?_⟩
  intro closing
  simp [Begins, closing] at begins

theorem field_apart {field : String × TypeTree} (fits : FieldFits field)
    (apart : ReadsApart letters Readable field.2) : ReadsApart fieldLetters FieldFits field := by
  intro other otherFits after behind closed otherClosed same
  have blank : ∀ rest, Broken (' ' :: rest) := by
    intro rest first others shape
    cases shape
    decide
  simp only [fieldLetters, List.append_assoc, List.cons_append] at same
  obtain ⟨labels, rests⟩ := words_apart fits.word otherFits.word (blank _) (blank _) same
  obtain ⟨trees, ends⟩ :=
    apart _ otherFits.readable _ _ closed otherClosed (List.cons.inj rests).2
  exact ⟨Prod.ext labels trees, ends⟩

theorem result_letters_several (first second : TypeTree) (others : List TypeTree) :
    resultLetters (first :: second :: others) =
      ' ' :: '(' :: listed ',' ((first :: second :: others).map letters) ++ [')'] := by
  have each : letters = fun tree => tree.name.toList := rfl
  simp [resultLetters, Spelling.renderResults, String.toList_intercalate, listed, each,
    Function.comp_def]

theorem result_letters_one (result : TypeTree) :
    resultLetters [result] = ' ' :: letters result := by
  simp [resultLetters, Spelling.renderResults, letters]

theorem not_result_letters {after : List Char} (closed : Closed after) (first : TypeTree)
    (others : List TypeTree) (behind : List Char) :
    after ≠ resultLetters (first :: others) ++ behind := by
  intro same
  have blank : ∃ rest, resultLetters (first :: others) = ' ' :: rest := by
    cases others with
    | nil => exact ⟨_, result_letters_one first⟩
    | cons second others => exact ⟨_, result_letters_several first second others⟩
  obtain ⟨rest, shape⟩ := blank
  rw [shape] at same
  exact absurd (closed _ _ same) (by decide)

theorem one_not_several {result : TypeTree} (readable : Readable result) (first second : TypeTree)
    (others : List TypeTree) (after behind : List Char) :
    resultLetters [result] ++ after ≠ resultLetters (first :: second :: others) ++ behind := by
  intro same
  obtain ⟨start, rest, shape, begins⟩ := letters_begin readable
  rw [result_letters_one, result_letters_several, shape] at same
  simp only [List.cons_append, List.cons.injEq] at same
  simp [Begins, same.2.1] at begins

theorem results_apart {results others : List TypeTree}
    (readable : ∀ result ∈ results, Readable result)
    (otherReadable : ∀ result ∈ others, Readable result)
    (apart : ∀ result ∈ results, ReadsApart letters Readable result) {after behind : List Char}
    (closed : Closed after) (otherClosed : Closed behind)
    (same : resultLetters results ++ after = resultLetters others ++ behind) :
    results = others ∧ after = behind := by
  match results, others with
  | [], [] => exact ⟨rfl, same⟩
  | [], other :: others => exact absurd same (not_result_letters closed other others behind)
  | result :: results, [] =>
      exact absurd same.symm (not_result_letters otherClosed result results after)
  | [result], [other] =>
      rw [result_letters_one, result_letters_one] at same
      obtain ⟨rfl, rests⟩ := apart result (by simp) other (otherReadable other (by simp)) _ _
        closed otherClosed (List.cons.inj same).2
      exact ⟨rfl, rests⟩
  | [result], first :: second :: others =>
      exact absurd same (one_not_several (readable result (by simp)) first second others _ _)
  | first :: second :: results, [other] =>
      exact absurd same.symm
        (one_not_several (otherReadable other (by simp)) first second results _ _)
  | first :: second :: results, firstOther :: secondOther :: others =>
      rw [result_letters_several, result_letters_several] at same
      have inner : listed ',' ((first :: second :: results).map letters) ++ ')' :: after =
          listed ',' ((firstOther :: secondOther :: others).map letters) ++ ')' :: behind := by
        simpa using same
      apply listed_apart (by decide) (by decide) (by decide) _ readable otherReadable apart inner
      intro tree fits
      have single : ParamFits (false, tree) := ⟨fits, by simp⟩
      exact param_begins single

theorem mem_of_marked {variadic : Bool} {params : List TypeTree} {param : Bool × TypeTree}
    (member : param ∈ marked variadic params) : param.2 ∈ params := by
  rw [← marked_trees variadic params]
  exact List.mem_map_of_mem member

theorem marked_fits {variadic : Bool} {params : List TypeTree}
    (readable : ∀ param ∈ params, Readable param)
    (slice : variadic = true → ∃ front elem, params = front ++ [.slice elem]) :
    ∀ param ∈ marked variadic params, ParamFits param := by
  intro param member
  refine ⟨readable _ (mem_of_marked member), ?_⟩
  intro spread
  cases variadic with
  | false =>
      obtain ⟨tree, _, rfl⟩ := List.mem_map.mp member
      cases spread
  | true =>
      obtain ⟨front, elem, rfl⟩ := slice rfl
      simp only [marked, List.getLast?_concat, List.dropLast_concat, List.mem_append, List.mem_map,
        List.mem_singleton] at member
      rcases member with ⟨tree, _, rfl⟩ | rfl
      · cases spread
      · exact ⟨elem, rfl⟩

theorem marked_injective {variadic otherVariadic : Bool} {params others : List TypeTree}
    (slice : variadic = true → ∃ front elem, params = front ++ [.slice elem])
    (otherSlice : otherVariadic = true → ∃ front elem, others = front ++ [.slice elem])
    (same : marked variadic params = marked otherVariadic others) :
    variadic = otherVariadic ∧ params = others := by
  have filled : ∀ {flag : Bool} {trees : List TypeTree},
      (flag = true → ∃ front elem, trees = front ++ [.slice elem]) → flag = true → trees ≠ [] := by
    intro flag trees ends flagged
    obtain ⟨front, elem, rfl⟩ := ends flagged
    simp
  constructor
  · rw [← marked_any (filled slice), same, marked_any (filled otherSlice)]
  · rw [← marked_trees variadic params, same, marked_trees]

/-- The opaque pointer is no pointer to a leaf. -/
theorem not_void {elem : TypeTree} (readable : Readable elem) {after behind : List Char}
    (closed : Closed after) (otherClosed : Closed behind) :
    "void".toList ++ after ≠ letters elem ++ behind := by
  intro same
  have void : Word "void" := by decide
  have forms : form elem = .word := by
    rw [← form_letters readable otherClosed, ← same]
    exact form_word void closed
  cases readable with
  | leaf word unvoid =>
      rw [letters_leaf] at same
      obtain ⟨names, _⟩ :=
        words_apart void word (broken_of_closed closed) (broken_of_closed otherClosed) same
      exact unvoid names.symm
  | _ => cases forms

/-- The form of a type can be told from its letters, so only trees of one form need be compared. -/
theorem apart_of_form {tree : TypeTree} (readable : Readable tree)
    (apart : ∀ other, Readable other → form tree = form other → ∀ after behind, Closed after →
      Closed behind → letters tree ++ after = letters other ++ behind →
        tree = other ∧ after = behind) : ReadsApart letters Readable tree := by
  intro other otherReadable after behind closed otherClosed same
  have forms : form tree = form other := by
    rw [← form_letters readable closed, same, form_letters otherReadable otherClosed]
  exact apart other otherReadable forms after behind closed otherClosed same

theorem func_apart {params results : List TypeTree} {variadic : Bool}
    (readable : ∀ param ∈ params, Readable param)
    (resultsReadable : ∀ result ∈ results, Readable result)
    (slice : variadic = true → ∃ front elem, params = front ++ [.slice elem])
    (paramsApart : ∀ param ∈ params, ReadsApart letters Readable param)
    (resultsApart : ∀ result ∈ results, ReadsApart letters Readable result) :
    ReadsApart letters Readable (.func params results variadic) := by
  apply apart_of_form (.func readable resultsReadable slice)
  intro other otherReadable forms after behind closed otherClosed same
  cases otherReadable with
  | func otherParams otherResults otherSlice =>
      simp only [letters_func, List.append_assoc, List.cons_append] at same
      have fits := marked_fits readable slice
      obtain ⟨lists, ends⟩ := listed_apart (by decide) (by decide) (by decide)
        (fun _ => param_begins) fits (marked_fits otherParams otherSlice)
        (fun param member => param_apart (fits param member) (paramsApart _ (mem_of_marked member)))
        (List.append_cancel_left same)
      obtain ⟨rfl, rfl⟩ := marked_injective slice otherSlice lists
      obtain ⟨rfl, rests⟩ :=
        results_apart resultsReadable otherResults resultsApart closed otherClosed ends
      exact ⟨rfl, rests⟩
  | _ => cases forms

theorem struct_apart {fields : List (String × TypeTree)} (words : ∀ field ∈ fields, Word field.1)
    (readable : ∀ field ∈ fields, Readable field.2)
    (apart : ∀ field ∈ fields, ReadsApart letters Readable field.2) :
    ReadsApart letters Readable (.struct fields) := by
  apply apart_of_form (.struct words readable)
  intro other otherReadable forms after behind closed otherClosed same
  cases otherReadable with
  | struct otherWords otherParts =>
      simp only [letters_struct, List.append_assoc, List.cons_append, List.nil_append] at same
      have fits : ∀ field ∈ _, FieldFits field :=
        fun field member => ⟨words field member, readable field member⟩
      obtain ⟨rfl, rests⟩ := listed_apart (by decide) (by decide) (by decide)
        (fun _ => field_begins) fits
        (fun field member => ⟨otherWords field member, otherParts field member⟩)
        (fun field member => field_apart (fits field member) (apart field member))
        (List.cons.inj (List.append_cancel_left same)).2
      exact ⟨rfl, rests⟩
  | _ => cases forms

/-- The induction is on the tree whose name is read. Behind each part of the two trees stands
something that no name goes on with, so that both parts end there. -/
theorem letters_apart {tree : TypeTree} (readable : Readable tree) :
    ReadsApart letters Readable tree := by
  induction readable with
  | leaf word unvoid =>
      apply apart_of_form (.leaf word unvoid)
      intro other otherReadable forms after behind closed otherClosed same
      cases otherReadable with
      | leaf otherWord =>
          rw [letters_leaf, letters_leaf] at same
          obtain ⟨rfl, rests⟩ := words_apart word otherWord (broken_of_closed closed)
            (broken_of_closed otherClosed) same
          exact ⟨rfl, rests⟩
      | _ => cases forms
  | opaquePointer =>
      apply apart_of_form .opaquePointer
      intro other otherReadable forms after behind closed otherClosed same
      cases otherReadable with
      | opaquePointer => exact ⟨rfl, List.append_cancel_left same⟩
      | pointer part =>
          rw [letters_opaquePointer, letters_pointer] at same
          exact absurd (List.cons.inj same).2 (not_void part closed otherClosed)
      | _ => cases forms
  | pointer part ih =>
      apply apart_of_form (.pointer part)
      intro other otherReadable forms after behind closed otherClosed same
      cases otherReadable with
      | opaquePointer =>
          rw [letters_opaquePointer, letters_pointer] at same
          exact absurd (List.cons.inj same).2.symm (not_void part otherClosed closed)
      | pointer otherPart =>
          rw [letters_pointer, letters_pointer] at same
          obtain ⟨rfl, rests⟩ := ih _ otherPart _ _ closed otherClosed (List.cons.inj same).2
          exact ⟨rfl, rests⟩
      | _ => cases forms
  | slice part ih =>
      apply apart_of_form (.slice part)
      intro other otherReadable forms after behind closed otherClosed same
      cases otherReadable with
      | slice otherPart =>
          rw [letters_slice, letters_slice] at same
          obtain ⟨rfl, rests⟩ := ih _ otherPart _ _ closed otherClosed
            (List.cons.inj (List.cons.inj same).2).2
          exact ⟨rfl, rests⟩
      | _ => cases forms
  | array part ih =>
      apply apart_of_form (.array part)
      intro other otherReadable forms after behind closed otherClosed same
      cases otherReadable with
      | array otherPart =>
          simp only [letters_array, List.append_assoc, List.cons_append] at same
          obtain ⟨rfl, elems⟩ := lengths_apart (List.cons.inj same).2
          obtain ⟨rfl, rests⟩ := ih _ otherPart _ _ closed otherClosed elems
          exact ⟨rfl, rests⟩
      | _ => cases forms
  | @chan dir elem part ih =>
      apply apart_of_form (.chan part)
      intro other otherReadable forms after behind closed otherClosed same
      cases otherReadable with
      | @chan otherDir otherElem otherPart =>
          have dirs : dir = otherDir := by cases forms; rfl
          subst dirs
          have elems : letters elem ++ after = letters otherElem ++ behind := by
            cases dir <;> simpa using same
          obtain ⟨rfl, rests⟩ := ih _ otherPart _ _ closed otherClosed elems
          exact ⟨rfl, rests⟩
      | _ => cases forms
  | map keyPart elemPart keyApart elemApart =>
      apply apart_of_form (.map keyPart elemPart)
      intro other otherReadable forms after behind closed otherClosed same
      cases otherReadable with
      | map otherKey otherElem =>
          simp only [letters_map, List.append_assoc, List.cons_append] at same
          have bracket : ∀ rest, Closed (']' :: rest) := closed_cons (by decide)
          obtain ⟨rfl, elems⟩ := keyApart _ otherKey _ _ (bracket _) (bracket _)
            (List.append_cancel_left same)
          obtain ⟨rfl, rests⟩ := elemApart _ otherElem _ _ closed otherClosed
            (List.cons.inj elems).2
          exact ⟨rfl, rests⟩
      | _ => cases forms
  | func params results slice paramsApart resultsApart =>
      exact func_apart params results slice paramsApart resultsApart
  | struct words parts apart => exact struct_apart words parts apart

theorem tree_of_name {tree other : TypeTree} (readable : Readable tree)
    (otherReadable : Readable other) (same : tree.name = other.name) : tree = other := by
  have written : letters tree ++ [] = letters other ++ [] := by simp [letters, same]
  exact (letters_apart readable other otherReadable [] [] closed_nil closed_nil written).1

/-- Subjects to which the rules give one name are built alike. -/
theorem tree_of_canonical {describe others : Address → Except DescriptorFault RuntimeType}
    {subject otherSubject : Nameable} {tree other : TypeTree} {name : String}
    (unfolds : Unfolds describe subject tree) (otherUnfolds : Unfolds others otherSubject other)
    (readable : Readable tree) (otherReadable : Readable other)
    (canonical : Canonical describe subject name)
    (otherCanonical : Canonical others otherSubject name) : tree = other := by
  apply tree_of_name readable otherReadable
  rw [← canonical_unique canonical (canonical_of_unfolds unfolds),
    ← canonical_unique otherCanonical (canonical_of_unfolds otherUnfolds)]

end TypeAtlas.Naming
