/-!
Reading JSON text off the front of a list of characters: blanks, strings, whole numbers and truth
values that are wanted, and values of any depth that are passed over. Wanted strings must spell
characters; what is passed over only has to be grammatical.
-/

namespace TypeAtlas.Json.Grammar

set_option autoImplicit false

def isBlank (character : Char) : Bool :=
  character == ' ' || character == '\t' || character == '\n' || character == '\r'

def skipBlanks (input : List Char) : List Char := input.dropWhile isBlank

/-- What follows one expected character and the blanks before it. -/
def expect (character : Char) (input : List Char) : Option (List Char) :=
  match skipBlanks input with
  | [] => none
  | first :: rest => if first = character then some rest else none

def hexDigit? (character : Char) : Option Nat :=
  if '0' ≤ character ∧ character ≤ '9' then some (character.toNat - '0'.toNat)
  else if 'a' ≤ character ∧ character ≤ 'f' then some (character.toNat - 'a'.toNat + 10)
  else if 'A' ≤ character ∧ character ≤ 'F' then some (character.toNat - 'A'.toNat + 10)
  else none

/-- The number of four hexadecimal digits. -/
def codeUnit? (first second third fourth : Char) : Option Nat := do
  let a ← hexDigit? first
  let b ← hexDigit? second
  let c ← hexDigit? third
  let d ← hexDigit? fourth
  return ((a * 16 + b) * 16 + c) * 16 + d

def isHighSurrogate (unit : Nat) : Bool := 0xD800 ≤ unit && unit ≤ 0xDBFF

def isLowSurrogate (unit : Nat) : Bool := 0xDC00 ≤ unit && unit ≤ 0xDFFF

/-- The character that a backslash and a single character stand for. -/
def escaped? (character : Char) : Option Char :=
  match character with
  | '"' => some '"'
  | '\\' => some '\\'
  | '/' => some '/'
  | 'b' => some '\x08'
  | 'f' => some '\x0c'
  | 'n' => some '\n'
  | 'r' => some '\r'
  | 't' => some '\t'
  | _ => none

/-- The rest of a string after its opening quote, `reversed` being what it has spelled so far. The
halves of a surrogate pair belong together, and control characters have to be escaped. -/
def readText (reversed : List Char) : List Char → Option (String × List Char)
  | [] => none
  | '"' :: rest => some (String.ofList reversed.reverse, rest)
  | '\\' :: 'u' :: a :: b :: c :: d :: '\\' :: 'u' :: e :: f :: g :: h :: rest =>
      match codeUnit? a b c d with
      | none => none
      | some unit =>
          if isLowSurrogate unit then none
          else if isHighSurrogate unit then
            match codeUnit? e f g h with
            | none => none
            | some low =>
                if isLowSurrogate low then
                  let code := 0x10000 + (unit - 0xD800) * 0x400 + (low - 0xDC00)
                  readText (Char.ofNat code :: reversed) rest
                else none
          else readText (Char.ofNat unit :: reversed) ('\\' :: 'u' :: e :: f :: g :: h :: rest)
  | '\\' :: 'u' :: a :: b :: c :: d :: rest =>
      match codeUnit? a b c d with
      | none => none
      | some unit =>
          if isLowSurrogate unit || isHighSurrogate unit then none
          else readText (Char.ofNat unit :: reversed) rest
  | '\\' :: character :: rest =>
      match escaped? character with
      | none => none
      | some spelled => readText (spelled :: reversed) rest
  | character :: rest =>
      if character = '\\' ∨ character < ' ' then none
      else readText (character :: reversed) rest

/-- A string, with the blanks before it. -/
def text? (input : List Char) : Option (String × List Char) := do
  readText [] (← expect '"' input)

def digitsValue (digits : List Char) : Nat :=
  digits.foldl (fun value digit => 10 * value + (digit.toNat - '0'.toNat)) 0

/-- Numbers of 64 bits are below this one. -/
def wordLimit : Nat := UInt64.size

/-- A number of 64 bits in plain digits, without needless zeros in front. A fraction or exponent
is left over and fits nowhere. -/
def word? (input : List Char) : Option (Nat × List Char) :=
  let start := skipBlanks input
  let digits := start.takeWhile Char.isDigit
  let value := digitsValue digits
  if digits.isEmpty ∨ (digits.head? = some '0' ∧ digits ≠ ['0']) ∨ wordLimit ≤ value then none
  else some (value, start.dropWhile Char.isDigit)

def truth? (input : List Char) : Option (Bool × List Char) :=
  match skipBlanks input with
  | 't' :: 'r' :: 'u' :: 'e' :: rest => some (true, rest)
  | 'f' :: 'a' :: 'l' :: 's' :: 'e' :: rest => some (false, rest)
  | _ => none

/-- The part of a number that was read last. -/
inductive NumberPart where
  | sign
  | zero
  | whole
  | point
  | fraction
  | mark
  | markSign
  | exponent
deriving DecidableEq, Repr

namespace NumberPart

def isMark (character : Char) : Bool := character == 'e' || character == 'E'

def next? (character : Char) : NumberPart → Option NumberPart
  | .sign =>
      if character = '0' then some .zero else if character.isDigit then some .whole else none
  | .zero =>
      if character = '.' then some .point else if isMark character then some .mark else none
  | .whole =>
      if character.isDigit then some .whole
      else if character = '.' then some .point
      else if isMark character then some .mark
      else none
  | .point => if character.isDigit then some .fraction else none
  | .fraction =>
      if character.isDigit then some .fraction
      else if isMark character then some .mark
      else none
  | .mark =>
      if character.isDigit then some .exponent
      else if character = '+' ∨ character = '-' then some .markSign
      else none
  | .markSign => if character.isDigit then some .exponent else none
  | .exponent => if character.isDigit then some .exponent else none

/-- Whether a number may end here. -/
def isComplete : NumberPart → Bool
  | .zero | .whole | .fraction | .exponent => true
  | .sign | .point | .mark | .markSign => false

end NumberPart

inductive Bracket where
  | list
  | record
deriving DecidableEq, Repr

/-- What a value that is passed over may go on with. Strings are followed by what comes after
them, which is a colon for the key of a field. -/
inductive Awaited where
  | value
  | firstItem
  | firstKey
  | key
  | colon
  | separator
  | letters (remaining : List Char)
  | number (part : NumberPart)
  | text (isKey : Bool)
  | escape (isKey : Bool)
  | hex (isKey : Bool) (missing : Nat)
deriving DecidableEq, Repr

namespace Awaited

def afterText (isKey : Bool) : Awaited := if isKey then .colon else .separator

/-- The first character of a value inside the open brackets. -/
def begin? (character : Char) (brackets : List Bracket) : Option (Awaited × List Bracket) :=
  match character with
  | '[' => some (.firstItem, .list :: brackets)
  | '\x7b' => some (.firstKey, .record :: brackets)
  | '"' => some (.text false, brackets)
  | 't' => some (.letters ['r', 'u', 'e'], brackets)
  | 'f' => some (.letters ['a', 'l', 's', 'e'], brackets)
  | 'n' => some (.letters ['u', 'l', 'l'], brackets)
  | '-' => some (.number .sign, brackets)
  | _ => (NumberPart.sign.next? character).map fun part => (.number part, brackets)

/-- A character after a value: a comma, or the bracket that closes the innermost open one. -/
def separate? (character : Char) : List Bracket → Option (Awaited × List Bracket)
  | [] => none
  | .list :: outer =>
      if character = ',' then some (.value, .list :: outer)
      else if character = ']' then some (.separator, outer)
      else none
  | .record :: outer =>
      if character = ',' then some (.key, .record :: outer)
      else if character = '\x7d' then some (.separator, outer)
      else none

/-- One character, with the brackets that are open after it. -/
def next? (character : Char) (brackets : List Bracket) :
    Awaited → Option (Awaited × List Bracket)
  | .value => if isBlank character then some (.value, brackets) else begin? character brackets
  | .firstItem =>
      if isBlank character then some (.firstItem, brackets)
      else if character = ']' then some (.separator, brackets.tail)
      else begin? character brackets
  | .firstKey =>
      if isBlank character then some (.firstKey, brackets)
      else if character = '\x7d' then some (.separator, brackets.tail)
      else if character = '"' then some (.text true, brackets)
      else none
  | .key =>
      if isBlank character then some (.key, brackets)
      else if character = '"' then some (.text true, brackets)
      else none
  | .colon =>
      if isBlank character then some (.colon, brackets)
      else if character = ':' then some (.value, brackets)
      else none
  | .separator =>
      if isBlank character then some (.separator, brackets) else separate? character brackets
  | .letters [] => none
  | .letters (expected :: later) =>
      if character = expected then
        some (if later.isEmpty then .separator else .letters later, brackets)
      else none
  | .number part =>
      match part.next? character with
      | some later => some (.number later, brackets)
      | none =>
          if !part.isComplete then none
          else if isBlank character then some (.separator, brackets)
          else separate? character brackets
  | .text isKey =>
      if character = '"' then some (afterText isKey, brackets)
      else if character = '\\' then some (.escape isKey, brackets)
      else if character < ' ' then none
      else some (.text isKey, brackets)
  | .escape isKey =>
      if character = 'u' then some (.hex isKey 4, brackets)
      else (escaped? character).map fun _ => (.text isKey, brackets)
  | .hex isKey missing =>
      (hexDigit? character).map fun _ =>
        (if missing ≤ 1 then .text isKey else .hex isKey (missing - 1), brackets)

/-- Whether the whole value may have ended. -/
def isComplete : Awaited → Bool
  | .separator => true
  | .number part => part.isComplete
  | _ => false

/-- Whether nothing can follow any more as part of the value. -/
def isOver (awaited : Awaited) (brackets : List Bracket) : Bool :=
  brackets.isEmpty && awaited == .separator

end Awaited

/-- The rest of the input after a value of which some may have been read. A number at the end of
the value ends with the first character that does not go on with it. -/
def skipFrom (awaited : Awaited) (brackets : List Bracket) : List Char → Option (List Char)
  | [] => if brackets.isEmpty && awaited.isComplete then some [] else none
  | character :: rest =>
      if awaited.isOver brackets then some (character :: rest)
      else
        match awaited.next? character brackets with
        | some (later, inner) => skipFrom later inner rest
        | none =>
            if brackets.isEmpty && awaited.isComplete then some (character :: rest) else none

def skipValue? (input : List Char) : Option (List Char) := skipFrom .value [] input

end TypeAtlas.Json.Grammar
