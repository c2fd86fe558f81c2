/-!
JSON values and their two written forms: compact, without any blank, and indented, two spaces a
level. A writer extends the text written so far, so that long lists cost no more than their
length.
-/

namespace TypeAtlas

set_option autoImplicit false

/-- A value to be written. Numbers are whole and fields keep their order. -/
inductive Json where
  | null
  | bool (value : Bool)
  | number (value : Int)
  | text (value : String)
  | list (items : List Json)
  | record (fields : List (String × Json))
deriving Repr, Inhabited

namespace Json

def ofOption {α : Type} (encode : α → Json) : Option α → Json
  | none => .null
  | some value => encode value

def ofNat (value : Nat) : Json := .number value

def ofWord (value : UInt64) : Json := .ofNat value.toNat

/-- Four lowercase hexadecimal digits of a control character. -/
def controlDigits (character : Char) : List Char :=
  let digits := Nat.toDigits 16 character.toNat
  List.replicate (4 - digits.length) '0' ++ digits

/-- Quotes, backslashes and the characters below the space are escaped, nothing else. -/
def escape (character : Char) : List Char :=
  if character = '"' then ['\\', '"']
  else if character = '\\' then ['\\', '\\']
  else if character = '\x08' then ['\\', 'b']
  else if character = '\t' then ['\\', 't']
  else if character = '\n' then ['\\', 'n']
  else if character = '\x0c' then ['\\', 'f']
  else if character = '\r' then ['\\', 'r']
  else if character < ' ' then ['\\', 'u'] ++ controlDigits character
  else [character]

def writeText (text : String) (written : String) : String :=
  (text.toList.foldl (fun soFar character => (escape character).foldl String.push soFar)
    (written.push '"')).push '"'

/-- How the parts of a list or record are set apart. -/
inductive Layout where
  | compact
  | indented
deriving DecidableEq, Repr

namespace Layout

def lineBreak (layout : Layout) (depth : Nat) (written : String) : String :=
  match layout with
  | .compact => written
  | .indented => (List.replicate (2 * depth) ' ').foldl String.push (written.push '\n')

def colon : Layout → String
  | .compact => ":"
  | .indented => ": "

/-- What stands before a part: a comma unless it is the first, then the line break. -/
def separate (layout : Layout) (depth : Nat) (first : Bool) (written : String) : String :=
  layout.lineBreak depth (if first then written else written.push ',')

end Layout

mutual

/-- Writes a value whose parts stand `depth + 1` levels in. -/
def write (layout : Layout) (depth : Nat) : Json → String → String
  | .null, written => written ++ "null"
  | .bool true, written => written ++ "true"
  | .bool false, written => written ++ "false"
  | .number value, written => written ++ toString value
  | .text value, written => writeText value written
  | .list [], written => written ++ "[]"
  | .list (item :: rest), written =>
      (layout.lineBreak depth
        (writeItems layout depth true (item :: rest) (written.push '['))).push ']'
  | .record [], written => written ++ "\x7b\x7d"
  | .record (field :: rest), written =>
      (layout.lineBreak depth
        (writeFields layout depth true (field :: rest) (written.push '\x7b'))).push '\x7d'

def writeItems (layout : Layout) (depth : Nat) (first : Bool) : List Json → String → String
  | [], written => written
  | item :: rest, written =>
      writeItems layout depth false rest
        (write layout (depth + 1) item (layout.separate (depth + 1) first written))

def writeFields (layout : Layout) (depth : Nat) (first : Bool) :
    List (String × Json) → String → String
  | [], written => written
  | (key, value) :: rest, written =>
      let keyed := writeText key (layout.separate (depth + 1) first written) ++ layout.colon
      writeFields layout depth false rest (write layout (depth + 1) value keyed)

end

def compact (value : Json) : String := write .compact 0 value ""

def indented (value : Json) : String := write .indented 0 value ""

end Json

end TypeAtlas
