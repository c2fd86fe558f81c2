/-!
Kinds of runtime types and directions of channels, with the codes that descriptors store and the
words they are written as.
-/

namespace TypeAtlas

set_option autoImplicit false

inductive Kind where
  | bool
  | int
  | int8
  | int16
  | int32
  | int64
  | uint
  | uint8
  | uint16
  | uint32
  | uint64
  | uintptr
  | float32
  | float64
  | complex64
  | complex128
  | array
  | chan
  | func
  | interface
  | map
  | pointer
  | slice
  | string
  | struct
  | unsafePointer
deriving DecidableEq, Repr, Inhabited

namespace Kind

/-- Every kind, in the order of the codes, which start at one. -/
def all : List Kind :=
  [.bool, .int, .int8, .int16, .int32, .int64, .uint, .uint8, .uint16, .uint32, .uint64, .uintptr,
    .float32, .float64, .complex64, .complex128, .array, .chan, .func, .interface, .map, .pointer,
    .slice, .string, .struct, .unsafePointer]

def code : Kind → Nat
  | .bool => 1
  | .int => 2
  | .int8 => 3
  | .int16 => 4
  | .int32 => 5
  | .int64 => 6
  | .uint => 7
  | .uint8 => 8
  | .uint16 => 9
  | .uint32 => 10
  | .uint64 => 11
  | .uintptr => 12
  | .float32 => 13
  | .float64 => 14
  | .complex64 => 15
  | .complex128 => 16
  | .array => 17
  | .chan => 18
  | .func => 19
  | .interface => 20
  | .map => 21
  | .pointer => 22
  | .slice => 23
  | .string => 24
  | .struct => 25
  | .unsafePointer => 26

def ofCode? (code : Nat) : Option Kind := if code = 0 then none else all[code - 1]?

theorem ofCode?_code (kind : Kind) : ofCode? kind.code = some kind := by
  cases kind <;> rfl

/-- The kind in the language's own spelling. -/
def name : Kind → String
  | .bool => "bool"
  | .int => "int"
  | .int8 => "int8"
  | .int16 => "int16"
  | .int32 => "int32"
  | .int64 => "int64"
  | .uint => "uint"
  | .uint8 => "uint8"
  | .uint16 => "uint16"
  | .uint32 => "uint32"
  | .uint64 => "uint64"
  | .uintptr => "uintptr"
  | .float32 => "float32"
  | .float64 => "float64"
  | .complex64 => "complex64"
  | .complex128 => "complex128"
  | .array => "array"
  | .chan => "chan"
  | .func => "func"
  | .interface => "interface"
  | .map => "map"
  | .pointer => "ptr"
  | .slice => "slice"
  | .string => "string"
  | .struct => "struct"
  | .unsafePointer => "unsafe.Pointer"

/-- The word for the kind in exported records. It differs from the name for the two pointer
kinds only. -/
def word : Kind → String
  | .pointer => "pointer"
  | .unsafePointer => "unsafe_pointer"
  | kind => kind.name

def ofWord? (word : String) : Option Kind := all.find? (·.word == word)

theorem ofWord?_word (kind : Kind) : ofWord? kind.word = some kind := by
  cases kind <;> rfl

end Kind

inductive ChanDir where
  | recv
  | send
  | both
deriving DecidableEq, Repr, Inhabited

namespace ChanDir

/-- One bit for receiving, one for sending; a channel does at least one of them. -/
def ofBits? (bits : UInt64) : Option ChanDir :=
  if bits = 1 then some .recv
  else if bits = 2 then some .send
  else if bits = 3 then some .both
  else none

def all : List ChanDir := [.recv, .send, .both]

def word : ChanDir → String
  | .recv => "recv"
  | .send => "send"
  | .both => "both"

def ofWord? (word : String) : Option ChanDir := all.find? (·.word == word)

end ChanDir

end TypeAtlas
