import Society.Boundary.Scanner
import Society.Codec

namespace Society.Boundary
open Society.Kernel (Ranged)
open Society.Coding

/-! The inbound wire: frames as JSON values, JSON values as lines, and back. -/

section Writing

/-- The pattern of a binary64 is neither of an infinity nor of a NaN. -/
def isFinite (bits : Nat) : Bool := bits/2^52%2048 != 2047

def escapeDigit (n : Nat) : Char := if n<10 then Char.ofNat (48+n) else Char.ofNat (87+n)

/-- How the library writes a character of a string. -/
def escaped (c : Char) : List Char :=
  if c == '"' then ['\\','"']
  else if c == '\\' then ['\\','\\']
  else if c.toNat==8 then ['\\','b']
  else if c.toNat==9 then ['\\','t']
  else if c.toNat==10 then ['\\','n']
  else if c.toNat==12 then ['\\','f']
  else if c.toNat==13 then ['\\','r']
  else if c.toNat<32 then ['\\','u','0','0',escapeDigit (c.toNat/16),escapeDigit (c.toNat%16)]
  else [c]

def quoted (s : String) : List Char := '"'::(s.toList.flatMap escaped++['"'])

/-- What the library does where this model does not say it: its spelling of a finite binary64, and
how it reads a text. -/
structure JsonLibrary where
  formatFinite : Nat → List Char
  plain : ∀ bits,∀ c∈formatFinite bits,c.isDigit=true ∨ c∈['.','-','+','e','E']
  parse : List Char → Option Json

variable (lib : JsonLibrary)

def writeNumber : Number → List Char
  | .u64 n => Nat.toDigits 10 n
  | .i64 n => (if n<0 then ['-'] else [])++Nat.toDigits 10 n.natAbs
  | .f64 bits => if isFinite bits then lib.formatFinite bits else ['n','u','l','l']

mutual

/-- The text of a value, as `to_string` writes it. -/
def write : Json → List Char
  | .null => ['n','u','l','l']
  | .bool true => ['t','r','u','e']
  | .bool false => ['f','a','l','s','e']
  | .number n => writeNumber lib n
  | .string s => quoted s
  | .array items => '['::(writeItems items++[']'])
  | .object fields => '{'::(writeFields fields++['}'])

def writeItems : List Json → List Char
  | [] => []
  | [v] => write v
  | v::v'::rest => write v++ ','::writeItems (v'::rest)

def writeFields : List (String × Json) → List Char
  | [] => []
  | [(key,v)] => quoted key++ ':'::write v
  | (key,v)::f::rest => quoted key++ ':'::(write v++ ','::writeFields (f::rest))

end

def jsonValuesEqual (left right : Json) : Bool := write lib left==write lib right

end Writing
section Reading
variable (lib : JsonLibrary)

/-- How the library reads a string with its quotation marks. -/
def JsonLibrary.decodeString (text : List Char) : Option String :=
  match lib.parse text with
  | some (.string s) => some s
  | _ => none

def decodeFrameValue (line : String) : Except ProtocolError Json :=
  if maxJsonlFrameBytes<(utf8 line).length then .error .frameTooLarge
  else match rejectDuplicateObjectKeys lib.decodeString line.toList with
    | .error e => .error e
    | .ok _ =>
      match lib.parse line.toList with
      | none => .error .invalidJson
      | some v => .ok v

end Reading
section Fields

/-- The members of an object, in the order of the map. -/
abbrev Fields := List (String × Json)

def insertField (key : String) (v : Json) : Fields → Fields
  | [] => [(key,v)]
  | (key',v')::rest =>
    if key=key' then (key,v)::rest
    else if key<key' then (key,v)::(key',v')::rest
    else (key',v')::insertField key v rest

/-- The map of members that are inserted one after the other. -/
def fieldsOf (members : Fields) : Fields :=
  members.foldl (fun fields m => insertField m.1 m.2 fields) []

def jsonObject (members : Fields) : Json := .object (fieldsOf members)

def jsonString (s : String) : Json := .string s

def jsonU64 (n : Nat) : Json := .number (.u64 n)

def jsonBool (b : Bool) : Json := .bool b

def object : Json → Except ProtocolError Fields
  | .object fields => .ok fields
  | _ => .error (.invalidFrame "object")

def required (fields : Fields) (key : String) : Except ProtocolError Json :=
  match getField fields key with
  | some v => .ok v
  | none => .error (.invalidFrame "missing field")

def objectField (fields : Fields) (key : String) : Except ProtocolError Fields := do
  object (← required fields key)

def string (fields : Fields) (key : String) : Except ProtocolError String := do
  match ← required fields key with
  | .string s => .ok s
  | _ => .error (.invalidFrame "string field")

def nonempty (fields : Fields) (key : String) : Except ProtocolError String := do
  let s ← string fields key
  if s="" then .error (.invalidFrame "nonempty string") else .ok s

def boolean (fields : Fields) (key : String) : Except ProtocolError Bool := do
  match ← required fields key with
  | .bool b => .ok b
  | _ => .error (.invalidFrame "boolean field")

def unsigned (fields : Fields) (key : String) : Except ProtocolError Nat := do
  match ← required fields key with
  | .number (.u64 n) =>
    if n ≤ maxSafeInteger then .ok n else .error (.invalidFrame "safe unsigned integer")
  | _ => .error (.invalidFrame "safe unsigned integer")

def boundarySequence (fields : Fields) (key : String) : Except ProtocolError BoundarySequence := do
  parseRanged 1 maxSafeInteger "boundary sequence" (← unsigned fields key)

def nonnegative (fields : Fields) (key : String) : Except ProtocolError NonNegativeInteger := do
  parseRanged 0 maxSafeInteger "nonnegative integer" (← unsigned fields key)

def positive (fields : Fields) (key : String) : Except ProtocolError PositiveInteger := do
  parseRanged 1 maxSafeInteger "positive integer" (← unsigned fields key)

def path (fields : Fields) (key : String) : Except ProtocolError AbsolutePath := do
  AbsolutePath.parse (← string fields key)

def exactKeys (fields : Fields) (expected : List String) : Except ProtocolError Unit :=
  if fields.length≠expected.length ∨ ∃ key∈expected,(getField fields key).isNone=true then
    .error (.invalidFrame "exact object keys")
  else .ok ()

def literal (fields : Fields) (key expected : String) : Except ProtocolError Unit := do
  let s ← string fields key
  if s=expected then .ok () else .error (.invalidFrame "literal field")

def disabled : Bool → Except ProtocolError Disabled
  | true => .error (.invalidFrame "disabled setting")
  | false => .ok .disabled

end Fields
end Society.Boundary
