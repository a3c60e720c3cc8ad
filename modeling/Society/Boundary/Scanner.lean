import Society.JsonText
import Society.Boundary.Protocol

namespace Society.Boundary
open Society.JsonText

/-! The two scans that a line passes before it is parsed: for duplicate keys, negative zero and
nesting, once in the supervisor and once in the host. -/

def maxJsonNesting : Nat := 128

variable {κ : Type}

/-- An error without a cause is a lack of fuel. -/
abbrev Scan (ε : Type) := Except (Option ε)

section Supervisor
namespace Scanner

def whitespace (text : List Char) : List Char := text.dropWhile isSpace

/-- The text of a string up to its end, after the first quotation mark, and what follows it. -/
def stringEnd : List Char → Option (List Char × List Char)
  | [] => none
  | '"'::rest => some (['"'],rest)
  | ['\\'] => none
  | '\\'::c::rest => (stringEnd rest).map (fun (s,rest) => ('\\'::c::s,rest))
  | c::rest => if c.toNat≤31 then none else (stringEnd rest).map (fun (s,rest) => (c::s,rest))

/-- `decode` is how the parser reads a string with its quotation marks. -/
def string (decode : List Char → Option κ) (text : List Char) :
    Scan ProtocolError (κ × List Char) :=
  match text with
  | '"'::rest =>
    match stringEnd rest with
    | none => .error (some .invalidJson)
    | some (s,rest) =>
      match decode ('"'::s) with
      | none => .error (some .invalidJson)
      | some key => .ok (key,rest)
  | _ => .error (some .invalidJson)

/-- The digits of a fraction, and what follows it. -/
def fraction : List Char → Option (List Char × List Char)
  | '.'::value =>
    let digits := value.takeWhile Char.isDigit
    if digits=[] then none else some (digits,value.dropWhile Char.isDigit)
  | value => some ([],value)

def unsigned : List Char → List Char
  | '+'::value => value
  | '-'::value => value
  | value => value

/-- What follows an exponent. -/
def exponent : List Char → Option (List Char)
  | [] => some []
  | c::value =>
    if c == 'e' || c == 'E' then
      if (unsigned value).takeWhile Char.isDigit=[] then none
      else some ((unsigned value).dropWhile Char.isDigit)
    else some (c::value)

def isNegativeZeroNumber : List Char → Bool
  | '-'::value =>
    let integer := value.takeWhile Char.isDigit
    match fraction (value.dropWhile Char.isDigit) with
    | none => false
    | some (fraction,value) =>
      match exponent value with
      | none => false
      | some value =>
        integer != [] && value==[] && integer.all (· == '0') && fraction.all (· == '0')
  | _ => false

def primitive (text : List Char) : Scan ProtocolError (List Char) :=
  let primitive := text.takeWhile (fun c => !endsValue c)
  if primitive=[] then .error (some .invalidJson)
  else if isNegativeZeroNumber primitive then .error (some .negativeZero)
  else .ok (text.dropWhile (fun c => !endsValue c))

variable [DecidableEq κ] (decode : List Char → Option κ)

mutual

def value : Nat → Nat → List Char → Scan ProtocolError (List Char)
  | 0,_,_ => .error none
  | fuel+1,depth,text =>
    if maxJsonNesting<depth then .error (some .nestingTooDeep)
    else match whitespace text with
      | [] => .error (some .invalidJson)
      | '"'::rest => (string decode ('"'::rest)).map Prod.snd
      | '{'::rest => object fuel (depth+1) rest
      | '['::rest => array fuel (depth+1) rest
      | c::rest => primitive (c::rest)
termination_by structural fuel => fuel

def object : Nat → Nat → List Char → Scan ProtocolError (List Char)
  | 0,_,_ => .error none
  | fuel+1,depth,text =>
    if maxJsonNesting<depth then .error (some .nestingTooDeep)
    else match whitespace text with
      | '}'::rest => .ok rest
      | text => members fuel depth [] text
termination_by structural fuel => fuel

/-- The loop of `object`, with the keys it has seen. -/
def members : Nat → Nat → List κ → List Char → Scan ProtocolError (List Char)
  | 0,_,_,_ => .error none
  | fuel+1,depth,keys,text => do
    let (key,text) ← string decode (whitespace text)
    if key∈keys then .error (some .duplicateObjectKey)
    else match whitespace text with
      | ':'::text => do
        let text ← value fuel depth text
        match whitespace text with
        | '}'::rest => .ok rest
        | ','::rest => members fuel depth (key::keys) rest
        | _ => .error (some .invalidJson)
      | _ => .error (some .invalidJson)
termination_by structural fuel => fuel

def array : Nat → Nat → List Char → Scan ProtocolError (List Char)
  | 0,_,_ => .error none
  | fuel+1,depth,text =>
    if maxJsonNesting<depth then .error (some .nestingTooDeep)
    else match whitespace text with
      | ']'::rest => .ok rest
      | text => elements fuel depth text
termination_by structural fuel => fuel

/-- The loop of `array`. -/
def elements : Nat → Nat → List Char → Scan ProtocolError (List Char)
  | 0,_,_ => .error none
  | fuel+1,depth,text => do
    let text ← value fuel depth text
    match whitespace text with
    | ']'::rest => .ok rest
    | ','::rest => elements fuel depth rest
    | _ => .error (some .invalidJson)
termination_by structural fuel => fuel

end

attribute [grind =] value object members array elements

/-- More calls than a text of the length can nest. -/
def fuelFor (text : List Char) : Nat := 2*text.length+2

end Scanner

open Scanner in
def rejectDuplicateObjectKeys [DecidableEq κ] (decode : List Char → Option κ) (input : List Char) :
    Except ProtocolError Unit :=
  match Scanner.value decode (fuelFor input) 0 input with
  | .ok rest => if whitespace rest=[] then .ok () else .error .invalidJson
  | .error e => .error (e.getD .invalidJson)

end Supervisor
section Host

/-- What the scan of the host throws. -/
inductive ScanFailure
  | invalidJson | negativeZero | jsonNestingLimit | duplicateJsonObjectKey
  deriving DecidableEq

namespace HostScanner

/-- The characters that `\s` of a regular expression matches. -/
def isJsSpace (c : Char) : Bool :=
  isSpace c || [0x0b,0x0c,0xa0,0x1680,0x2028,0x2029,0x202f,0x205f,0x3000,0xfeff].contains c.toNat ||
    (0x2000 ≤ c.toNat && c.toNat≤0x200a)

def whitespace (text : List Char) : List Char := text.dropWhile isJsSpace

def stringEnd : List Char → Option (List Char × List Char)
  | [] => none
  | '\\':: 'u'::a::b::c::d::rest =>
    (stringEnd rest).map (fun (s,rest) => ('\\':: 'u'::a::b::c::d::s,rest))
  | '\\'::c::rest => if c == 'u' then none else (stringEnd rest).map (fun (s,rest) => ('\\'::c::s,rest))
  | ['\\'] => none
  | '"'::rest => some (['"'],rest)
  | c::rest => if c.toNat<32 then none else (stringEnd rest).map (fun (s,rest) => (c::s,rest))

def string (decode : List Char → Option κ) (text : List Char) :
    Scan ScanFailure (κ × List Char) :=
  match text with
  | '"'::rest =>
    match stringEnd rest with
    | none => .error (some .invalidJson)
    | some (s,rest) =>
      match decode ('"'::s) with
      | none => .error (some .invalidJson)
      | some key => .ok (key,rest)
  | _ => .error (some .invalidJson)

/-- The parts of a number that the regular expression matches. -/
structure NumberMatch where
  negative : Bool
  whole : List Char
  fraction : List Char
  smaller : Bool
  exponent : List Char

def digitsValue (digits : List Char) : Nat := digits.foldl (fun n c => 10*n+(c.toNat-48)) 0

/-- The nearest binary64 is a zero: the number is at most half of the least positive one. -/
def roundsToZero (n : NumberMatch) : Bool :=
  let digits := digitsValue (n.whole++n.fraction)
  let places : Int := (if n.smaller then -1 else 1)*digitsValue n.exponent-n.fraction.length
  if 0≤places then digits*10^places.toNat*2^1075≤1 else digits*2^1075≤10^(-places).toNat

def matchWhole : List Char → Option (List Char × List Char)
  | '0'::rest => some (['0'],rest)
  | c::rest =>
    if c.isDigit then some (c::rest.takeWhile Char.isDigit,rest.dropWhile Char.isDigit) else none
  | [] => none

def matchFraction : List Char → List Char × List Char
  | '.'::rest =>
    if rest.takeWhile Char.isDigit=[] then ([],'.'::rest)
    else (rest.takeWhile Char.isDigit,rest.dropWhile Char.isDigit)
  | rest => ([],rest)

def matchExponent : List Char → (Bool × List Char) × List Char
  | [] => ((false,[]),[])
  | c::rest =>
    let digits := (Scanner.unsigned rest).takeWhile Char.isDigit
    if (c == 'e' || c == 'E') && digits != [] then
      ((rest.head?==some '-',digits),(Scanner.unsigned rest).dropWhile Char.isDigit)
    else ((false,[]),c::rest)

def matchNumber (text : List Char) : Option (NumberMatch × List Char) :=
  let negative := text.head?==some '-'
  match matchWhole (if negative then text.drop 1 else text) with
  | none => none
  | some (whole,rest) =>
    let (fraction,rest) := matchFraction rest
    let ((smaller,exponent),rest) := matchExponent rest
    some (⟨negative,whole,fraction,smaller,exponent⟩,rest)

def primitive (text : List Char) : Scan ScanFailure (List Char) :=
  match text with
  | 't':: 'r':: 'u':: 'e'::rest => .ok rest
  | 'f':: 'a':: 'l':: 's':: 'e'::rest => .ok rest
  | 'n':: 'u':: 'l':: 'l'::rest => .ok rest
  | text =>
    match matchNumber text with
    | none => .error (some .invalidJson)
    | some (n,rest) => if n.negative && roundsToZero n then .error (some .negativeZero) else .ok rest

variable [DecidableEq κ] (decode : List Char → Option κ)

mutual

def value : Nat → Nat → List Char → Scan ScanFailure (List Char)
  | 0,_,_ => .error none
  | fuel+1,depth,text =>
    if maxJsonNesting<depth then .error (some .jsonNestingLimit)
    else match whitespace text with
      | '"'::rest => (string decode ('"'::rest)).map Prod.snd
      | '{'::rest =>
        match whitespace rest with
        | '}'::rest => .ok rest
        | rest => members fuel depth [] rest
      | '['::rest =>
        match whitespace rest with
        | ']'::rest => .ok rest
        | rest => elements fuel depth rest
      | text => primitive text
termination_by structural fuel => fuel

/-- The loop over the members of an object, with the keys it has seen. -/
def members : Nat → Nat → List κ → List Char → Scan ScanFailure (List Char)
  | 0,_,_,_ => .error none
  | fuel+1,depth,keys,text => do
    let (key,text) ← string decode (whitespace text)
    if key∈keys then .error (some .duplicateJsonObjectKey)
    else match whitespace text with
      | ':'::text => do
        let text ← value fuel (depth+1) text
        match whitespace text with
        | '}'::rest => .ok rest
        | ','::rest => members fuel depth (key::keys) rest
        | _ => .error (some .invalidJson)
      | _ => .error (some .invalidJson)
termination_by structural fuel => fuel

/-- The loop over the values of an array. -/
def elements : Nat → Nat → List Char → Scan ScanFailure (List Char)
  | 0,_,_ => .error none
  | fuel+1,depth,text => do
    let text ← value fuel (depth+1) text
    match whitespace text with
    | ']'::rest => .ok rest
    | ','::rest => elements fuel depth rest
    | _ => .error (some .invalidJson)
termination_by structural fuel => fuel

end

attribute [grind =] value members elements
end HostScanner

open HostScanner in
def assertNoDuplicateObjectKeys [DecidableEq κ] (decode : List Char → Option κ) (input : List Char) :
    Except ScanFailure Unit :=
  match HostScanner.value decode (Scanner.fuelFor input) 0 input with
  | .ok rest => if whitespace rest=[] then .ok () else .error .invalidJson
  | .error e => .error (e.getD .invalidJson)

end Host
end Society.Boundary
