import Mathlib.Data.List.Basic

namespace Society.JsonText

/-! The concrete syntax of JSON texts, as RFC 8259 gives it. -/

section Characters

def isSpace (c : Char) : Bool := c == ' ' || c == '\n' || c == '\r' || c == '\t'

/-- A character that stands for itself in a string. -/
def isUnescaped (c : Char) : Bool := 32 ≤ c.toNat && c != '"' && c != '\\'

/-- A character that a backslash alone escapes. -/
def isEscape (c : Char) : Bool := ['"','\\','/','b','f','n','r','t'].contains c

def isHex (c : Char) : Bool := c.isDigit || ('a' ≤ c && c ≤ 'f') || ('A' ≤ c && c ≤ 'F')

/-- What can follow a value: the end of the text, white space, or the end of a member. -/
def endsValue (c : Char) : Bool := c == ',' || c == ']' || c == '}' || isSpace c

end Characters
section Tokens

/-- White space between two tokens. -/
structure Space where
  text : List Char
  valid : text.all isSpace=true

inductive Piece
  | plain (c : Char) (valid : isUnescaped c=true)
  | escape (c : Char) (valid : isEscape c=true)
  | unicode (a b c d : Char) (valid : [a,b,c,d].all isHex=true)

def Piece.text : Piece → List Char
  | plain c _ => [c]
  | escape c _ => ['\\',c]
  | unicode a b c d _ => ['\\','u',a,b,c,d]

/-- A string with its quotation marks. -/
structure StringLiteral where
  pieces : List Piece

def StringLiteral.body (s : StringLiteral) : List Char := s.pieces.flatMap Piece.text

def StringLiteral.text (s : StringLiteral) : List Char := '"'::(s.body++['"'])

def isWhole (digits : List Char) : Bool :=
  digits==['0'] || (digits.all Char.isDigit && digits.head?.any (· != '0'))

def isDigits (digits : List Char) : Bool := digits != [] && digits.all Char.isDigit

structure Exponent where
  marker : Char
  sign : Option Char
  digits : List Char
  valid : ((marker == 'e' || marker == 'E') && (sign.all (fun c => c == '+' || c == '-') && isDigits digits))=true

def Exponent.text (e : Exponent) : List Char := e.marker::(e.sign.toList++e.digits)

structure NumberLiteral where
  negative : Bool
  whole : List Char
  fraction : Option (List Char)
  exponent : Option Exponent
  wholeValid : isWhole whole=true
  fractionValid : fraction.all isDigits=true

namespace NumberLiteral

def fractionText (n : NumberLiteral) : List Char := (n.fraction.map (fun d => '.'::d)).getD []

def exponentText (n : NumberLiteral) : List Char := (n.exponent.map Exponent.text).getD []

def text (n : NumberLiteral) : List Char :=
  (if n.negative then ['-'] else [])++(n.whole++(n.fractionText++n.exponentText))

/-- A spelling of negative zero. -/
def isNegativeZero (n : NumberLiteral) : Bool :=
  n.negative && n.whole.all (· == '0') && (n.fraction.getD []).all (· == '0')

end NumberLiteral

inductive Word
  | true | false | null

def Word.text : Word → List Char
  | true => ['t','r','u','e']
  | false => ['f','a','l','s','e']
  | null => ['n','u','l','l']

end Tokens
section Values

mutual

inductive Value
  | string (s : StringLiteral)
  | number (n : NumberLiteral)
  | word (w : Word)
  | emptyArray (inside : Space)
  | array (items : Elements)
  | emptyObject (inside : Space)
  | object (members : Members)

/-- The values of an array that has some. -/
inductive Elements
  | last (before : Space) (v : Value) (after : Space)
  | more (before : Space) (v : Value) (after : Space) (rest : Elements)

/-- The members of an object that has some. -/
inductive Members
  | last (before : Space) (key : StringLiteral) (middle before' : Space) (v : Value) (after : Space)
  | more (before : Space) (key : StringLiteral) (middle before' : Space) (v : Value) (after : Space)
      (rest : Members)

end

mutual

def Value.text : Value → List Char
  | .string s => s.text
  | .number n => n.text
  | .word w => w.text
  | .emptyArray inside => '['::(inside.text++[']'])
  | .array items => '['::(items.text++[']'])
  | .emptyObject inside => '{'::(inside.text++['}'])
  | .object members => '{'::(members.text++['}'])

def Elements.text : Elements → List Char
  | .last before v after => before.text++(v.text++after.text)
  | .more before v after rest => before.text++(v.text++(after.text++ ','::rest.text))

def Members.text : Members → List Char
  | .last before key middle before' v after =>
    before.text++(key.text++(middle.text++ ':'::(before'.text++(v.text++after.text))))
  | .more before key middle before' v after rest =>
    before.text++(key.text++(middle.text++ ':'::(before'.text++(v.text++(after.text++ ','::rest.text)))))

end

attribute [grind =] Value.text Elements.text Members.text

/-- A JSON text: a value with white space around it. -/
structure Document where
  before : Space
  value : Value
  after : Space

def Document.text (d : Document) : List Char := d.before.text++(d.value.text++d.after.text)

def IsJsonText (text : List Char) : Prop := ∃ d : Document,d.text=text

end Values
section Contents

mutual

/-- How many containers a value nests, itself included. -/
def Value.height : Value → Nat
  | .string _ | .number _ | .word _ => 0
  | .emptyArray _ | .emptyObject _ => 1
  | .array items => items.height+1
  | .object members => members.height+1

def Elements.height : Elements → Nat
  | .last _ v _ => v.height
  | .more _ v _ rest => max v.height rest.height

def Members.height : Members → Nat
  | .last _ _ _ _ v _ => v.height
  | .more _ _ _ _ v _ rest => max v.height rest.height

end

mutual

/-- The number tokens at any depth. -/
def Value.numbers : Value → List NumberLiteral
  | .number n => [n]
  | .array items => items.numbers
  | .object members => members.numbers
  | .string _ | .word _ | .emptyArray _ | .emptyObject _ => []

def Elements.numbers : Elements → List NumberLiteral
  | .last _ v _ => v.numbers
  | .more _ v _ rest => v.numbers++rest.numbers

def Members.numbers : Members → List NumberLiteral
  | .last _ _ _ _ v _ => v.numbers
  | .more _ _ _ _ v _ rest => v.numbers++rest.numbers

end

/-- The keys of an object, from its first member to its last. -/
def Members.keys : Members → List StringLiteral
  | .last _ key _ _ _ _ => [key]
  | .more _ key _ _ _ _ rest => key::rest.keys

mutual

/-- The keys of each object that has members, at any depth. -/
def Value.objects : Value → List (List StringLiteral)
  | .array items => items.objects
  | .object members => members.keys::members.objects
  | .string _ | .number _ | .word _ | .emptyArray _ | .emptyObject _ => []

def Elements.objects : Elements → List (List StringLiteral)
  | .last _ v _ => v.objects
  | .more _ v _ rest => v.objects++rest.objects

def Members.objects : Members → List (List StringLiteral)
  | .last _ _ _ _ v _ => v.objects
  | .more _ _ _ _ v _ rest => v.objects++rest.objects

end

mutual

/-- The strings at any depth, keys included. -/
def Value.strings : Value → List StringLiteral
  | .string s => [s]
  | .array items => items.strings
  | .object members => members.strings
  | .number _ | .word _ | .emptyArray _ | .emptyObject _ => []

def Elements.strings : Elements → List StringLiteral
  | .last _ v _ => v.strings
  | .more _ v _ rest => v.strings++rest.strings

def Members.strings : Members → List StringLiteral
  | .last _ key _ _ v _ => key::v.strings
  | .more _ key _ _ v _ rest => key::(v.strings++rest.strings)

end
end Contents
section Cutting

variable {p : Char → Bool} {xs ys : List Char}

/-- Nothing of what follows belongs to the run before it. -/
def Stops (p : Char → Bool) (ys : List Char) : Prop := ∀ c,ys.head?=some c → p c=false

theorem stops_nil : Stops p [] := nofun

theorem stops_cons {c : Char} (h : p c=false) : Stops p (c::ys) := by
  intro d hd
  cases hd
  exact h

theorem Stops.takeWhile (h : Stops p ys) : ys.takeWhile p=[] := by
  cases ys with
  | nil => rfl
  | cons c ys => rw [List.takeWhile_cons,h c rfl]; rfl

theorem Stops.dropWhile (h : Stops p ys) : ys.dropWhile p=ys := by
  cases ys with
  | nil => rfl
  | cons c ys => rw [List.dropWhile_cons,h c rfl]; rfl

theorem takeWhile_run (hx : xs.all p=true) (hy : Stops p ys) : (xs++ys).takeWhile p=xs := by
  have hall : ∀ c∈xs,p c=true := List.all_eq_true.mp hx
  rw [List.takeWhile_append_of_pos hall,hy.takeWhile,List.append_nil]

theorem dropWhile_run (hx : xs.all p=true) (hy : Stops p ys) : (xs++ys).dropWhile p=ys := by
  have hall : ∀ c∈xs,p c=true := List.all_eq_true.mp hx
  rw [List.dropWhile_append_of_pos hall,hy.dropWhile]

end Cutting
end Society.JsonText
