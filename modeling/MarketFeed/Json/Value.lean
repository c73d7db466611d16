import MarketFeed.Binary64
import MarketFeed.Text.Quoted

/-!
# JSON values, their text and their faults

A document is a value. Objects keep their members in the order of the list, so that what is written
has the order that the writer chose. Text is compact: no blanks, and of the characters of a string
only the quotation mark, the backslash and the control characters are escaped.

A fault is either one of syntax, found while the text is read, or one of content: a value of another
kind than the one expected in its place. Its message says what is wrong. The line and column at
which a text was found at fault are no part of it, so one fault has one message wherever it stands.
-/
namespace MarketFeed.Json

/-- A number is an integer as long as it was written as one and fits 64 bits, else a double. -/
inductive Number where
  | integer (value : Int)
  | double (value : Binary64)
  deriving DecidableEq, Repr

inductive Value where
  | null
  | bool (value : Bool)
  | number (value : Number)
  | string (value : String)
  | array (items : List Value)
  | object (members : List (String × Value))
  deriving Repr, Inhabited

namespace Number

/-- The text of a number in a document. -/
def text : Number → String
  | integer n => toString n
  | double x => x.text .document

/-- The text of a number in a decimal field. -/
def fieldText : Number → String
  | integer n => toString n
  | double x => x.text .field

end Number

def hexDigit (n : Nat) : Char := Nat.digitChar (n % 16)

def escapeChar (c : Char) : List Char :=
  match c with
  | '"' => ['\\', '"']
  | '\\' => ['\\', '\\']
  | '\x08' => ['\\', 'b']
  | '\x0c' => ['\\', 'f']
  | '\n' => ['\\', 'n']
  | '\r' => ['\\', 'r']
  | '\t' => ['\\', 't']
  | c =>
    if c.toNat < 0x20 then ['\\', 'u', '0', '0', hexDigit (c.toNat / 16), hexDigit c.toNat]
    else [c]

def quoteChars (s : String) : List Char := '"' :: s.toList.flatMap escapeChar ++ ['"']

def commaJoin : List (List Char) → List Char
  | [] => []
  | [t] => t
  | t :: rest => t ++ ',' :: commaJoin rest

namespace Value

mutual

def chars : Value → List Char
  | null => "null".toList
  | bool true => "true".toList
  | bool false => "false".toList
  | number n => n.text.toList
  | string s => quoteChars s
  | array items => '[' :: commaJoin (itemChars items) ++ [']']
  | object members => '{' :: commaJoin (memberChars members) ++ ['}']

def itemChars : List Value → List (List Char)
  | [] => []
  | v :: rest => chars v :: itemChars rest

def memberChars : List (String × Value) → List (List Char)
  | [] => []
  | (key, v) :: rest => (quoteChars key ++ ':' :: chars v) :: memberChars rest

end

def text (v : Value) : String := String.ofList v.chars

@[simp] theorem toList_text (v : Value) : v.text.toList = v.chars := by simp [text]

def int (n : Int) : Value := number (.integer n)

/-- A value that may be absent, which is written as `null`. -/
def ofOption : Option Value → Value
  | some v => v
  | none => null

end Value

/-- A value as a message about it shows it: arrays and objects without their content. -/
inductive Found where
  | null
  | bool (value : Bool)
  | number (value : Number)
  | string (value : String)
  | sequence
  | map
  deriving DecidableEq, Repr

def Found.text : Found → String
  | null => "null"
  | bool true => "boolean \x60true\x60"
  | bool false => "boolean \x60false\x60"
  | number (.integer n) => "integer \x60" ++ toString n ++ "\x60"
  | number (.double x) => "floating point \x60" ++ x.text .document ++ "\x60"
  | string s => "string " ++ Text.quoted s
  | sequence => "sequence"
  | map => "map"

def Value.found : Value → Found
  | null => .null
  | bool b => .bool b
  | number n => .number n
  | string s => .string s
  | array _ => .sequence
  | object _ => .map

inductive Fault where
  | endInValue | endInList | endInObject | endInString
  | expectedValue | expectedLiteral | expectedColon
  | expectedCommaOrBracket | expectedCommaOrBrace
  | trailingComma | keyNotString | trailingCharacters
  | controlInString | invalidEscape | loneSurrogate | endInEscape
  | invalidNumber | numberOutOfRange
  | nestingTooDeep
  | wrongKind (found : Found) (expected : String)
  | outOfBounds (value : Int) (expected : String)
  | tooManyItems (count : Nat)
  | duplicateField (name : String)
  | unknownName (name : String) (known : List String)
  | noAlternative
  deriving DecidableEq, Repr

/-- A name between grave accents. -/
def accented (s : String) : String := "\x60" ++ s ++ "\x60"

/-- What is wrong, without the line and column at which the text was left. -/
def Fault.message : Fault → String
  | endInValue => "EOF while parsing a value"
  | endInList => "EOF while parsing a list"
  | endInObject => "EOF while parsing an object"
  | endInString => "EOF while parsing a string"
  | expectedValue => "expected value"
  | expectedLiteral => "expected ident"
  | expectedColon => "expected " ++ accented ":"
  | expectedCommaOrBracket => "expected " ++ accented "," ++ " or " ++ accented "]"
  | expectedCommaOrBrace => "expected " ++ accented "," ++ " or " ++ accented "\x7d"
  | trailingComma => "trailing comma"
  | keyNotString => "key must be a string"
  | trailingCharacters => "trailing characters"
  | controlInString => "control character (\\u0000-\\u001F) found while parsing a string"
  | invalidEscape => "invalid escape"
  | loneSurrogate => "lone leading surrogate in hex escape"
  | endInEscape => "unexpected end of hex escape"
  | invalidNumber => "invalid number"
  | numberOutOfRange => "number out of range"
  | nestingTooDeep => "recursion limit exceeded"
  | wrongKind found expected => "invalid type: " ++ found.text ++ ", expected " ++ expected
  | outOfBounds value expected =>
    "invalid value: integer " ++ accented (toString value) ++ ", expected " ++ expected
  | tooManyItems count =>
    "invalid length " ++ toString count ++ ", expected fewer elements in array"
  | duplicateField name => "duplicate field " ++ accented name
  | unknownName name known =>
    "unknown variant " ++ accented name ++ ", expected one of " ++
      ", ".intercalate (known.map accented)
  | noAlternative => "data did not match any variant of untagged enum Raw"

end MarketFeed.Json
