import MarketFeed.Json.Numeral
import MarketFeed.Text

/-!
# Reading documents

A reader takes a value off the front of the text and returns the rest. Readers for items and members
are arguments of the readers for lists and objects, so the same brackets, commas and colons serve
plain documents and typed records.

Nesting is bounded: a reader is given the number of brackets that may still be opened. The readers
of lists and objects take steps that each remove at least one character, and the length of the text
bounds their number.

The value of a key that nobody asked for is checked for its syntax and dropped. It may be nested to
any depth, its numbers may have any size and its escapes may be halves of a pair, so it is not read
as a value but passed over with a stack of the brackets that are open.
-/
namespace MarketFeed.Json

/-- Takes a value off the front of the text. -/
abbrev Reader (α : Type) := List Char → Except Fault (α × List Char)

/-- How many brackets may be open at once. -/
def nestingLimit : Nat := 127

def isSpace (c : Char) : Bool := c == ' ' || c == '\n' || c == '\t' || c == '\r'

def skipSpace (s : List Char) : List Char := s.dropWhile isSpace

/-- The rest of a word whose first letter was seen. -/
def word : List Char → List Char → Except Fault (List Char)
  | [], s => .ok s
  | _ :: _, [] => .error .endInValue
  | expected :: more, c :: s => if c = expected then word more s else .error .expectedLiteral

def hexValue4? (a b c d : Char) : Option Nat :=
  Text.Hex.number? [a, b, c, d]

/-- What is wrong when fewer than four characters are left for the digits of an escape. Four bytes
hold a character that is no digit, fewer end the text. -/
def shortEscape (s : List Char) : Fault :=
  if (String.ofList s).utf8ByteSize < 4 then .endInString else .invalidEscape

def escaped? : Char → Option Char
  | '"' => some '"'
  | '\\' => some '\\'
  | '/' => some '/'
  | 'b' => some '\x08'
  | 'f' => some '\x0c'
  | 'n' => some '\n'
  | 'r' => some '\r'
  | 't' => some '\t'
  | _ => none

def isHighSurrogate (n : Nat) : Bool := 0xd800 ≤ n && n ≤ 0xdbff

def isLowSurrogate (n : Nat) : Bool := 0xdc00 ≤ n && n ≤ 0xdfff

def joinSurrogates (high low : Nat) : Char :=
  Char.ofNat ((high - 0xd800) * 0x400 + (low - 0xdc00) + 0x10000)

/-- The characters of a string up to its closing quotation mark. After an escape that is a high
surrogate, which is then the first argument, the escape of a low one has to follow. -/
def stringChars : Option Nat → Reader (List Char)
  | _, [] => .error .endInString
  | some _, ['\\'] => .error .endInString
  | some high, '\\' :: 'u' :: s =>
    match s with
    | a :: b :: c :: d :: rest =>
      match hexValue4? a b c d with
      | some low =>
        if isLowSurrogate low then do
          let (cs, rest) ← stringChars none rest
          return (joinSurrogates high low :: cs, rest)
        else .error .loneSurrogate
      | none => .error .invalidEscape
    | short => .error (shortEscape short)
  | some _, _ :: _ => .error .endInEscape
  | none, '"' :: s => .ok ([], s)
  | none, ['\\'] => .error .endInString
  | none, '\\' :: 'u' :: s =>
    match s with
    | a :: b :: c :: d :: rest =>
      match hexValue4? a b c d with
      | some n =>
        if isLowSurrogate n then .error .loneSurrogate
        else if isHighSurrogate n then stringChars (some n) rest
        else do
          let (cs, rest) ← stringChars none rest
          return (Char.ofNat n :: cs, rest)
      | none => .error .invalidEscape
    | short => .error (shortEscape short)
  | none, '\\' :: e :: s =>
    match escaped? e with
    | some c => do
      let (cs, rest) ← stringChars none s
      return (c :: cs, rest)
    | none => .error .invalidEscape
  | none, c :: s =>
    if c.toNat < 0x20 then .error .controlInString
    else do
      let (cs, rest) ← stringChars none s
      return (c :: cs, rest)

/-- A string after its opening quotation mark. -/
def stringBody : Reader String := fun s => do
  let (cs, rest) ← stringChars none s
  return (String.ofList cs, rest)

def number (negative : Bool) : Reader Number := fun s => do
  let (w, rest) ← Written.scan .endInValue negative s
  return (← w.value, rest)

/-- A value that is neither a list nor an object, at its first character. -/
def scalar : Reader Value
  | [] => .error .endInValue
  | 'n' :: s => do return (.null, ← word "ull".toList s)
  | 't' :: s => do return (.bool true, ← word "rue".toList s)
  | 'f' :: s => do return (.bool false, ← word "alse".toList s)
  | '"' :: s => do
    let (text, rest) ← stringBody s
    return (.string text, rest)
  | '-' :: s => do
    let (n, rest) ← number true s
    return (.number n, rest)
  | c :: s =>
    if c.isDigit then do
      let (n, rest) ← number false (c :: s)
      return (.number n, rest)
    else .error .expectedValue

/-- What is wrong where another kind of value was expected: the kind that is there, or the fault in
it when it cannot be read. -/
def wrongKindAt (expected : String) : List Char → Fault
  | '[' :: _ => .wrongKind .sequence expected
  | '{' :: _ => .wrongKind .map expected
  | s =>
    match scalar s with
    | .ok (v, _) => .wrongKind v.found expected
    | .error fault => fault

/-- The items after the first one. -/
def moreItems {α : Type} (item : Reader α) : Nat → Reader (List α)
  | 0, _ => .error .endInList
  | steps + 1, s =>
    match skipSpace s with
    | [] => .error .endInList
    | ']' :: rest => .ok ([], rest)
    | ',' :: rest =>
      match skipSpace rest with
      | [] => .error .endInValue
      | ']' :: _ => .error .trailingComma
      | rest => do
        let (a, rest) ← item rest
        let (as, rest) ← moreItems item steps rest
        return (a :: as, rest)
    | _ :: _ => .error .expectedCommaOrBracket

def items {α : Type} (item : Reader α) : Reader (List α) := fun s =>
  match skipSpace s with
  | [] => .error .endInList
  | ']' :: rest => .ok ([], rest)
  | s => do
    let (a, rest) ← item s
    let (as, rest) ← moreItems item (rest.length + 1) rest
    return (a :: as, rest)

def colon (s : List Char) : Except Fault (List Char) :=
  match skipSpace s with
  | [] => .error .endInObject
  | ':' :: rest => .ok rest
  | _ :: _ => .error .expectedColon

/-- The members after the first one. Each is folded into the state by `step`, which is given the key
and reads the colon and the value. -/
def moreMembers {σ : Type} (step : σ → String → Reader σ) : Nat → σ → Reader σ
  | 0, _, _ => .error .endInObject
  | steps + 1, state, s =>
    match skipSpace s with
    | [] => .error .endInObject
    | '}' :: rest => .ok (state, rest)
    | ',' :: rest =>
      match skipSpace rest with
      | [] => .error .endInValue
      | '}' :: _ => .error .trailingComma
      | '"' :: rest => do
        let (key, rest) ← stringBody rest
        let (state, rest) ← step state key rest
        moreMembers step steps state rest
      | _ :: _ => .error .keyNotString
    | _ :: _ => .error .expectedCommaOrBrace

def members {σ : Type} (step : σ → String → Reader σ) (state : σ) : Reader σ := fun s =>
  match skipSpace s with
  | [] => .error .endInObject
  | '}' :: rest => .ok (state, rest)
  | '"' :: rest => do
    let (key, rest) ← stringBody rest
    let (state, rest) ← step state key rest
    moreMembers step (rest.length + 1) state rest
  | _ :: _ => .error .keyNotString

/-- Puts a member in the order of its key, in place of an earlier one with the same key. -/
def insertMember (key : String) (v : Value) : List (String × Value) → List (String × Value)
  | [] => [(key, v)]
  | (k, w) :: rest =>
    if key < k then (key, v) :: (k, w) :: rest
    else if key = k then (key, v) :: rest
    else (k, w) :: insertMember key v rest

/-- A value, given the reader for the values inside it when it may be a list or an object. -/
def valueWith (inner : Option (Reader Value)) : Reader Value := fun s =>
  match skipSpace s, inner with
  | '[' :: _, none => .error .nestingTooDeep
  | '{' :: _, none => .error .nestingTooDeep
  | '[' :: rest, some item => do
    let (vs, rest) ← items item rest
    return (.array vs, rest)
  | '{' :: rest, some item => do
    let step := fun ms key s => do
      let (v, rest) ← item (← colon s)
      return (insertMember key v ms, rest)
    let (ms, rest) ← members step [] rest
    return (.object ms, rest)
  | s, _ => scalar s

/-- A value in which so many brackets may be opened inside each other. The members of an object come
in the order of their keys, and of two with one key the later counts. -/
def value : Nat → Reader Value
  | 0 => valueWith none
  | depth + 1 => valueWith (some (value depth))

/-- A whole text that holds one value and nothing after it. -/
def parseWith {α : Type} (reader : Reader α) (text : String) : Except Fault α := do
  let (a, rest) ← reader text.toList
  match skipSpace rest with
  | [] => return a
  | _ :: _ => .error .trailingCharacters

namespace Skip

/-- The text after the closing quotation mark of a string. -/
def string : List Char → Except Fault (List Char)
  | [] => .error .endInString
  | '"' :: s => .ok s
  | ['\\'] => .error .endInString
  | '\\' :: 'u' :: s =>
    match s with
    | a :: b :: c :: d :: rest =>
      if (hexValue4? a b c d).isSome then string rest else .error .invalidEscape
    | short => .error (shortEscape short)
  | '\\' :: e :: s => if (escaped? e).isSome then string s else .error .invalidEscape
  | c :: s => if c.toNat < 0x20 then .error .controlInString else string s

def number (s : List Char) : Except Fault (List Char) :=
  (Written.scan .invalidNumber false s).map Prod.snd

/-- The text after a value that opens no bracket. -/
def scalar : List Char → Except Fault (List Char)
  | [] => .error .endInValue
  | 'n' :: s => word "ull".toList s
  | 't' :: s => word "rue".toList s
  | 'f' :: s => word "alse".toList s
  | '"' :: s => string s
  | '-' :: s => number s
  | c :: s => if c.isDigit then number (c :: s) else .error .expectedValue

def key (s : List Char) : Except Fault (List Char) :=
  match skipSpace s with
  | [] => .error .endInObject
  | '"' :: rest => do colon (← string rest)
  | _ :: _ => .error .keyNotString

inductive Bracket where
  | list | object
  deriving DecidableEq, Repr

/-- What follows a complete value: the end, or a place where another value has to stand. -/
inductive Next where
  | finished (rest : List Char)
  | value (stack : List Bracket) (rest : List Char)

/-- Closes brackets after a complete value up to the comma that announces another one. -/
def settle : List Bracket → List Char → Except Fault Next
  | [], s => .ok (.finished s)
  | .list :: stack, s =>
    match skipSpace s with
    | [] => .error .endInList
    | ']' :: rest => settle stack rest
    | ',' :: rest => .ok (.value (.list :: stack) rest)
    | _ :: _ => .error .expectedCommaOrBracket
  | .object :: stack, s =>
    match skipSpace s with
    | [] => .error .endInObject
    | '}' :: rest => settle stack rest
    | ',' :: rest => do return .value (.object :: stack) (← key rest)
    | _ :: _ => .error .expectedCommaOrBrace

/-- The first thing after an opening bracket or a scalar. -/
def enter (stack : List Bracket) (s : List Char) : Except Fault Next :=
  match skipSpace s with
  | '[' :: inside =>
    match skipSpace inside with
    | [] => .error .endInList
    | ']' :: rest => settle stack rest
    | rest => .ok (.value (.list :: stack) rest)
  | '{' :: inside =>
    match skipSpace inside with
    | [] => .error .endInObject
    | '}' :: rest => settle stack rest
    | rest => do return .value (.object :: stack) (← key rest)
  | s => do settle stack (← scalar s)

/-- Passes over values until no bracket is open. Each step removes at least one character. -/
def run : Nat → List Bracket → List Char → Except Fault (List Char)
  | 0, _, _ => .error .endInValue
  | steps + 1, stack, s => do
    match ← enter stack s with
    | .finished rest => return rest
    | .value stack rest => run steps stack rest

def value (s : List Char) : Except Fault (List Char) := run (s.length + 1) [] s

end Skip
end MarketFeed.Json
