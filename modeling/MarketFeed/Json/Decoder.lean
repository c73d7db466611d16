import MarketFeed.Json.Reader
import MarketFeed.Numeral

/-!
# Typed decoding

A decoder gives a type two readings that agree on what is accepted: one straight from the text and
one from a document that was read before. They differ in what they can still see. The text shows a
key that is repeated and a bracket that is nested too deep, and its keys come in the order written.
In a document repeated keys are merged and the keys are sorted.

A record is decoded from an object by its keys, or from a list by the order of its fields. Unknown
keys are ignored and missing fields keep the value of the blank record.
-/
namespace MarketFeed.Json

structure Decoder (α : Type) where
  /-- From text in which so many brackets may still be opened. -/
  read : Nat → Reader α
  ofValue : Value → Except Fault α

namespace Decoder

variable {α β : Type}

def map (f : α → β) (d : Decoder α) : Decoder β where
  read depth s := do
    let (a, rest) ← d.read depth s
    return (f a, rest)
  ofValue v := (d.ofValue v).map f

/-- Reads a whole value before looking at what it is. -/
def viaValue (f : Value → Except Fault α) : Decoder α where
  read depth s := do
    let (v, rest) ← value depth s
    return (← f v, rest)
  ofValue := f

def any : Decoder Value := viaValue .ok

def string : Decoder String where
  read _ s :=
    match skipSpace s with
    | [] => .error .endInValue
    | '"' :: rest => stringBody rest
    | s => .error (wrongKindAt "a string" s)
  ofValue
    | .string s => .ok s
    | v => .error (.wrongKind v.found "a string")

def toBounded (low high : Int) (expected : String) : Number → Except Fault (Bounded low high)
  | .integer n =>
    match Bounded.ofInt? n with
    | some b => .ok b
    | none => .error (.outOfBounds n expected)
  | .double x => .error (.wrongKind (.number (.double x)) expected)

def bounded (low high : Int) (expected : String) : Decoder (Bounded low high) where
  read _ s :=
    match skipSpace s with
    | [] => .error .endInValue
    | '-' :: rest => do
      let (n, rest) ← number true rest
      return (← toBounded low high expected n, rest)
    | c :: rest =>
      if c.isDigit then do
        let (n, rest) ← number false (c :: rest)
        return (← toBounded low high expected n, rest)
      else .error (wrongKindAt expected (c :: rest))
  ofValue
    | .number n => toBounded low high expected n
    | v => .error (.wrongKind v.found expected)

def unsigned16 : Decoder Unsigned16 := bounded 0 65535 "u16"

def signed64 : Decoder Signed64 := bounded (-9223372036854775808) 9223372036854775807 "i64"

/-- The text of a decimal, which may also be written as a number. -/
def decimal : Decoder String := viaValue fun
  | .string s => .ok s
  | .number n => .ok n.fieldText
  | _ => .error .noAlternative

def optional (d : Decoder α) : Decoder (Option α) where
  read depth s :=
    match skipSpace s with
    | 'n' :: rest => do return (none, ← word "ull".toList rest)
    | s => do
      let (a, rest) ← d.read depth s
      return (some a, rest)
  ofValue
    | .null => .ok none
    | v => (d.ofValue v).map some

def list (d : Decoder α) : Decoder (List α) where
  read depth s :=
    match skipSpace s, depth with
    | [], _ => .error .endInValue
    | '[' :: _, 0 => .error .nestingTooDeep
    | '[' :: rest, depth + 1 => items (d.read depth) rest
    | s, _ => .error (wrongKindAt "a sequence" s)
  ofValue
    | .array vs => vs.mapM d.ofValue
    | v => .error (.wrongKind v.found "a sequence")

end Decoder

/-- A field of a record: the names under which it comes, and how it changes the record. -/
structure Field (α : Type) where
  name : String
  aliases : List String
  update : Decoder (α → α)

/-- A field that is stored by `set`. -/
def Field.of {α β : Type} (name : String) (d : Decoder β) (set : β → α → α)
    (aliases : List String) : Field α :=
  ⟨name, aliases, d.map set⟩

/-- A record: what it is called, its value before any field is read, and its fields in order. -/
structure Record (α : Type) where
  name : String
  blank : α
  fields : List (Field α)

namespace Record

variable {α : Type}

def field? (r : Record α) (key : String) : Option (Field α) :=
  r.fields.find? fun f => f.name == key || f.aliases.contains key

def expected (r : Record α) : String := "struct " ++ r.name

/-- A record in the course of decoding, with the names of the fields that were seen. -/
structure Draft (α : Type) where
  seen : List String
  value : α

/-- A member of an object in text. -/
def readMember (r : Record α) (depth : Nat) (draft : Draft α) (key : String) : Reader (Draft α) :=
  fun s =>
    match r.field? key with
    | none => do return (draft, ← Skip.value (← colon s))
    | some f =>
      if draft.seen.contains f.name then .error (.duplicateField f.name)
      else do
        let (g, rest) ← f.update.read depth (← colon s)
        return (⟨f.name :: draft.seen, g draft.value⟩, rest)

/-- What closes a list that holds a record. -/
def closeList (a : α) : Reader α := fun s =>
  match skipSpace s with
  | [] => .error .endInList
  | ']' :: rest => .ok (a, rest)
  | ',' :: rest =>
    match skipSpace rest with
    | ']' :: _ => .error .trailingComma
    | _ => .error .trailingCharacters
  | _ :: _ => .error .trailingCharacters

/-- The fields after the first one, from the items of a list in text. -/
def readMoreItems (depth : Nat) : List (Field α) → α → Reader α
  | [], a, s => closeList a s
  | f :: fs, a, s =>
    match skipSpace s with
    | [] => .error .endInList
    | ']' :: rest => .ok (a, rest)
    | ',' :: rest =>
      match skipSpace rest with
      | [] => .error .endInValue
      | ']' :: _ => .error .trailingComma
      | rest => do
        let (g, rest) ← f.update.read depth rest
        readMoreItems depth fs (g a) rest
    | _ :: _ => .error .expectedCommaOrBracket

/-- The fields from the items of a list in text. -/
def readItems (depth : Nat) : List (Field α) → α → Reader α
  | [], a, s => closeList a s
  | f :: fs, a, s =>
    match skipSpace s with
    | [] => .error .endInList
    | ']' :: rest => .ok (a, rest)
    | s => do
      let (g, rest) ← f.update.read depth s
      readMoreItems depth fs (g a) rest

/-- A member of an object in a document. -/
def takeMember (r : Record α) (draft : Draft α) (key : String) (v : Value) :
    Except Fault (Draft α) :=
  match r.field? key with
  | none => .ok draft
  | some f =>
    if draft.seen.contains f.name then .error (.duplicateField f.name)
    else do
      let g ← f.update.ofValue v
      return ⟨f.name :: draft.seen, g draft.value⟩

/-- The fields from the items of a list in a document; items without a field are left. -/
def takeItems : List (Field α) → List Value → α → Except Fault α
  | f :: fs, v :: vs, a => do
    let g ← f.update.ofValue v
    takeItems fs vs (g a)
  | _, _, a => .ok a

def decoder (r : Record α) : Decoder α where
  read depth s :=
    match skipSpace s, depth with
    | [], _ => .error .endInValue
    | '[' :: _, 0 => .error .nestingTooDeep
    | '{' :: _, 0 => .error .nestingTooDeep
    | '[' :: rest, depth + 1 => readItems depth r.fields r.blank rest
    | '{' :: rest, depth + 1 => do
      let (draft, rest) ← members (r.readMember depth) ⟨[], r.blank⟩ rest
      return (draft.value, rest)
    | s, _ => .error (wrongKindAt r.expected s)
  ofValue
    | .array vs => do
      let a ← takeItems r.fields vs r.blank
      if r.fields.length < vs.length then .error (.tooManyItems vs.length) else return a
    | .object ms => do
      let draft ← ms.foldlM (fun draft (key, v) => r.takeMember draft key v) ⟨[], r.blank⟩
      return draft.value
    | v => .error (.wrongKind v.found r.expected)

end Record
end MarketFeed.Json
