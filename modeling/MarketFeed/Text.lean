/-!
# Pieces of text

A text is trimmed of blanks at both ends and never inside. A character is blank when it has the
Unicode property `White_Space`; characters that merely look empty, such as the zero width space, the
byte order mark and the Mongolian vowel separator, are not.

A list of characters is cut into fields at every separator. There is always one field more than
there are separators, so a list without any is one field and fields may be empty.

As octets, a character is one to four of them. The first one tells how many follow and, so that
every character has one written form only, narrows the range of the second. Octets that are no text
are reported with the place of the fault and with the number of octets that no continuation can
mend.
-/
namespace MarketFeed.Text

/-- The property `White_Space`. -/
def isBlank (c : Char) : Bool :=
  let n := c.toNat
  (0x09 ≤ n && n ≤ 0x0d) || n == 0x20 || n == 0x85 || n == 0xa0 || n == 0x1680 ||
    (0x2000 ≤ n && n ≤ 0x200a) || n == 0x2028 || n == 0x2029 || n == 0x202f || n == 0x205f ||
    n == 0x3000

def trimChars (cs : List Char) : List Char :=
  ((cs.dropWhile isBlank).reverse.dropWhile isBlank).reverse

def trim (s : String) : String := String.ofList (trimChars s.toList)

def fields (isSeparator : Char → Bool) : List Char → List (List Char)
  | [] => [[]]
  | c :: cs =>
    if isSeparator c then [] :: fields isSeparator cs
    else
      match fields isSeparator cs with
      | [] => [[c]]
      | first :: rest => (c :: first) :: rest

/-- What stands before and after the first character of a kind. -/
def cutFirst? (p : Char → Bool) : List Char → Option (List Char × List Char)
  | [] => none
  | c :: cs =>
    if p c then some ([], cs) else (cutFirst? p cs).map fun (before, after) => (c :: before, after)

def cutLast? (p : Char → Bool) : List Char → Option (List Char × List Char)
  | [] => none
  | c :: cs =>
    match cutLast? p cs with
    | some (before, after) => some (c :: before, after)
    | none => if p c then some ([], cs) else none

theorem fields_ne_nil (isSeparator : Char → Bool) (cs : List Char) :
    fields isSeparator cs ≠ [] := by
  cases cs with
  | nil => simp [fields]
  | cons c cs =>
    unfold fields
    split
    · simp
    · split <;> simp

theorem length_fields (isSeparator : Char → Bool) (cs : List Char) :
    (fields isSeparator cs).length = cs.countP isSeparator + 1 := by
  induction cs with
  | nil => rfl
  | cons c cs ih =>
    unfold fields
    by_cases h : isSeparator c
    · simp [h, ih]
    · simp only [h, Bool.false_eq_true, ↓reduceIte, not_false_eq_true, List.countP_cons_of_neg]
      split
      · rename_i heq
        exact absurd heq (fields_ne_nil _ _)
      · rename_i heq
        simp only [heq, List.length_cons] at ih ⊢
        exact ih

namespace Hex

def value? (c : Char) : Option Nat :=
  let n := c.toNat
  if 0x30 ≤ n ∧ n ≤ 0x39 then some (n - 0x30)
  else if 0x41 ≤ n ∧ n ≤ 0x46 then some (n - 0x41 + 10)
  else if 0x61 ≤ n ∧ n ≤ 0x66 then some (n - 0x61 + 10)
  else none

def number? : List Char → Option Nat
  | [] => none
  | cs => cs.foldlM (fun n c => (value? c).map (n * 16 + ·)) 0

end Hex

namespace Utf8

structure Fault where
  validUpTo : Nat
  /-- The number of octets at fault. None when the octets stop in the middle of a character. -/
  length : Option Nat
  deriving DecidableEq, Repr

def Fault.message (f : Fault) : String :=
  match f.length with
  | some n =>
    "invalid utf-8 sequence of " ++ toString n ++ " bytes from index " ++ toString f.validUpTo
  | none => "incomplete utf-8 byte sequence from index " ++ toString f.validUpTo

structure Lead where
  /-- The part of the code point in the first octet. -/
  high : Nat
  more : Nat
  /-- The least and the greatest second octet. -/
  least : Nat
  greatest : Nat
  deriving DecidableEq, Repr

def lead? (b : Nat) : Option Lead :=
  if b < 0x80 then some ⟨b, 0, 0x80, 0xbf⟩
  else if b < 0xc2 then none
  else if b < 0xe0 then some ⟨b - 0xc0, 1, 0x80, 0xbf⟩
  else if b = 0xe0 then some ⟨0, 2, 0xa0, 0xbf⟩
  else if b = 0xed then some ⟨13, 2, 0x80, 0x9f⟩
  else if b < 0xf0 then some ⟨b - 0xe0, 2, 0x80, 0xbf⟩
  else if b = 0xf0 then some ⟨0, 3, 0x90, 0xbf⟩
  else if b < 0xf4 then some ⟨b - 0xf0, 3, 0x80, 0xbf⟩
  else if b = 0xf4 then some ⟨4, 3, 0x80, 0x8f⟩
  else none

/-- The code point that `more` further octets complete, the first of them within the given bounds.
A fault is told by its length, `seen` octets being at fault so far. -/
def complete (seen least greatest code : Nat) : Nat → List UInt8 → Except (Option Nat) Nat
  | 0, _ => .ok code
  | _ + 1, [] => .error none
  | more + 1, b :: rest =>
    if least ≤ b.toNat ∧ b.toNat ≤ greatest then
      complete (seen + 1) 0x80 0xbf (code * 64 + (b.toNat - 0x80)) more rest
    else .error (some seen)

def decodeFrom (offset : Nat) : List UInt8 → Except Fault (List Char)
  | [] => .ok []
  | b :: rest =>
    match lead? b.toNat with
    | none => .error ⟨offset, some 1⟩
    | some lead =>
      match complete 1 lead.least lead.greatest lead.high lead.more rest with
      | .error length => .error ⟨offset, length⟩
      | .ok code =>
        (decodeFrom (offset + 1 + lead.more) (rest.drop lead.more)).map (Char.ofNat code :: ·)
termination_by octets => octets.length
decreasing_by simp only [List.length_drop, List.length_cons]; omega

def decode (octets : List UInt8) : Except Fault String := (decodeFrom 0 octets).map String.ofList

def encode (s : String) : List UInt8 := s.toList.flatMap String.utf8EncodeChar

end Utf8
end MarketFeed.Text
