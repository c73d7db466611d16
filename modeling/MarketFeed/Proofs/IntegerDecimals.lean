import MarketFeed.Proofs.ChannelGrammar
import MarketFeed.Proofs.LastWrite
import MarketFeed.Proofs.RequotedFrames

/-!
# Integers as decimals

The text of an integer is a decimal of that value, for the coefficient of a decimal has room for far
more than 64 bits. So a level whose price came as an integer lies in a local book at that integer,
and any level without a size whose price spells the same number takes it off again. Together with
what decoders make of integers this says that in prices and sizes integers are as good as the
strings of their digits.
-/
namespace MarketFeed

namespace Decimal

def ofInt (n : Int) : Decimal := ⟨n * 10 ^ maxScale⟩

theorem isZero_ofInt {n : Int} : (ofInt n).isZero = true ↔ n = 0 := by
  simp [isZero, ofInt, maxScale]

/-- Digits before a point are scanned to their number, as long as that is a coefficient. -/
theorem scan_of_le {ds : List Char} {acc : Nat} {seen : Bool}
    (hdigits : ∀ c ∈ ds, c.isDigit = true) (hseen : seen = true ∨ ds ≠ [])
    (hmax : Nat.ofDigitChars 10 ds acc ≤ maxCoefficient) :
    scan false seen ⟨acc, 0⟩ ds = some ⟨Nat.ofDigitChars 10 ds acc, 0⟩ := by
  induction ds generalizing acc seen with
  | nil =>
    obtain rfl : seen = true := hseen.resolve_right fun h => h rfl
    simp [scan]
  | cons c ds ih =>
    obtain ⟨hc, hds⟩ := List.forall_mem_cons.mp hdigits
    rw [Nat.ofDigitChars_cons, Nat.mul_comm] at hmax ⊢
    have hlonger : ¬maxCoefficient < acc * 10 + digitValue c :=
      Nat.not_lt.mpr (Nat.le_trans (Json.Written.le_ofDigitChars ds _) hmax)
    have hunderscore : c ≠ '_' := Json.ne_of_isDigit hc (by decide)
    have hpoint : c ≠ '.' := Json.ne_of_isDigit hc (by decide)
    rw [scan, if_neg hunderscore, if_neg hpoint, if_pos hc]
    simp only [Bool.false_and, Bool.false_eq_true, if_false, if_neg hlonger]
    exact ih hds (.inl rfl) hmax

theorem scan_toDigits {k : Nat} (hk : k ≤ maxCoefficient) :
    scan false false ⟨0, 0⟩ (Nat.toDigits 10 k) = some ⟨k, 0⟩ := by
  have hvalue := Nat.ofDigitChars_ten_toDigits (n := k)
  have hdigits : ∀ c ∈ Nat.toDigits 10 k, c.isDigit = true := fun c hc =>
    Nat.isDigit_of_mem_toDigits (by decide) (by decide) hc
  rw [scan_of_le hdigits (.inr Nat.toDigits_ne_nil) (hvalue.trans_le hk), hvalue]

theorem plain?_toDigits {k : Nat} (hk : k ≤ maxCoefficient) :
    plain? (Nat.toDigits 10 k) = some ⟨false, k, 0⟩ := by
  have hscan := scan_toDigits hk
  obtain ⟨c, cs, hdigits, hc⟩ := Json.toDigits_eq_cons k
  have hminus : c ≠ '-' := Json.ne_of_isDigit hc (by decide)
  have hplus : c ≠ '+' := Json.ne_of_isDigit hc (by decide)
  rw [hdigits] at hscan ⊢
  unfold plain?
  split <;> simp_all

theorem parse?_toString {n : Int} (hn : n.natAbs ≤ maxCoefficient) :
    parse? (toString n) = some (ofInt n) := by
  have hunits : ∀ k, (⟨k, 0⟩ : Scaled).units = k * 10 ^ maxScale := fun _ => rfl
  rw [parse?, Json.toList_toString_int]
  split_ifs with hsign
  · rw [plain?_toDigits (by omega)]
    simp [Signed.toDecimal, hunits, ofInt, Int.toNat_of_nonneg hsign]
  · have hpositive : 0 ≤ -n := by omega
    rw [plain?, scan_toDigits (by omega)]
    simp [Signed.toDecimal, hunits, ofInt, Int.toNat_of_nonneg hpositive]

theorem trim_toString (n : Int) : Text.trim (toString n) = toString n := by
  refine Text.trim_eq_self fun c hc => ?_
  have hdigit : ∀ k, c ∈ Nat.toDigits 10 k → Text.isBlank c = false := fun k hk =>
    Text.isBlank_of_isDigit (Nat.isDigit_of_mem_toDigits (by decide) (by decide) hk)
  rw [Json.toList_toString_int] at hc
  split_ifs at hc
  · exact hdigit _ hc
  · rcases List.mem_cons.mp hc with rfl | hc
    · decide
    · exact hdigit _ hc

end Decimal

namespace PriceLevel

variable {level : PriceLevel} {n : Int}

theorem price?_of_integer (hn : n.natAbs ≤ Decimal.maxCoefficient)
    (h : level.price = toString n) : level.price? = some (Decimal.ofInt n) := by
  rw [price?, h, Decimal.trim_toString, Decimal.parse?_toString hn]

theorem amount?_of_integer (hn : n.natAbs ≤ Decimal.maxCoefficient)
    (h : level.size = toString n) : level.amount? = some (Decimal.ofInt n) := by
  rw [amount?, h, Decimal.trim_toString, Decimal.parse?_toString hn]

theorem isOffered_of_integer (hn : n.natAbs ≤ Decimal.maxCoefficient)
    (h : level.size = toString n) : level.isOffered = true ↔ n ≠ 0 := by
  have hsize : Text.trim level.size ≠ "" := by
    obtain ⟨c, cs, htext, -⟩ := Json.toList_toString_int_eq_cons n
    rw [h, Decimal.trim_toString]
    intro hempty
    rw [hempty] at htext
    cases htext
  simp [isOffered, amount?_of_integer hn h, hsize, ← Decimal.isZero_ofInt]

theorem offer?_of_zero (h : level.amount? = some (Decimal.ofInt 0)) : level.offer? = none := by
  have hzero : level.isOffered = false := by simp [isOffered, h, Decimal.isZero_ofInt]
  rw [offer?, hzero]
  rfl

end PriceLevel

theorem Book.levelAt?_of_last {book next : Book} {event : Event} {side : Side} {p : Decimal}
    {level : PriceLevel} (h : book.applyEvent event = .ok next)
    (hlast : lastWrite? p (event.levels side) = some level) :
    next.levelAt? side p = level.offer? := by
  rcases applyEvent_cases h with ⟨rfl, rfl⟩ | ⟨frame, changes, hchanges, ⟨rfl, rfl⟩ | ⟨rfl, rfl⟩⟩
  · cases hlast
  all_goals
    have hframe : lastWrite? p (frame.levels side) = some level := hlast
    rw [levelAt?_merge hchanges, hframe]
    rfl

open Json (Decoder Document Member Padded Requoted quoteChars spacedList spacedObject whole)

/-- A payload is decoded alike when integers in it are put in quotation marks. -/
def Json.Decoder.IgnoresQuotes {α : Type} (d : Decoder α) : Prop :=
  ∀ (p : Padded) (t : List Char), Requoted d p.core t →
    Json.parseWith (d.read Json.nestingLimit) (String.ofList p.text) =
      Json.parseWith (d.read Json.nestingLimit) (String.ofList (p.replace t).text)

theorem Json.Decoder.Delimits.ignoresQuotes {α : Type} {d : Decoder α} (h : d.Delimits) :
    d.IgnoresQuotes := fun _ _ hp => hp.parseWith h Json.nestingLimit

/-- An integer is the same decimal as the string of its digits. -/
structure OneDecimal (n : Int) : Prop where
  /-- With quotation marks or without, it is decoded to its digits. -/
  decoded : ∀ depth, whole (Decoder.decimal.read depth) (toString n).toList = .ok (toString n) ∧
    whole (Decoder.decimal.read depth) (quoteChars (toString n)) = .ok (toString n)
  /-- Under the key of any decimal one of them may stand for the other. -/
  requoted : ∀ {α : Type} {r : Json.Record α} {key : String} {get : α → Option String},
    DecimalField r key get → ∀ {inner : List Char} {before after : List Member} {m : Member},
      Json.Blanks inner → (∀ other ∈ before ++ after, Document other.value.core) → m.key = key →
      m.value.core = (toString n).toList →
        Requoted r.decoder (spacedObject inner (before ++ m :: after))
          (spacedObject inner (before ++ m.replace (quoteChars (toString n)) :: after))
  /-- A payload in which it stands under that key is decoded to one that has the digits there. -/
  held : ∀ {α : Type} {r : Json.Record α} {key : String} {get : α → Option String},
    DecimalField r key get → ∀ {inner : List Char} {before after : List Member} {m : Member},
      Json.Blanks inner → (∀ other ∈ before ++ after, Document other.value.core) → m.key = key →
      m.value.core = (toString n).toList →
      ∀ {p : Padded} {a : α}, p.core = spacedObject inner (before ++ m :: after) →
        Json.parseWith (r.decoder.read Json.nestingLimit) (String.ofList p.text) = .ok a →
        get a = some (toString n)
  /-- As a price it is a level's place in a local book. -/
  price : ∀ {level : PriceLevel}, level.price = toString n →
    level.price? = some (Decimal.ofInt n)
  /-- As a size it is on offer unless it is zero. -/
  size : ∀ {level : PriceLevel}, level.size = toString n →
    level.amount? = some (Decimal.ofInt n) ∧ (level.isOffered = true ↔ n ≠ 0)
  /-- The last level of an event at that price is stored there if it offers something. -/
  stored : ∀ {events : List Book.Event} {event : Book.Event} {next : Book} {side : Side}
    {level : PriceLevel}, (Book.ofHistory events).applyEvent event = .ok next →
      lastWrite? (Decimal.ofInt n) (event.levels side) = some level → level.isOffered = true →
      next.levelAt? side (Decimal.ofInt n) = some level
  /-- When its size is zero, nothing is left there. -/
  removed : ∀ {events : List Book.Event} {event : Book.Event} {next : Book} {side : Side}
    {level : PriceLevel}, (Book.ofHistory events).applyEvent event = .ok next →
      lastWrite? (Decimal.ofInt n) (event.levels side) = some level →
      level.amount? = some (Decimal.ofInt 0) → next.levelAt? side (Decimal.ofInt n) = none

theorem oneDecimal_of_bounds {n : Int} (hlow : -2 ^ 63 ≤ n) (hhigh : n < 2 ^ 64) :
    OneDecimal n := by
  have hlegible := Json.legible_of_bounds hlow hhigh
  have hn : n.natAbs ≤ Decimal.maxCoefficient := by
    unfold Decimal.maxCoefficient
    omega
  refine ⟨?decoded, ?requoted, ?held, PriceLevel.price?_of_integer hn, ?size, ?stored, ?removed⟩
  case decoded =>
    intro depth
    have hdigits := Json.whole_decimal hlegible depth
    exact ⟨hdigits, ((Decoder.Alike.integer hlegible).text depth).symm.trans hdigits⟩
  case requoted =>
    intro α r key get hfield inner before after m hinner hothers hkey hcore
    exact hfield.requoted hlow hhigh hinner hothers hkey hcore
  case held =>
    intro α r key get hfield inner before after m hinner hothers hkey hcore p a hp ha
    exact hfield.get_eq hlow hhigh hinner hothers hkey hcore hp ha
  case size =>
    intro level hsize
    exact ⟨PriceLevel.amount?_of_integer hn hsize, PriceLevel.isOffered_of_integer hn hsize⟩
  case stored =>
    intro events event next side level happlied hlast hoffered
    rw [Book.levelAt?_of_last happlied hlast]
    exact PriceLevel.offer?_eq_some.mpr ⟨rfl, hoffered⟩
  case removed =>
    intro events event next side level happlied hlast hzero
    rw [Book.levelAt?_of_last happlied hlast]
    exact PriceLevel.offer?_of_zero hzero

/-- An integer and the string of its digits are one decimal. That holds for every integer of 64
bits, signed or unsigned, in the decimals of payloads and as the price of a level in a local book,
where it is replaced or taken off by whatever comes later and spells the same number.

So quotation marks around such integers make no difference to levels, trades, statistics and books.
In frames the messages stay the same, and with them whatever a run does, keeps in its state, writes
and reports. -/
theorem integers_like_their_digits :
    (∀ {n : Int}, -2 ^ 63 ≤ n → n < 2 ^ 64 → OneDecimal n) ∧
    (PriceLevel.decoder.IgnoresQuotes ∧ Trade.decoder.IgnoresQuotes ∧
      MarketStats.decoder.IgnoresQuotes ∧ OrderBook.decoder.IgnoresQuotes) ∧
    (∀ {text text' : String}, FrameRequoted text text' →
      Inbound.decode text = Inbound.decode text') ∧
    ∀ {readings readings' : List Reading}, List.Forall₂ Reading.Requoted readings readings' →
      ∀ {σ : Type} (handler : Handler σ) limit shutdown progress (r : Running σ),
        (r.follow handler limit shutdown progress readings).SameCourse
          (r.follow handler limit shutdown progress readings') := by
  refine ⟨oneDecimal_of_bounds, ?payloads, FrameRequoted.decode_eq, ?runs⟩
  case payloads =>
    exact ⟨PriceLevel.delimits.decoder.ignoresQuotes, Trade.delimits.decoder.ignoresQuotes,
      MarketStats.delimits.decoder.ignoresQuotes, OrderBook.delimits.decoder.ignoresQuotes⟩
  case runs =>
    intro readings readings' h σ handler limit shutdown progress r
    exact Running.follow_sameCourse h handler limit shutdown progress r

/-- A bid at the greatest integer of 64 bits, which a bid of another spelling takes off again. -/
theorem integers_like_their_digits_of_greatest :
    let n : Int := 18446744073709551615
    let price (t : List Char) := Member.bare "price" t
    let level (t : List Char) := spacedObject [] [price t, .bare "size" ['2']]
    let book (t : List Char) := spacedObject [] [.bare "bids" (spacedList [] [.bare (level t)])]
    let frame (t : List Char) := frameText .none
      [.bare "type" (quoteChars "update/order_book"), .bare "order_book" (book t)]
    let integer := (toString n).toList
    let string := quoteChars (toString n)
    let update (price size : String) : Book.Event := .update ⟨[⟨price, size⟩], []⟩
    let kept := Book.ofHistory [update "18446744073709551615" "2"]
    DecimalField PriceLevel.record "price" (fun level => some level.price) ∧
      FrameRequoted (frame integer) (frame string) ∧
      Inbound.decode (frame integer) = Inbound.decode (frame string) ∧
      Inbound.decode (frame string) =
        .ok (.market .update ⟨none, .book ⟨[⟨"18446744073709551615", "2"⟩], []⟩⟩) ∧
      kept.levelAt? .bid (.ofInt n) = some ⟨"18446744073709551615", "2"⟩ ∧
      (kept.after (update "18446744073709551615.0" "0")).levelAt? .bid (.ofInt n) = none := by
  intro n price level book frame integer string update kept
  obtain ⟨hinteger, -, hframes, -⟩ := integers_like_their_digits
  have hone := hinteger (n := n) (by decide) (by decide)
  have hfield : DecimalField PriceLevel.record "price" fun level => some level.price :=
    .level List.mem_cons_self
  have hsize : ∀ m ∈ [] ++ [Member.bare "size" ['2']], Document m.value.core :=
    List.forall_mem_singleton.mpr (Json.document_integer 2)
  have hlevel : Requoted PriceLevel.decoder (level integer) (level string) :=
    hone.requoted hfield (m := price integer) Json.blanks_nil hsize rfl rfl
  have hbids : Requoted (.list PriceLevel.decoder) (spacedList [] ([] ++ [.bare (level integer)]))
      (spacedList [] ([] ++ [(Padded.bare (level integer)).replace (level string)])) :=
    .item PriceLevel.delimits.decoder Json.blanks_nil nofun hlevel
  let bids : Member := .bare "bids" (spacedList [] [.bare (level integer)])
  have hbook : Requoted OrderBook.decoder (spacedObject [] ([] ++ [bids])) (book string) :=
    .member OrderBook.delimits Json.blanks_nil nofun (m := bids) rfl hbids.field
  have htype : ∀ envelope, Envelope.parse (frame integer) = .ok envelope →
      ∃ kind, envelope.Indicates (.market kind .orderBook) := by
    intro envelope hparse
    have hkind : (Envelope.parse (frame integer)).toOption.map Envelope.kind =
        some "update/order_book" := by decide +kernel
    rw [hparse] at hkind
    exact ⟨.update, .typed (Option.some.inj hkind)⟩
  let type : Member := .bare "type" (quoteChars "update/order_book")
  have hframe : FrameRequoted
      (frameText .none ([type] ++ [.bare "order_book" (book integer)])) (frame string) :=
    .payload (m := .bare "order_book" (book integer))
      (List.forall_mem_singleton.mpr (Json.document_quoteChars "update/order_book")) htype
      (.inr ⟨rfl, rfl⟩) (.book hbook)
  let put := update "18446744073709551615" "2"
  let taken := update "18446744073709551615.0" "0"
  have happlied : (Book.ofHistory []).applyEvent put = .ok kept := by decide +kernel
  have happlied' : kept.applyEvent taken = .ok (kept.after taken) := by decide +kernel
  have htaken : lastWrite? (Decimal.ofInt n) (taken.levels .bid) =
      some ⟨"18446744073709551615.0", "0"⟩ := by decide +kernel
  refine ⟨hfield, hframe, hframes hframe, Attempts.toOption_eq_some.mp (by decide +kernel), ?_, ?_⟩
  · exact hone.stored happlied (by decide +kernel) (by decide +kernel)
  · exact hone.removed happlied' htaken (by decide +kernel)

end MarketFeed
