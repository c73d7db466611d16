import MarketFeed.Payload
import MarketFeed.Proofs.QuotedIntegers

/-!
# Decimal fields

The prices, sizes and figures of payloads are decimals. A field keeps what its member says, for no
other field changes it and the member cannot come twice. So an integer under the key of such a field
ends up there as its digits, and so does the string of them.
-/
namespace MarketFeed

namespace Json.Record

variable {α : Type} {r : Record α} {f : Field α} {P : α → Prop} {depth : Nat}

/-- What only a field that was seen could destroy is kept. -/
theorem foldlM_takeText_keeps {name : String}
    (hothers : ∀ f ∈ r.fields, f.name ≠ name → f.Keeps P) {ms : List Member}
    {draft last : Draft α} (hseen : name ∈ draft.seen) (hdraft : P draft.value)
    (h : ms.foldlM (r.takeText depth) draft = .ok last) : P last.value := by
  induction ms generalizing draft with
  | nil =>
    obtain rfl := Except.ok.inj h
    exact hdraft
  | cons m ms ih =>
    rw [List.foldlM_cons] at h
    obtain ⟨next, hnext, h⟩ := Attempts.bind_eq_ok.mp h
    unfold takeText at hnext
    split at hnext
    · obtain rfl := Except.ok.inj hnext
      exact ih hseen hdraft h
    · next f hfield =>
      split_ifs at hnext with hagain
      obtain ⟨u, hu, rfl⟩ := Attempts.map_eq_ok.mp hnext
      have hname : f.name ≠ name := by
        rintro rfl
        exact hagain (by simpa using hseen)
      have hkeeps := hothers f (List.mem_of_find?_eq_some hfield) hname
      exact ih (List.mem_cons_of_mem _ hseen) (hkeeps u (gives_of_whole hu) _ hdraft) h

/-- What a member sees to holds of the record that is read. -/
theorem holds_of_member (hr : r.Delimits) {inner : List Char} {before after : List Member}
    {m : Member} (hinner : Blanks inner)
    (hms : ∀ other ∈ before ++ m :: after, Document other.value.core)
    (hfield : r.field? m.key = some f)
    (hset : ∀ u, whole (f.update.read depth) m.value.core = .ok u → ∀ a, P (u a))
    (hothers : ∀ other ∈ r.fields, other.name ≠ f.name → other.Keeps P) {a : α}
    (h : whole (r.decoder.read (depth + 1)) (spacedObject inner (before ++ m :: after)) = .ok a) :
    P a := by
  rw [(answers_object hr hinner hms depth).whole_eq] at h
  obtain ⟨last, hfold, rfl⟩ := Attempts.map_eq_ok.mp h
  rw [List.foldlM_append] at hfold
  obtain ⟨draft, -, hfold⟩ := Attempts.bind_eq_ok.mp hfold
  rw [List.foldlM_cons] at hfold
  obtain ⟨next, hnext, hfold⟩ := Attempts.bind_eq_ok.mp hfold
  simp only [takeText, hfield] at hnext
  split_ifs at hnext
  obtain ⟨u, hu, rfl⟩ := Attempts.map_eq_ok.mp hnext
  exact foldlM_takeText_keeps hothers List.mem_cons_self (hset u hu _) hfold

end Json.Record

open Json (Decoder Document Field Member Padded Record Requoted quoteChars spacedObject whole)

theorem PriceLevel.delimits : PriceLevel.record.Delimits := by
  have hdecimal : Decoder.decimal.Delimits := Decoder.viaValue_delimits _
  simp only [Record.Delimits, PriceLevel.record, List.forall_mem_cons, List.not_mem_nil,
    false_implies, implies_true, and_true]
  exact ⟨Field.of_delimits hdecimal, Field.of_delimits hdecimal⟩

theorem OrderBook.delimits : OrderBook.record.Delimits := by
  have hlevels : (Decoder.list PriceLevel.decoder).Delimits := PriceLevel.delimits.decoder.list
  simp only [Record.Delimits, OrderBook.record, List.forall_mem_cons, List.not_mem_nil,
    false_implies, implies_true, and_true]
  exact ⟨Field.of_delimits hlevels, Field.of_delimits hlevels⟩

theorem Trade.delimits : Trade.record.Delimits := by
  have hside : TradeSide.decoder.Delimits := Decoder.string_delimits.map TradeSide.ofText
  have hdecimal : Decoder.decimal.Delimits := Decoder.viaValue_delimits _
  simp only [Record.Delimits, Trade.record, List.forall_mem_cons, List.not_mem_nil,
    false_implies, implies_true, and_true]
  exact ⟨Field.of_delimits hside, Field.of_delimits hdecimal, Field.of_delimits hdecimal⟩

theorem MarketStats.delimits : MarketStats.record.Delimits := by
  have hfigure : ∀ name set, (MarketStats.figure name set).update.Delimits := fun name set =>
    Field.of_delimits (Decoder.viaValue_delimits _).optional
  have hinteger : ∀ low high expected, (Decoder.optional (.bounded low high expected)).Delimits :=
    fun low high expected => (Decoder.bounded_delimits low high expected).optional
  simp only [Record.Delimits, MarketStats.record, List.forall_mem_cons, List.not_mem_nil,
    false_implies, implies_true, and_true, hfigure, true_and]
  exact ⟨Field.of_delimits (hinteger _ _ _), Field.of_delimits (hinteger _ _ _)⟩

/-- The decimals of a level, by their keys. -/
def PriceLevel.decimals : List (String × (PriceLevel → Option String)) :=
  [("price", fun level => some level.price), ("size", fun level => some level.size)]

def Trade.decimals : List (String × (Trade → Option String)) :=
  [("price", fun trade => some trade.price), ("size", fun trade => some trade.size)]

def MarketStats.decimals : List (String × (MarketStats → Option String)) :=
  [("last_price", lastPrice), ("mark_price", markPrice), ("index_price", indexPrice),
    ("high_24h", high24h), ("low_24h", low24h), ("volume_24h", volume24h),
    ("quote_volume_24h", quoteVolume24h), ("price_change_24h", priceChange24h),
    ("price_change_pct", priceChangePercent), ("open_interest", openInterest),
    ("funding_rate", fundingRate)]

/-- A record has a decimal under a key. -/
inductive DecimalField : {α : Type} → Record α → String → (α → Option String) → Prop
  | level {key : String} {get : PriceLevel → Option String} (h : (key, get) ∈ PriceLevel.decimals) :
    DecimalField PriceLevel.record key get
  | trade {key : String} {get : Trade → Option String} (h : (key, get) ∈ Trade.decimals) :
    DecimalField Trade.record key get
  | stats {key : String} {get : MarketStats → Option String}
    (h : (key, get) ∈ MarketStats.decimals) : DecimalField MarketStats.record key get

/-- A field that reads a decimal and stores it where no other field stores anything. -/
structure Json.Record.Stores {α : Type} (r : Record α) (key : String) (get : α → Option String)
    (f : Field α) : Prop where
  field : r.field? key = some f
  requoted : ∀ {t u}, Requoted .decimal t u → Requoted f.update t u
  stored : ∀ {depth t s u}, Document t → whole (Decoder.decimal.read depth) t = .ok s →
    whole (f.update.read depth) t = .ok u → ∀ a, get (u a) = some s
  kept : ∀ s, ∀ other ∈ r.fields, other.name ≠ f.name → other.Keeps fun a => get a = some s

namespace Json.Record.Stores

variable {α : Type} {r : Record α} {key name : String} {get : α → Option String}

theorem of_decimal {set : String → α → α}
    (hfield : r.field? key = some (.of name .decimal set []))
    (hget : ∀ s a, get (set s a) = some s)
    (hkept : ∀ s, ∀ other ∈ r.fields, other.name ≠ name → other.Keeps fun a => get a = some s) :
    r.Stores key get (.of name .decimal set []) where
  field := hfield
  requoted h := h.field
  stored _ hs hu a := by
    rw [Field.of, Decoder.whole_map, hs] at hu
    obtain rfl := Except.ok.inj hu
    exact hget _ a
  kept := hkept

theorem of_figure {r : Record MarketStats} {get : MarketStats → Option String}
    {set : Option String → MarketStats → MarketStats}
    (hfield : r.field? key = some (MarketStats.figure name set))
    (hget : ∀ s a, get (set s a) = s)
    (hkept : ∀ s, ∀ other ∈ r.fields, other.name ≠ name → other.Keeps fun a => get a = some s) :
    r.Stores key get (MarketStats.figure name set) where
  field := hfield
  requoted h := h.optional.field
  stored {depth t s u} ht hs hu a := by
    have hnull : t ≠ ['n', 'u', 'l', 'l'] := by
      rintro rfl
      cases depth <;> cases hs
    rw [MarketStats.figure, Field.of, Decoder.whole_map,
      Decoder.Alike.whole_optional ht hnull, hs] at hu
    obtain rfl := Except.ok.inj hu
    exact hget _ a
  kept := hkept

end Json.Record.Stores

theorem PriceLevel.exists_stores {key : String} {get : PriceLevel → Option String}
    (h : (key, get) ∈ decimals) : ∃ f, record.Stores key get f := by
  simp only [decimals, List.mem_cons, List.not_mem_nil, or_false, Prod.mk.injEq] at h
  rcases h with ⟨rfl, rfl⟩ | ⟨rfl, rfl⟩
  all_goals
    refine ⟨_, .of_decimal rfl (fun _ _ => rfl) fun s other hother hname => ?_⟩
    simp only [record, List.mem_cons, List.not_mem_nil, or_false] at hother
    rcases hother with rfl | rfl
    all_goals first | exact absurd rfl hname | exact Field.of_keeps fun _ _ _ ha => ha

theorem Trade.exists_stores {key : String} {get : Trade → Option String}
    (h : (key, get) ∈ decimals) : ∃ f, record.Stores key get f := by
  simp only [decimals, List.mem_cons, List.not_mem_nil, or_false, Prod.mk.injEq] at h
  rcases h with ⟨rfl, rfl⟩ | ⟨rfl, rfl⟩
  all_goals
    refine ⟨_, .of_decimal rfl (fun _ _ => rfl) fun s other hother hname => ?_⟩
    simp only [record, List.mem_cons, List.not_mem_nil, or_false] at hother
    rcases hother with rfl | rfl | rfl
    all_goals first | exact absurd rfl hname | exact Field.of_keeps fun _ _ _ ha => ha

theorem MarketStats.exists_stores {key : String} {get : MarketStats → Option String}
    (h : (key, get) ∈ decimals) : ∃ f, record.Stores key get f := by
  simp only [decimals, List.mem_cons, List.not_mem_nil, or_false, Prod.mk.injEq] at h
  rcases h with ⟨rfl, rfl⟩ | ⟨rfl, rfl⟩ | ⟨rfl, rfl⟩ | ⟨rfl, rfl⟩ | ⟨rfl, rfl⟩ | ⟨rfl, rfl⟩ |
    ⟨rfl, rfl⟩ | ⟨rfl, rfl⟩ | ⟨rfl, rfl⟩ | ⟨rfl, rfl⟩ | ⟨rfl, rfl⟩
  all_goals
    refine ⟨_, .of_figure rfl (fun _ _ => rfl) fun s other hother hname => ?_⟩
    simp only [record, List.mem_cons, List.not_mem_nil, or_false] at hother
    rcases hother with rfl | rfl | rfl | rfl | rfl | rfl | rfl | rfl | rfl | rfl | rfl | rfl | rfl
    all_goals first | exact absurd rfl hname | exact Field.of_keeps fun _ _ _ ha => ha

namespace DecimalField

variable {α : Type} {r : Record α} {key : String} {get : α → Option String} {n : Int}
  {inner : List Char} {before after : List Member} {m : Member}

theorem delimits (h : DecimalField r key get) : r.Delimits := by
  cases h with
  | level => exact PriceLevel.delimits
  | trade => exact Trade.delimits
  | stats => exact MarketStats.delimits

theorem exists_stores (h : DecimalField r key get) : ∃ f, r.Stores key get f := by
  cases h with
  | level h => exact PriceLevel.exists_stores h
  | trade h => exact Trade.exists_stores h
  | stats h => exact MarketStats.exists_stores h

theorem requoted (h : DecimalField r key get) (hlow : -2 ^ 63 ≤ n) (hhigh : n < 2 ^ 64)
    (hinner : Json.Blanks inner) (hothers : ∀ other ∈ before ++ after, Document other.value.core)
    (hkey : m.key = key) (hcore : m.value.core = (toString n).toList) :
    Requoted r.decoder (spacedObject inner (before ++ m :: after))
      (spacedObject inner (before ++ m.replace (quoteChars (toString n)) :: after)) := by
  obtain ⟨f, hf⟩ := h.exists_stores
  refine .member h.delimits hinner hothers (hkey ▸ hf.field) (hf.requoted ?_)
  rw [hcore]
  exact .integer hlow hhigh

/-- An integer under the key of a decimal is decoded to its digits. -/
theorem get_eq (h : DecimalField r key get) (hlow : -2 ^ 63 ≤ n) (hhigh : n < 2 ^ 64)
    (hinner : Json.Blanks inner) (hothers : ∀ other ∈ before ++ after, Document other.value.core)
    (hkey : m.key = key) (hcore : m.value.core = (toString n).toList) {p : Padded}
    (hp : p.core = spacedObject inner (before ++ m :: after)) {a : α}
    (ha : Json.parseWith (r.decoder.read Json.nestingLimit) (String.ofList p.text) = .ok a) :
    get a = some (toString n) := by
  obtain ⟨f, hf⟩ := h.exists_stores
  have hlegible := Json.legible_of_bounds hlow hhigh
  have hdocument : Document m.value.core := hcore ▸ Json.document_integer n
  have hms := Json.forall_mem_replace hothers hdocument
  have hdigits : ∀ depth, whole (Decoder.decimal.read depth) m.value.core = .ok (toString n) := by
    intro depth
    rw [hcore]
    exact Json.whole_decimal hlegible depth
  rw [h.delimits.decoder.parseWith p (hp ▸ .object hinner hms), hp] at ha
  exact Record.holds_of_member h.delimits hinner hms (hkey ▸ hf.field)
    (fun u hu => hf.stored hdocument (hdigits _) hu) (hf.kept _) ha

end DecimalField
end MarketFeed
