import MarketFeed.Proofs.CanonicalForm
import MarketFeed.Proofs.ChannelBooks
import MarketFeed.Proofs.FrameClasses

/-!
# Frames in print

The table of trades and the blocks of statistics keep nothing between frames. Each frame adds lines
of its own behind what is there, in the order of its entries, and most frames add none. So what is
printed of many frames is told from what is printed of each, and a table in colours differs from a
plain one in its rows alone.
-/
namespace MarketFeed

namespace Inbound

variable {α : Type} {d : Json.Decoder α} {as : List α} {v : Option Json.Value} {text : String}

theorem gives_of_decodeMany (h : decodeMany d v = .ok as) : ∀ a ∈ as, d.Gives a := by
  unfold decodeMany at h
  split at h
  case h_1 | h_2 =>
    obtain rfl := Except.ok.inj h
    exact nofun
  case h_3 vs =>
    have hall : vs.mapM d.ofValue = .ok as := by
      cases hvs : vs.mapM d.ofValue <;> rw [hvs] at h <;> cases h
      rfl
    intro a ha
    obtain ⟨v, hv⟩ := Json.exists_partner (Attempts.mapM_eq_ok_iff_forall₂.mp hall) ha
    exact .inr ⟨v, hv⟩
  case h_4 ms =>
    intro a ha
    cases hobject : d.ofValue (.object ms) with
    | error fault =>
      rw [hobject] at h
      cases h
    | ok b =>
      rw [hobject] at h
      obtain rfl : [b] = as := Except.ok.inj h
      obtain rfl := List.mem_singleton.mp ha
      exact .inr ⟨_, hobject⟩
  case h_5 => cases h

/-- The side of a trade that a frame brings has the text of no other side. -/
theorem side_normal_of_decode {kind : FrameKind} {channel : Option String} {trades : List Trade}
    (h : decode text = .ok (.market kind ⟨channel, .trades trades⟩)) :
    ∀ trade ∈ trades, trade.side.Normal := by
  unfold decode at h
  split at h
  case h_1 envelope hparse =>
    obtain ⟨-, hnull⟩ := Envelope.parse_ne_null hparse
    have hread := (Envelope.decides_ofEnvelope hnull).payload_read kind _ h
    obtain ⟨entries, hentries, heq⟩ := Attempts.map_eq_ok.mp hread
    obtain rfl := Payload.trades.inj heq
    intro trade htrade
    exact Trade.side_normal_of_gives (gives_of_decodeMany hentries trade htrade)
  case h_2 => cases h

end Inbound

theorem TradeSide.Normal.isBuy_iff {side : TradeSide} (h : side.Normal) :
    side.isBuy = true ↔ side.text = "buy" := by
  cases side with
  | buy => simp [isBuy, text]
  | other word =>
    have hword := h.not_mem rfl
    simp only [isBuy, text, Bool.false_eq_true, false_iff]
    rintro rfl
    simp at hword
  | sell | unknown => simp [isBuy, text]

namespace Console

variable {print : FrameKind → MarketEvent → List String} {sink : Sink}

/-- The lines of the market data that a text frame is decoded to. -/
def frameLines (print : FrameKind → MarketEvent → List String) (text : String) : List String :=
  match Inbound.decode text with
  | .ok (.market kind event) => print kind event
  | _ => []

theorem frameLines_of_decode {text : String} {kind : FrameKind} {event : MarketEvent}
    (h : Inbound.decode text = .ok (.market kind event)) :
    frameLines print text = print kind event := by
  rw [frameLines, h]

theorem feed_printing (sink : Sink) (text : String) :
    Handler.feed (printing print) sink text = (sink.writeLines (frameLines print text)).1 := by
  unfold Handler.feed frameLines
  cases Inbound.decode text with
  | error error => rfl
  | ok message => cases message <;> rfl

/-- Frame after frame is written behind what is there. -/
theorem Sink.Works.text_feedAll (h : sink.Works) (frames : List String) :
    (Handler.feedAll (printing print) sink frames).text =
      sink.text ++ linesText (frames.flatMap (frameLines print)) := by
  induction frames generalizing sink with
  | nil => exact (String.append_empty).symm
  | cons text rest ih =>
    have hrest := ih (h.writeLines (frameLines print text))
    rw [h.text_writeLines] at hrest
    rw [List.flatMap_cons, linesText_append, ← String.append_assoc, ← hrest, Handler.feedAll,
      List.foldl_cons, feed_printing]
    rfl

/-- The text stands whole at the right end of a column, which is wider only for the text. -/
def RightAligned (width : Nat) (s column : String) : Prop :=
  (∃ blanks, column = String.ofList (List.replicate blanks ' ') ++ s) ∧
    column.length = max width s.length

theorem rightAligned_padLeft (width : Nat) (s : String) :
    RightAligned width s (padLeft width s) := by
  refine ⟨⟨width - s.length, rfl⟩, ?_⟩
  simp only [padLeft, String.length_append, String.length_ofList, List.length_replicate]
  omega

namespace TradeTable

/-- Side, price and size, each at the right end of its column. -/
def IsRow (trade : Trade) (row : String) : Prop :=
  ∃ side price size, row = side ++ price ++ size ∧ RightAligned 10 trade.side.text side ∧
    RightAligned 15 trade.price price ∧ RightAligned 15 trade.size size

/-- The row of a trade in green or red. -/
def colouredRow (trade : Trade) (row : String) : String :=
  "\x1b[" ++ (if trade.side.text = "buy" then "32" else "31") ++ "m" ++ row ++ "\x1b[0m"

/-- What a frame brings to the table: the lines of a heading, and trades. -/
inductive Brings (text : String) : List String → List Trade → Prop
  | snapshot {channel : Option String} {trades : List Trade}
    (h : Inbound.decode text = .ok (.market .snapshot ⟨channel, .trades trades⟩)) :
    Brings text
      ["Trade snapshot: " ++ toString trades.length ++ " recent trades",
        "      Side          Price           Size", "----------------------------------------"]
      trades
  | update {channel : Option String} {trades : List Trade}
    (h : Inbound.decode text = .ok (.market .update ⟨channel, .trades trades⟩)) :
    Brings text [] trades
  | nothing (h : ∀ kind channel trades,
      Inbound.decode text ≠ .ok (.market kind ⟨channel, .trades trades⟩)) : Brings text [] []

/-- A frame brings one thing. -/
theorem rightUnique_brings :
    Relator.RightUnique fun text (part : List String × List Trade) =>
      Brings text part.1 part.2 := by
  rintro text ⟨heading, trades⟩ ⟨heading', trades'⟩ h h'
  change Brings text heading trades at h
  change Brings text heading' trades' at h'
  cases h with
  | snapshot hdecode | update hdecode =>
    cases h' with
    | snapshot hdecode' | update hdecode' =>
      rw [hdecode] at hdecode'
      cases hdecode' <;> rfl
    | nothing hnone => exact absurd hdecode (hnone _ _ _)
  | nothing hnone =>
    cases h' with
    | snapshot hdecode' | update hdecode' => exact absurd hdecode' (hnone _ _ _)
    | nothing => rfl

theorem isRow_plainRow (trade : Trade) : IsRow trade (plainRow trade) :=
  ⟨_, _, _, rfl, rightAligned_padLeft 10 _, rightAligned_padLeft 15 _, rightAligned_padLeft 15 _⟩

theorem row_coloured {trade : Trade} (h : trade.side.Normal) :
    row true trade = colouredRow trade (plainRow trade) := by
  simp only [row, paint, colouredRow, if_true, h.isBuy_iff]

theorem heading_eq (count : Nat) : heading count =
    ["Trade snapshot: " ++ toString count ++ " recent trades",
      "      Side          Price           Size", "----------------------------------------"] := by
  have htitles : columns "Side" "Price" "Size" = "      Side          Price           Size" := by
    decide +kernel
  have hrule : String.ofList (List.replicate 40 '-') =
      "----------------------------------------" := by decide +kernel
  rw [heading, htitles, hrule]

/-- The lines of a frame are the heading and the rows that it brings, plain or in colours. -/
theorem exists_brings (text : String) :
    ∃ part : List String × List Trade, Brings text part.1 part.2 ∧
      frameLines (lines false) text = part.1 ++ part.2.map plainRow ∧
      frameLines (lines true) text =
        part.1 ++ part.2.map fun trade => colouredRow trade (plainRow trade) := by
  by_cases h : ∃ kind channel trades,
      Inbound.decode text = .ok (.market kind ⟨channel, .trades trades⟩)
  · obtain ⟨kind, channel, trades, hdecode⟩ := h
    have hcoloured : trades.map (row true) =
        trades.map fun trade => colouredRow trade (plainRow trade) :=
      List.map_congr_left fun trade htrade =>
        row_coloured (Inbound.side_normal_of_decode hdecode trade htrade)
    cases kind with
    | snapshot =>
      refine ⟨⟨_, trades⟩, .snapshot hdecode, ?_⟩
      rw [frameLines_of_decode hdecode, frameLines_of_decode hdecode, ← hcoloured, ← heading_eq]
      exact ⟨rfl, rfl⟩
    | update =>
      refine ⟨⟨[], trades⟩, .update hdecode, ?_⟩
      rw [frameLines_of_decode hdecode, frameLines_of_decode hdecode, ← hcoloured]
      exact ⟨rfl, rfl⟩
  · push Not at h
    have hnone : ∀ coloured, frameLines (lines coloured) text = [] := by
      intro coloured
      unfold frameLines
      split
      · next kind event hdecode =>
        obtain ⟨channel, payload⟩ := event
        cases payload with
        | trades trades => exact absurd hdecode (h kind channel trades)
        | book levels => rfl
        | stats entries => rfl
      · rfl
    exact ⟨⟨[], []⟩, .nothing h, hnone false, hnone true⟩

end TradeTable

namespace StatsBlocks

/-- The market shown for an entry: its own, else the one market of the echoed channel. -/
inductive Shows (channel : Option String) (stats : MarketStats) : String → Prop
  | own {market : MarketIndex} (h : stats.marketIndex = some market) :
    Shows channel stats (toString market.value)
  | echoed {text : String} {topic : Topic} {market : MarketIndex} (hown : stats.marketIndex = none)
    (hchannel : channel = some text) (hparse : Channel.parse text = .ok ⟨topic, .market market⟩) :
    Shows channel stats (toString market.value)
  | unknown (hown : stats.marketIndex = none) (h : ∀ text topic market, channel = some text →
      Channel.parse text ≠ .ok ⟨topic, .market market⟩) : Shows channel stats "?"

/-- The lines are the block of an entry. -/
def IsBlock (channel : Option String) (stats : MarketStats) (lines : List String) : Prop :=
  ∃ market, Shows channel stats market ∧ lines = block market stats ∧ lines.length = 11 ∧
    lines.head? = some ("Market " ++ market ++ ":")

/-- The blocks that a frame brings. -/
inductive Brings (text : String) : List (List String) → Prop
  | stats {kind : FrameKind} {channel : Option String} {entries : List MarketStats}
    {blocks : List (List String)}
    (h : Inbound.decode text = .ok (.market kind ⟨channel, .stats entries⟩))
    (hblocks : List.Forall₂ (IsBlock channel) entries blocks) : Brings text blocks
  | nothing (h : ∀ kind channel entries,
      Inbound.decode text ≠ .ok (.market kind ⟨channel, .stats entries⟩)) : Brings text []

theorem Shows.unique {channel : Option String} {stats : MarketStats} {market market' : String}
    (h : Shows channel stats market) (h' : Shows channel stats market') : market = market' := by
  cases h with
  | own hown =>
    cases h' with
    | own hown' =>
      obtain rfl := Option.some.inj (hown.symm.trans hown')
      rfl
    | echoed hnone | unknown hnone => simp [hown] at hnone
  | echoed hown hchannel hparse =>
    cases h' with
    | own hown' => simp [hown] at hown'
    | echoed _ hchannel' hparse' =>
      obtain rfl := Option.some.inj (hchannel.symm.trans hchannel')
      rw [hparse] at hparse'
      cases hparse'
      rfl
    | unknown _ hnone => exact absurd hparse (hnone _ _ _ hchannel)
  | unknown hown hnone =>
    cases h' with
    | own hown' => simp [hown] at hown'
    | echoed _ hchannel hparse => exact absurd hparse (hnone _ _ _ hchannel)
    | unknown => rfl

theorem rightUnique_isBlock (channel : Option String) :
    Relator.RightUnique (IsBlock channel) := by
  rintro stats lines lines' ⟨market, h, rfl, -⟩ ⟨market', h', rfl, -⟩
  rw [h.unique h']

theorem rightUnique_brings : Relator.RightUnique Brings := by
  rintro text blocks blocks' h h'
  cases h with
  | stats hdecode hblocks =>
    cases h' with
    | stats hdecode' hblocks' =>
      rw [hdecode] at hdecode'
      cases hdecode'
      exact (rightUnique_isBlock _).forall₂ hblocks hblocks'
    | nothing hnone => exact absurd hdecode (hnone _ _ _)
  | nothing hnone =>
    cases h' with
    | stats hdecode => exact absurd hdecode (hnone _ _ _)
    | nothing => rfl

theorem echoedMarket?_eq_some {channel : Option String} {market : MarketIndex} :
    echoedMarket? channel = some market ↔
      ∃ text topic, channel = some text ∧ Channel.parse text = .ok ⟨topic, .market market⟩ := by
  unfold echoedMarket?
  simp only [Option.bind_eq_some_iff, Attempts.toOption_eq_some]
  constructor
  · rintro ⟨⟨topic, target⟩, ⟨text, hchannel, hparse⟩, htarget⟩
    cases target with
    | market index =>
      obtain rfl := Option.some.inj htarget
      exact ⟨text, topic, hchannel, hparse⟩
    | all => cases htarget
  · rintro ⟨text, topic, hchannel, hparse⟩
    exact ⟨⟨topic, .market market⟩, ⟨text, hchannel, hparse⟩, rfl⟩

theorem shows_marketText (channel : Option String) (stats : MarketStats) :
    Shows channel stats (marketText channel stats) := by
  unfold marketText
  cases hown : stats.marketIndex with
  | some market => exact .own hown
  | none =>
    cases hecho : echoedMarket? channel with
    | some market =>
      obtain ⟨text, topic, hchannel, hparse⟩ := echoedMarket?_eq_some.mp hecho
      exact .echoed hown hchannel hparse
    | none =>
      refine .unknown hown fun text topic market hchannel hparse => ?_
      have hsome := echoedMarket?_eq_some.mpr ⟨text, topic, hchannel, hparse⟩
      rw [hecho] at hsome
      cases hsome

theorem isBlock_block (channel : Option String) (stats : MarketStats) :
    IsBlock channel stats (block (marketText channel stats) stats) :=
  ⟨_, shows_marketText channel stats, rfl, rfl, rfl⟩

theorem exists_brings (text : String) :
    ∃ blocks, Brings text blocks ∧ frameLines lines text = blocks.flatten := by
  by_cases h : ∃ kind channel entries,
      Inbound.decode text = .ok (.market kind ⟨channel, .stats entries⟩)
  · obtain ⟨kind, channel, entries, hdecode⟩ := h
    refine ⟨entries.map fun stats => block (marketText channel stats) stats,
      .stats hdecode ?_, ?_⟩
    · rw [List.forall₂_map_right_iff]
      exact List.forall₂_same.mpr fun stats _ => isBlock_block channel stats
    · rw [frameLines_of_decode hdecode]
      exact List.flatMap_def
  · push Not at h
    refine ⟨[], .nothing h, ?_⟩
    unfold frameLines
    split
    · next kind event hdecode =>
      obtain ⟨channel, payload⟩ := event
      cases payload with
      | stats entries => exact absurd hdecode (h kind channel entries)
      | book levels => rfl
      | trades entries => rfl
    · rfl

end StatsBlocks

theorem exists_forall₂ {α β : Type} {R : α → β → Prop} (h : ∀ a, ∃ b, R a b) (as : List α) :
    ∃ bs, List.Forall₂ R as bs := by
  choose f hf using h
  refine ⟨as.map f, ?_⟩
  rw [List.forall₂_map_right_iff]
  exact List.forall₂_same.mpr fun a _ => hf a

theorem flatMap_eq_of_forall₂ {α β γ : Type} {f : α → List γ} {g : β → List γ} {as : List α}
    {bs : List β} (h : List.Forall₂ (fun a b => f a = g b) as bs) :
    as.flatMap f = bs.flatMap g := by
  induction h with
  | nil => rfl
  | cons hab _ ih => rw [List.flatMap_cons, List.flatMap_cons, hab, ih]

/-- Whatever frames are passed to it, the table holds for each of them, in their order, the heading
that it brings and a row for each of its trades; in colours it holds the same with each row painted
and nothing else. The blocks of statistics come frame by frame and entry by entry, each of eleven
lines under the market of its entry. A frame that brings no trades adds nothing to the table, and
one without statistics adds no block. -/
theorem printed_frame_by_frame (frames : List String) :
    let printed (handler : Handler Sink) := (handler.feedAll .working frames).text
    (∀ trade, TradeTable.IsRow trade (TradeTable.plainRow trade)) ∧
    (∃ parts : List (List String × List Trade),
      List.Forall₂ (fun text part => TradeTable.Brings text part.1 part.2) frames parts ∧
      printed (TradeTable.handler false) =
        linesText (parts.flatMap fun part => part.1 ++ part.2.map TradeTable.plainRow) ∧
      printed (TradeTable.handler true) =
        linesText (parts.flatMap fun part => part.1 ++
          part.2.map fun trade => TradeTable.colouredRow trade (TradeTable.plainRow trade))) ∧
    ∃ parts : List (List (List String)), List.Forall₂ StatsBlocks.Brings frames parts ∧
      printed StatsBlocks.handler = linesText (parts.flatMap List.flatten) := by
  intro printed
  have hprinted : ∀ print, printed (printing print) =
      linesText (frames.flatMap (frameLines print)) := by
    intro print
    rw [← String.empty_append (s := linesText _)]
    exact Sink.works_working.text_feedAll frames
  refine ⟨TradeTable.isRow_plainRow, ?table, ?blocks⟩
  case table =>
    obtain ⟨parts, hparts⟩ := exists_forall₂ TradeTable.exists_brings frames
    have hplain := flatMap_eq_of_forall₂ (hparts.imp fun _ _ h => h.2.1)
    have hcoloured := flatMap_eq_of_forall₂ (hparts.imp fun _ _ h => h.2.2)
    exact ⟨parts, hparts.imp fun _ _ h => h.1, (hprinted _).trans (congrArg linesText hplain),
      (hprinted _).trans (congrArg linesText hcoloured)⟩
  case blocks =>
    obtain ⟨parts, hparts⟩ := exists_forall₂ StatsBlocks.exists_brings frames
    have hblocks := flatMap_eq_of_forall₂ (hparts.imp fun _ _ h => h.2)
    exact ⟨parts, hparts.imp fun _ _ h => h.1, (hprinted _).trans (congrArg linesText hblocks)⟩

/-- A trade, statistics under the market of their channel and a text that is no frame. -/
theorem printed_frame_by_frame_of_trade_and_stats :
    let trade := "\x7b\"type\":\"update/trade\"," ++
      "\"data\":[\x7b\"side\":\"buy\",\"price\":\"1\"\x7d]\x7d"
    let stats := "\x7b\"type\":\"update/market_stats\",\"channel\":\"market_stats:7\"," ++
      "\"data\":\x7b\"last_price\":5\x7d\x7d"
    let printed (handler : Handler Sink) :=
      (handler.feedAll .working [trade, "no frame", stats]).text
    printed (TradeTable.handler false) = "       buy              1              0\n" ∧
      printed (TradeTable.handler true) =
        "\x1b[32m       buy              1              0\x1b[0m\n" ∧
      printed StatsBlocks.handler =
        "Market 7:\n  Last Price:    5\n  Mark Price:    N/A\n  Index Price:   N/A\n" ++
        "  24h High:      N/A\n  24h Low:       N/A\n  24h Volume:    N/A\n" ++
        "  24h Change:    N/A\n  Open Interest: N/A\n  Funding Rate:  N/A\n\n" := by
  intro trade stats printed
  have htrade : Inbound.decode trade =
      .ok (.market .update ⟨none, .trades [⟨.buy, "1", "0"⟩]⟩) :=
    Attempts.toOption_eq_some.mp (by decide +kernel)
  have hstats : Inbound.decode stats = .ok (.market .update ⟨some "market_stats:7",
      .stats [{ MarketStats.record.blank with lastPrice := some "5" }]⟩) :=
    Attempts.toOption_eq_some.mp (by decide +kernel)
  have hnone : (Inbound.decode "no frame").toOption = none := by decide +kernel
  have hother : ∀ kind event, Inbound.decode "no frame" ≠ .ok (.market kind event) := by
    intro kind event hdecode
    rw [hdecode] at hnone
    cases hnone
  obtain ⟨-, ⟨rows, hrows, hplain, hcoloured⟩, blocks, hblocks, hprinted⟩ :=
    printed_frame_by_frame [trade, "no frame", stats]
  have hrow : rows = [([], [⟨.buy, "1", "0"⟩]), ([], []), ([], [])] :=
    TradeTable.rightUnique_brings.forall₂ hrows
      (.cons (.update htrade) (.cons (.nothing fun _ _ _ => hother _ _)
        (.cons (.nothing fun _ _ _ h => by cases hstats.symm.trans h) .nil)))
  have hparse : Channel.parse "market_stats:7" =
      .ok ⟨.marketStats, .market ⟨7, by decide, by decide⟩⟩ :=
    Attempts.toOption_eq_some.mp (by decide +kernel)
  have hblock : blocks = [[], [],
      [StatsBlocks.block "7" { MarketStats.record.blank with lastPrice := some "5" }]] :=
    StatsBlocks.rightUnique_brings.forall₂ hblocks
      (.cons (.nothing fun _ _ _ h => by cases htrade.symm.trans h)
        (.cons (.nothing fun _ _ _ => hother _ _)
          (.cons (.stats hstats (.cons ⟨_, .echoed rfl rfl hparse, rfl, rfl, rfl⟩ .nil)) .nil)))
  subst hrow hblock
  exact ⟨hplain.trans (by decide +kernel), hcoloured.trans (by decide +kernel),
    hprinted.trans (by decide +kernel)⟩

end Console
end MarketFeed
