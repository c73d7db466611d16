import MarketFeed.Proofs.PrintedFrames
import MarketFeed.Text

/-!
# Lines of the table

A trade is written with one end of a line, and the texts that were received for it are written as
they are. So the ends of lines on the output are one for each trade and those that its texts hold.
Only trades whose texts hold none stand on one line each. A text that holds one adds a line, and
with blanks in the right places that line cannot be told from the row of a trade.
-/
namespace MarketFeed

namespace Text

variable {p : Char → Bool} {line : List Char}

/-- A line that holds no separator is the first field. -/
theorem fields_append_cons (h : ∀ c ∈ line, p c = false) {c : Char} (hc : p c = true)
    (rest : List Char) : fields p (line ++ c :: rest) = line :: fields p rest := by
  induction line with
  | nil => simp only [List.nil_append, fields, hc, if_true]
  | cons d ds ih =>
    have hd : p d = false := h d List.mem_cons_self
    have hrest := ih fun e he => h e (List.mem_cons_of_mem d he)
    rw [List.cons_append, fields, hrest, hd]
    rfl

end Text

/-- The texts of a trade that are written as they were received. -/
def Trade.texts (trade : Trade) : List String := [trade.side.text, trade.price, trade.size]

namespace Console

/-- How often a text goes to a new line. -/
def breaks (s : String) : Nat := s.toList.count '\n'

/-- What is between the ends of lines, and what is behind the last one. -/
def split (s : String) : List String := (Text.fields (· == '\n') s.toList).map String.ofList

@[simp] theorem breaks_append (s t : String) : breaks (s ++ t) = breaks s + breaks t := by
  simp only [breaks, String.toList_append, List.count_append]

@[simp] theorem breaks_padLeft (width : Nat) (s : String) :
    breaks (padLeft width s) = breaks s := by
  have hblanks : (List.replicate (width - s.length) ' ').count '\n' = 0 :=
    List.count_eq_zero.mpr fun h => absurd (List.eq_of_mem_replicate h) (by decide)
  simp only [breaks, padLeft, String.toList_append, String.toList_ofList, List.count_append,
    hblanks, Nat.zero_add]

theorem length_split (s : String) : (split s).length = breaks s + 1 := by
  rw [split, List.length_map, Text.length_fields]
  rfl

theorem breaks_linesText (lines : List String) :
    breaks (linesText lines) = lines.length + (lines.map breaks).sum := by
  induction lines with
  | nil => rfl
  | cons line rest ih =>
    have hend : breaks "\n" = 1 := rfl
    simp only [linesText, breaks_append, ih, hend, List.map_cons, List.sum_cons, List.length_cons]
    omega

/-- Lines that hold no end of a line are found again. -/
theorem split_linesText {lines : List String} (h : ∀ line ∈ lines, breaks line = 0) :
    split (linesText lines) = lines ++ [""] := by
  induction lines with
  | nil => rfl
  | cons line rest ih =>
    have hline : ∀ c ∈ line.toList, (c == '\n') = false := by
      intro c hc
      have hnone := List.count_eq_zero.mp (h line List.mem_cons_self)
      exact beq_eq_false_iff_ne.mpr fun heq => hnone (heq ▸ hc)
    have hrest := ih fun other hother => h other (List.mem_cons_of_mem line hother)
    have htext : (linesText (line :: rest)).toList =
        line.toList ++ '\n' :: (linesText rest).toList := by
      simp only [linesText, String.toList_append, List.append_assoc]
      rfl
    rw [split, htext, Text.fields_append_cons hline rfl, List.map_cons, String.ofList_toList,
      List.cons_append, ← hrest]
    rfl

namespace TradeTable

theorem breaks_plainRow (trade : Trade) :
    breaks (plainRow trade) = (trade.texts.map breaks).sum := by
  simp only [plainRow, columns, breaks_append, breaks_padLeft, Trade.texts, List.map_cons,
    List.map_nil, List.sum_cons, List.sum_nil]
  omega

theorem breaks_plainRow_eq_zero {trade : Trade} :
    breaks (plainRow trade) = 0 ↔ ∀ s ∈ trade.texts, '\n' ∉ s.toList := by
  rw [breaks_plainRow]
  simp only [Trade.texts, breaks, List.map_cons, List.map_nil, List.sum_cons, List.sum_nil,
    List.forall_mem_cons, Nat.add_eq_zero_iff, List.count_eq_zero, List.not_mem_nil]
  tauto

/-- An update of trades is printed as their rows in order, each with its end. The output has a line
for each trade and one more for each end of a line in the texts of side, price and size; it is cut
into the rows just when there is none in them. -/
theorem lines_of_update {text : String} {channel : Option String} {trades : List Trade}
    (h : Inbound.decode text = .ok (.market .update ⟨channel, .trades trades⟩)) :
    let printed := ((handler false).feed .working text).text
    let rows := trades.map plainRow
    printed = linesText rows ∧
    (split printed).length =
      trades.length + (trades.map fun trade => (trade.texts.map breaks).sum).sum + 1 ∧
    (split printed = rows ++ [""] ↔ ∀ trade ∈ trades, ∀ s ∈ trade.texts, '\n' ∉ s.toList) := by
  intro printed rows
  have hlines : frameLines (lines false) text = rows := frameLines_of_decode h
  have hprinted : printed = linesText rows := by
    calc printed
      _ = (Sink.working.writeLines (frameLines (lines false) text)).1.text :=
        congrArg Sink.text (feed_printing .working text)
      _ = "" ++ linesText rows := hlines ▸ Sink.works_working.text_writeLines _
      _ = linesText rows := String.empty_append
  have hrows : rows.map breaks = trades.map fun trade => (trade.texts.map breaks).sum := by
    simp only [rows, List.map_map, Function.comp_def, breaks_plainRow]
  have hlength : (split printed).length =
      trades.length + (trades.map fun trade => (trade.texts.map breaks).sum).sum + 1 := by
    rw [length_split, hprinted, breaks_linesText, hrows, List.length_map]
  refine ⟨hprinted, hlength, ?cut, ?whole⟩
  case cut =>
    intro hcut trade htrade
    rw [hcut, List.length_append, List.length_map, List.length_singleton] at hlength
    have hsum : (rows.map breaks).sum = 0 := by
      rw [hrows]
      omega
    have hzero := List.sum_eq_zero_iff_forall_eq_nat.mp hsum (breaks (plainRow trade))
      (List.mem_map_of_mem (List.mem_map_of_mem htrade))
    exact breaks_plainRow_eq_zero.mp hzero
  case whole =>
    intro hnone
    rw [hprinted]
    refine split_linesText fun row hrow => ?_
    obtain ⟨trade, htrade, rfl⟩ := List.mem_map.mp hrow
    exact breaks_plainRow_eq_zero.mpr (hnone trade htrade)

theorem lines_of_update_of_two :
    let text := "\x7b\"type\":\"update/trade\",\"data\":[" ++
      "\x7b\"side\":\"buy\",\"price\":\"2000.5\",\"size\":\"1.2\"\x7d," ++
      "\x7b\"side\":\"sell\",\"price\":\"2001.0\",\"size\":\"0.5\"\x7d]\x7d"
    let trades := [Trade.mk .buy "2000.5" "1.2", Trade.mk .sell "2001.0" "0.5"]
    Inbound.decode text = .ok (.market .update ⟨none, .trades trades⟩) ∧
      split ((handler false).feed .working text).text =
        ["       buy         2000.5            1.2",
          "      sell         2001.0            0.5", ""] := by
  intro text trades
  have hdecode := Attempts.toOption_eq_some.mp (by decide +kernel :
    (Inbound.decode text).toOption = some (.market .update ⟨none, .trades trades⟩))
  have hnone : ∀ trade ∈ trades, ∀ s ∈ trade.texts, '\n' ∉ s.toList := by decide
  have hrows : trades.map plainRow = ["       buy         2000.5            1.2",
      "      sell         2001.0            0.5"] := by decide +kernel
  refine ⟨hdecode, ?_⟩
  rw [(lines_of_update hdecode).2.2.mpr hnone, hrows]
  rfl

/-- A size that holds the end of its line and a whole row behind it makes one trade look like
two. -/
theorem row_forged_by_size :
    let forged := "\x7b\"type\":\"update/trade\",\"data\":[\x7b\"side\":\"buy\",\"price\":\"1\"," ++
      "\"size\":\"              2\\n       buy              3              4\"\x7d]\x7d"
    let honest := "\x7b\"type\":\"update/trade\",\"data\":[" ++
      "\x7b\"side\":\"buy\",\"price\":\"1\",\"size\":\"2\"\x7d," ++
      "\x7b\"side\":\"buy\",\"price\":\"3\",\"size\":\"4\"\x7d]\x7d"
    let size := "              2\n       buy              3              4"
    let printed (text : String) := ((handler false).feed .working text).text
    Inbound.decode forged = .ok (.market .update ⟨none, .trades [⟨.buy, "1", size⟩]⟩) ∧
      Inbound.decode honest = .ok (.market .update ⟨none, .trades [⟨.buy, "1", "2"⟩,
        ⟨.buy, "3", "4"⟩]⟩) ∧
      printed forged = printed honest ∧
      split (printed forged) = ["       buy              1              2",
        "       buy              3              4", ""] ∧
      split (printed forged) ≠ [plainRow ⟨.buy, "1", size⟩, ""] := by
  intro forged honest size printed
  have hforged := Attempts.toOption_eq_some.mp (by decide +kernel :
    (Inbound.decode forged).toOption =
      some (.market .update ⟨none, .trades [⟨.buy, "1", size⟩]⟩))
  have hhonest := Attempts.toOption_eq_some.mp (by decide +kernel :
    (Inbound.decode honest).toOption =
      some (.market .update ⟨none, .trades [⟨.buy, "1", "2"⟩, ⟨.buy, "3", "4"⟩]⟩))
  have hsame : printed forged = printed honest := by decide +kernel
  have hcut : split (printed forged) = ["       buy              1              2",
      "       buy              3              4", ""] := by decide +kernel
  refine ⟨hforged, hhonest, hsame, hcut, ?_⟩
  rw [hcut]
  exact fun heq => absurd (congrArg List.length heq) (by decide)

end TradeTable
end Console
end MarketFeed
