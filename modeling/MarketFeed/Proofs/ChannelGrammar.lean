import MarketFeed.Channel
import MarketFeed.Proofs.ReadingBack
import Mathlib.Data.List.TakeDrop
import Mathlib.Data.List.TakeWhile

/-!
# The grammar of channels

A channel is written as the name of a topic, a separator and a target. The separator is the first
slash or colon of the text, the name stands before it as it is, and behind it blanks may surround
the word `all` or the number of a market, which is at most one plus sign and one or more digits.

What does not follow the grammar is refused for the first thing that is wrong with it: a separator
that is missing, then the name, then the target. The rules below say so once, for texts that are
read and texts that are refused alike.
-/
namespace MarketFeed

namespace Text

theorem isBlank_of_isDigit {c : Char} (h : c.isDigit = true) : isBlank c = false := by
  simp only [Char.isDigit, Bool.and_eq_true, decide_eq_true_eq] at h
  have hlow : 48 ≤ c.toNat := h.1
  have hhigh : c.toNat ≤ 57 := h.2
  simp only [isBlank, Bool.or_eq_false_iff, Bool.and_eq_false_iff, decide_eq_false_iff_not,
    beq_eq_false_iff_ne]
  omega

theorem trim_eq_self {s : String} (h : ∀ c ∈ s.toList, isBlank c = false) : trim s = s := by
  have hdrop : ∀ cs : List Char, (∀ c ∈ cs, isBlank c = false) → cs.dropWhile isBlank = cs := by
    intro cs hcs
    cases cs with
    | nil => rfl
    | cons c cs => exact List.dropWhile_cons_of_neg (by simp [hcs c (by simp)])
  have hreverse : ∀ c ∈ s.toList.reverse, isBlank c = false := by simpa using h
  rw [trim, trimChars, hdrop _ h, hdrop _ hreverse, List.reverse_reverse, String.ofList_toList]

end Text

namespace Numeral

theorem natural?_eq_some {cs : List Char} {n : Nat} :
    natural? cs = some n ↔
      cs ≠ [] ∧ (∀ c ∈ cs, c.isDigit = true) ∧ Nat.ofDigitChars 10 cs 0 = n := by
  unfold natural?
  rw [← List.all_eq_true]
  split_ifs with h
  · simp [h.1, h.2]
  · simp only [false_iff]
    rintro ⟨hne, hdigits, -⟩
    exact h ⟨hne, hdigits⟩

theorem unsigned?_eq_some {cs : List Char} {n : Nat} :
    unsigned? cs = some n ↔
      ∃ sign digits, cs = sign ++ digits ∧ (sign = [] ∨ sign = ['+']) ∧
        natural? digits = some n := by
  constructor
  · intro h
    unfold unsigned? at h
    split at h
    · next digits => exact ⟨['+'], digits, rfl, .inr rfl, h⟩
    · exact ⟨[], cs, rfl, .inl rfl, h⟩
  · rintro ⟨sign, digits, rfl, rfl | rfl, h⟩
    · -- a plus sign is no digit, so it is not taken for one here
      rw [List.nil_append, unsigned?]
      · exact h
      · rintro cs rfl
        exact absurd ((natural?_eq_some.mp h).2.1 '+' (by simp)) (by decide)
    · exact h

end Numeral

namespace Target

/-- The texts of a target without blanks around it: the word for every market, or the number of one
in digits behind at most one plus sign. A number out of the bounds of markets is no target. -/
inductive Spelled : String → Target → Prop
  | all : Spelled "all" all
  | market {s : String} {sign digits : List Char} {index : MarketIndex}
      (htext : s.toList = sign ++ digits) (hsign : sign = [] ∨ sign = ['+']) (hne : digits ≠ [])
      (hdigits : ∀ c ∈ digits, c.isDigit = true)
      (hvalue : index.value = Nat.ofDigitChars 10 digits 0) : Spelled s (market index)

variable {s : String} {target : Target} {index : MarketIndex}

theorem unsignedBounded?_eq_some :
    Numeral.unsignedBounded? 0 65535 s = some index ↔ Spelled s (market index) := by
  unfold Numeral.unsignedBounded?
  simp only [Option.bind_eq_some_iff, Numeral.unsigned?_eq_some, Numeral.natural?_eq_some,
    Bounded.ofInt?_eq_some]
  constructor
  · rintro ⟨n, ⟨sign, digits, htext, hsign, hne, hdigits, rfl⟩, hvalue⟩
    exact .market htext hsign hne hdigits hvalue
  · rintro (_ | ⟨htext, hsign, hne, hdigits, hvalue⟩)
    exact ⟨_, ⟨_, _, htext, hsign, hne, hdigits, rfl⟩, hvalue⟩

theorem not_spelled_all : ¬Spelled "all" (market index) := by
  rw [← unsignedBounded?_eq_some]
  intro h
  have hnone : Numeral.unsignedBounded? 0 65535 "all" = none := by decide
  rw [hnone] at h
  cases h

/-- Behind the blanks a target is read as it is spelled; otherwise the whole text is refused. -/
theorem parse_cases (s : String) :
    (∃ target, parse s = .ok target ∧ ∀ other, Spelled (Text.trim s) other ↔ target = other) ∨
      (parse s = .error (.invalidMarket s) ∧ ∀ other, ¬Spelled (Text.trim s) other) := by
  unfold parse MarketIndex.parse
  by_cases hall : Text.trim s = "all"
  · rw [if_pos hall, hall]
    refine .inl ⟨Target.all, rfl, ?_⟩
    rintro (index | _)
    · simp [not_spelled_all]
    · simp [Spelled.all]
  · rw [if_neg hall]
    have hnot : ¬Spelled (Text.trim s) Target.all := by
      generalize Text.trim s = t at hall
      rintro ⟨⟩
      exact hall rfl
    cases hindex : Numeral.unsignedBounded? 0 65535 (Text.trim s) with
    | some index =>
      refine .inl ⟨market index, rfl, ?_⟩
      rintro (index' | _)
      · rw [← unsignedBounded?_eq_some, hindex, Option.some.injEq, market.injEq]
      · simp [hnot]
    | none =>
      refine .inr ⟨rfl, ?_⟩
      rintro (index' | _)
      · rw [← unsignedBounded?_eq_some, hindex]
        simp
      · exact hnot

theorem parse_of_spelled (h : Spelled (Text.trim s) target) : parse s = .ok target := by
  rcases parse_cases s with ⟨target', hparse, hspelled⟩ | ⟨-, hnone⟩
  · rw [hparse, (hspelled target).mp h]
  · exact absurd h (hnone target)

theorem parse_of_not_spelled (h : ∀ target, ¬Spelled (Text.trim s) target) :
    parse s = .error (.invalidMarket s) := by
  rcases parse_cases s with ⟨target, -, hspelled⟩ | ⟨hparse, -⟩
  · exact absurd ((hspelled target).mpr rfl) (h target)
  · exact hparse

theorem toList_text_market (index : MarketIndex) :
    (market index).text.toList = Nat.toDigits 10 index.value.toNat := by
  rw [text, Bounded.text, Json.toList_toString_int, if_pos index.low_le]

theorem spelled_text (target : Target) : Spelled target.text target := by
  cases target with
  | all => exact .all
  | market index =>
    have hdigits : ∀ c ∈ Nat.toDigits 10 index.value.toNat, c.isDigit = true := fun c hc =>
      Nat.isDigit_of_mem_toDigits (by decide) (by decide) hc
    refine .market (toList_text_market index) (.inl rfl) Nat.toDigits_ne_nil hdigits ?_
    rw [Nat.ofDigitChars_ten_toDigits, Int.toNat_of_nonneg index.low_le]

theorem text_plain {c : Char} (hc : c ∈ target.text.toList) :
    Text.isBlank c = false ∧ Channel.isSeparator c = false := by
  cases target with
  | all =>
    have hletters : "all".toList.all (fun c => !Text.isBlank c && !Channel.isSeparator c) = true :=
      rfl
    simpa using List.all_eq_true.mp hletters c hc
  | market index =>
    rw [toList_text_market] at hc
    have hdigit : c.isDigit = true := Nat.isDigit_of_mem_toDigits (by decide) (by decide) hc
    have hslash : c ≠ '/' := Json.ne_of_isDigit hdigit (by decide)
    have hcolon : c ≠ ':' := Json.ne_of_isDigit hdigit (by decide)
    exact ⟨Text.isBlank_of_isDigit hdigit, by simp [Channel.isSeparator, hslash, hcolon]⟩

end Target

namespace Channel

/-- The text up to its first separator and from there on. -/
def Cut (s name rest : String) : Prop :=
  ∃ separator, (separator = '/' ∨ separator = ':') ∧
    s.toList = name.toList ++ separator :: rest.toList ∧ '/' ∉ name.toList ∧ ':' ∉ name.toList

/-- The rules by which a text is read as a channel or refused. -/
inductive Reads (s : String) : Except ChannelError Channel → Prop
  | channel {topic : Topic} {rest : String} {target : Target} (hcut : Cut s topic.name rest)
      (htarget : target.Spelled (Text.trim rest)) : Reads s (.ok ⟨topic, target⟩)
  | missingSeparator (hslash : '/' ∉ s.toList) (hcolon : ':' ∉ s.toList) :
      Reads s (.error (.missingSeparator s))
  | unknownTopic {name rest : String} (hcut : Cut s name rest)
      (hname : ∀ topic : Topic, name ≠ topic.name) : Reads s (.error (.unknownTopic name))
  | invalidMarket {topic : Topic} {rest : String} (hcut : Cut s topic.name rest)
      (hrest : ∀ target : Target, ¬target.Spelled (Text.trim rest)) :
      Reads s (.error (.invalidMarket rest))

variable {s name rest : String} {result : Except ChannelError Channel}

theorem isSeparator_iff {c : Char} : isSeparator c = true ↔ c = '/' ∨ c = ':' := by
  simp [isSeparator]

theorem isSeparator_eq_false {cs : List Char} (hslash : '/' ∉ cs) (hcolon : ':' ∉ cs) :
    ∀ c ∈ cs, isSeparator c = false := by
  intro c hc
  rw [← Bool.not_eq_true, isSeparator_iff]
  rintro (rfl | rfl)
  · exact hslash hc
  · exact hcolon hc

theorem exists_cut_of_mem {c : Char} (hmem : c ∈ s.toList) (hc : isSeparator c = true) :
    ∃ name rest, Cut s name rest := by
  have hsome : (s.toList.find? isSeparator).isSome = true := List.find?_isSome.mpr ⟨c, hmem, hc⟩
  obtain ⟨separator, hfound⟩ := Option.isSome_iff_exists.mp hsome
  obtain ⟨hseparator, before, after, htext, hbefore⟩ := List.find?_eq_some_iff_append.mp hfound
  refine ⟨String.ofList before, String.ofList after, separator, isSeparator_iff.mp hseparator, ?_⟩
  simp only [String.toList_ofList]
  refine ⟨htext, ?_, ?_⟩
  · intro hslash
    exact absurd (hbefore '/' hslash) (by decide)
  · intro hcolon
    exact absurd (hbefore ':' hcolon) (by decide)

theorem parse_of_cut (h : Cut s name rest) :
    parse s = do
      let topic ← Topic.parse name
      let target ← Target.parse rest
      return ⟨topic, target⟩ := by
  obtain ⟨separator, hseparator, htext, hslash, hcolon⟩ := h
  have hname : ∀ c ∈ name.toList, (!isSeparator c) = true := by
    simpa using isSeparator_eq_false hslash hcolon
  have hstop : (!isSeparator separator) = false := by
    rw [isSeparator_iff.mpr hseparator]
    rfl
  have hspan : (s.toList.span fun c => !isSeparator c) =
      (name.toList, separator :: rest.toList) :=
    Json.span_eq_iff.mpr ⟨htext, hname, fun c hc => Option.mem_some_iff.mp hc ▸ hstop⟩
  unfold parse
  rw [hspan]
  simp only [String.ofList_toList]

theorem parse_of_no_separator (hslash : '/' ∉ s.toList) (hcolon : ':' ∉ s.toList) :
    parse s = .error (.missingSeparator s) := by
  have hall : ∀ c ∈ s.toList, (!isSeparator c) = true := by
    simpa using isSeparator_eq_false hslash hcolon
  have hspan : (s.toList.span fun c => !isSeparator c) = (s.toList, []) :=
    Json.span_eq_iff.mpr ⟨(List.append_nil _).symm, hall, nofun⟩
  unfold parse
  rw [hspan]

theorem parse_of_reads (h : Reads s result) : parse s = result := by
  cases h with
  | channel hcut htarget =>
    rw [parse_of_cut hcut, Topic.parse, Topic.ofName?_name, Target.parse_of_spelled htarget]
    rfl
  | missingSeparator hslash hcolon => exact parse_of_no_separator hslash hcolon
  | unknownTopic hcut hname =>
    rename_i name rest
    have hnone : Topic.ofName? name = none := by
      rw [Option.eq_none_iff_forall_ne_some]
      intro topic htopic
      exact hname topic (Topic.ofName?_eq_some.mp htopic)
    rw [parse_of_cut hcut, Topic.parse, hnone]
    rfl
  | invalidMarket hcut hrest =>
    rw [parse_of_cut hcut, Topic.parse, Topic.ofName?_name, Target.parse_of_not_spelled hrest]
    rfl

theorem exists_reads (s : String) : ∃ result, Reads s result := by
  by_cases hcut : ∃ name rest, Cut s name rest
  · obtain ⟨name, rest, hcut⟩ := hcut
    by_cases hname : ∃ topic : Topic, name = topic.name
    · obtain ⟨topic, rfl⟩ := hname
      by_cases htarget : ∃ target : Target, target.Spelled (Text.trim rest)
      · obtain ⟨target, htarget⟩ := htarget
        exact ⟨_, .channel hcut htarget⟩
      · exact ⟨_, .invalidMarket hcut (not_exists.mp htarget)⟩
    · exact ⟨_, .unknownTopic hcut (not_exists.mp hname)⟩
  · have hnone : ∀ c ∈ s.toList, isSeparator c ≠ true := fun c hc hseparator =>
      hcut (exists_cut_of_mem hc hseparator)
    refine ⟨_, .missingSeparator ?_ ?_⟩
    · exact fun hslash => hnone '/' hslash rfl
    · exact fun hcolon => hnone ':' hcolon rfl

theorem parse_eq_iff : parse s = result ↔ Reads s result := by
  constructor
  · rintro rfl
    obtain ⟨result, h⟩ := exists_reads s
    rw [parse_of_reads h]
    exact h
  · exact parse_of_reads

theorem name_plain (topic : Topic) : ∀ c ∈ topic.name.toList, isSeparator c = false := by
  intro c hc
  have hletters : topic.name.toList.all (fun c => !isSeparator c) = true := by
    cases topic <;> rfl
  simpa using List.all_eq_true.mp hletters c hc

theorem not_mem_of_plain {cs : List Char} (h : ∀ c ∈ cs, isSeparator c = false) :
    '/' ∉ cs ∧ ':' ∉ cs :=
  ⟨fun hslash => absurd (h '/' hslash) (by decide), fun hcolon => absurd (h ':' hcolon) (by decide)⟩

theorem parse_of_parts {c : Channel} {separator : Char}
    (hseparator : separator = '/' ∨ separator = ':')
    (htext : s.toList = c.topic.name.toList ++ separator :: c.target.text.toList) :
    parse s = .ok c := by
  have hplain := not_mem_of_plain (name_plain c.topic)
  have htrim : Text.trim c.target.text = c.target.text :=
    Text.trim_eq_self fun x hx => (Target.text_plain hx).1
  have hspelled : c.target.Spelled (Text.trim c.target.text) := by
    rw [htrim]
    exact c.target.spelled_text
  exact parse_of_reads (.channel ⟨separator, hseparator, htext, hplain⟩ hspelled)

theorem toList_text (c : Channel) :
    c.text.toList = c.topic.name.toList ++ '/' :: c.target.text.toList := by
  simp [text]

theorem parse_text (c : Channel) : parse c.text = .ok c := parse_of_parts (.inl rfl) c.toList_text

/-- The server echoes a channel with a colon in the place of the slash. -/
theorem parse_map_text (c : Channel) :
    parse (c.text.map fun x => if x = '/' then ':' else x) = .ok c := by
  have hkept : ∀ cs : List Char, '/' ∉ cs → cs.map (fun x => if x = '/' then ':' else x) = cs := by
    intro cs hcs
    have hsame : ∀ x ∈ cs, (if x = '/' then ':' else x) = x := by
      intro x hx
      have hne : x ≠ '/' := fun heq => hcs (heq ▸ hx)
      rw [if_neg hne]
    rw [List.map_congr_left hsame, List.map_id']
  have hname := (not_mem_of_plain (name_plain c.topic)).1
  have hplain : ∀ x ∈ c.target.text.toList, isSeparator x = false :=
    fun x hx => (Target.text_plain hx).2
  have htarget := (not_mem_of_plain hplain).1
  have hcolon : ':' = '/' ∨ ':' = ':' := .inr rfl
  refine parse_of_parts hcolon ?_
  rw [String.toList_map, toList_text, List.map_append, List.map_cons, hkept _ hname,
    hkept _ htarget, if_pos rfl]

/-- Every text is read, or refused with the cause and the part of the text that the rules give. A
channel is read back from its canonical text, also with a colon in the place of the slash, and no
two channels have one canonical text. -/
theorem parse_by_grammar :
    (∀ s result, parse s = result ↔ Reads s result) ∧
      (∀ c : Channel, parse c.text = .ok c ∧
        parse (c.text.map fun x => if x = '/' then ':' else x) = .ok c) ∧
      ∀ c d : Channel, c.text = d.text ↔ c = d := by
  refine ⟨fun s result => parse_eq_iff, fun c => ⟨c.parse_text, c.parse_map_text⟩, ?_⟩
  intro c d
  constructor
  · intro h
    have hparse : parse c.text = .ok d := h ▸ d.parse_text
    exact Except.ok.inj (c.parse_text.symm.trans hparse)
  · rintro rfl
    rfl

/-- Leading zeros, a plus sign and blanks of any script are read; a sign without digits is not. -/
example : parse "trade:\u2003+000007\u0085" = .ok ⟨.trade, .market ⟨7, by decide, by decide⟩⟩ ∧
    parse "trade/+ 7" = .error (.invalidMarket "+ 7") ∧
    parse "Trade:65536" = .error (.unknownTopic "Trade") := by decide +kernel

end Channel
end MarketFeed
