import MarketFeed.Frame.Inbound
import MarketFeed.Proofs.Attempts

/-!
# Types that name a topic

The type of a market data frame is a head and the name of a topic. The heads begin with different
letters, and with others than the words for control frames, so a type with a head is told by the
head and what follows it. If that is no topic, the type decides nothing: the channel is asked next,
and a channel that begins with the name of a topic makes the frame a snapshot, whatever the head.
-/
namespace MarketFeed

namespace FrameKind

def initial : FrameKind → Char
  | snapshot => 's'
  | update => 'u'

variable {head other : FrameKind} {name : String}

theorem head?_typeHead_append (head : FrameKind) (name : String) :
    (head.typeHead ++ name).toList.head? = some head.initial := by
  cases head <;> simp [typeHead, initial]

theorem typeHead_append_ne {word : String} (h : word.toList.head? ≠ some head.initial) :
    head.typeHead ++ name ≠ word := by
  rintro rfl
  exact h (head?_typeHead_append head name)

theorem eq_of_initial_eq (h : head.initial = other.initial) : head = other := by
  revert h
  cases head <;> cases other <;> decide

theorem typeHead_append_inj {name' : String} :
    head.typeHead ++ name = other.typeHead ++ name' ↔ head = other ∧ name = name' := by
  constructor
  · intro h
    have hfirst := head?_typeHead_append other name'
    rw [← h, head?_typeHead_append] at hfirst
    obtain rfl : head = other := eq_of_initial_eq (Option.some.inj hfirst)
    have hlist := congrArg String.toList h
    rw [String.toList_append, String.toList_append] at hlist
    exact ⟨rfl, String.toList_inj.mp (List.append_cancel_left hlist)⟩
  · rintro ⟨rfl, rfl⟩
    rfl

end FrameKind

namespace Inbound

variable {envelope : Envelope} {head kind : FrameKind} {name text : String}

theorem decode_of_parse (hparse : Envelope.parse text = .ok envelope) :
    decode text = ofEnvelope envelope := by
  rw [decode, hparse]

theorem typedTopic?_append (kind head : FrameKind) (name : String) :
    typedTopic? kind (head.typeHead ++ name) =
      if head = kind then Topic.ofName? name else none := by
  unfold typedTopic? Topic.ofName?
  split_ifs with hkind
  · subst hkind
    congr 1
    funext topic
    rw [Bool.eq_iff_iff, beq_iff_eq, beq_iff_eq, FrameKind.typeHead_append_inj]
    exact ⟨fun h => h.2.symm, fun h => ⟨rfl, h.symm⟩⟩
  · rw [List.find?_eq_none]
    intro topic _ h
    exact hkind (FrameKind.typeHead_append_inj.mp (beq_iff_eq.mp h)).1

/-- A type with a head names a topic or leaves the frame to its channel. -/
theorem ofEnvelope_of_typeHead (hkind : envelope.kind = head.typeHead ++ name) :
    ofEnvelope envelope =
      match Topic.ofName? name with
      | some topic => decodeMarket head topic envelope
      | none =>
        match envelope.channel.bind Topic.leading? with
        | some topic => decodeMarket .snapshot topic envelope
        | none => .ok (.unknown envelope.kind) := by
  unfold ofEnvelope
  have hwords : envelope.kind ≠ "connected" ∧ envelope.kind ≠ "ping" ∧ envelope.kind ≠ "error" := by
    rw [hkind]
    refine ⟨?_, ?_, ?_⟩ <;> apply FrameKind.typeHead_append_ne <;> cases head <;> decide
  rw [if_neg hwords.1, if_neg hwords.2.1, if_neg hwords.2.2]
  have hsnapshot := typedTopic?_append .snapshot head name
  have hupdate := typedTopic?_append .update head name
  rw [← hkind] at hsnapshot hupdate
  rw [hsnapshot, hupdate]
  cases head <;> cases Topic.ofName? name <;> rfl

theorem decodeMarket_eq_ok {topic : Topic} {message : Inbound}
    (h : decodeMarket kind topic envelope = .ok message) :
    ∃ payload, decodePayload topic envelope = .ok payload ∧
      message = .market kind ⟨envelope.channel, payload⟩ := by
  obtain ⟨payload, hpayload, rfl⟩ := Attempts.map_eq_ok.mp h
  exact ⟨payload, hpayload, rfl⟩

/-- A type that has a head but names no topic makes the frame unknown if, and only if, its channel
begins with no topic either. A channel that does makes it a snapshot, and nothing makes it an
update. -/
theorem decode_of_unnamed_topic (hparse : Envelope.parse text = .ok envelope)
    (hkind : envelope.kind = head.typeHead ++ name) (hname : ∀ topic : Topic, name ≠ topic.name) :
    (decode text = .ok (.unknown envelope.kind) ↔ envelope.channel.bind Topic.leading? = none) ∧
      (∀ topic, envelope.channel.bind Topic.leading? = some topic →
        decode text = decodeMarket .snapshot topic envelope) ∧
      ∀ event, decode text ≠ .ok (.market .update event) := by
  have hnone : Topic.ofName? name = none := by
    rw [Option.eq_none_iff_forall_ne_some]
    exact fun topic h => hname topic (Topic.ofName?_eq_some.mp h)
  rw [decode_of_parse hparse, ofEnvelope_of_typeHead hkind, hnone]
  cases hchannel : envelope.channel.bind Topic.leading? with
  | none => simp
  | some topic =>
    refine ⟨?_, ?_, ?_⟩
    · refine iff_of_false (fun h => ?_) (Option.some_ne_none topic)
      obtain ⟨payload, -, hmessage⟩ := decodeMarket_eq_ok h
      simp at hmessage
    · rintro other hother
      rw [Option.some.inj hother]
    · intro event h
      obtain ⟨payload, -, hmessage⟩ := decodeMarket_eq_ok h
      simp at hmessage

/-- A channel of another kind does not make the frame market data. -/
theorem decode_of_unnamed_topic_elsewhere :
    let text := "\x7b\"type\":\"update/height\",\"channel\":\"account_all:1\"\x7d"
    (∀ topic : Topic, "height" ≠ topic.name) ∧
      ∃ envelope, Envelope.parse text = .ok envelope ∧
        envelope.kind = FrameKind.update.typeHead ++ "height" ∧
        decode text = .ok (.unknown "update/height") := by
  intro text
  have hname : ∀ topic : Topic, "height" ≠ topic.name := by
    intro topic
    cases topic <;> decide
  have hparts : (Envelope.parse text).toOption.map (fun e => (e.kind, e.channel)) =
      some ("update/height", some "account_all:1") := by decide +kernel
  obtain ⟨envelope, hparse, hboth⟩ := Option.map_eq_some_iff.mp hparts
  obtain ⟨hkind, hchannel⟩ := Prod.mk.inj hboth
  have hhead : envelope.kind = FrameKind.update.typeHead ++ "height" := hkind
  have hparsed := Attempts.toOption_eq_some.mp hparse
  refine ⟨hname, envelope, hparsed, hhead, ?_⟩
  rw [← hkind]
  refine (decode_of_unnamed_topic hparsed hhead hname).1.mpr ?_
  rw [hchannel]
  decide +kernel

/-- A type under the head of updates that names no topic can still make a snapshot, here one that
empties a book. -/
theorem decode_unnamed_topic_ne_unknown :
    let text := "\x7b\"type\":\"update/height\",\"channel\":\"order_book:0\"\x7d"
    (∀ topic : Topic, "height" ≠ topic.name) ∧
      ∃ envelope, Envelope.parse text = .ok envelope ∧
        envelope.kind = FrameKind.update.typeHead ++ "height" ∧
        decode text ≠ .ok (.unknown envelope.kind) ∧
        decode text = .ok (.market .snapshot ⟨some "order_book:0", .book .empty⟩) := by
  intro text
  have hname : ∀ topic : Topic, "height" ≠ topic.name := by
    intro topic
    cases topic <;> decide
  have hkind : (Envelope.parse text).toOption.map Envelope.kind = some "update/height" := by
    decide +kernel
  have hmessage : (decode text).toOption =
      some (.market .snapshot ⟨some "order_book:0", .book .empty⟩) := by decide +kernel
  obtain ⟨envelope, hparse, hkind⟩ := Option.map_eq_some_iff.mp hkind
  have hdecode := Attempts.toOption_eq_some.mp hmessage
  refine ⟨hname, envelope, Attempts.toOption_eq_some.mp hparse, hkind, ?_, hdecode⟩
  rw [hdecode]
  simp

end Inbound
end MarketFeed
