import MarketFeed.Proofs.Attempts
import MarketFeed.Text

/-!
# Text and its octets

Octets that decode are the octets of the text that they decode to, so no two frames of octets stand
for one text. The first octet tells the length of a character and bounds the second so that the code
point is one of that length and no surrogate; this is what makes the encoding of the character give
back the same octets.
-/
namespace MarketFeed.Text.Utf8

theorem complete_succ {seen least greatest code more result : Nat} {octets : List UInt8}
    (h : complete seen least greatest code (more + 1) octets = .ok result) :
    ∃ b rest, octets = b :: rest ∧ least ≤ b.toNat ∧ b.toNat ≤ greatest ∧
      complete (seen + 1) 0x80 0xbf (code * 64 + (b.toNat - 0x80)) more rest = .ok result := by
  cases octets with
  | nil => simp [complete] at h
  | cons b rest =>
    rw [complete] at h
    split at h
    next hrange => exact ⟨b, rest, rfl, hrange.1, hrange.2, h⟩
    next => simp at h

theorem lead?_eq_some {b : Nat} {lead : Lead} (h : lead? b = some lead) :
    (lead.more = 0 ∧ lead.high = b ∧ b < 0x80) ∨
    (lead.more = 1 ∧ lead.high + 0xc0 = b ∧ 2 ≤ lead.high ∧ lead.high < 0x20 ∧
      0x80 ≤ lead.least ∧ lead.greatest ≤ 0xbf) ∨
    (lead.more = 2 ∧ lead.high + 0xe0 = b ∧ lead.high < 0x10 ∧
      0x80 ≤ lead.least ∧ lead.greatest ≤ 0xbf ∧
      (lead.high = 0 → 0xa0 ≤ lead.least) ∧ (lead.high = 13 → lead.greatest ≤ 0x9f)) ∨
    (lead.more = 3 ∧ lead.high + 0xf0 = b ∧ lead.high ≤ 4 ∧
      0x80 ≤ lead.least ∧ lead.greatest ≤ 0xbf ∧
      (lead.high = 0 → 0x90 ≤ lead.least) ∧ (lead.high = 4 → lead.greatest ≤ 0x8f)) := by
  unfold lead? at h
  split_ifs at h <;> obtain rfl := Option.some.inj h <;> dsimp only <;> omega

theorem toNat_ofNat {code : Nat} (h : code.isValidChar) : (Char.ofNat code).val.toNat = code := by
  rw [Char.ofNat, dif_pos h]
  rfl

theorem ofNat_eq {n : Nat} {b : UInt8} (h : n = b.toNat) : UInt8.ofNat n = b := by
  rw [h, UInt8.ofNat_toNat]

section
variable {code : Nat} {b₀ b₁ b₂ b₃ : UInt8}

theorem encodeChar_one (h₀ : b₀.toNat = code) (hcode : code < 0x80) :
    String.utf8EncodeChar (Char.ofNat code) = [b₀] := by
  have hvalue : (Char.ofNat code).val.toNat = code := toNat_ofNat (.inl (by omega))
  have e₀ : UInt8.ofNat code = b₀ := ofNat_eq h₀.symm
  simp only [String.utf8EncodeChar, hvalue]
  rw [if_pos (by omega), e₀]

theorem encodeChar_two (h₀ : b₀.toNat = code / 64 + 0xc0) (h₁ : b₁.toNat = code % 64 + 0x80)
    (hleast : 0x80 ≤ code) (hcode : code < 0x800) :
    String.utf8EncodeChar (Char.ofNat code) = [b₀, b₁] := by
  have hvalue : (Char.ofNat code).val.toNat = code := toNat_ofNat (.inl (by omega))
  have e₀ : UInt8.ofNat (code / 64 % 0x20 + 0xc0) = b₀ := ofNat_eq (by omega)
  have e₁ : UInt8.ofNat (code % 0x40 + 0x80) = b₁ := ofNat_eq h₁.symm
  simp only [String.utf8EncodeChar, hvalue]
  rw [if_neg (by omega), if_pos (by omega), e₀, e₁]

theorem encodeChar_three (h₀ : b₀.toNat = code / 4096 + 0xe0)
    (h₁ : b₁.toNat = code / 64 % 64 + 0x80) (h₂ : b₂.toNat = code % 64 + 0x80)
    (hvalid : code.isValidChar) (hleast : 0x800 ≤ code) (hcode : code < 0x10000) :
    String.utf8EncodeChar (Char.ofNat code) = [b₀, b₁, b₂] := by
  have hvalue : (Char.ofNat code).val.toNat = code := toNat_ofNat hvalid
  have e₀ : UInt8.ofNat (code / 4096 % 0x10 + 0xe0) = b₀ := ofNat_eq (by omega)
  have e₁ : UInt8.ofNat (code / 64 % 0x40 + 0x80) = b₁ := ofNat_eq h₁.symm
  have e₂ : UInt8.ofNat (code % 0x40 + 0x80) = b₂ := ofNat_eq h₂.symm
  simp only [String.utf8EncodeChar, hvalue]
  rw [if_neg (by omega), if_neg (by omega), if_pos (by omega), e₀, e₁, e₂]

theorem encodeChar_four (h₀ : b₀.toNat = code / 262144 + 0xf0)
    (h₁ : b₁.toNat = code / 4096 % 64 + 0x80) (h₂ : b₂.toNat = code / 64 % 64 + 0x80)
    (h₃ : b₃.toNat = code % 64 + 0x80) (hleast : 0x10000 ≤ code) (hcode : code < 0x110000) :
    String.utf8EncodeChar (Char.ofNat code) = [b₀, b₁, b₂, b₃] := by
  have hvalue : (Char.ofNat code).val.toNat = code := toNat_ofNat (.inr ⟨by omega, by omega⟩)
  have e₀ : UInt8.ofNat (code / 262144 % 0x08 + 0xf0) = b₀ := ofNat_eq (by omega)
  have e₁ : UInt8.ofNat (code / 4096 % 0x40 + 0x80) = b₁ := ofNat_eq h₁.symm
  have e₂ : UInt8.ofNat (code / 64 % 0x40 + 0x80) = b₂ := ofNat_eq h₂.symm
  have e₃ : UInt8.ofNat (code % 0x40 + 0x80) = b₃ := ofNat_eq h₃.symm
  simp only [String.utf8EncodeChar, hvalue]
  rw [if_neg (by omega), if_neg (by omega), if_neg (by omega), e₀, e₁, e₂, e₃]

end

/-- A character that decodes gives back its octets. -/
theorem encodeChar_of_complete {b₀ : UInt8} {lead : Lead} {rest : List UInt8} {code : Nat}
    (hlead : lead? b₀.toNat = some lead)
    (hcode : complete 1 lead.least lead.greatest lead.high lead.more rest = .ok code) :
    String.utf8EncodeChar (Char.ofNat code) ++ rest.drop lead.more = b₀ :: rest := by
  obtain ⟨hmore, hhigh, hb⟩ | ⟨hmore, hhigh, hlow, hb, hleast, hgreatest⟩ |
    ⟨hmore, hhigh, hb, hleast, hgreatest, hzero, htop⟩ |
    ⟨hmore, hhigh, hb, hleast, hgreatest, hzero, htop⟩ := lead?_eq_some hlead
  · rw [hmore] at hcode ⊢
    obtain rfl : lead.high = code := Except.ok.inj hcode
    rw [encodeChar_one hhigh.symm (by omega)]
    rfl
  · rw [hmore] at hcode ⊢
    obtain ⟨b₁, rest, rfl, hmin₁, hmax₁, hcode⟩ := complete_succ hcode
    obtain rfl := Except.ok.inj hcode
    have h₀ : b₀.toNat = (lead.high * 64 + (b₁.toNat - 0x80)) / 64 + 0xc0 := by omega
    have h₁ : b₁.toNat = (lead.high * 64 + (b₁.toNat - 0x80)) % 64 + 0x80 := by omega
    rw [encodeChar_two h₀ h₁ (by omega) (by omega)]
    rfl
  · rw [hmore] at hcode ⊢
    obtain ⟨b₁, rest, rfl, hmin₁, hmax₁, hcode⟩ := complete_succ hcode
    obtain ⟨b₂, rest, rfl, hmin₂, hmax₂, hcode⟩ := complete_succ hcode
    have hvalue := Except.ok.inj hcode
    have h₀ : b₀.toNat = code / 4096 + 0xe0 := by omega
    have h₁ : b₁.toNat = code / 64 % 64 + 0x80 := by omega
    have h₂ : b₂.toNat = code % 64 + 0x80 := by omega
    have hvalid : code.isValidChar := by
      unfold Nat.isValidChar
      omega
    rw [encodeChar_three h₀ h₁ h₂ hvalid (by omega) (by omega)]
    rfl
  · rw [hmore] at hcode ⊢
    obtain ⟨b₁, rest, rfl, hmin₁, hmax₁, hcode⟩ := complete_succ hcode
    obtain ⟨b₂, rest, rfl, hmin₂, hmax₂, hcode⟩ := complete_succ hcode
    obtain ⟨b₃, rest, rfl, hmin₃, hmax₃, hcode⟩ := complete_succ hcode
    have hvalue := Except.ok.inj hcode
    have h₀ : b₀.toNat = code / 262144 + 0xf0 := by omega
    have h₁ : b₁.toNat = code / 4096 % 64 + 0x80 := by omega
    have h₂ : b₂.toNat = code / 64 % 64 + 0x80 := by omega
    have h₃ : b₃.toNat = code % 64 + 0x80 := by omega
    rw [encodeChar_four h₀ h₁ h₂ h₃ (by omega) (by omega)]
    rfl

theorem encode_of_decodeFrom {offset : Nat} {octets : List UInt8} {cs : List Char}
    (h : decodeFrom offset octets = .ok cs) : cs.flatMap String.utf8EncodeChar = octets := by
  fun_induction decodeFrom offset octets generalizing cs with
  | case1 => cases h; rfl
  | case2 => cases h
  | case3 => cases h
  | case4 offset b rest lead hlead code hcode ih =>
    obtain ⟨tail, htail, rfl⟩ := Attempts.map_eq_ok.1 h
    rw [List.flatMap_cons, ih htail]
    exact encodeChar_of_complete hlead hcode

/-- Octets that decode are those of the text. -/
theorem encode_of_decode {octets : List UInt8} {s : String} (h : decode octets = .ok s) :
    encode s = octets := by
  obtain ⟨cs, hcs, rfl⟩ := Attempts.map_eq_ok.1 h
  unfold encode
  rw [String.toList_ofList]
  exact encode_of_decodeFrom hcs

end MarketFeed.Text.Utf8
