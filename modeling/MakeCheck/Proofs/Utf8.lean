import Mathlib.Data.List.Basic
import MakeCheck.Text.Utf8

namespace MakeCheck.Text.Utf8

-- A byte behind the first of a character.
def IsTail (b : UInt8) : Prop :=
  0x80 ≤ b.toNat ∧ b.toNat ≤ 0xBF

-- The bytes of a number by the table of the standard. What a shorter row could hold is not in a
-- longer one, and neither are the surrogates and what lies above the last character.
inductive Codes (n : Nat) : List UInt8 → Prop where
  | one {b : UInt8} (hb : b.toNat < 0x80) (hn : n = b.toNat) : Codes n [b]
  | two {b c : UInt8} (hb : 0xC2 ≤ b.toNat ∧ b.toNat ≤ 0xDF) (hc : IsTail c)
      (hn : n = (b.toNat - 0xC0) * 64 + (c.toNat - 0x80)) : Codes n [b, c]
  | three {b c d : UInt8} (hb : 0xE0 ≤ b.toNat ∧ b.toNat ≤ 0xEF) (hc : IsTail c) (hd : IsTail d)
      (hlow : b.toNat = 0xE0 → 0xA0 ≤ c.toNat) (hhigh : b.toNat = 0xED → c.toNat ≤ 0x9F)
      (hn : n = ((b.toNat - 0xE0) * 64 + (c.toNat - 0x80)) * 64 + (d.toNat - 0x80)) :
      Codes n [b, c, d]
  | four {b c d e : UInt8} (hb : 0xF0 ≤ b.toNat ∧ b.toNat ≤ 0xF4) (hc : IsTail c) (hd : IsTail d)
      (he : IsTail e) (hlow : b.toNat = 0xF0 → 0x90 ≤ c.toNat)
      (hhigh : b.toNat = 0xF4 → c.toNat ≤ 0x8F)
      (hn : n = (((b.toNat - 0xF0) * 64 + (c.toNat - 0x80)) * 64 + (d.toNat - 0x80)) * 64 +
        (e.toNat - 0x80)) : Codes n [b, c, d, e]

section Encoding

variable {n : Nat} {bytes : List UInt8}

theorem codes_encodeChar (c : Char) : Codes c.toNat (String.utf8EncodeChar c) := by
  have hvalid : c.toNat < 0xD800 ∨ 0xDFFF < c.toNat ∧ c.toNat < 0x110000 := c.valid
  have hval : c.val.toNat = c.toNat := rfl
  unfold String.utf8EncodeChar
  simp only [hval]
  generalize c.toNat = n at hvalid
  split
  · refine .one ?_ ?_ <;> simp only [UInt8.toNat_ofNat'] <;> omega
  · split
    · refine .two ?_ ?_ ?_ <;> simp only [IsTail, UInt8.toNat_ofNat'] <;> omega
    · split
      · refine .three ?_ ?_ ?_ ?_ ?_ ?_ <;> simp only [IsTail, UInt8.toNat_ofNat'] <;> omega
      · refine .four ?_ ?_ ?_ ?_ ?_ ?_ ?_ <;> simp only [IsTail, UInt8.toNat_ofNat'] <;> omega

theorem Codes.isValidChar (hcodes : Codes n bytes) : n.isValidChar := by
  unfold Nat.isValidChar
  cases hcodes with
  | one hb hn => omega
  | two hb hc hn =>
      simp only [IsTail] at hc
      omega
  | three hb hc hd hlow hhigh hn =>
      simp only [IsTail] at hc hd
      omega
  | four hb hc hd he hlow hhigh hn =>
      simp only [IsTail] at hc hd he
      omega

theorem toNat_ofNat_of_isValidChar (hvalid : n.isValidChar) : (Char.ofNat n).val.toNat = n := by
  rw [Char.ofNat, dif_pos hvalid]
  rfl

-- The bytes of a number are those of the character that it stands for.
theorem Codes.encodeChar (hcodes : Codes n bytes) :
    String.utf8EncodeChar (Char.ofNat n) = bytes := by
  unfold String.utf8EncodeChar
  simp only [toNat_ofNat_of_isValidChar hcodes.isValidChar]
  cases hcodes with
  | @one b hb hn => rw [if_pos (by omega), hn, UInt8.ofNat_toNat]
  | @two b c hb hc hn =>
      simp only [IsTail] at hc
      have hfirst : n / 64 % 32 + 192 = b.toNat := by omega
      have hlast : n % 64 + 128 = c.toNat := by omega
      rw [if_neg (by omega), if_pos (by omega), hfirst, hlast]
      simp only [UInt8.ofNat_toNat]
  | @three b c d hb hc hd hlow hhigh hn =>
      simp only [IsTail] at hc hd
      have hfirst : n / 4096 % 16 + 224 = b.toNat := by omega
      have hnext : n / 64 % 64 + 128 = c.toNat := by omega
      have hlast : n % 64 + 128 = d.toNat := by omega
      rw [if_neg (by omega), if_neg (by omega), if_pos (by omega), hfirst, hnext, hlast]
      simp only [UInt8.ofNat_toNat]
  | @four b c d e hb hc hd he hlow hhigh hn =>
      simp only [IsTail] at hc hd he
      have hfirst : n / 262144 % 8 + 240 = b.toNat := by omega
      have hnext : n / 4096 % 64 + 128 = c.toNat := by omega
      have hthird : n / 64 % 64 + 128 = d.toNat := by omega
      have hlast : n % 64 + 128 = e.toNat := by omega
      rw [if_neg (by omega), if_neg (by omega), if_neg (by omega), hfirst, hnext, hthird, hlast]
      simp only [UInt8.ofNat_toNat]

end Encoding

section Decoding

-- What the first byte says of the bytes behind it. Only the bounds of the second one differ within a
-- row of the table.
theorem lead_eq (b : UInt8) : lead b =
    if b.toNat < 0x80 then .character (Char.ofNat b.toNat)
    else if b.toNat < 0xC2 then .stray
    else if b.toNat < 0xE0 then .begins ⟨1, 0x80, 0xBF, b.toNat - 0xC0⟩
    else if b.toNat < 0xF0 then
      .begins ⟨2, if b.toNat = 0xE0 then 0xA0 else 0x80, if b.toNat = 0xED then 0x9F else 0xBF,
        b.toNat - 0xE0⟩
    else if b.toNat < 0xF5 then
      .begins ⟨3, if b.toNat = 0xF0 then 0x90 else 0x80, if b.toNat = 0xF4 then 0x8F else 0xBF,
        b.toNat - 0xF0⟩
    else .stray := by
  simp only [lead, UInt8.lt_iff_toNat_lt, ← UInt8.toNat_inj, UInt8.reduceToNat]
  generalize b.toNat = n
  split_ifs <;>
    first | omega | (simp only [Lead.begins.injEq, Pending.mk.injEq, true_and] <;> omega)

variable {pending : Pending} {b : UInt8} {n : Nat} {bytes rest : List UInt8}

theorem scan_cons_of_character {c : Char} (hlead : lead b = .character c) :
    scan (b :: rest) = some c :: scan rest := by
  rw [scan, hlead]

theorem scan_cons_of_begins (hlead : lead b = .begins pending) :
    scan (b :: rest) = scanTail pending rest := by
  rw [scan, hlead]

theorem scan_cons_of_stray (hlead : lead b = .stray) : scan (b :: rest) = none :: scan rest := by
  rw [scan, hlead]

-- A byte within the bounds is taken into the character, and the last one that is owed ends it.
theorem scanTail_cons_of_le {owed bits : Nat} {low high : UInt8} (hlow : low.toNat ≤ b.toNat)
    (hhigh : b.toNat ≤ high.toNat) :
    scanTail ⟨owed, low, high, bits⟩ (b :: rest) =
      if owed ≤ 1 then some (Char.ofNat (bits * 64 + (b.toNat - 0x80))) :: scan rest
      else scanTail ⟨owed - 1, 0x80, 0xBF, bits * 64 + (b.toNat - 0x80)⟩ rest := by
  rw [scanTail, if_pos ⟨UInt8.le_iff_toNat_le.mpr hlow, UInt8.le_iff_toNat_le.mpr hhigh⟩]

-- A character that has begun is no part without a meaning only where its next byte is there and is
-- within the bounds.
theorem exists_of_none_notMem_scanTail {owed bits : Nat} {low high : UInt8}
    (hnone : none ∉ scanTail ⟨owed, low, high, bits⟩ bytes) :
    ∃ b rest, bytes = b :: rest ∧ low.toNat ≤ b.toNat ∧ b.toNat ≤ high.toNat := by
  cases bytes with
  | nil => exact absurd (by rw [scanTail]; exact List.mem_singleton.mpr rfl) hnone
  | cons b rest =>
      refine ⟨b, rest, rfl, ?_⟩
      by_contra hout
      apply hnone
      rw [scanTail, if_neg (by simpa only [UInt8.le_iff_toNat_le] using hout)]
      split <;> exact List.mem_cons_self

-- The bytes behind the second one all have the same bounds.
theorem scanTail_cons_of_isTail {owed bits : Nat} (hb : IsTail b) :
    scanTail ⟨owed, 0x80, 0xBF, bits⟩ (b :: rest) =
      if owed ≤ 1 then some (Char.ofNat (bits * 64 + (b.toNat - 0x80))) :: scan rest
      else scanTail ⟨owed - 1, 0x80, 0xBF, bits * 64 + (b.toNat - 0x80)⟩ rest :=
  scanTail_cons_of_le hb.1 hb.2

-- The bounds of a second byte, which differ behind two of the first bytes of a row.
section Bounds

variable {c low high : UInt8} {plow phigh : Prop} [Decidable plow] [Decidable phigh]

theorem low_le (hc : 0x80 ≤ c.toNat) (hlow : plow → low.toNat ≤ c.toNat) :
    (if plow then low else 0x80 : UInt8).toNat ≤ c.toNat := by
  split
  · exact hlow ‹_›
  · exact hc

theorem le_high (hc : c.toNat ≤ 0xBF) (hhigh : phigh → c.toNat ≤ high.toNat) :
    c.toNat ≤ (if phigh then high else 0xBF : UInt8).toNat := by
  split
  · exact hhigh ‹_›
  · exact hc

theorem bounds_of_le (hleast : 0x80 ≤ low.toNat) (hgreatest : high.toNat ≤ 0xBF)
    (hlow : (if plow then low else 0x80 : UInt8).toNat ≤ c.toNat)
    (hhigh : c.toNat ≤ (if phigh then high else 0xBF : UInt8).toNat) :
    IsTail c ∧ (plow → low.toNat ≤ c.toNat) ∧ (phigh → c.toNat ≤ high.toNat) := by
  refine ⟨⟨?_, ?_⟩, fun h => by rwa [if_pos h] at hlow, fun h => by rwa [if_pos h] at hhigh⟩
  · split at hlow
    · exact Nat.le_trans hleast hlow
    · exact hlow
  · split at hhigh
    · exact Nat.le_trans hhigh hgreatest
    · exact hhigh

end Bounds

theorem scan_of_codes (hcodes : Codes n bytes) :
    scan (bytes ++ rest) = some (Char.ofNat n) :: scan rest := by
  cases hcodes with
  | @one b hb hn =>
      rw [List.singleton_append, scan_cons_of_character (by rw [lead_eq, if_pos hb]), hn]
  | @two b c hb hc hn =>
      have hlead : lead b = .begins ⟨1, 0x80, 0xBF, b.toNat - 0xC0⟩ := by
        rw [lead_eq, if_neg (by omega), if_neg (by omega), if_pos (by omega)]
      simp only [List.cons_append, List.nil_append]
      rw [scan_cons_of_begins hlead, scanTail_cons_of_isTail hc, if_pos (by omega), hn]
  | @three b c d hb hc hd hlow hhigh hn =>
      have hlead := lead_eq b
      rw [if_neg (by omega), if_neg (by omega), if_neg (by omega), if_pos (by omega)] at hlead
      simp only [List.cons_append, List.nil_append]
      rw [scan_cons_of_begins hlead, scanTail_cons_of_le, if_neg (by omega),
        scanTail_cons_of_isTail hd, if_pos (by omega), hn]
      · exact low_le hc.1 hlow
      · exact le_high hc.2 hhigh
  | @four b c d e hb hc hd he hlow hhigh hn =>
      have hlead := lead_eq b
      rw [if_neg (by omega), if_neg (by omega), if_neg (by omega), if_neg (by omega),
        if_pos (by omega)] at hlead
      simp only [List.cons_append, List.nil_append]
      rw [scan_cons_of_begins hlead, scanTail_cons_of_le, if_neg (by omega),
        scanTail_cons_of_isTail hd, if_neg (by omega), scanTail_cons_of_isTail he,
        if_pos (by omega), hn]
      · exact low_le hc.1 hlow
      · exact le_high hc.2 hhigh

-- Where no part is without a meaning, the bytes begin with those of a character.
theorem exists_codes_of_none_notMem_scan (hnone : none ∉ scan (b :: rest)) :
    ∃ n code rest', b :: rest = code ++ rest' ∧ Codes n code := by
  have hlead := lead_eq b
  by_cases hone : b.toNat < 0x80
  · exact ⟨b.toNat, [b], rest, rfl, .one hone rfl⟩
  rw [if_neg hone] at hlead
  by_cases hstray : b.toNat < 0xC2
  · rw [if_pos hstray] at hlead
    rw [scan_cons_of_stray hlead] at hnone
    exact absurd List.mem_cons_self hnone
  rw [if_neg hstray] at hlead
  by_cases htwo : b.toNat < 0xE0
  · rw [if_pos htwo] at hlead
    rw [scan_cons_of_begins hlead] at hnone
    obtain ⟨c, rest, rfl, hc⟩ := exists_of_none_notMem_scanTail hnone
    exact ⟨_, [b, c], rest, rfl, .two (by omega) hc rfl⟩
  rw [if_neg htwo] at hlead
  by_cases hthree : b.toNat < 0xF0
  · rw [if_pos hthree] at hlead
    rw [scan_cons_of_begins hlead] at hnone
    obtain ⟨c, rest, rfl, hclow, hchigh⟩ := exists_of_none_notMem_scanTail hnone
    rw [scanTail_cons_of_le hclow hchigh, if_neg (by omega)] at hnone
    obtain ⟨d, rest, rfl, hd⟩ := exists_of_none_notMem_scanTail hnone
    obtain ⟨hc, hlow, hhigh⟩ := bounds_of_le (by decide) (by decide) hclow hchigh
    exact ⟨_, [b, c, d], rest, rfl, .three (by omega) hc hd hlow hhigh rfl⟩
  rw [if_neg hthree] at hlead
  by_cases hfour : b.toNat < 0xF5
  · rw [if_pos hfour] at hlead
    rw [scan_cons_of_begins hlead] at hnone
    obtain ⟨c, rest, rfl, hclow, hchigh⟩ := exists_of_none_notMem_scanTail hnone
    rw [scanTail_cons_of_le hclow hchigh, if_neg (by omega)] at hnone
    obtain ⟨d, rest, rfl, hd⟩ := exists_of_none_notMem_scanTail hnone
    rw [scanTail_cons_of_isTail hd, if_neg (by omega)] at hnone
    obtain ⟨e, rest, rfl, he⟩ := exists_of_none_notMem_scanTail hnone
    obtain ⟨hc, hlow, hhigh⟩ := bounds_of_le (by decide) (by decide) hclow hchigh
    exact ⟨_, [b, c, d, e], rest, rfl, .four (by omega) hc hd he hlow hhigh rfl⟩
  rw [if_neg hfour] at hlead
  rw [scan_cons_of_stray hlead] at hnone
  exact absurd List.mem_cons_self hnone

end Decoding

section Text

theorem allSome_eq_some_iff {parts : List (Option Char)} {chars : List Char} :
    allSome parts = some chars ↔ parts = chars.map some := by
  induction parts generalizing chars with
  | nil => cases chars <;> simp [allSome]
  | cons part parts ih =>
      cases part with
      | none => cases chars <;> simp [allSome]
      | some c => cases chars <;> simp [allSome, ih, and_comm]

theorem scan_flatMap (chars : List Char) :
    scan (chars.flatMap String.utf8EncodeChar) = chars.map some := by
  induction chars with
  | nil => rw [List.flatMap_nil, scan, List.map_nil]
  | cons c chars ih =>
      rw [List.flatMap_cons, scan_of_codes (codes_encodeChar c), ih, Char.ofNat_toNat,
        List.map_cons]

theorem flatMap_of_scan {bytes : List UInt8} {chars : List Char}
    (hscan : scan bytes = chars.map some) : bytes = chars.flatMap String.utf8EncodeChar := by
  induction hlength : bytes.length using Nat.strongRecOn generalizing bytes chars with
  | ind length ih =>
    subst hlength
    cases bytes with
    | nil =>
        rw [scan, eq_comm, List.map_eq_nil_iff] at hscan
        rw [hscan, List.flatMap_nil]
    | cons b rest =>
        have hnone : none ∉ scan (b :: rest) := by
          rw [hscan]
          simp
        obtain ⟨n, code, behind, heq, hcodes⟩ := exists_codes_of_none_notMem_scan hnone
        rw [heq] at hscan ih ⊢
        rw [scan_of_codes hcodes, eq_comm] at hscan
        obtain ⟨c, chars, rfl, hc, hchars⟩ := List.map_eq_cons_iff.mp hscan
        have hlt : behind.length < (code ++ behind).length := by
          cases hcodes <;> simp <;> omega
        rw [List.flatMap_cons, ← ih _ hlt hchars.symm rfl, Option.some.inj hc, hcodes.encodeChar]

theorem encode_eq (s : String) : encode s = s.toList.flatMap String.utf8EncodeChar := by
  unfold encode String.toUTF8
  rw [← String.utf8Encode_toList, List.utf8Encode, List.toList_data_toByteArray]

-- The bytes spell a text exactly where they are what is written for it.
theorem decode?_eq_some_iff {bytes : List UInt8} {s : String} :
    decode? bytes = some s ↔ bytes = encode s := by
  rw [encode_eq]
  constructor
  · intro hdecode
    obtain ⟨chars, hchars, rfl⟩ := Option.map_eq_some_iff.mp hdecode
    rw [flatMap_of_scan (allSome_eq_some_iff.mp hchars), String.toList_ofList]
  · rintro rfl
    rw [decode?, scan_flatMap, allSome_eq_some_iff.mpr rfl, Option.map_some, String.ofList_toList]

end Text

end MakeCheck.Text.Utf8
