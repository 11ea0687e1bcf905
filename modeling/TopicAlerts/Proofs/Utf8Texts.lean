import Mathlib.Data.List.Basic
import Mathlib.Tactic.SplitIfs
import TopicAlerts.Text.Utf8

/-!
# Bytes of texts

The bytes of a text are cut into its characters again (`Utf8.units_encode`), and none of them is
malformed. A character has one to four bytes, by the size of its code; the second byte of three or
four is bounded so that no code could be written shorter, and no surrogate be written at all.
-/

namespace TopicAlerts.Utf8

/-! ## Bytes -/

theorem lead?_of_two : ∀ n < 224, 194 ≤ n → lead? (UInt8.ofNat n) =
    some (1, UInt8.ofNat 128, UInt8.ofNat 191) := by decide +kernel

theorem lead?_of_three : ∀ n < 240, 224 ≤ n → lead? (UInt8.ofNat n) =
    some (2, UInt8.ofNat (if n = 224 then 160 else 128),
      UInt8.ofNat (if n = 237 then 159 else 191)) := by decide +kernel

theorem lead?_of_four : ∀ n < 245, 240 ≤ n → lead? (UInt8.ofNat n) =
    some (3, UInt8.ofNat (if n = 240 then 144 else 128),
      UInt8.ofNat (if n = 244 then 143 else 191)) := by decide +kernel

theorem continues_of_lt : ∀ n < 64, continues (UInt8.ofNat (n + 128)) = true := by decide +kernel

/-- Bytes are between each other as their numbers are. -/
theorem between_of_nat {low n high : Nat} (hlow : low ≤ n) (hhigh : n ≤ high) (hbyte : high < 256) :
    UInt8.ofNat low ≤ UInt8.ofNat n ∧ UInt8.ofNat n ≤ UInt8.ofNat high := by
  have hn : n < 256 := by omega
  simp only [UInt8.le_iff_toNat_le, UInt8.toNat_ofNat', Nat.mod_eq_of_lt hbyte,
    Nat.mod_eq_of_lt hn, Nat.mod_eq_of_lt (show low < 256 by omega)]
  exact ⟨hlow, hhigh⟩

theorem not_lt_ascii {n : Nat} (hlow : 128 ≤ n) (hhigh : n < 256) : ¬UInt8.ofNat n < 0x80 := by
  rw [UInt8.lt_iff_toNat_lt, UInt8.toNat_ofNat_of_lt' hhigh]
  exact Nat.not_lt.mpr hlow

section Units

variable {a b c d low high : UInt8}

theorem units_one (h : a < 0x80) (rest : List UInt8) :
    units (a :: rest) = some (Char.ofNat a.toNat) :: units rest := by
  rw [units.eq_def]
  exact if_pos h

theorem units_two (ha : ¬a < 0x80) (hlead : lead? a = some (1, low, high))
    (hb : low ≤ b ∧ b ≤ high) (rest : List UInt8) :
    units (a :: b :: rest) = some (compose a [b]) :: units rest := by
  rw [units.eq_def]
  dsimp only
  rw [if_neg ha, hlead]
  simp [hb]

theorem units_three (ha : ¬a < 0x80) (hlead : lead? a = some (2, low, high))
    (hb : low ≤ b ∧ b ≤ high) (hc : continues c = true) (rest : List UInt8) :
    units (a :: b :: c :: rest) = some (compose a [b, c]) :: units rest := by
  rw [units.eq_def]
  dsimp only
  rw [if_neg ha, hlead]
  simp [hb, hc]

theorem units_four (ha : ¬a < 0x80) (hlead : lead? a = some (3, low, high))
    (hb : low ≤ b ∧ b ≤ high) (hc : continues c = true) (hd : continues d = true)
    (rest : List UInt8) :
    units (a :: b :: c :: d :: rest) = some (compose a [b, c, d]) :: units rest := by
  rw [units.eq_def]
  dsimp only
  rw [if_neg ha, hlead]
  simp [hb, hc, hd]

end Units

/-! ## Characters -/

theorem compose_two {a b : Nat} (ha : a < 32) (hb : b < 64) :
    compose (UInt8.ofNat (a + 192)) [UInt8.ofNat (b + 128)] = Char.ofNat (a * 64 + b) := by
  have hlead : (a + 192) % 256 % 32 = a := by omega
  have hother : (b + 128) % 256 % 64 = b := by omega
  simp [compose, UInt8.toNat_ofNat', hlead, hother]

theorem compose_three {a b c : Nat} (ha : a < 16) (hb : b < 64) (hc : c < 64) :
    compose (UInt8.ofNat (a + 224)) [UInt8.ofNat (b + 128), UInt8.ofNat (c + 128)] =
      Char.ofNat ((a * 64 + b) * 64 + c) := by
  have hlead : (a + 224) % 256 % 16 = a := by omega
  have hsecond : (b + 128) % 256 % 64 = b := by omega
  have hthird : (c + 128) % 256 % 64 = c := by omega
  simp [compose, UInt8.toNat_ofNat', hlead, hsecond, hthird]

theorem compose_four {a b c d : Nat} (ha : a < 8) (hb : b < 64) (hc : c < 64) (hd : d < 64) :
    compose (UInt8.ofNat (a + 240))
        [UInt8.ofNat (b + 128), UInt8.ofNat (c + 128), UInt8.ofNat (d + 128)] =
      Char.ofNat (((a * 64 + b) * 64 + c) * 64 + d) := by
  have hlead : (a + 240) % 256 % 8 = a := by omega
  have hsecond : (b + 128) % 256 % 64 = b := by omega
  have hthird : (c + 128) % 256 % 64 = c := by omega
  have hfourth : (d + 128) % 256 % 64 = d := by omega
  simp [compose, UInt8.toNat_ofNat', hlead, hsecond, hthird, hfourth]

/-- The bytes of a character are cut off as the character. -/
theorem units_utf8EncodeChar (c : Char) (rest : List UInt8) :
    units (String.utf8EncodeChar c ++ rest) = some c :: units rest := by
  have hvalid : c.val.toNat < 0xD800 ∨ (0xDFFF < c.val.toNat ∧ c.val.toNat < 0x110000) := c.valid
  have hcode : Char.ofNat c.val.toNat = c := Char.ofNat_toNat c
  unfold String.utf8EncodeChar
  generalize c.val.toNat = v at *
  dsimp only
  split_ifs with hone htwo hthree
  · have hsmall : v < 256 := by omega
    have hascii : UInt8.ofNat v < 0x80 := by
      rw [UInt8.lt_iff_toNat_lt, UInt8.toNat_ofNat_of_lt' hsmall]
      exact Nat.lt_succ_of_le hone
    rw [List.cons_append, List.nil_append, units_one hascii, UInt8.toNat_ofNat_of_lt' hsmall, hcode]
  · have hlead := lead?_of_two (v / 64 % 32 + 192) (by omega) (by omega)
    have hsecond := between_of_nat (n := v % 64 + 128) (show 128 ≤ _ by omega)
      (show _ ≤ 191 by omega) (by decide)
    have hvalue : v / 64 % 32 * 64 + v % 64 = v := by omega
    rw [List.cons_append, List.cons_append, List.nil_append,
      units_two (not_lt_ascii (by omega) (by omega)) hlead hsecond,
      compose_two (by omega) (by omega), hvalue, hcode]
  · have hlead := lead?_of_three (v / 4096 % 16 + 224) (by omega) (by omega)
    have hthird := continues_of_lt (v % 64) (by omega)
    -- no code that two bytes can write, and no surrogate
    have hlow : (if v / 4096 % 16 + 224 = 224 then 160 else 128) ≤ v / 64 % 64 + 128 := by
      split_ifs <;> omega
    have hhigh : v / 64 % 64 + 128 ≤ if v / 4096 % 16 + 224 = 237 then 159 else 191 := by
      split_ifs <;> omega
    have hsecond := between_of_nat hlow hhigh (by split_ifs <;> decide)
    have hvalue : (v / 4096 % 16 * 64 + v / 64 % 64) * 64 + v % 64 = v := by omega
    rw [List.cons_append, List.cons_append, List.cons_append, List.nil_append,
      units_three (not_lt_ascii (by omega) (by omega)) hlead hsecond hthird,
      compose_three (by omega) (by omega) (by omega), hvalue, hcode]
  · have hlead := lead?_of_four (v / 262144 % 8 + 240) (by omega) (by omega)
    have hthird := continues_of_lt (v / 64 % 64) (by omega)
    have hfourth := continues_of_lt (v % 64) (by omega)
    -- no code that three bytes can write, and none beyond the last
    have hlow : (if v / 262144 % 8 + 240 = 240 then 144 else 128) ≤ v / 4096 % 64 + 128 := by
      split_ifs <;> omega
    have hhigh : v / 4096 % 64 + 128 ≤ if v / 262144 % 8 + 240 = 244 then 143 else 191 := by
      split_ifs <;> omega
    have hsecond := between_of_nat hlow hhigh (by split_ifs <;> decide)
    have hvalue : ((v / 262144 % 8 * 64 + v / 4096 % 64) * 64 + v / 64 % 64) * 64 + v % 64 = v := by
      omega
    rw [List.cons_append, List.cons_append, List.cons_append, List.cons_append, List.nil_append,
      units_four (not_lt_ascii (by omega) (by omega)) hlead hsecond hthird hfourth,
      compose_four (by omega) (by omega) (by omega) (by omega), hvalue, hcode]

/-! ## Texts -/

theorem toList_loop (bytes : ByteArray) (i : Nat) (done : List UInt8) :
    ByteArray.toList.loop bytes i done = done.reverse ++ bytes.data.toList.drop i := by
  fun_induction ByteArray.toList.loop bytes i done with
  | case1 i done hi ih =>
    have hlength : i < bytes.data.toList.length := hi
    have hbyte : bytes.get! i = bytes.data.toList[i] := by
      show bytes.data[i]! = _
      rw [getElem!_pos bytes.data i hi]
      rfl
    rw [ih, List.reverse_cons, List.append_assoc, List.drop_eq_getElem_cons hlength, hbyte]
    rfl
  | case2 i done hi =>
    have hlength : bytes.data.toList.length ≤ i := Nat.not_lt.mp hi
    rw [List.drop_eq_nil_of_le hlength, List.append_nil]

/-- The bytes of a text, character by character. -/
theorem encode_eq (text : String) : encode text = text.toList.flatMap String.utf8EncodeChar := by
  unfold encode String.toUTF8 ByteArray.toList
  rw [toList_loop, ← String.utf8Encode_toList, List.utf8Encode, List.toList_data_toByteArray]
  rfl

/-- The bytes of a text are cut into its characters. -/
theorem units_encode (text : String) : units (encode text) = text.toList.map some := by
  rw [encode_eq]
  induction text.toList with
  | nil => rw [List.flatMap_nil, units.eq_def, List.map_nil]
  | cons c rest ih => rw [List.flatMap_cons, units_utf8EncodeChar, ih, List.map_cons]

theorem decode?_encode (text : String) : decode? (encode text) = some text := by
  have hall (chars : List Char) : (chars.map some).mapM id = some chars := by
    induction chars with
    | nil => rfl
    | cons c rest ih => simp [List.mapM_cons, ih]
  rw [decode?, units_encode, hall, Option.map_some, String.ofList_toList]

/-- The bytes of an ASCII text are the codes of its characters. -/
theorem encode_of_ascii {text : String} (h : ∀ c ∈ text.toList, c.toNat < 128) :
    encode text = text.toList.map fun c => UInt8.ofNat c.toNat := by
  have hchar : ∀ c ∈ text.toList, String.utf8EncodeChar c = [UInt8.ofNat c.toNat] := by
    intro c hc
    exact if_pos (Nat.le_of_lt_succ (h c hc))
  rw [encode_eq, List.flatMap_congr hchar, List.map_eq_flatMap]

/-- Bytes other than that of the percent sign stand for themselves. -/
theorem percentDecode_of_plain {bytes : List UInt8} (h : ∀ byte ∈ bytes, byte ≠ 0x25) :
    percentDecode bytes = bytes := by
  induction bytes with
  | nil => rfl
  | cons byte rest ih =>
    obtain ⟨hbyte, hrest⟩ := List.forall_mem_cons.mp h
    rw [percentDecode, ih hrest]
    intro _ _ _ hpercent
    exact absurd hpercent hbyte

/-- An ASCII text without a percent sign is not changed by undoing the encoding of addresses. -/
theorem decode?_percentDecode_of_ascii {text : String}
    (h : ∀ c ∈ text.toList, c.toNat < 128 ∧ c ≠ '%') :
    decode? (percentDecode (encode text)) = some text := by
  have hplain : ∀ byte ∈ encode text, byte ≠ 0x25 := by
    intro byte hbyte
    rw [encode_of_ascii fun c hc => (h c hc).1] at hbyte
    obtain ⟨c, hc, rfl⟩ := List.mem_map.mp hbyte
    obtain ⟨hascii, hne⟩ := h c hc
    intro hpercent
    have hsame : c.toNat % 256 = '%'.toNat := by
      rw [← UInt8.toNat_ofNat', hpercent]
      rfl
    rw [Nat.mod_eq_of_lt (by omega)] at hsame
    exact hne (Char.toNat_inj.mp hsame)
  rw [percentDecode_of_plain hplain, decode?_encode]

end TopicAlerts.Utf8
