import ScriptLauncher.Text.Utf8

namespace ScriptLauncher

theorem byte_of_value {n : Nat} {b : UInt8} (same : n = b.toNat) : UInt8.ofNat n = b := by
  rw [same,UInt8.ofNat_toNat]

theorem value_of_byte {n : Nat} (fits : n < 256) : (UInt8.ofNat n).toNat = n := by
  rw [UInt8.toNat_ofNat']
  exact Nat.mod_eq_of_lt fits

theorem char_value {n : Nat} (valid : n.isValidChar) : (Char.ofNat n).val.toNat = n := by
  rw [Char.ofNat,dif_pos valid]
  rfl

namespace Utf8

theorem within_exact {lo b hi : UInt8} :
    (decide (lo ≤ b) && decide (b ≤ hi)) = true ↔ lo.toNat ≤ b.toNat ∧ b.toNat ≤ hi.toNat := by
  simp [UInt8.le_iff_toNat_le]

theorem isTail_exact {b : UInt8} : isTail b = true ↔ 128 ≤ b.toNat ∧ b.toNat ≤ 191 := within_exact

-- A character is written with the bytes that it was read from, one statement for each number of
-- bytes. What is asked of the second byte keeps out values that have a shorter form, surrogates and
-- values above the last character.

section

variable {a b c d : UInt8}

theorem encode_one (lead : a.toNat < 128) : String.utf8EncodeChar (Char.ofNat a.toNat) = [a] := by
  have value := char_value (n := a.toNat) (.inl (by omega))
  simp only [String.utf8EncodeChar,value]
  rw [if_pos (by omega),UInt8.ofNat_toNat]

theorem encode_two (lead : 194 ≤ a.toNat ∧ a.toNat ≤ 223) (tail : isTail b = true) :
    String.utf8EncodeChar (Char.ofNat (bits a 32 * 64 + bits b 64)) = [a,b] := by
  rw [isTail_exact] at tail
  unfold bits
  have value := char_value (n := a.toNat % 32 * 64 + b.toNat % 64) (.inl (by omega))
  simp only [String.utf8EncodeChar,value]
  rw [if_neg (by omega),if_pos (by omega),byte_of_value (b := a) (by omega),
    byte_of_value (b := b) (by omega)]

theorem encode_three (lead : 224 ≤ a.toNat ∧ a.toNat ≤ 239) (second : isTail b = true)
    (tail : isTail c = true) (long : a.toNat = 224 → 160 ≤ b.toNat)
    (scalar : a.toNat = 237 → b.toNat ≤ 159) :
    String.utf8EncodeChar (Char.ofNat ((bits a 16 * 64 + bits b 64) * 64 + bits c 64)) =
      [a,b,c] := by
  rw [isTail_exact] at second tail
  unfold bits
  have valid : ((a.toNat % 16 * 64 + b.toNat % 64) * 64 + c.toNat % 64).isValidChar := by
    unfold Nat.isValidChar
    omega
  simp only [String.utf8EncodeChar,char_value valid]
  rw [if_neg (by omega),if_neg (by omega),if_pos (by omega),byte_of_value (b := a) (by omega),
    byte_of_value (b := b) (by omega),byte_of_value (b := c) (by omega)]

theorem encode_four (lead : 240 ≤ a.toNat ∧ a.toNat ≤ 244) (second : isTail b = true)
    (third : isTail c = true) (tail : isTail d = true) (long : a.toNat = 240 → 144 ≤ b.toNat)
    (scalar : a.toNat = 244 → b.toNat ≤ 143) :
    String.utf8EncodeChar (Char.ofNat
      (((bits a 8 * 64 + bits b 64) * 64 + bits c 64) * 64 + bits d 64)) = [a,b,c,d] := by
  rw [isTail_exact] at second third tail
  unfold bits
  have valid : (((a.toNat % 8 * 64 + b.toNat % 64) * 64 + c.toNat % 64) * 64 +
      d.toNat % 64).isValidChar := .inr ⟨by omega,by omega⟩
  simp only [String.utf8EncodeChar,char_value valid]
  rw [if_neg (by omega),if_neg (by omega),if_neg (by omega),byte_of_value (b := a) (by omega),
    byte_of_value (b := b) (by omega),byte_of_value (b := c) (by omega),
    byte_of_value (b := d) (by omega)]

-- The range that the second byte has to be in, where one first byte asks for more and another one
-- for less.
theorem second_bounds {least most lo hi : UInt8}
    (bounds : (decide ((if a == least then lo else 128) ≤ b) &&
      decide (b ≤ if a == most then hi else 191)) = true)
    (low : 128 ≤ lo.toNat) (high : hi.toNat ≤ 191) :
    isTail b = true ∧ (a.toNat = least.toNat → lo.toNat ≤ b.toNat) ∧
      (a.toNat = most.toNat → b.toNat ≤ hi.toNat) := by
  rw [within_exact] at bounds
  obtain ⟨above,below⟩ := bounds
  refine ⟨isTail_exact.mpr ⟨?_,?_⟩,?_,?_⟩
  · split at above
    · omega
    · exact above
  · split at below
    · omega
    · exact below
  · intro same
    simpa [UInt8.toNat_inj.mp same] using above
  · intro same
    simpa [UInt8.toNat_inj.mp same] using below

end

theorem scalar?_encodes {a : UInt8} {s : Bytes} {c : Char} {k : Nat}
    (read : scalar? a s = some (c,k)) : String.utf8EncodeChar c = a :: s.take k := by
  unfold scalar? at read
  dsimp only at read
  split at read
  · rename_i low
    cases read
    exact encode_one (UInt8.lt_iff_toNat_lt.mp low)
  · split at read
    · rename_i lead
      split at read
      · obtain ⟨tail,made⟩ := Option.ite_none_right_eq_some.mp read
        cases made
        exact encode_two (within_exact.mp lead) tail
      · cases read
    · split at read
      · rename_i lead
        split at read
        · obtain ⟨tails,made⟩ := Option.ite_none_right_eq_some.mp read
          cases made
          rw [Bool.and_eq_true] at tails
          obtain ⟨second,long,scalar⟩ := second_bounds tails.1 (by decide) (by decide)
          exact encode_three (within_exact.mp lead) second tails.2 long scalar
        · cases read
      · obtain ⟨lead,inside⟩ := Option.ite_none_right_eq_some.mp read
        split at inside
        · obtain ⟨tails,made⟩ := Option.ite_none_right_eq_some.mp inside
          cases made
          rw [Bool.and_eq_true,Bool.and_eq_true] at tails
          obtain ⟨second,long,scalar⟩ := second_bounds tails.1.1 (by decide) (by decide)
          exact encode_four (within_exact.mp lead) second tails.1.2 tails.2 long scalar
        · cases inside

theorem scalar?_none {a : UInt8} {s : Bytes} (unread : scalar? a s = none) : 128 ≤ a.toNat := by
  unfold scalar? at unread
  dsimp only at unread
  split at unread
  · cases unread
  · rename_i high
    exact UInt8.le_iff_toNat_le.mp (UInt8.not_lt.mp high)

-- Nothing is lost when a text is read, and a byte that stands alone is none of ASCII.
theorem decodeFrom_bytes (k : Nat) (s : Bytes) :
    (decodeFrom k s).flatMap Rune.bytes = s.drop k ∧
      ∀ b, Rune.stray b ∈ decodeFrom k s → 128 ≤ b.toNat := by
  induction s generalizing k with
  | nil => cases k <;> simp [decodeFrom]
  | cons a s ih =>
    cases k with
    | succ k => exact ih k
    | zero =>
      unfold decodeFrom
      split
      · rename_i c k read
        obtain ⟨bytes,strays⟩ := ih k
        constructor
        · rw [List.flatMap_cons,bytes,Rune.bytes,scalar?_encodes read]
          simp
        · simpa using strays
      · rename_i unread
        obtain ⟨bytes,strays⟩ := ih 0
        constructor
        · simpa [Rune.bytes] using bytes
        · intro b present
          rcases List.mem_cons.mp present with same | later
          · cases same
            exact scalar?_none unread
          · exact strays b later

theorem decode_bytes (s : Bytes) : (decode s).flatMap Rune.bytes = s := (decodeFrom_bytes 0 s).1

theorem decode_stray {s : Bytes} {b : UInt8} (present : Rune.stray b ∈ decode s) : 128 ≤ b.toNat :=
  (decodeFrom_bytes 0 s).2 b present

end Utf8

end ScriptLauncher
