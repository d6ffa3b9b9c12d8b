import Mathlib.Algebra.Group.Nat.Defs
import ScriptLauncher.Proofs.Runes
import ScriptLauncher.Text.Quoted

namespace ScriptLauncher

-- A character, or a byte that can only stand alone.
def Rune.Proper : Rune → Prop
  | .char _ => True
  | .stray b => 128 ≤ b.toNat

theorem Utf8.decode_proper {s : Bytes} {rune : Rune} (present : rune ∈ decode s) : rune.Proper := by
  cases rune with
  | char c => trivial
  | stray b => exact decode_stray present

-- A first byte of ASCII is all that there is of its character.
theorem encode_lead (c : Char) : ∃ b rest, String.utf8EncodeChar c = b :: rest ∧
    (b.toNat < 128 → c = Char.ofNat b.toNat) := by
  have far {n : Nat} (fits : n < 256) (high : 128 ≤ n) : ¬(UInt8.ofNat n).toNat < 128 := by
    rw [value_of_byte fits]
    omega
  simp only [String.utf8EncodeChar]
  split
  · rename_i low
    refine ⟨_,_,rfl,fun _ => ?_⟩
    rw [value_of_byte (by omega)]
    exact (Char.ofNat_toNat c).symm
  · split
    · exact ⟨_,_,rfl,fun low => (far (by omega) (by omega) low).elim⟩
    · split
      · exact ⟨_,_,rfl,fun low => (far (by omega) (by omega) low).elim⟩
      · exact ⟨_,_,rfl,fun low => (far (by omega) (by omega) low).elim⟩

namespace Quoted

-- Reading back what was quoted.

def digit (b : UInt8) : Nat := if b.toNat < 58 then b.toNat - 48 else b.toNat - 87

def number (digits : Bytes) : Nat := digits.foldl (fun n b => n * 16 + digit b) 0

theorem digit_hexDigit {n : Nat} (small : n < 16) : digit (hexDigit n) = n := by
  unfold hexDigit digit
  split
  · rw [Nat.toUInt8_eq,value_of_byte (by omega),if_pos (by omega)]
    omega
  · rw [Nat.toUInt8_eq,value_of_byte (by omega),if_neg (by omega)]
    omega

theorem hex_length (width n : Nat) : (hex width n).length = width := by
  induction width generalizing n with
  | zero => rfl
  | succ width ih => simp [hex,ih]

theorem number_hex {width n : Nat} (fits : n < 16 ^ width) : number (hex width n) = n := by
  induction width generalizing n with
  | zero =>
    simp only [Nat.pow_zero] at fits
    simp only [hex,number,List.foldl_nil]
    omega
  | succ width ih =>
    have shorter : n / 16 < 16 ^ width := Nat.div_lt_of_lt_mul (by rwa [Nat.mul_comm,← Nat.pow_succ])
    have before := ih shorter
    unfold number at before ⊢
    rw [hex,List.foldl_append,before,List.foldl_cons,List.foldl_nil,
      digit_hexDigit (Nat.mod_lt _ (by omega))]
    omega

-- The character behind a backslash: one that has a letter, or one that stands for itself.
def marked (b : UInt8) : Char :=
  (['\x07','\x08','\x0c','\n','\r','\t','\x0b'].find? fun c => letter? c == some b).getD
    (Char.ofNat b.toNat)

-- The first rune of an escaped text, and what follows it.
def rune? : Bytes → Option (Rune × Bytes)
  | 92 :: b :: s =>
    if b == byte 'x' then
      let n := number (s.take 2)
      some (if n < 128 then .char (Char.ofNat n) else .stray n.toUInt8,s.drop 2)
    else if b == byte 'u' then some (.char (Char.ofNat (number (s.take 4))),s.drop 4)
    else if b == byte 'U' then some (.char (Char.ofNat (number (s.take 8))),s.drop 8)
    else some (.char (marked b),s)
  | s => (s.toByteArray.utf8DecodeChar? 0).map fun c => (.char c,s.drop c.utf8Size)

-- The runes up to the closing quote, and what follows it.
def runes? : Nat → Bytes → Option (List Rune × Bytes)
  | 0,_ => none
  | _ + 1,[] => none
  | fuel + 1,b :: s =>
    if b == byte '"' then some ([],s)
    else do
      let (rune,rest) ← rune? (b :: s)
      let (runes,after) ← runes? fuel rest
      return (rune :: runes,after)

def unquote? : Bytes → Option (Bytes × Bytes)
  | [] => none
  | b :: s =>
    if b == byte '"' then
      (runes? s.length s).map fun (runes,after) => (runes.flatMap Rune.bytes,after)
    else none

section

variable {rune : Rune} {rest : Bytes}

theorem hex_read (width n : Nat) (rest : Bytes) :
    (hex width n ++ rest).take width = hex width n ∧ (hex width n ++ rest).drop width = rest := by
  have length := hex_length width n
  exact ⟨List.take_left' length,List.drop_left' length⟩

theorem rune?_plain {c : Char} (bare : c ≠ '\\') (rest : Bytes) :
    rune? (String.utf8EncodeChar c ++ rest) = some (.char c,rest) := by
  have read : (String.utf8EncodeChar c ++ rest).toByteArray.utf8DecodeChar? 0 = some c := by
    rw [List.toByteArray_append]
    exact ByteArray.utf8DecodeChar?_utf8EncodeChar_append
  obtain ⟨b,tail,spelled,low⟩ := encode_lead c
  have other : b ≠ 92 := by
    rintro rfl
    exact bare (low (by decide))
  have length := String.length_utf8EncodeChar c
  rw [spelled] at read length ⊢
  unfold rune?
  split
  · rename_i same
    exact (other (List.cons.inj same).1).elim
  · rw [read,Option.map_some,List.drop_left' length]

theorem rune?_letter {c : Char} {l : UInt8} (found : letter? c = some l) (rest : Bytes) :
    rune? (92 :: l :: rest) = some (.char c,rest) := by
  unfold letter? at found
  split at found <;> cases found <;> rfl

theorem rune?_escape (proper : rune.Proper) (rest : Bytes) :
    rune? (escape rune ++ rest) = some (rune,rest) := by
  have x : text "\\x" = [92,byte 'x'] := by decide
  have u : text "\\u" = [92,byte 'u'] := by decide
  have U : text "\\U" = [92,byte 'U'] := by decide
  cases rune with
  | stray b =>
    obtain ⟨digits,after⟩ := hex_read 2 b.toNat rest
    have high : ¬b.toNat < 128 := Nat.not_lt.mpr proper
    have value : number (hex 2 b.toNat) = b.toNat := number_hex b.toNat_lt
    simp [escape,x,rune?,digits,after,value,high]
  | char c =>
    rw [escape]
    split
    · rename_i special
      simp only [Bool.or_eq_true,beq_iff_eq] at special
      rcases special with rfl | rfl <;> rfl
    · rename_i bare
      split
      · rename_i printable
        refine rune?_plain ?_ rest
        rintro rfl
        exact bare rfl
      · split
        · rename_i l found
          exact rune?_letter found rest
        · split
          · rename_i low
            obtain ⟨digits,after⟩ := hex_read 2 c.toNat rest
            have value : number (hex 2 c.toNat) = c.toNat := number_hex (by omega)
            simp [x,rune?,digits,after,value,low]
          · split
            · rename_i low
              obtain ⟨digits,after⟩ := hex_read 4 c.toNat rest
              have value : number (hex 4 c.toNat) = c.toNat := number_hex low
              have other : ¬byte 'u' = byte 'x' := by decide
              simp [u,rune?,digits,after,value,other]
            · obtain ⟨digits,after⟩ := hex_read 8 c.toNat rest
              have value : number (hex 8 c.toNat) = c.toNat := number_hex c.val.toNat_lt
              have other : ¬byte 'U' = byte 'x' := by decide
              have other' : ¬byte 'U' = byte 'u' := by decide
              simp [U,rune?,digits,after,value,other,other']

-- No rune is written with a quote in front, so the first quote that is met is the closing one.
theorem escape_lead (rune : Rune) : ∃ b rest, escape rune = b :: rest ∧ b ≠ byte '"' := by
  have slash (rest : Bytes) : ∃ b tail, byte '\\' :: rest = b :: tail ∧ b ≠ byte '"' :=
    ⟨_,_,rfl,by decide⟩
  cases rune with
  | stray b => exact slash _
  | char c =>
    rw [escape]
    split
    · exact slash _
    · rename_i bare
      split
      · obtain ⟨b,rest,spelled,low⟩ := encode_lead c
        refine ⟨b,rest,spelled,?_⟩
        rintro rfl
        exact bare (by rw [low (by decide)]; rfl)
      · split
        · exact slash _
        · split
          · exact slash _
          · split
            · exact slash _
            · exact slash _

theorem runes?_escape {runes : List Rune} (proper : ∀ rune ∈ runes, rune.Proper) (rest : Bytes)
    {fuel : Nat} (enough : runes.length < fuel) :
    runes? fuel (runes.flatMap escape ++ byte '"' :: rest) = some (runes,rest) := by
  induction runes generalizing fuel with
  | nil =>
    cases fuel with
    | zero => cases enough
    | succ fuel => rfl
  | cons rune runes ih =>
    cases fuel with
    | zero => cases enough
    | succ fuel =>
      have later := ih (fun rune present => proper rune (List.mem_cons_of_mem _ present))
        (Nat.lt_of_succ_lt_succ enough)
      have read := rune?_escape (proper rune List.mem_cons_self)
        (runes.flatMap escape ++ byte '"' :: rest)
      obtain ⟨b,tail,spelled,other⟩ := escape_lead rune
      rw [List.flatMap_cons,List.append_assoc]
      rw [spelled] at read ⊢
      simp only [List.cons_append] at read ⊢
      simp [runes?,other,read,later]

theorem escaped_longer (runes : List Rune) : runes.length ≤ (runes.flatMap escape).length := by
  induction runes with
  | nil => exact Nat.le_refl 0
  | cons rune runes ih =>
    obtain ⟨b,tail,spelled,-⟩ := escape_lead rune
    rw [List.flatMap_cons,List.length_append,spelled]
    simp only [List.length_cons]
    omega

end

-- A quoted text can be read back, whatever its bytes are and whatever stands behind it.
theorem unquote?_quote (s rest : Bytes) : unquote? (quote s ++ rest) = some (s,rest) := by
  have spelled : quote s ++ rest =
      byte '"' :: ((Utf8.decode s).flatMap escape ++ byte '"' :: rest) := by simp [quote]
  have enough : (Utf8.decode s).length <
      ((Utf8.decode s).flatMap escape ++ byte '"' :: rest).length := by
    have longer := escaped_longer (Utf8.decode s)
    simp only [List.length_append,List.length_cons]
    omega
  have read := runes?_escape (fun _ => Utf8.decode_proper) rest enough
  simp only [spelled,unquote?,beq_self_eq_true,if_true,read,Option.map_some,Utf8.decode_bytes]

-- So it tells its text, and it tells where it ends.
theorem quote_append_inj {s t rest other : Bytes} (same : quote s ++ rest = quote t ++ other) :
    s = t ∧ rest = other := by
  have read := unquote?_quote s rest
  rw [same,unquote?_quote] at read
  cases read
  exact ⟨rfl,rfl⟩

end Quoted

end ScriptLauncher
