import ScriptLauncher.Proofs.Quoting
import ScriptLauncher.RunId

namespace ScriptLauncher

namespace Bytes

-- A text that fits on one line.
def Line (s : Bytes) : Prop := newline ∉ s

instance (s : Bytes) : Decidable s.Line := inferInstanceAs (Decidable (newline ∉ s))

@[simp] theorem line_nil : Line [] := List.not_mem_nil

@[simp] theorem line_append (s t : Bytes) : Line (s ++ t) ↔ s.Line ∧ t.Line := by
  simp [Line,not_or]

@[simp] theorem line_cons (b : UInt8) (s : Bytes) : Line (b :: s) ↔ b ≠ newline ∧ s.Line := by
  simp [Line,not_or,eq_comm]

theorem join_line {sep : Bytes} {pieces : List Bytes} (single : sep.Line)
    (lines : ∀ piece ∈ pieces, Line piece) : Line (join sep pieces) := by
  induction pieces with
  | nil => exact line_nil
  | cons piece rest ih =>
    obtain ⟨first,others⟩ := List.forall_mem_cons.mp lines
    cases rest with
    | nil => exact first
    | cons next rest =>
      rw [join,line_append,line_append]
      · exact ⟨⟨first,single⟩,ih others⟩
      · simp

theorem splitOn_line (sep : UInt8) {s : Bytes} (line : s.Line) :
    ∀ piece ∈ splitOn sep s, Line piece := by
  induction s with
  | nil => simp [splitOn]
  | cons b s ih =>
    rw [line_cons] at line
    have later := ih line.2
    by_cases cut : b = sep
    · simpa [splitOn,cut] using later
    · cases pieces : splitOn sep s with
      | nil => exact (splitOn_ne_nil _ _ pieces).elim
      | cons piece rest =>
        rw [pieces] at later
        simpa [splitOn,cut,pieces,line.1] using later

theorem ofNat_ne {n : Nat} (fits : n < 256) (other : n ≠ 10) : UInt8.ofNat n ≠ newline := by
  intro same
  have equal : n % 256 = 10 := congrArg UInt8.toNat same
  omega

theorem digit_ne {c : Char} (digit : c.isDigit = true) : byte c ≠ newline := by
  simp only [Char.isDigit,Bool.and_eq_true,decide_eq_true_eq,UInt32.le_iff_toNat_le] at digit
  have bounds : 48 ≤ c.val.toNat ∧ c.val.toNat ≤ 57 := digit
  exact ofNat_ne (by omega) (by omega)

theorem ofNat_line (n : Nat) : Line (ofNat n) := by
  unfold ofNat Line
  rw [List.mem_map]
  rintro ⟨digit,present,same⟩
  exact digit_ne (Nat.isDigit_of_mem_toDigits (by decide) (by decide) present) same

theorem ofInt_line (code : Int) : Line (ofInt code) := by
  cases code with
  | ofNat n => exact ofNat_line n
  | negSucc n => exact (line_cons _ _).mpr ⟨by decide,ofNat_line _⟩

theorem padded_line (width n : Nat) : Line (padded width n) := by
  refine (line_append _ _).mpr ⟨?_,ofNat_line n⟩
  intro present
  have zero : newline = byte '0' := List.eq_of_mem_replicate present
  revert zero
  decide

end Bytes

open Bytes

namespace Quoted

theorem hexDigit_ne {n : Nat} (small : n < 16) : hexDigit n ≠ newline := by
  unfold hexDigit
  split
  · exact ofNat_ne (by omega) (by omega)
  · exact ofNat_ne (by omega) (by omega)

theorem hex_line (width n : Nat) : Line (hex width n) := by
  induction width generalizing n with
  | zero => exact line_nil
  | succ width ih =>
    have digit : hexDigit (n % 16) ≠ newline := hexDigit_ne (by omega)
    simp [hex,ih,digit]

-- No character but the newline itself is written with that byte.
theorem char_line {c : Char} (other : c ≠ '\n') : Line (Rune.bytes (.char c)) := by
  have value : c.val.toNat ≠ 10 := fun same => other (Char.ext (UInt32.toNat_inj.mp same))
  have high {n : Nat} (low : 128 ≤ n) (fits : n < 256) : UInt8.ofNat n ≠ newline :=
    ofNat_ne fits (by omega)
  simp only [Rune.bytes,String.utf8EncodeChar]
  split
  · exact (line_cons _ _).mpr ⟨ofNat_ne (by omega) value,line_nil⟩
  · split
    · simp only [line_cons]
      exact ⟨high (by omega) (by omega),high (by omega) (by omega),line_nil⟩
    · split
      · simp only [line_cons]
        exact ⟨high (by omega) (by omega),high (by omega) (by omega),high (by omega) (by omega),
          line_nil⟩
      · simp only [line_cons]
        exact ⟨high (by omega) (by omega),high (by omega) (by omega),high (by omega) (by omega),
          high (by omega) (by omega),line_nil⟩

theorem letter_ne {c : Char} {letter : UInt8} (found : letter? c = some letter) :
    letter ≠ newline := by
  unfold letter? at found
  split at found <;> cases found <;> decide

theorem escape_line (rune : Rune) : Line (escape rune) := by
  have slash : byte '\\' ≠ newline := by decide
  have marked (lead : Bytes) (line : lead.Line) (width n : Nat) : Line (lead ++ hex width n) :=
    (line_append _ _).mpr ⟨line,hex_line width n⟩
  cases rune with
  | stray b => exact marked _ (by decide) _ _
  | char c =>
    rw [escape]
    split
    · rename_i special
      have kept : byte c ≠ newline := by
        simp only [Bool.or_eq_true,beq_iff_eq] at special
        rcases special with rfl | rfl <;> decide
      simp [slash,kept]
    · split
      · rename_i printable
        refine char_line ?_
        rintro rfl
        revert printable
        decide
      · split
        · rename_i found
          simp [slash,letter_ne found]
        · split
          · exact marked _ (by decide) _ _
          · split
            · exact marked _ (by decide) _ _
            · exact marked _ (by decide) _ _

-- Whatever a text is made of, quoted it is one line.
theorem quote_line (s : Bytes) : Line (quote s) := by
  have mark : byte '"' ≠ newline := by decide
  have body : Line ((Utf8.decode s).flatMap escape) := by
    intro present
    obtain ⟨rune,-,inside⟩ := List.mem_flatMap.mp present
    exact escape_line rune inside
  simp [quote,mark,body]

end Quoted

namespace RunId

theorem hex_line (b : UInt8) : Line (hex b) := by
  have fits := b.toNat_lt
  have first : hexDigit (b.toNat / 16) ≠ newline := Quoted.hexDigit_ne (by omega)
  have second : hexDigit (b.toNat % 16) ≠ newline := Quoted.hexDigit_ne (by omega)
  simp [hex,first,second]

theorem ofBytes_line (seed : List UInt8) : Line (ofBytes seed) := by
  refine join_line (by decide) fun piece present => ?_
  obtain ⟨group,-,rfl⟩ := List.mem_map.mp present
  intro inside
  obtain ⟨b,-,digit⟩ := List.mem_flatMap.mp inside
  exact hex_line b digit

end RunId

namespace Path

theorem push_line (rooted : Bool) {kept : List Bytes} {part : Bytes}
    (lines : ∀ name ∈ kept, Line name) (line : part.Line) :
    ∀ name ∈ push rooted kept part, Line name := by
  have climb : Line dotDot := by decide
  unfold push
  split
  · exact lines
  · split
    · split
      · split
        · simp
        · simpa using climb
      · rename_i top rest
        split
        · exact List.forall_mem_cons.mpr ⟨climb,lines⟩
        · exact (List.forall_mem_cons.mp lines).2
    · exact List.forall_mem_cons.mpr ⟨line,lines⟩

theorem reduce_line (rooted : Bool) {parts : List Bytes} (lines : ∀ part ∈ parts, Line part) :
    ∀ name ∈ reduce rooted parts, Line name := by
  have folded (kept : List Bytes) (before : ∀ name ∈ kept, Line name) :
      ∀ name ∈ parts.foldl (push rooted) kept, Line name := by
    induction parts generalizing kept with
    | nil => exact before
    | cons part rest ih =>
      obtain ⟨first,others⟩ := List.forall_mem_cons.mp lines
      exact ih others _ (push_line rooted before first)
  intro name present
  exact folded [] (by simp) name (List.mem_reverse.mp present)

theorem clean_line {path : Bytes} (line : path.Line) : Line (clean path) := by
  have slash : Line [Bytes.slash] := by decide
  have joined : Line (Bytes.join [Bytes.slash] (reduce (isAbsolute path) (components path))) :=
    Bytes.join_line slash (reduce_line _ (splitOn_line _ line))
  unfold clean render
  split
  · exact (line_append [Bytes.slash] _).mpr ⟨slash,joined⟩
  · split
    · decide
    · exact joined

theorem join_line {parts : List Bytes} (lines : ∀ part ∈ parts, Line part) :
    Line (join parts) := by
  unfold join
  split
  · exact line_nil
  · refine clean_line (Bytes.join_line (by decide) fun part present => ?_)
    exact lines part (List.mem_filter.mp present).1

end Path

namespace Words

-- What is read from one line are words of one line.
theorem scan_lines {place : Place} {word s : Bytes} {words : List Bytes}
    (read : scan place word s = .ok words) (begun : word.Line) (line : s.Line) :
    ∀ piece ∈ words, Line piece := by
  fun_induction scan place word s generalizing words with
  | case3 word =>
    cases read
    simpa using begun
  | case15 word b s blank ih =>
    cases later : scan .gap [] s with
    | error open_ =>
      rw [later] at read
      cases read
    | ok rest =>
      rw [later] at read
      cases read
      exact List.forall_mem_cons.mpr ⟨begun,ih later line_nil ((line_cons _ _).mp line).2⟩
  | case29 word b s inked plain ih =>
    have slash : backslash ≠ newline := by decide
    exact ih read (by simp_all) ((line_cons _ _).mp line).2
  | _ => simp_all

theorem split_lines {line : Bytes} {words : List Bytes} (read : split line = .ok words)
    (single : line.Line) : ∀ word ∈ words, Line word :=
  scan_lines read line_nil single

theorem guarded_line {b : UInt8} (solid : b ≠ newline) : Line (guarded b) := by
  have slash : backslash ≠ newline := by decide
  unfold guarded
  split <;> simp [slash,solid]

theorem escapeBare_line {word : Bytes} (line : word.Line) : Line (escapeBare word) := by
  cases word with
  | nil => exact line_nil
  | cons b rest =>
    rw [line_cons] at line
    have slash : backslash ≠ newline := by decide
    refine (line_append _ _).mpr ⟨?_,?_⟩
    · split <;> simp [slash,line.1]
    · intro present
      obtain ⟨c,inside,here⟩ := List.mem_flatMap.mp present
      have solid : c ≠ newline := fun same => line.2 (same ▸ inside)
      exact guarded_line solid here

theorem quote_line {word : Bytes} (line : word.Line) : Line (quote word) := by
  unfold quote
  split
  · decide
  · split
    · rw [quoteBlanks_eq]
      refine join_line (by decide) fun piece present => ?_
      obtain ⟨run,inside,rfl⟩ := List.mem_map.mp present
      have solid := splitOn_line quoteMark line run inside
      have mark : quoteMark ≠ newline := by decide
      unfold enclosed
      split
      · exact line_nil
      · simp [solid,mark]
    · exact escapeBare_line line

-- Words are written on one line exactly if each of them is one: read back, they are the same.
theorem join_line_iff (words : List Bytes) : Line (join words) ↔ ∀ word ∈ words, Line word := by
  constructor
  · exact split_lines (split_join words)
  · intro lines
    refine join_line (by decide) fun piece present => ?_
    obtain ⟨word,inside,rfl⟩ := List.mem_map.mp present
    exact quote_line (lines word inside)

end Words

end ScriptLauncher
