import Mathlib.Data.List.Forall2
import ScriptLauncher.Proofs.Entries

namespace ScriptLauncher

namespace Bytes

theorem byte_digit {c : Char} (digit : c.isDigit = true) : Char.ofNat (byte c).toNat = c := by
  simp only [Char.isDigit,Bool.and_eq_true,decide_eq_true_eq,UInt32.le_iff_toNat_le] at digit
  have bounds : 48 ≤ c.toNat ∧ c.toNat ≤ 57 := digit
  have value : (byte c).toNat = c.toNat := by
    have small : c.toNat % 256 = c.toNat := Nat.mod_eq_of_lt (by omega)
    exact small
  rw [value,Char.ofNat_toNat]

-- The number that decimal digits stand for.
def decimal (digits : Bytes) : Nat :=
  Nat.ofDigitChars 10 (digits.map fun b => Char.ofNat b.toNat) 0

theorem ofNat_digits (n : Nat) :
    (ofNat n).map (fun b => Char.ofNat b.toNat) = Nat.toDigits 10 n := by
  unfold ofNat
  rw [List.map_map]
  refine (List.map_congr_left fun c present => ?_).trans (List.map_id _)
  exact byte_digit (Nat.isDigit_of_mem_toDigits (by decide) (by decide) present)

theorem decimal_padded (width n : Nat) : decimal (padded width n) = n := by
  have zero : Char.ofNat (byte '0').toNat = '0' := by decide
  simp only [decimal,padded,List.map_append,List.map_replicate,zero,ofNat_digits,
    Nat.ofDigitChars_append,Nat.ofDigitChars_replicate_zero,Nat.mul_zero,
    Nat.ofDigitChars_ten_toDigits]

theorem padded_length {width n : Nat} (some_ : 0 < width) (fits : n < Nat.pow 10 width) :
    (padded width n).length = width := by
  have short : (ofNat n).length ≤ width := by
    unfold ofNat
    rw [List.length_map]
    exact (Nat.length_toDigits_le_iff (by decide) some_).mpr fits
  simp only [padded,List.length_append,List.length_replicate]
  omega

-- Numbers of one width can be read off the front of a text.
theorem padded_append_inj {width m n : Nat} (some_ : 0 < width) (first : m < Nat.pow 10 width)
    (second : n < Nat.pow 10 width) {s t : Bytes}
    (same : padded width m ++ s = padded width n ++ t) : m = n ∧ s = t := by
  have lengths : (padded width m).length = (padded width n).length := by
    rw [padded_length some_ first,padded_length some_ second]
  obtain ⟨digits,rest⟩ := List.append_inj same lengths
  refine ⟨?_,rest⟩
  rw [← decimal_padded width m,digits,decimal_padded]

-- What stands before the first separator.
theorem before_inj {sep : UInt8} {a b s t : Bytes} (first : sep ∉ a) (second : sep ∉ b)
    (same : a ++ sep :: s = b ++ sep :: t) : a = b ∧ s = t := by
  induction a generalizing b with
  | nil =>
    cases b with
    | nil => exact ⟨rfl,(List.cons.inj same).2⟩
    | cons c b => exact (second (by simp [(List.cons.inj same).1])).elim
  | cons d a ih =>
    cases b with
    | nil => exact (first (by simp [(List.cons.inj same).1])).elim
    | cons c b =>
      obtain ⟨head,tail⟩ := List.cons.inj same
      rw [List.mem_cons,not_or] at first second
      obtain ⟨front,rest⟩ := ih first.2 second.2 tail
      exact ⟨by rw [head,front],rest⟩

end Bytes

namespace Log

-- A time whose parts have no more digits than they are written with. Every time of the calendar is
-- one, from the year 0 to the end of the year 9999.
structure Moment.Fits (time : Moment) : Prop where
  year : time.year < 10000
  month : time.month < 100
  day : time.day < 100
  hour : time.hour < 100
  minute : time.minute < 100
  second : time.second < 100

instance (time : Moment) : Decidable time.Fits :=
  decidable_of_iff (time.year < 10000 ∧ time.month < 100 ∧ time.day < 100 ∧ time.hour < 100 ∧
      time.minute < 100 ∧ time.second < 100)
    ⟨fun ⟨year,month,day,hour,minute,second⟩ => ⟨year,month,day,hour,minute,second⟩,
      fun fits => ⟨fits.year,fits.month,fits.day,fits.hour,fits.minute,fits.second⟩⟩

theorem Moment.render_append_inj {one other : Moment} (first : one.Fits) (second : other.Fits)
    {s t : Bytes} (same : one.render ++ s = other.render ++ t) : one = other ∧ s = t := by
  simp only [Moment.render,List.append_assoc] at same
  obtain ⟨year,same⟩ := Bytes.padded_append_inj (by decide) first.year second.year same
  obtain ⟨month,same⟩ := Bytes.padded_append_inj (by decide) first.month second.month
    (List.append_cancel_left same)
  obtain ⟨day,same⟩ := Bytes.padded_append_inj (by decide) first.day second.day
    (List.append_cancel_left same)
  obtain ⟨hour,same⟩ := Bytes.padded_append_inj (by decide) first.hour second.hour
    (List.append_cancel_left same)
  obtain ⟨minute,same⟩ := Bytes.padded_append_inj (by decide) first.minute second.minute
    (List.append_cancel_left same)
  obtain ⟨last,rest⟩ := Bytes.padded_append_inj (by decide) first.second second.second
    (List.append_cancel_left same)
  cases one
  cases other
  simp_all

-- The labels of the levels differ in their first letter.
theorem Level.label_append_inj {one other : Level} {s t : Bytes}
    (same : one.label ++ s = other.label ++ t) : one = other ∧ s = t := by
  have debug : Level.debug.label = [68,69,66,85,71] := by decide
  have info : Level.info.label = [73,78,70,79] := by decide
  have warn : Level.warn.label = [87,65,82,78] := by decide
  have error : Level.error.label = [69,82,82,79,82] := by decide
  cases one <;> cases other <;> simp_all

theorem runLabel_free {b : UInt8} {runId : Bytes} (free : b ∉ runId)
    (foreign : b ∉ text "global" ∧ b ∉ text "run-") : b ∉ runLabel runId := by
  unfold runLabel
  split
  · exact foreign.1
  · rw [List.mem_append,not_or]
    exact ⟨foreign.2,fun present => free (List.mem_of_mem_take present)⟩

-- A label tells as much of the id as is written, and whether there is one.
theorem runLabel_exact {one other : Bytes} :
    runLabel one = runLabel other ↔ one.take runIdWidth = other.take runIdWidth := by
  have nobody : text "global" = [103,108,111,98,97,108] := by decide
  have lead : text "run-" = [114,117,110,45] := by decide
  cases one <;> cases other <;> simp [runLabel,runIdWidth,nobody,lead]

-- What an entry must not have in its parts, so that they can be told apart on a line.
structure Entry.Separable (entry : Entry) : Prop where
  runId : byte ']' ∉ entry.runId
  category : byte ']' ∉ entry.category
  message : entry.message.Line

instance (entry : Entry) : Decidable entry.Separable :=
  decidable_of_iff (byte ']' ∉ entry.runId ∧ byte ']' ∉ entry.category ∧ entry.message.Line)
    ⟨fun ⟨runId,category,message⟩ => ⟨runId,category,message⟩,
      fun plain => ⟨plain.runId,plain.category,plain.message⟩⟩

-- Lines that say the same. Only the end of a long id is not to be seen.
structure Alike (one other : Moment × Entry) : Prop where
  time : one.1 = other.1
  level : one.2.level = other.2.level
  category : one.2.category = other.2.category
  message : one.2.message = other.2.message
  runId : one.2.runId.take runIdWidth = other.2.runId.take runIdWidth
  owned : one.2.runId = [] ↔ other.2.runId = []

theorem take_owned {one other : Bytes} (same : one.take runIdWidth = other.take runIdWidth) :
    one = [] ↔ other = [] := by
  cases one <;> cases other <;> simp_all [runIdWidth]

theorem render_alike {time clock : Moment} {one other : Entry} (first : time.Fits)
    (second : clock.Fits) (plain : one.Separable) (also : other.Separable) {s t : Bytes}
    (same : render time one ++ s = render clock other ++ t) :
    Alike (time,one) (clock,other) ∧ s = t := by
  have between : text "] [" = byte ']' :: text " [" := by decide
  have closing : text "] " = byte ']' :: text " " := by decide
  have ended : text "\n" = [Bytes.newline] := by decide
  have foreign : byte ']' ∉ text "global" ∧ byte ']' ∉ text "run-" := by decide
  simp only [render,List.append_assoc] at same
  obtain ⟨when_,same⟩ := Moment.render_append_inj first second (List.append_cancel_left same)
  obtain ⟨level,same⟩ := Level.label_append_inj (List.append_cancel_left same)
  have same := List.append_cancel_left same
  rw [between] at same
  obtain ⟨label,same⟩ := Bytes.before_inj (runLabel_free plain.runId foreign)
    (runLabel_free also.runId foreign) same
  have same := List.append_cancel_left same
  rw [closing] at same
  obtain ⟨category,same⟩ := Bytes.before_inj plain.category also.category same
  have same := List.append_cancel_left same
  rw [ended] at same
  obtain ⟨message,rest⟩ := Bytes.before_inj plain.message also.message same
  have runId := runLabel_exact.mp label
  exact ⟨⟨when_,level,category,message,runId,take_owned runId⟩,rest⟩

theorem Alike.render {one other : Moment × Entry} (alike : Alike one other) :
    Log.render one.1 one.2 = Log.render other.1 other.2 := by
  simp only [Log.render,alike.time,alike.level,runLabel_exact.mpr alike.runId,alike.category,
    alike.message]

-- What stands in a log that these entries were written to, each at its time.
def transcript (stamped : List (Moment × Entry)) : Bytes :=
  stamped.flatMap fun line => render line.1 line.2

theorem render_ne_nil (time : Moment) (entry : Entry) : render time entry ≠ [] := by
  have opening : text "[" = [91] := by decide
  simp [render,opening]

-- A log tells what was written to it, entry by entry and in its order: as many entries, and of each
-- all that its line says.
theorem log_is_decodable {one other : List (Moment × Entry)}
    (first : ∀ line ∈ one, line.1.Fits ∧ line.2.Separable)
    (second : ∀ line ∈ other, line.1.Fits ∧ line.2.Separable) :
    transcript one = transcript other ↔ List.Forall₂ Alike one other := by
  constructor
  · intro same
    induction one generalizing other with
    | nil =>
      cases other with
      | nil => exact .nil
      | cons line rest => exact (render_ne_nil _ _ (List.append_eq_nil_iff.mp same.symm).1).elim
    | cons line rest ih =>
      cases other with
      | nil => exact (render_ne_nil _ _ (List.append_eq_nil_iff.mp same).1).elim
      | cons next more =>
        obtain ⟨here,later⟩ := List.forall_mem_cons.mp first
        obtain ⟨there,further⟩ := List.forall_mem_cons.mp second
        obtain ⟨alike,rest⟩ := render_alike here.1 there.1 here.2 there.2 same
        exact .cons alike (ih later further rest)
  · intro alike
    induction alike with
    | nil => rfl
    | cons alike _ ih =>
      obtain ⟨-,later⟩ := List.forall_mem_cons.mp first
      obtain ⟨-,further⟩ := List.forall_mem_cons.mp second
      exact congrArg₂ (· ++ ·) alike.render (ih later further)

-- A message that looks like the start of a line, a category of two lines, and an id that is cut
-- inside a character.
def bracketed (runId : Bytes) : List (Moment × Entry) :=
  [(⟨0,1,1,0,0,0⟩,⟨.debug,[],text "a\nb",text "] [x] [0000-01-01 00:00:00] [WARN]"⟩),
    (⟨9999,12,31,23,59,59⟩,⟨.error,runId,[],text "[run-] "⟩)]

theorem cut_ids_are_alike :
    transcript (bracketed (text "1234567é1")) = transcript (bracketed (text "1234567è23")) ∧
      List.Forall₂ Alike (bracketed (text "1234567é1")) (bracketed (text "1234567è23")) := by
  have same : transcript (bracketed (text "1234567é1")) =
      transcript (bracketed (text "1234567è23")) := by decide
  exact ⟨same,(log_is_decodable (by decide) (by decide)).mp same⟩

end Log

end ScriptLauncher
