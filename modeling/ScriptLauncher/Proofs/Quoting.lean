import ScriptLauncher.Launch
import ScriptLauncher.Proofs.Bytes

namespace ScriptLauncher

namespace Words

-- Bytes that the reader takes into a word as they stand.
def Literal (b : UInt8) : Prop :=
  isBlank b = false ∧ b ≠ backslash ∧ b ≠ quoteMark ∧ b ≠ doubleMark

theorem literal_of_plain {b : UInt8} (plain : isSpecial b = false) (solid : isBlank b = false) :
    Literal b := by
  refine ⟨solid,?_,?_,?_⟩
  all_goals
    rintro rfl
    revert plain
    decide

theorem newline_of_blank {b : UInt8} (solid : isBlank b = false) : b ≠ Bytes.newline := by
  rintro rfl
  revert solid
  decide

theorem scan_literal {b : UInt8} (literal : Literal b) (word s : Bytes) :
    scan .raw word (b :: s) = scan .raw (word ++ [b]) s := by
  obtain ⟨solid,slash,quote,double⟩ := literal
  simp [scan,solid,slash,quote,double]

theorem scan_escaped {b : UInt8} (inked : b ≠ Bytes.newline) (word s : Bytes) :
    scan .raw word (backslash :: b :: s) = scan .raw (word ++ [b]) s := by
  have solid : isBlank backslash = false := by decide
  simp [scan,solid,inked]

-- Between words the reader stands where an empty word would begin, unless the next bytes are
-- blank or an escaped newline.
def Opens : Bytes → Prop
  | [] => False
  | b :: s => isBlank b = false ∧ (b = backslash → ∃ c t, s = c :: t ∧ c ≠ Bytes.newline)

theorem opens_quoteMark (s : Bytes) : Opens (quoteMark :: s) := by
  have other : quoteMark ≠ backslash := by decide
  exact ⟨by decide,fun slash => (other slash).elim⟩

theorem Opens.append {s : Bytes} (opens : Opens s) (t : Bytes) : Opens (s ++ t) := by
  cases s with
  | nil => exact opens.elim
  | cons b s =>
    refine ⟨opens.1,fun slash => ?_⟩
    obtain ⟨c,u,rfl,inked⟩ := opens.2 slash
    exact ⟨c,u ++ t,rfl,inked⟩

theorem scan_gap {s : Bytes} (opens : Opens s) (word : Bytes) :
    scan .gap word s = scan .raw [] s := by
  cases s with
  | nil => exact opens.elim
  | cons b s =>
    obtain ⟨solid,escaped⟩ := opens
    by_cases slash : b = backslash
    · obtain ⟨c,t,rfl,inked⟩ := escaped slash
      subst slash
      rw [scan_escaped inked]
      simp [scan,solid,inked]
    · simp [scan,solid,slash]

-- A word without blanks, byte by byte.
def guarded (b : UInt8) : Bytes := if isSpecial b then [backslash,b] else [b]

theorem scan_guarded {b : UInt8} (solid : isBlank b = false) (word s : Bytes) :
    scan .raw word (guarded b ++ s) = scan .raw (word ++ [b]) s := by
  unfold guarded
  cases special : isSpecial b with
  | true => simpa using scan_escaped (newline_of_blank solid) word s
  | false => simpa using scan_literal (literal_of_plain special solid) word s

theorem scan_guarded_all {rest : Bytes} (solid : ∀ b ∈ rest, isBlank b = false) (word s : Bytes) :
    scan .raw word (rest.flatMap guarded ++ s) = scan .raw (word ++ rest) s := by
  induction rest generalizing word with
  | nil => simp
  | cons b rest ih =>
    obtain ⟨here,there⟩ := List.forall_mem_cons.mp solid
    rw [List.flatMap_cons,List.append_assoc,scan_guarded here,ih there]
    simp

theorem scan_escapeBare {word : Bytes} (solid : ∀ b ∈ word, isBlank b = false) (before s : Bytes) :
    scan .raw before (escapeBare word ++ s) = scan .raw (before ++ word) s := by
  cases word with
  | nil => simp [escapeBare]
  | cons b rest =>
    obtain ⟨here,there⟩ := List.forall_mem_cons.mp solid
    have first : scan .raw before
        ((if isSpecial b || b == byte '~' then [backslash,b] else [b]) ++
          (rest.flatMap guarded ++ s)) =
        scan .raw (before ++ [b]) (rest.flatMap guarded ++ s) := by
      split
      · exact scan_escaped (newline_of_blank here) _ _
      · rename_i plain
        have plain : isSpecial b = false := by simp_all
        exact scan_literal (literal_of_plain plain here) _ _
    calc scan .raw before (escapeBare (b :: rest) ++ s)
        = scan .raw before
          ((if isSpecial b || b == byte '~' then [backslash,b] else [b]) ++
            (rest.flatMap guarded ++ s)) := by simp only [escapeBare,List.append_assoc]; rfl
      _ = scan .raw (before ++ [b]) (rest.flatMap guarded ++ s) := first
      _ = scan .raw (before ++ b :: rest) s := by rw [scan_guarded_all there]; simp

theorem escapeBare_opens {word : Bytes} (some_ : word ≠ [])
    (solid : ∀ b ∈ word, isBlank b = false) : Opens (escapeBare word) := by
  cases word with
  | nil => exact (some_ rfl).elim
  | cons b rest =>
    have here := solid b (by simp)
    rw [escapeBare]
    cases special : isSpecial b || b == byte '~' with
    | true => exact ⟨by decide,fun _ => ⟨b,_,rfl,newline_of_blank here⟩⟩
    | false =>
      have plain : isSpecial b = false := (Bool.or_eq_false_iff.mp special).1
      exact ⟨here,fun slash => ((literal_of_plain plain here).2.1 slash).elim⟩

-- A word with blanks, run by run between its single quotes.
def enclosed (run : Bytes) : Bytes := if run.isEmpty then [] else quoteMark :: run ++ [quoteMark]

theorem scan_single {run : Bytes} (free : quoteMark ∉ run) (word s : Bytes) :
    scan .single word (run ++ quoteMark :: s) = scan .raw (word ++ run) s := by
  induction run generalizing word with
  | nil => simp [scan]
  | cons b run ih =>
    have other : b ≠ quoteMark := fun equal => free (by simp [equal])
    have tail : quoteMark ∉ run := fun present => free (by simp [present])
    simp [scan,other,ih tail]

theorem scan_enclosed {run : Bytes} (free : quoteMark ∉ run) (word s : Bytes) :
    scan .raw word (enclosed run ++ s) = scan .raw (word ++ run) s := by
  cases run with
  | nil => simp [enclosed]
  | cons b run =>
    have solid : isBlank quoteMark = false := by decide
    have other : quoteMark ≠ backslash := by decide
    have body := scan_single free word s
    simpa [enclosed,scan,solid,other] using body

theorem scan_runs (runs : List Bytes) (free : ∀ run ∈ runs, quoteMark ∉ run) (word s : Bytes) :
    scan .raw word (Bytes.join [backslash,quoteMark] (runs.map enclosed) ++ s) =
      scan .raw (word ++ Bytes.join [quoteMark] runs) s := by
  induction runs generalizing word with
  | nil => simp [Bytes.join]
  | cons run rest ih =>
    obtain ⟨here,there⟩ := List.forall_mem_cons.mp free
    cases rest with
    | nil => simpa [Bytes.join] using scan_enclosed here word s
    | cons next rest =>
      have inked : quoteMark ≠ Bytes.newline := by decide
      have tail := ih there (word ++ run ++ [quoteMark])
      simp only [List.map_cons,Bytes.join,List.append_assoc,scan_enclosed here]
      simpa [scan_escaped inked,List.append_assoc] using tail

theorem quoteBlanks_eq (word : Bytes) :
    quoteBlanks word = Bytes.join [backslash,quoteMark] ((Bytes.splitOn quoteMark word).map enclosed) :=
  rfl

theorem scan_quoteBlanks (word before s : Bytes) :
    scan .raw before (quoteBlanks word ++ s) = scan .raw (before ++ word) s := by
  rw [quoteBlanks_eq,scan_runs _ (Bytes.splitOn_free quoteMark word),Bytes.join_splitOn]

theorem quoteBlanks_opens {word : Bytes} (some_ : word ≠ []) : Opens (quoteBlanks word) := by
  have back := Bytes.join_splitOn quoteMark word
  rw [quoteBlanks_eq]
  cases runs : Bytes.splitOn quoteMark word with
  | nil => exact (Bytes.splitOn_ne_nil _ _ runs).elim
  | cons run rest =>
    rw [runs] at back
    have inked : quoteMark ≠ Bytes.newline := by decide
    cases run with
    | cons b run =>
      have opens : Opens (enclosed (b :: run)) := opens_quoteMark _
      cases rest with
      | nil => exact opens
      | cons next rest => simpa [Bytes.join] using opens.append _
    | nil =>
      -- The word starts with a quote, so a second run exists and the line starts with `\'`.
      cases rest with
      | nil => exact (some_ back.symm).elim
      | cons next rest => exact ⟨by decide,fun _ => ⟨quoteMark,_,rfl,inked⟩⟩

theorem solid_of_any {word : Bytes} (none_ : word.any isBlank = false) :
    ∀ b ∈ word, isBlank b = false := by
  simpa using none_

-- The two facts about a quoted word that reading needs: it starts a word, and read inside a word
-- it adds exactly the bytes that were quoted.
theorem quote_opens (word : Bytes) : Opens (quote word) := by
  unfold quote
  split
  · exact opens_quoteMark _
  · rename_i some_
    have some_ : word ≠ [] := by simpa using some_
    split
    · exact quoteBlanks_opens some_
    · rename_i none_
      exact escapeBare_opens some_ (solid_of_any (by simpa using none_))

theorem scan_quote (word before s : Bytes) :
    scan .raw before (quote word ++ s) = scan .raw (before ++ word) s := by
  unfold quote
  split
  · rename_i empty
    have empty : word = [] := by simpa using empty
    subst empty
    have solid : isBlank quoteMark = false := by decide
    have other : quoteMark ≠ backslash := by decide
    simp [scan,solid,other]
  · split
    · exact scan_quoteBlanks word before s
    · rename_i none_
      exact scan_escapeBare (solid_of_any (by simpa using none_)) before s

theorem scan_gap_quote (word before s : Bytes) :
    scan .gap before (quote word ++ s) = scan .raw word s := by
  rw [scan_gap ((quote_opens word).append s),scan_quote,List.nil_append]

theorem scan_join (words : List Bytes) (before : Bytes) :
    scan .gap before (join words) = .ok words := by
  induction words generalizing before with
  | nil => rfl
  | cons word rest ih =>
    cases rest with
    | nil => simpa [join,Bytes.join,scan] using scan_gap_quote word before []
    | cons next rest =>
      have blank : isBlank Bytes.space = true := by decide
      have tail := ih []
      simp only [join,List.map_cons,Bytes.join,List.append_assoc] at tail ⊢
      rw [scan_gap_quote]
      simp [scan,blank,tail,Except.map]

theorem split_join (words : List Bytes) : split (join words) = .ok words :=
  scan_join words []

end Words

theorem LineRules.standard_reads {line : Bytes} {words : List Bytes}
    (read : Words.split line = .ok words) : LineRules.standard.split line = .ok words := by
  simp only [LineRules.standard]
  rw [read]
  rfl

-- Any words survive being written on a line and read back, whatever bytes they are made of.
theorem LineRules.standard_roundtrip (words : List Bytes) :
    LineRules.standard.split (LineRules.standard.join words) = .ok words := by
  have read : Words.split (LineRules.standard.join words) = .ok words := Words.split_join words
  rw [LineRules.standard_reads read]

-- Quotes, blanks, an empty word, a byte that is no text and a tilde at the start.
example : Words.split (Words.join [text "it's a", [], [255,92], text "~x\n"]) =
    .ok [text "it's a", [], [255,92], text "~x\n"] := by rfl

end ScriptLauncher
