import ScriptLauncher.Proofs.Quoting
import ScriptLauncher.Proofs.Plan

namespace ScriptLauncher

namespace Words

-- Reading the rest of a line from one place on, after some words that are already finished.
def Continues (read : Bytes → Except Unterminated (List Bytes)) : Prop :=
  ∃ next begun finished, ∀ s, read s = (scan next begun s).map (finished ++ ·)

theorem Continues.here (next : Place) (begun : Bytes) : Continues (scan next begun) := by
  refine ⟨next,begun,[],fun s => ?_⟩
  cases scan next begun s <;> rfl

theorem Continues.branch {left right : Bytes → Except Unterminated (List Bytes)} {which : Prop}
    [Decidable which] (one : Continues left) (two : Continues right) :
    Continues fun s => if which then left s else right s := by
  by_cases chosen : which
  · simpa [chosen] using one
  · simpa [chosen] using two

-- What one byte can do. Nothing that follows it has a part in this.
theorem scan_continues (place : Place) (word : Bytes) (b : UInt8) :
    Continues fun s => scan place word (b :: s) := by
  have finished : Continues fun s => (scan .gap [] s).map (word :: ·) :=
    ⟨.gap,[],[word],fun _ => rfl⟩
  have here := Continues.here
  cases place with
  | gap =>
    exact .branch (here .gap []) (.branch (here .gapEscape []) (.branch (here .single [])
      (.branch (here .double []) (here .raw [b]))))
  | gapEscape => exact .branch (here .gap []) (here .raw [b])
  | raw =>
    exact .branch finished (.branch (here .rawEscape word) (.branch (here .single word)
      (.branch (here .double word) (here .raw (word ++ [b])))))
  | rawEscape => exact .branch (here .raw word) (here .raw (word ++ [b]))
  | single => exact .branch (here .raw word) (here .single (word ++ [b]))
  | double =>
    exact .branch (here .raw word) (.branch (here .doubleEscape word) (here .double (word ++ [b])))
  | doubleEscape =>
    exact .branch (here .double word) (.branch (here .double (word ++ [b]))
      (here .double (word ++ [backslash,b])))

-- A line that ends well ends between words or in an unquoted one; a blank then leads to a gap.
theorem scan_end {place : Place} {word : Bytes} {words : List Bytes}
    (read : scan place word [] = .ok words) (t : Bytes) :
    scan place word (Bytes.space :: t) = (split t).map (words ++ ·) := by
  have blank : isBlank Bytes.space = true := by decide
  cases place with
  | gap =>
    cases read
    simp only [scan,blank,if_true,split]
    cases scan .gap [] t <;> rfl
  | raw =>
    cases read
    simp only [scan,blank,if_true,split]
    rfl
  | gapEscape => cases read
  | rawEscape => cases read
  | single => cases read
  | double => cases read
  | doubleEscape => cases read

theorem scan_spaced {place : Place} {word s : Bytes} {words : List Bytes}
    (read : scan place word s = .ok words) (t : Bytes) :
    scan place word (s ++ Bytes.space :: t) = (split t).map (words ++ ·) := by
  induction s generalizing place word words with
  | nil => exact scan_end read t
  | cons b s ih =>
    obtain ⟨next,begun,finished,step⟩ := scan_continues place word b
    have here : scan place word (b :: s) = (scan next begun s).map (finished ++ ·) := step s
    rw [here] at read
    cases later : scan next begun s with
    | error open_ =>
      rw [later] at read
      cases read
    | ok rest =>
      rw [later] at read
      cases read
      calc scan place word (b :: s ++ Bytes.space :: t)
          = (scan next begun (s ++ Bytes.space :: t)).map (finished ++ ·) := step _
        _ = ((split t).map (rest ++ ·)).map (finished ++ ·) := by rw [ih later]
        _ = (split t).map (finished ++ rest ++ ·) := by
          cases split t with
          | error open_ => rfl
          | ok words => simp [Except.map]

theorem split_spaced {s t : Bytes} {front back : List Bytes} (first : split s = .ok front)
    (second : split t = .ok back) : split (s ++ Bytes.space :: t) = .ok (front ++ back) := by
  have read := scan_spaced first t
  rw [second] at read
  exact read

end Words

theorem LineRules.standard_exact {line : Bytes} {words : List Bytes} :
    LineRules.standard.split line = .ok words ↔ Words.split line = .ok words := by
  refine ⟨fun read => ?_,standard_reads⟩
  cases split_ : Words.split line with
  | error open_ =>
    simp only [standard] at read
    rw [split_] at read
    cases read
  | ok other =>
    rw [standard_reads split_] at read
    cases read
    rfl

namespace Launch

variable {σ : Type}

-- The words that a script stands for on a line: itself where it was found, whatever it is made of,
-- and else the words that it is written as.
def Script.words (rules : LineRules) (script : Script) : Except Fault (List Bytes) :=
  if script.resolved then .ok [script.path] else rules.split script.path

-- How a script is written on a shell's line.
def Script.spelling (rules : LineRules) (plainShell : Bool) (shell : Bytes) (script : Script) :
    Bytes :=
  if script.resolved then quoteScript rules plainShell shell script.path else script.path

theorem spelling_words {plainShell : Bool} {shell : Bytes} {script : Script} {words : List Bytes}
    (quotable : plainShell = false ∨ shell ≠ [])
    (written : script.words .standard = .ok words) :
    Words.split (script.spelling .standard plainShell shell) = .ok words := by
  unfold Script.words at written
  unfold Script.spelling
  cases resolved : script.resolved with
  | false =>
    rw [resolved] at written
    exact LineRules.standard_exact.mp written
  | true =>
    rw [resolved] at written
    cases written
    have quoted : (plainShell && shell.isEmpty) = false := by
      rcases quotable with rfl | custom
      · rfl
      · simp [custom]
    rw [if_pos rfl,quoteScript,quoted]
    exact Words.split_join [script.path]

theorem shellLine_words {plainShell : Bool} {launcher : LauncherSettings} {script : Script}
    {filename : Bytes} {front middle back : List Bytes}
    (quotable : plainShell = false ∨ launcher.shell ≠ [])
    (interpreter : LineRules.standard.split launcher.interpreter = .ok front)
    (written : script.words .standard = .ok middle)
    (file : LineRules.standard.split filename = .ok back) :
    LineRules.standard.split (shellLine .standard plainShell launcher script filename) =
      .ok (front ++ middle ++ back) := by
  have line : shellLine .standard plainShell launcher script filename =
      launcher.interpreter ++ Bytes.space ::
        (script.spelling .standard plainShell launcher.shell ++ Bytes.space :: filename) := by
    simp only [shellLine,LauncherSettings.lead,Script.spelling,List.append_assoc,List.cons_append,
      List.nil_append]
  have tail := Words.split_spaced (spelling_words quotable written)
    (LineRules.standard_exact.mp file)
  have whole := Words.split_spaced (LineRules.standard_exact.mp interpreter) tail
  rw [line,List.append_assoc]
  exact LineRules.standard_exact.mpr whole

-- An interpreter that names a program is all that a plan without a shell needs.
theorem plan_exec {around : Surroundings σ} {launcher : LauncherSettings} {front : List Bytes}
    (interpreter : around.rules.split launcher.interpreter = .ok front) (some_ : front ≠ [])
    (script : Script) (filename : Bytes) : ∃ bare,
      plan around launcher .exec script filename = .ok bare ∧
        bare.argv = some (front ++ [script.path,filename]) := by
  have words : execWords around.rules launcher script filename =
      .ok (front ++ [script.path,filename]) := by
    cases front with
    | nil => exact (some_ rfl).elim
    | cons program args => rw [execWords,interpreter]
  simp only [plan]
  rw [words]
  exact ⟨_,rfl,rfl⟩

-- What settings plan in a mode, with the script looked for among the files as they are now.
def planIn (mode : Mode) (around : Surroundings σ) (launcher : LauncherSettings) (filename : Bytes)
    (p : Progress σ) : Except Fault Invocation :=
  let chosen := { launcher with mode := mode.name }
  plan around chosen mode (locateScript around chosen p).1 filename

theorem Script.single_word {rules : LineRules} {script : Script}
    (single : script.resolved = true ∨ rules.split script.path = .ok [script.path]) :
    script.words rules = .ok [script.path] := by
  unfold Script.words
  split
  · rfl
  · rename_i plain
    rcases single with resolved | read
    · exact (plain resolved).elim
    · exact read

-- The line for a shell reads as the words of the interpreter, of the script and of the argument, and
-- a script that was found is one of these words. Where argument and script are single words, these
-- are the words that the same settings plan on the same files without a shell.
theorem shell_line_reads_as_argv {around : Surroundings σ} (standard : around.rules = .standard)
    {launcher : LauncherSettings} (quotable : around.plainShell = false ∨ launcher.shell ≠ [])
    {front back : List Bytes} {filename : Bytes}
    (interpreter : around.rules.split launcher.interpreter = .ok front) (some_ : front ≠ [])
    (file : around.rules.split filename = .ok back) :
    (∀ script : Script, ∃ shown, plan around launcher .shell script filename = .ok shown ∧
      ∀ middle, script.words around.rules = .ok middle →
        around.rules.split shown.commandLine = .ok (front ++ middle ++ back)) ∧
    ∀ p : Progress σ, let script := (locateScript around launcher p).1
      back = [filename] →
      script.resolved = true ∨ around.rules.split script.path = .ok [script.path] →
      ∃ shown bare, planIn .shell around launcher filename p = .ok shown ∧
        planIn .exec around launcher filename p = .ok bare ∧
        bare.argv = some (front ++ [script.path,filename]) ∧
        around.rules.split shown.commandLine = .ok (front ++ [script.path,filename]) := by
  have line (script : Script) (middle : List Bytes)
      (written : script.words around.rules = .ok middle) :
      around.rules.split (shellLine around.rules around.plainShell launcher script filename) =
        .ok (front ++ middle ++ back) := by
    rw [standard] at interpreter file written ⊢
    exact shellLine_words quotable interpreter written file
  refine ⟨fun script => ⟨_,rfl,line script⟩,?_⟩
  intro p script whole single
  have reads := line script _ (Script.single_word single)
  have read : around.rules.split (LauncherSettings.interpreter
      { launcher with mode := Mode.exec.name }) = .ok front := interpreter
  obtain ⟨bare,decided,argv⟩ := plan_exec read some_ script filename
  rw [whole,List.append_assoc] at reads
  exact ⟨_,bare,rfl,decided,argv,reads⟩

-- A script found at the root of a worktree whose name a shell would take apart.
def worktreeAround : Surroundings Unit where
  settings _ := .ok .default
  isFile _ path := path == text "/r $x/it's.py"
  worktree _ _ := .ok (text "/r $x")
  vars _ _ := .error (.of .absent)
  record _ _ := ()
  run _ _ := (none,())
  rules := .standard
  environ := []
  workDir := text "/w"
  runId := text "run"

def worktreeLauncher : LauncherSettings where
  interpreter := text "env 'A=1 2' python3"
  entryScript := text "it's.py"
  resolveEntryScript := true

theorem worktree_line_reads_as_argv : ∃ shown bare,
    planIn .shell worktreeAround worktreeLauncher (text "a.or") ⟨(),[]⟩ = .ok shown ∧
    planIn .exec worktreeAround worktreeLauncher (text "a.or") ⟨(),[]⟩ = .ok bare ∧
    bare.argv = some [text "env",text "A=1 2",text "python3",text "/r $x/it's.py",text "a.or"] ∧
    worktreeAround.rules.split shown.commandLine =
      .ok [text "env",text "A=1 2",text "python3",text "/r $x/it's.py",text "a.or"] := by
  have standard : worktreeAround.rules = .standard := rfl
  have quotable : worktreeAround.plainShell = false ∨ worktreeLauncher.shell ≠ [] := .inl rfl
  have interpreter : worktreeAround.rules.split worktreeLauncher.interpreter =
      .ok [text "env",text "A=1 2",text "python3"] := by rfl
  have file : worktreeAround.rules.split (text "a.or") = .ok [text "a.or"] := by rfl
  exact (shell_line_reads_as_argv standard quotable interpreter (by decide) file).2 ⟨(),[]⟩ rfl
    (.inl (by rfl))

end Launch

end ScriptLauncher
