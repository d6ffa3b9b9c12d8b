import Mathlib.Data.List.TakeWhile
import ScriptLauncher.Child
import ScriptLauncher.Proofs.DryRun
import ScriptLauncher.Proofs.ExitCode
import ScriptLauncher.Proofs.Listing
import ScriptLauncher.Proofs.Runes

namespace ScriptLauncher

-- Variables as an environment can hold them: each name once, and none with an equals sign in it.
structure Variables.Proper (vars : Variables) : Prop where
  distinct : (vars.map (·.1)).Nodup
  plain : ∀ entry ∈ vars, byte '=' ∉ entry.1

namespace Variables

variable {vars other : Variables}

theorem get?_exact (distinct : (vars.map (·.1)).Nodup) {name value : Bytes} :
    vars.get? name = some value ↔ (name,value) ∈ vars := keyed_exact distinct

theorem get?_perm (distinct : (vars.map (·.1)).Nodup) (same : other.Perm vars) (name : Bytes) :
    other.get? name = vars.get? name := by
  have again := (same.map (·.1)).nodup_iff.mpr distinct
  apply Option.ext
  intro value
  rw [get?_exact again,get?_exact distinct,same.mem_iff]

theorem set_names (vars : Variables) (name value : Bytes) :
    (vars.set name value).map (·.1) =
      if name ∈ vars.map (·.1) then vars.map (·.1) else vars.map (·.1) ++ [name] := by
  have known : (vars.any fun entry => entry.1 == name) = decide (name ∈ vars.map (·.1)) := by
    rw [Bool.eq_iff_iff]
    simp
  unfold set
  rw [known]
  split
  · rename_i there
    rw [if_pos (of_decide_eq_true there),List.map_map]
    refine List.map_congr_left fun entry _ => ?_
    dsimp only [Function.comp]
    split <;> rfl
  · rename_i new
    rw [if_neg (by simpa using new)]
    simp

end Variables

theorem Variables.Proper.set {vars : Variables} (proper : vars.Proper) {name : Bytes}
    (plain : byte '=' ∉ name) (value : Bytes) : (vars.set name value).Proper := by
  have names := vars.set_names name value
  have free : ∀ other ∈ vars.map (·.1), byte '=' ∉ other := by simpa using proper.plain
  constructor
  · rw [names]
    split
    · exact proper.distinct
    · rename_i new
      refine List.nodup_append.mpr ⟨proper.distinct,by simp,?_⟩
      rintro old there _ last rfl
      exact new (List.mem_singleton.mp last ▸ there)
  · intro entry present
    have listed : entry.1 ∈ (vars.set name value).map (·.1) := List.mem_map_of_mem present
    rw [names] at listed
    split at listed
    · exact free _ listed
    · rcases List.mem_append.mp listed with old | new
      · exact free _ old
      · rw [List.mem_singleton.mp new]
        exact plain

theorem Space.trimRight_subset {s : Bytes} {b : UInt8} (present : b ∈ trimRight s) : b ∈ s := by
  obtain ⟨rune,kept,inside⟩ := List.mem_flatMap.mp present
  have read : rune ∈ Utf8.decode s := by
    simpa using (List.dropWhile_sublist _).subset (List.mem_reverse.mp kept)
  rw [← Utf8.decode_bytes s]
  exact List.mem_flatMap.mpr ⟨rune,read,inside⟩

namespace Dotenv

-- A name ends at the first equals sign.
theorem scanName_plain {near seen s name rest : Bytes} (free : byte '=' ∉ seen)
    (read : scanName near seen s = .ok (name,rest)) : byte '=' ∉ name := by
  induction s generalizing seen with
  | nil =>
    cases read
    exact List.not_mem_nil
  | cons b s ih =>
    have longer (other : b ≠ byte '=') : byte '=' ∉ b :: seen := by simp [Ne.symm other,free]
    unfold scanName at read
    split at read
    · rename_i blank
      refine ih (longer ?_) read
      rintro rfl
      exact absurd blank (by decide)
    · split at read
      · cases read
        exact fun present => free (by simpa using Space.trimRight_subset present)
      · rename_i further
        split at read
        · refine ih (longer ?_) read
          rintro rfl
          exact further rfl
        · cases read

theorem readName_plain {s name rest : Bytes} (read : readName s = .ok (name,rest)) :
    byte '=' ∉ name := by
  unfold readName at read
  dsimp only at read
  split at read
  · cases read
  · generalize dropExport (dropBlanks s) = start at read
    cases scanned : scanName start [] start with
    | error flaw => simp [scanned,Except.map] at read
    | ok found =>
      simp only [scanned,Except.map,Except.ok.injEq,Prod.mk.injEq] at read
      obtain ⟨rfl,-⟩ := read
      exact scanName_plain List.not_mem_nil scanned

theorem statements_proper {fuel : Nat} {vars found : Variables} {s : Bytes} (proper : vars.Proper)
    (read : statements fuel vars s = .ok found) : found.Proper := by
  induction fuel generalizing vars s with
  | zero =>
    cases read
    exact proper
  | succ fuel ih =>
    unfold statements at read
    split at read
    · cases read
      exact proper
    · split at read
      · cases read
      · rename_i named
        split at read
        · cases read
        · exact ih (proper.set (readName_plain named) _) read

-- Variables that come from a file can be put into an environment.
theorem load_proper {host : Host} {path : Bytes} {vars : Variables}
    (loaded : load host path = .ok vars) : vars.Proper := by
  simp only [load] at loaded
  cases read : host.read path with
  | error fault => simp [read] at loaded
  | ok data =>
    cases parsed : parse data with
    | error flaw =>
      simp only [read,parsed] at loaded
      cases loaded
    | ok found =>
      simp only [read,parsed] at loaded
      cases loaded
      exact statements_proper ⟨by simp,by simp⟩ parsed

end Dotenv

theorem free_passes {sep : UInt8} {s : Bytes} (free : sep ∉ s) : ∀ b ∈ s, (b != sep) = true := by
  intro b present
  rw [bne_iff_ne]
  rintro rfl
  exact free present

theorem assignment_of {name : Bytes} (plain : byte '=' ∉ name) (value : Bytes) :
    assignment (name ++ byte '=' :: value) = (name,value) := by
  have before := free_passes plain
  simp [assignment,Bytes.cut,List.dropWhile_append_of_pos before,List.takeWhile_append_of_pos before]

theorem cut_exact {sep : UInt8} {s before after : Bytes}
    (cut : Bytes.cut sep s = some (before,after)) : s = before ++ sep :: after ∧ sep ∉ before := by
  unfold Bytes.cut at cut
  split at cut
  · cases cut
  · rename_i b rest found
    cases cut
    have stopped := List.head?_dropWhile_not (· != sep) s
    have whole := List.takeWhile_append_dropWhile (p := (· != sep)) (l := s)
    simp only [found,List.head?_cons,bne_eq_false_iff_eq] at stopped
    rw [found,stopped] at whole
    refine ⟨whole.symm,fun present => ?_⟩
    simpa using List.mem_takeWhile_imp present

namespace Environment

-- An entry that gives a name its value.
def names (name entry : Bytes) : Bool := entry.contains (byte '=') && (assignment entry).1 == name

theorem lookup_append (base more : List Bytes) (name : Bytes) :
    lookup (base ++ more) name = (lookup more name).or (lookup base name) := by
  simp [lookup,List.find?_append,Option.map_or]

theorem lookup_some {entries : List Bytes} {name entry : Bytes} (there : entry ∈ entries)
    (named : names name entry = true) : (lookup entries name).isSome = true := by
  unfold lookup
  rw [Option.isSome_map,List.find?_isSome]
  exact ⟨entry,List.mem_reverse.mpr there,named⟩

theorem find_assignment {vars : Variables} (plain : ∀ entry ∈ vars, byte '=' ∉ entry.1)
    (name : Bytes) : (vars.assignments.find? (names name)).map (fun entry => (assignment entry).2) =
      vars.get? name := by
  induction vars with
  | nil => rfl
  | cons entry vars ih =>
    obtain ⟨here,others⟩ := List.forall_mem_cons.mp plain
    have read : assignment (entry.1 ++ byte '=' :: entry.2) = entry := assignment_of here entry.2
    have named : names name (entry.1 ++ byte '=' :: entry.2) = (entry.1 == name) := by
      simp [names,read]
    have later := ih others
    unfold Variables.get? Variables.assignments at later ⊢
    rw [List.map_cons,List.find?_cons,List.find?_cons,named]
    cases entry.1 == name with
    | true => exact congrArg some (congrArg Prod.snd read)
    | false => exact later

theorem lookup_assignments {vars : Variables} (proper : vars.Proper) (name : Bytes) :
    lookup vars.assignments name = vars.get? name := by
  have turned : List.Perm vars.reverse vars := List.reverse_perm vars
  rw [← Variables.get?_perm proper.distinct turned,← find_assignment (by simpa using proper.plain)]
  simp only [lookup,Variables.assignments,List.map_reverse]
  rfl

theorem merge_lookup {vars : Variables} (proper : vars.Proper) (base : List Bytes) (name : Bytes) :
    lookup (merge base vars) name = (vars.get? name).or (lookup base name) := by
  have same : vars.sorted.Perm vars := List.mergeSort_perm _ _
  have sorted : vars.sorted.Proper :=
    ⟨(same.map (·.1)).nodup_iff.mpr proper.distinct,
      fun entry present => proper.plain entry (same.mem_iff.mp present)⟩
  rw [merge,lookup_append,lookup_assignments sorted,Variables.get?_perm proper.distinct same]

end Environment

namespace Child
open Environment

-- The name that an entry is known by when names are made unique tells the name that it sets.
theorem nameOf?_names {entry known : Bytes} (named : nameOf? entry = some known) (name : Bytes) :
    names name entry = (known.takeWhile (· != byte '=') == name) := by
  unfold nameOf? at named
  split at named
  -- With an equals sign in front, the name that is set is empty, whatever the entry is known by.
  · rename_i rest
    cases named
    have sets : assignment (61 :: rest) = ([],rest) := assignment_of List.not_mem_nil rest
    have none_ : (((Bytes.cut (byte '=') rest).map fun found => byte '=' :: found.1).getD
        []).takeWhile (· != byte '=') = [] := by
      cases Bytes.cut (byte '=') rest <;> rfl
    rw [names,sets]
    simp only [List.contains_cons]
    rw [none_]
    rfl
  · obtain ⟨⟨before,after⟩,cut,rfl⟩ := Option.map_eq_some_iff.mp named
    obtain ⟨rfl,plain⟩ := cut_exact cut
    have whole : before.takeWhile (· != byte '=') = before :=
      List.takeWhile_eq_self_iff.mpr (free_passes plain)
    rw [names,assignment_of plain,whole]
    simp

-- What becomes of an entry in front when names are made unique.
inductive Settles (entry : Bytes) (rest : List Bytes) : List Bytes → Prop where
  | kept (last : ∀ known, nameOf? entry = some known → ∀ later ∈ rest, nameOf? later ≠ some known) :
      Settles entry rest (entry :: lastOfEach rest)
  | empty (none_ : entry = []) : Settles entry rest (lastOfEach rest)
  | overridden (named : nameOf? entry = some known) (there : later ∈ rest)
      (again : nameOf? later = some known) : Settles entry rest (lastOfEach rest)

theorem lastOfEach_settles (entry : Bytes) (rest : List Bytes) :
    Settles entry rest (lastOfEach (entry :: rest)) := by
  unfold lastOfEach
  cases named : nameOf? entry with
  | none =>
    dsimp only
    split
    · exact .kept fun known other => by cases named.symm.trans other
    · rename_i none_
      exact .empty (by simpa using none_)
  | some known =>
    dsimp only
    split
    · rename_i last
      refine .kept fun other same later there again => ?_
      cases named.symm.trans same
      simp only [Bool.not_eq_true',List.any_eq_false] at last
      exact last later there (beq_iff_eq.mpr again)
    · rename_i further
      simp only [Bool.not_eq_true',Bool.not_eq_false,List.any_eq_true,beq_iff_eq] at further
      obtain ⟨later,there,again⟩ := further
      exact .overridden named there again

-- Making names unique changes nothing for who looks a name up.
theorem lookup_lastOfEach (entries : List Bytes) (name : Bytes) :
    lookup (lastOfEach entries) name = lookup entries name := by
  induction entries with
  | nil => rfl
  | cons entry rest ih =>
    have settles := lastOfEach_settles entry rest
    have apart (tail : List Bytes) :
        lookup (entry :: tail) name = (lookup tail name).or (lookup [entry] name) :=
      lookup_append [entry] tail name
    generalize lastOfEach (entry :: rest) = kept at settles ⊢
    cases settles with
    | kept last => rw [apart (lastOfEach rest),apart rest,ih]
    | empty none_ =>
      subst none_
      rw [apart,ih]
      exact (Option.or_none).symm
    -- The entry that is left out sets what a later one sets as well, or it is not asked about.
    | overridden named there again =>
      rw [apart,ih]
      cases sets : names name entry with
      | true =>
        rw [nameOf?_names named,← nameOf?_names again] at sets
        obtain ⟨value,found⟩ := Option.isSome_iff_exists.mp (lookup_some there sets)
        rw [found]
        rfl
      | false =>
        have unset : lookup [entry] name = none := by
          simp only [lookup,List.reverse_singleton,List.find?_singleton]
          rw [if_neg (by simpa [names] using sets)]
          rfl
        rw [unset,Option.or_none]

-- And every name that is left stands once.
theorem lastOfEach_once (entries : List Bytes) :
    ((lastOfEach entries).filterMap nameOf?).Nodup ∧ (lastOfEach entries).Sublist entries := by
  induction entries with
  | nil => exact ⟨List.nodup_nil,List.Sublist.refl []⟩
  | cons entry rest ih =>
    obtain ⟨once,part⟩ := ih
    have settles := lastOfEach_settles entry rest
    generalize lastOfEach (entry :: rest) = kept at settles ⊢
    cases settles with
    | kept last =>
      refine ⟨?_,part.cons_cons entry⟩
      cases named : nameOf? entry with
      | none => rwa [List.filterMap_cons_none named]
      | some known =>
        rw [List.filterMap_cons_some named,List.nodup_cons]
        refine ⟨fun present => ?_,once⟩
        obtain ⟨later,there,again⟩ := List.mem_filterMap.mp present
        exact last known named later (part.subset there) again
    | empty none_ => exact ⟨once,part.cons entry⟩
    | overridden named there again => exact ⟨once,part.cons entry⟩

end Child

namespace Launch

variable {σ : Type}

-- The files of variables that a launch has read, in their order.
def variableFiles (events : List Event) : List Bytes :=
  events.filterMap fun
    | .readVariables path => some path
    | _ => none

@[simp] theorem variableFiles_append (before after : List Event) :
    variableFiles (before ++ after) = variableFiles before ++ variableFiles after := by
  simp [variableFiles]

@[simp] theorem variableFiles_alerts (settings : Settings) :
    variableFiles (alerts settings) = [] := by
  simp [variableFiles,alerts]

@[simp] theorem variableFiles_reading (path : Bytes) :
    variableFiles [.readVariables path] = [path] := rfl

theorem quiet_reads_nothing {events : List Event} (quiet : ∀ event ∈ events, event.Quiet) :
    variableFiles events = [] := by
  unfold variableFiles
  rw [List.filterMap_eq_nil_iff]
  intro event present
  have calm := quiet event present
  cases event <;> first | rfl | exact calm.elim

-- Where a file of variables is: a relative path starts from the working directory.
inductive Placed (workDir envFile : Bytes) : Bytes → Prop where
  | absolute (rooted : Path.isAbsolute envFile = true) : Placed workDir envFile envFile
  | relative (unrooted : Path.isAbsolute envFile = false) :
      Placed workDir envFile (Path.join [workDir,envFile])

theorem envPath_placed (workDir envFile : Bytes) :
    Placed workDir envFile (envPath workDir envFile) := by
  unfold envPath
  split
  · rename_i rooted
    exact .absolute rooted
  · rename_i unrooted
    exact .relative (eq_false_of_ne_true unrooted)

-- The environment of the command of a launch: none of its own, or the launcher's with the variables
-- of the one file that was read, as that file was then.
inductive Equips (around : Surroundings σ) (state : σ) (events : List Event)
    (launcher : LauncherSettings) : Option (List Bytes) → Prop where
  | inherits (none_ : launcher.envFile = []) (unread : variableFiles events = []) :
      Equips around state events launcher none
  | merges (named : launcher.envFile ≠ []) (placed : Placed around.workDir launcher.envFile path)
      (once : variableFiles events = [path]) (when : events = front ++ .readVariables path :: back)
      (read : around.vars (replay around state front) path = .ok vars) :
      Equips around state events launcher (some (Environment.merge around.environ vars))

theorem command_env (launcher : LauncherSettings) (inv : Invocation) :
    (command launcher inv).env = none := by
  unfold command
  split
  · rename_i words _
    cases words <;> rfl
  · rfl

theorem Equips.append {around : Surroundings σ} {state : σ} {events : List Event}
    {launcher : LauncherSettings} {env : Option (List Bytes)}
    (equips : Equips around state events launcher env) {more : List Event}
    (unread : variableFiles more = []) : Equips around state (events ++ more) launcher env := by
  cases equips with
  | inherits none_ before => exact .inherits none_ (by simp [before,unread])
  | merges named placed once when read =>
    subst when
    exact .merges named placed (by rw [variableFiles_append,once,unread,List.append_nil])
      (List.append_assoc ..) read

theorem equipped_equips {around : Surroundings σ} {request : Request} {state : σ}
    {settings : Settings} {inv : Invocation} {cmd : Command} {after : Progress σ}
    (given : equipped around request state settings inv = (.ok cmd,after)) :
    Equips around state after.events settings.launcher cmd.env := by
  obtain ⟨quiet,calm,played⟩ := located_plays around request state settings
  have silent := quiet_reads_nothing calm
  unfold equipped withVariables at given
  rw [played] at given
  split at given
  · rename_i unnamed
    cases given
    rw [command_env]
    exact .inherits (List.isEmpty_iff.mp unnamed) (by simp [Progress.play,start,silent])
  · rename_i named
    simp only [Prod.mk.injEq] at given
    obtain ⟨made,rfl⟩ := given
    cases read : around.vars (replay around state (alerts settings ++ quiet))
        (envPath around.workDir settings.launcher.envFile) with
    | error fault =>
      simp only [Progress.play,start,effective,read] at made
      cases made
    | ok vars =>
      simp only [Progress.play,start,effective,read] at made
      cases made
      exact .merges (by simpa [effective] using named) (envPath_placed _ _)
        (by simp [Progress.note,Progress.play,start,silent,effective]) rfl read

theorem command_equips {around : Surroundings σ} {request : Request} {state : σ} {cmd : Command}
    (carried : cmd ∈ Program.commands (execute around request state).2.events) :
    ∃ settings, around.settings state = .ok settings ∧
      Equips around state (execute around request state).2.events settings.launcher cmd.env := by
  obtain ⟨result,p,course⟩ := course_exists around request state
  rw [execute_complete course] at carried ⊢
  obtain ⟨report,rfl,started⟩ := course.reported (List.ne_nil_of_mem carried)
  cases course with
  | previewed ready decided dry => cases started
  | dispatched ready decided real given =>
    rw [(Program.account_dispatched given _).commands,List.mem_singleton] at carried
    subst carried
    refine ⟨_,ready.loaded,?_⟩
    rw [dispatch_plays]
    exact (equipped_equips given).append rfl

-- A merged environment is the old one, untouched, and behind it one entry for each variable in the
-- order of the names, however the variables come. As the last entry of a name counts, a name that is
-- among the variables has its value from there and any other name has the one it had; making names
-- unique, which leaves each one once, does not change what is found. A file of variables gives such
-- variables. The command of a launch has an environment of its own exactly if a file of variables is
-- named: the launcher's, merged with what that one file said when it was read.
theorem variables_override_environment :
    (∀ (base : List Bytes) (vars : Variables), vars.Proper →
      (∃ listed : Variables, listed.Perm vars ∧ (listed.Pairwise fun a b => a.1 < b.1) ∧
        Environment.merge base vars = base ++ listed.assignments) ∧
      (∀ other : Variables, other.Perm vars →
        Environment.merge base other = Environment.merge base vars) ∧
      ∀ name, Environment.lookup (Environment.merge base vars) name =
        (vars.get? name).or (Environment.lookup base name)) ∧
    (∀ entries, ((Child.lastOfEach entries).filterMap Child.nameOf?).Nodup ∧
      ∀ name, Environment.lookup (Child.lastOfEach entries) name =
        Environment.lookup entries name) ∧
    (∀ host path vars, Dotenv.load host path = .ok vars → vars.Proper) ∧
    ∀ (around : Surroundings σ) (request : Request) (state : σ),
      let events := (execute around request state).2.events
      ∀ cmd ∈ Program.commands events, ∃ settings, around.settings state = .ok settings ∧
        (cmd.env = none ↔ settings.launcher.envFile = []) ∧
        Equips around state events settings.launcher cmd.env := by
  refine ⟨fun base vars proper => ⟨?_,fun other same => ?_,fun name => ?_⟩,
    fun entries => ⟨(Child.lastOfEach_once entries).1,Child.lookup_lastOfEach entries⟩,
    fun _ _ _ => Dotenv.load_proper,fun around request state => ?_⟩
  · exact ⟨vars.sorted,List.mergeSort_perm _ _,listed_ascending Prod.fst proper.distinct,rfl⟩
  · unfold Environment.merge Variables.sorted
    rw [listed_unique Prod.fst proper.distinct same]
  · exact Environment.merge_lookup proper base name
  · intro events cmd carried
    obtain ⟨settings,loaded,equips⟩ := command_equips carried
    refine ⟨settings,loaded,?_,equips⟩
    generalize cmd.env = env at equips
    cases equips with
    | inherits none_ unread => simp [none_]
    | merges named placed once when read => simp [named]

-- A name that begins like another one, a name that is set twice, and an entry that sets nothing.
def crowdedBase : List Bytes := [text "A=0",text "AB=1",text "A",text "A=2",text "C=3"]

def crowdedVars : Variables := [(text "B",text "x=y"),(text "A",text "4")]

theorem crowded_environment_is_overridden :
    Environment.merge crowdedBase crowdedVars = crowdedBase ++ [text "A=4",text "B=x=y"] ∧
      Environment.lookup (Environment.merge crowdedBase crowdedVars) (text "A") =
        some (text "4") ∧
      Environment.lookup (Environment.merge crowdedBase crowdedVars) (text "AB") =
        some (text "1") ∧
      ∃ cmd, Program.commands (execute sampleAround sampleRequest []).2.events = [cmd] ∧
        cmd.env = some [text "K=0",text "K=1"] := by
  obtain ⟨merges,-,-,launches⟩ := variables_override_environment (σ := List Log.Entry)
  obtain ⟨⟨listed,same,ascending,merged⟩,-,looked⟩ :=
    merges crowdedBase crowdedVars ⟨by decide,by decide⟩
  have order : listed = [(text "A",text "4"),(text "B",text "x=y")] :=
    ascending_unique Prod.fst (same.trans (by decide)) ascending (by decide)
  obtain ⟨cmd,only⟩ := List.length_eq_one_iff.mp (by rfl :
    (Program.commands (execute sampleAround sampleRequest []).2.events).length = 1)
  obtain ⟨settings,loaded,-,equips⟩ :=
    launches sampleAround sampleRequest [] cmd (by rw [only]; exact List.mem_singleton.mpr rfl)
  refine ⟨by rw [merged,order]; rfl,(looked _).trans (by decide),(looked _).trans (by decide),cmd,
    only,?_⟩
  cases loaded
  generalize cmd.env = env at equips
  cases equips with
  | inherits none_ unread => cases none_
  | merges named placed once when read =>
    cases read
    decide +kernel

end Launch

end ScriptLauncher
