import ScriptLauncher.Proofs.Parity

namespace ScriptLauncher

-- Reading a file fails because it is not there, and not for any other reason.
def Host.lacks (host : Host) (path : Bytes) : Bool :=
  match host.read path with
  | .error fault => fault.isMissing
  | .ok _ => false

namespace Settings

-- The decoder that a file's name asks for.
def decoded (decoders : Decoders) (path data : Bytes) : Except Bytes RawTable :=
  if isYaml path then decoders.yaml data else decoders.toml data

-- A file that can be read and decoded, and the layer in it.
def Holds (decoders : Decoders) (host : Host) (path : Bytes) (layer : Settings) : Prop :=
  ∃ data document, host.read path = .ok data ∧ decoded decoders path data = .ok document ∧
    layer = ofRaw document

-- A file that is there and of no use, and the fault that says so.
inductive Unusable (decoders : Decoders) (host : Host) (path : Bytes) : Fault → Prop where
  | unread (failed : host.read path = .error fault) (there : host.lacks path = false) :
      Unusable decoders host path fault
  | undecoded (read : host.read path = .ok data)
      (failed : decoded decoders path data = .error detail) :
      Unusable decoders host path
        (.context (text "parse " ++ path ++ text ": ") (.of (.malformed detail)))

-- What a file that need not be there comes to.
inductive Gives (decoders : Decoders) (host : Host) :
    Option Bytes → Except Fault (Option Settings) → Prop where
  | nothing : Gives decoders host none (.ok none)
  | layer (holds : Holds decoders host path layer) :
      Gives decoders host (some path) (.ok (some layer))
  | fault (unusable : Unusable decoders host path fault) :
      Gives decoders host (some path) (.error fault)

theorem gives_exists (decoders : Decoders) {host : Host} {path : Bytes}
    (there : host.lacks path = false) : ∃ result, Gives decoders host (some path) result := by
  cases read : host.read path with
  | error fault => exact ⟨_,.fault (.unread read there)⟩
  | ok data =>
    cases decoding : decoded decoders path data with
    | error detail => exact ⟨_,.fault (.undecoded read decoding)⟩
    | ok document => exact ⟨_,.layer ⟨data,document,read,decoding,rfl⟩⟩

theorem Holds.loaded {decoders : Decoders} {host : Host} {path : Bytes} {layer : Settings}
    (holds : Holds decoders host path layer) : loadFile decoders host path = .ok layer := by
  obtain ⟨data,document,read,decoding,rfl⟩ := holds
  unfold decoded at decoding
  simp only [loadFile,read,decoding]

theorem Unusable.failed {decoders : Decoders} {host : Host} {path : Bytes} {fault : Fault}
    (unusable : Unusable decoders host path fault) :
    loadFile decoders host path = .error fault ∧ fault.isMissing = false := by
  cases unusable with
  | unread failed there =>
    rw [Host.lacks,failed] at there
    exact ⟨by simp only [loadFile,failed],there⟩
  | undecoded read failed =>
    unfold decoded at failed
    exact ⟨by simp only [loadFile,read,failed],rfl⟩

theorem loadFile_lacking (decoders : Decoders) {host : Host} {path : Bytes}
    (lacks : host.lacks path = true) : Missing (loadFile decoders host path) := by
  unfold Host.lacks at lacks
  split at lacks
  · rename_i fault failed
    exact ⟨fault,by simp only [loadFile,failed],lacks⟩
  · cases lacks

theorem Gives.loaded {decoders : Decoders} {host : Host} {path : Bytes}
    {result : Except Fault (Option Settings)} (gives : Gives decoders host (some path) result) :
    optional (loadFile decoders host path) = result := by
  cases gives with
  | layer holds => rw [holds.loaded,optional]
  | fault unusable =>
    obtain ⟨failed,there⟩ := unusable.failed
    simp [failed,optional,there]

-- Only a file that is not there lets the next one have its turn.
theorem Gives.first {decoders : Decoders} {host : Host} {tried : List Bytes}
    {result : Except Fault (Option Settings)}
    (gives : Gives decoders host (tried.find? fun path => !host.lacks path) result) :
    optional (loadFirst decoders host tried) = result := by
  induction tried with
  | nil =>
    cases gives
    rfl
  | cons path rest ih =>
    cases lacks : host.lacks path with
    | true =>
      obtain ⟨fault,failed,gone⟩ := loadFile_lacking decoders lacks
      simp only [List.find?_cons,lacks,Bool.not_true] at gives
      simpa [loadFirst,failed,gone] using ih gives
    | false =>
      simp only [List.find?_cons,lacks,Bool.not_false] at gives
      rw [← gives.loaded]
      cases gives with
      | layer holds => simp [loadFirst,holds.loaded]
      | fault unusable =>
        obtain ⟨failed,there⟩ := unusable.failed
        simp [loadFirst,failed,there]

-- The user's file, if there is one.
def globalFile (sources : Sources) (host : Host) : Option Bytes :=
  let path := userFile sources.globalDir
  if sources.globalDir.isEmpty || host.lacks path then none else some path

-- The file that decides for the project: the one that is named, there or not, and else the first of
-- three names that is there.
def decidingFile (sources : Sources) (host : Host) : Option Bytes :=
  if !sources.explicitPath.isEmpty then some sources.explicitPath
  else if sources.projectDir.isEmpty then none
  else (projectFiles sources.projectDir).find? fun path => !host.lacks path

def notFound (path : Bytes) : Fault :=
  .context (text "config file " ++ path ++ text ": ") (.of .configNotFound)

-- Every way in which loading can go. The user's file comes first: where it is of no use, the
-- project's does not matter.
inductive Loading (decoders : Decoders) (sources : Sources) (host : Host) :
    Except Fault Settings → Prop where
  | globalFault (global : Gives decoders host (globalFile sources host) (.error fault)) :
      Loading decoders sources host (.error fault)
  | explicitMissing (global : Gives decoders host (globalFile sources host) (.ok below))
      (named : sources.explicitPath ≠ []) (lacks : host.lacks sources.explicitPath = true) :
      Loading decoders sources host (.error (notFound sources.explicitPath))
  | projectFault (global : Gives decoders host (globalFile sources host) (.ok below))
      (project : Gives decoders host (decidingFile sources host) (.error fault)) :
      Loading decoders sources host (.error fault)
  | loaded (global : Gives decoders host (globalFile sources host) (.ok below))
      (project : Gives decoders host (decidingFile sources host) (.ok above)) :
      Loading decoders sources host (.ok ((below.toList ++ above.toList).foldl merge default))

section

variable {decoders : Decoders} {sources : Sources} {host : Host}

theorem find_gives (decoders : Decoders) (host : Host) (tried : List Bytes) :
    ∃ result, Gives decoders host (tried.find? fun path => !host.lacks path) result := by
  cases first : tried.find? fun path => !host.lacks path with
  | none => exact ⟨_,.nothing⟩
  | some path => exact gives_exists decoders (by simpa using List.find?_some first)

theorem globalFile_gives (decoders : Decoders) (sources : Sources) (host : Host) :
    ∃ result, Gives decoders host (globalFile sources host) result := by
  unfold globalFile
  dsimp only
  split
  · exact ⟨_,.nothing⟩
  · rename_i on
    exact gives_exists decoders (by simp_all)

theorem absent_missing : Missing (.error (.of .absent)) := ⟨_,rfl,rfl⟩

theorem Gives.global {result : Except Fault (Option Settings)}
    (gives : Gives decoders host (globalFile sources host) result) :
    optional (loadGlobal decoders sources host) = result := by
  unfold globalFile at gives
  unfold loadGlobal
  dsimp only at gives
  split at gives
  · rename_i off
    cases gives
    split
    · exact absent_missing.optional
    · rename_i on
      exact (loadFile_lacking decoders (by simpa [on] using off)).optional
  · rename_i on
    rw [if_neg (by simp_all)]
    exact gives.loaded

theorem decidingFile_gives (decoders : Decoders) (sources : Sources) (host : Host) :
    sources.explicitPath ≠ [] ∧ host.lacks sources.explicitPath = true ∨
      ∃ result, Gives decoders host (decidingFile sources host) result := by
  unfold decidingFile
  split
  · rename_i named
    cases lacks : host.lacks sources.explicitPath with
    | true => exact .inl ⟨by simpa using named,rfl⟩
    | false => exact .inr (gives_exists decoders lacks)
  · split
    · exact .inr ⟨_,.nothing⟩
    · exact .inr (find_gives decoders host _)

theorem Gives.project {result : Except Fault (Option Settings)}
    (gives : Gives decoders host (decidingFile sources host) result) :
    optional (loadProject decoders sources host) = result := by
  unfold decidingFile at gives
  unfold loadProject
  split at gives
  · rename_i named
    rw [if_pos named,← gives.loaded]
    cases gives with
    | layer holds => rw [holds.loaded]
    | fault unusable =>
      obtain ⟨failed,there⟩ := unusable.failed
      simp [failed,there]
  · rename_i unnamed
    rw [if_neg unnamed]
    split at gives
    · rename_i off
      cases gives
      rw [if_pos off]
      exact absent_missing.optional
    · rename_i on
      rw [if_neg on]
      exact gives.first

theorem explicit_missing (named : sources.explicitPath ≠ [])
    (lacks : host.lacks sources.explicitPath = true) :
    optional (loadProject decoders sources host) = .error (notFound sources.explicitPath) := by
  obtain ⟨fault,failed,gone⟩ := loadFile_lacking decoders lacks
  have reported : loadProject decoders sources host = .error (notFound sources.explicitPath) := by
    simp [loadProject,named,failed,gone,notFound]
  rw [reported]
  rfl

theorem load_complete {result : Except Fault Settings} (loading : Loading decoders sources host result) :
    load decoders sources host = result := by
  cases loading with
  | globalFault global => rw [load,global.global]
  | explicitMissing global named lacks => rw [load,global.global,explicit_missing named lacks]
  | projectFault global project => rw [load,global.global,project.project]
  | loaded global project => rw [load,global.global,project.project]

theorem loading_exists (decoders : Decoders) (sources : Sources) (host : Host) :
    ∃ result, Loading decoders sources host result := by
  obtain ⟨below | below,global⟩ := globalFile_gives decoders sources host
  · exact ⟨_,.globalFault global⟩
  · rcases decidingFile_gives decoders sources host with ⟨named,lacks⟩ | ⟨above | above,project⟩
    · exact ⟨_,.explicitMissing global named lacks⟩
    · exact ⟨_,.projectFault global project⟩
    · exact ⟨_,.loaded global project⟩

theorem load_exact {result : Except Fault Settings} :
    load decoders sources host = result ↔ Loading decoders sources host result := by
  constructor
  · intro loaded
    obtain ⟨other,loading⟩ := loading_exists decoders sources host
    rw [← loaded,load_complete loading]
    exact loading
  · exact load_complete

-- The first of several texts that is not empty.
def firstSet (texts : List Bytes) : Bytes := (texts.find? fun given => !given.isEmpty).getD []

theorem firstSet_cons (given : Bytes) (rest : List Bytes) :
    firstSet (given :: rest) = uppermost (firstSet rest) given := by
  cases given <;> rfl

@[simp] theorem firstSet_single (given : Bytes) : firstSet [given] = given := by
  cases given <;> rfl

-- A text of a layer, and an empty one where there is no layer.
def textIn (read : Settings → Bytes) (layer : Option Settings) : Bytes := (layer.map read).getD []

theorem uppermost_textIn {read : Settings → Bytes}
    (merges : ∀ lower upper, read (merge lower upper) = uppermost (read lower) (read upper))
    (bottom : Settings) (layer : Option Settings) :
    uppermost (read bottom) (textIn read layer) = read (layer.toList.foldl merge bottom) := by
  cases layer with
  | none => rfl
  | some layer => exact (merges bottom layer).symm

-- A text of merged layers comes from the highest layer that has one.
theorem layered {read : Settings → Bytes}
    (merges : ∀ lower upper, read (merge lower upper) = uppermost (read lower) (read upper))
    (below above : Option Settings) :
    read ((below.toList ++ above.toList).foldl merge default) =
      firstSet [textIn read above,textIn read below,read default] := by
  rw [firstSet_cons,firstSet_cons,firstSet_single,uppermost_textIn merges,uppermost_textIn merges,
    List.foldl_append]

-- Loading succeeds exactly where the user's file is not there or is usable and the deciding file, if
-- any, is usable, and then gives the defaults under the user's layer under the project's. A fault
-- of the user's file is reported whatever the project's files are; a file that was named and is not
-- there is told by its path; and a deciding file of no use is never passed over.
theorem deciding_file_decides (decoders : Decoders) (sources : Sources) (host : Host) :
    (∀ settings, load decoders sources host = .ok settings ↔
      ∃ below above, Gives decoders host (globalFile sources host) (.ok below) ∧
        Gives decoders host (decidingFile sources host) (.ok above) ∧
        settings = (below.toList ++ above.toList).foldl merge default) ∧
    (∀ path fault, globalFile sources host = some path → Unusable decoders host path fault →
      load decoders sources host = .error fault) ∧
    ∀ below, Gives decoders host (globalFile sources host) (.ok below) →
      (sources.explicitPath ≠ [] → host.lacks sources.explicitPath = true →
        load decoders sources host = .error (notFound sources.explicitPath)) ∧
      ∀ path fault, decidingFile sources host = some path → Unusable decoders host path fault →
        load decoders sources host = .error fault := by
  refine ⟨fun settings => ⟨fun loaded => ?_,?_⟩,?_,?_⟩
  · cases load_exact.mp loaded with
    | loaded global project => exact ⟨_,_,global,project,rfl⟩
  · rintro ⟨below,above,global,project,rfl⟩
    exact load_complete (.loaded global project)
  · intro path fault there unusable
    exact load_complete (.globalFault (there ▸ .fault unusable))
  · intro below global
    refine ⟨fun named lacks => load_complete (.explicitMissing global named lacks),?_⟩
    intro path fault decides unusable
    exact load_complete (.projectFault global (decides ▸ .fault unusable))

-- A directory in the place of the first candidate is there, so the second one is not asked.
example : load ⟨fun _ => .ok [],fun _ => .ok []⟩ ⟨text "/p",[],[]⟩
    ((Host.makeDirectory ⟨.empty,none,[]⟩ (text "/p/.orion.toml")).put (text "/p/.orion.yaml") []
      0o644) = .error (Host.refused (text "read") (text "/p/.orion.toml") .isDirectory) := by rfl

end

end Settings

-- The settings that are on or off.
inductive Switch where
  | propagateExitCode
  | resolveEntryScript

namespace Switch

def key : Switch → Bytes
  | .propagateExitCode => text "propagate_exit_code"
  | .resolveEntryScript => text "resolve_entry_script"

def isOn : Switch → Settings → Bool
  | .propagateExitCode,settings => settings.launcher.propagateExitCode
  | .resolveEntryScript,settings => settings.launcher.resolveEntryScript

-- What a document says about a switch, if it says anything that counts.
def stated (switch : Switch) (document : RawTable) : Option Bool :=
  match (document.tableAt Settings.launcherSection).get? switch.key with
  | some (.flag value) => some value
  | _ => none

theorem isOn_ofRaw (switch : Switch) (document : RawTable) :
    switch.isOn (.ofRaw document) = (switch.stated document).getD false := by
  have read : switch.isOn (.ofRaw document) =
      (document.tableAt Settings.launcherSection).flagAt switch.key := by
    cases switch <;> rfl
  rw [read,RawTable.flagAt,stated]
  cases (document.tableAt Settings.launcherSection).get? switch.key with
  | none => rfl
  | some raw => cases raw <;> rfl

theorem isOn_merge (switch : Switch) (lower upper : Settings) :
    switch.isOn (.merge lower upper) = (switch.isOn lower || switch.isOn upper) := by
  cases switch <;> rfl

theorem isOn_default (switch : Switch) : switch.isOn .default = false := by
  cases switch <;> rfl

-- A project that states a switch has its way unless it says off where the user's file says on: a
-- layer in which a switch is off does not differ from one that does not mention it.
theorem project_decides_iff (switch : Switch) (global project : RawTable) {value : Bool}
    (stated : switch.stated project = some value) :
    switch.isOn (.merge (.merge .default (.ofRaw global)) (.ofRaw project)) = value ↔
      value = true ∨ switch.stated global ≠ some true := by
  rw [isOn_merge,isOn_merge,isOn_default,isOn_ofRaw,isOn_ofRaw,stated,Bool.false_or,
    Option.getD_some]
  cases value with
  | true => simp
  | false =>
    cases below : switch.stated global with
    | none => simp
    | some on => cases on <;> simp

def sampleDocument (value : Bool) : RawTable :=
  [(Settings.launcherSection,
    .table [(key .propagateExitCode,.flag value),(key .resolveEntryScript,.flag value)])]

theorem project_decides_over_nothing :
    isOn .resolveEntryScript
      (.merge (.merge .default (.ofRaw [])) (.ofRaw (sampleDocument true))) = true :=
  (project_decides_iff .resolveEntryScript [] (sampleDocument true) (by rfl)).mpr (.inl rfl)

theorem project_off_is_lost :
    stated .propagateExitCode (sampleDocument false) = some false ∧
    stated .resolveEntryScript (sampleDocument false) = some false ∧
    isOn .propagateExitCode (.merge (.merge .default (.ofRaw (sampleDocument true)))
      (.ofRaw (sampleDocument false))) = true ∧
    isOn .resolveEntryScript (.merge (.merge .default (.ofRaw (sampleDocument true)))
      (.ofRaw (sampleDocument false))) = true :=
  ⟨by rfl,by rfl,by rfl,by rfl⟩

end Switch

end ScriptLauncher
