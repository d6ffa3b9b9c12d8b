import ScriptLauncher.Proofs.Checks
import ScriptLauncher.Proofs.Fields

namespace ScriptLauncher

theorem Mode.ofName?_none {name : Bytes} :
    Mode.ofName? name = none ↔ ∀ mode : Mode, name ≠ mode.name := by
  rw [Option.eq_none_iff_forall_ne_some]
  exact forall_congr' fun mode => not_congr Mode.ofName?_exact

namespace Settings

theorem firstSet_empty {texts : List Bytes} : firstSet texts = [] ↔ ∀ given ∈ texts, given = [] := by
  induction texts with
  | nil => simp [firstSet]
  | cons given rest ih =>
    rw [firstSet_cons,List.forall_mem_cons,← ih]
    cases given <;> simp [uppermost]

-- The user's layer and the project's, as far as there are any, where both files are in order.
structure Layers (decoders : Decoders) (sources : Sources) (host : Host)
    (below above : Option Settings) : Prop where
  user : Gives decoders host (globalFile sources host) (.ok below)
  project : Gives decoders host (decidingFile sources host) (.ok above)

def warningsIn (layer : Option Settings) : List Bytes := (layer.map warnings).getD []

end Settings

-- The first text that is not empty, from the project's layer down to the defaults.
def Setting.first (setting : Setting) (below above : Option Settings) : Bytes :=
  Settings.firstSet [Settings.textIn setting.value above,Settings.textIn setting.value below,
    setting.value .default]

namespace Settings

-- What the two layers come to on top of the defaults.
def stacked (below above : Option Settings) : Settings :=
  (below.toList ++ above.toList).foldl merge default

section

variable {below above : Option Settings}

theorem stacked_value (setting : Setting) (below above : Option Settings) :
    setting.value (stacked below above) = setting.first below above :=
  layered setting.value_merge below above

theorem stacked_warnings (below above : Option Settings) :
    (stacked below above).warnings = warningsIn below ++ warningsIn above := by
  cases below <;> cases above <;> simp [stacked,merge,default,warningsIn]

theorem first_set {setting : Setting} (set : setting.value default ≠ [])
    (below above : Option Settings) : setting.first below above ≠ [] := by
  intro empty
  exact set (firstSet_empty.mp empty _ (by simp))

variable {decoders : Decoders} {sources : Sources} {host : Host} {settings : Settings}

theorem load_stacks : load decoders sources host = .ok settings ↔
    ∃ below above, Layers decoders sources host below above ∧ settings = stacked below above := by
  constructor
  · intro loaded
    cases load_exact.mp loaded with
    | loaded global project => exact ⟨_,_,⟨global,project⟩,rfl⟩
  · rintro ⟨below,above,layers,rfl⟩
    exact load_complete (.loaded layers.user layers.project)

end

end Settings

namespace Launch

variable {σ : Type}

-- Surroundings whose settings and variables come from files and whose lines are read by the rules of
-- the launcher.
def configured (decoders : Decoders) (sources : Sources) (host : σ → Host)
    (around : Surroundings σ) : Surroundings σ :=
  { around with
    settings := fun state => Settings.load decoders sources (host state)
    vars := fun state => Dotenv.load (host state)
    rules := .standard }

-- A launch that names no mode: the layers name something else, and it is not asked to do without a
-- shell.
structure Modeless (decoders : Decoders) (sources : Sources) (host : Host) (request : Request)
    (below above : Option Settings) : Prop where
  layers : Settings.Layers decoders sources host below above
  shell : request.noShell = false
  unknown : ∀ mode : Mode, Setting.mode.first below above ≠ mode.name

-- A launch without a shell whose interpreter is there and has no words.
structure Wordless (decoders : Decoders) (sources : Sources) (host : Host) (request : Request)
    (below above : Option Settings) : Prop where
  layers : Settings.Layers decoders sources host below above
  bare : request.noShell = true ∨ Setting.mode.first below above = Mode.exec.name
  none_ : LineRules.standard.split (Setting.interpreter.first below above) = .ok []

-- What a launch of one argument can be stopped by once its settings come from files.
inductive Blames (decoders : Decoders) (sources : Sources) (host : Host) (request : Request) :
    Cause → Prop where
  | outer (outer : cause.Outer) : Blames decoders sources host request cause
  | mode (modeless : Modeless decoders sources host request below above) :
      Blames decoders sources host request .invalidMode
  | interpreter (wordless : Wordless decoders sources host request below above) :
      Blames decoders sources host request .emptyCommand

-- A launch stops with a fault that has this cause in it.
def FailsBy (around : Surroundings σ) (request : Request) (state : σ) (cause : Cause) : Prop :=
  ∃ fault, (execute around request state).1 = .error fault ∧ cause ∈ fault.causes

section

variable {decoders : Decoders} {sources : Sources} {host : σ → Host} {around : Surroundings σ}
  {request : Request} {state : σ} {filename : Bytes} {below above : Option Settings}

theorem effective_mode (settings : Settings) (request : Request) :
    (effective settings request).mode =
      if request.noShell then Mode.exec.name else Setting.mode.value settings := rfl

-- Layers never leave the interpreter or the script empty, so only the mode is looked at.
theorem stacked_check (below above : Option Settings) (request : Request) :
    (effective (Settings.stacked below above) request).check =
      match Mode.ofName? (effective (Settings.stacked below above) request).mode with
      | some mode => .ok mode
      | none => .error (LauncherSettings.unknownMode
          (effective (Settings.stacked below above) request).mode) := by
  have named (setting : Setting) (set : setting.value .default ≠ []) :
      setting.value (Settings.stacked below above) ≠ [] := by
    rw [Settings.stacked_value]
    exact Settings.first_set set below above
  exact LauncherSettings.check_named (named .interpreter (by decide))
    (named .entryScript (by decide))

theorem stacked_exec : (effective (Settings.stacked below above) request).check = .ok .exec ↔
    request.noShell = true ∨ Setting.mode.first below above = Mode.exec.name := by
  have named : (effective (Settings.stacked below above) request).check = .ok .exec ↔
      (effective (Settings.stacked below above) request).mode = Mode.exec.name := by
    rw [← Mode.ofName?_exact,stacked_check]
    cases Mode.ofName? (effective (Settings.stacked below above) request).mode <;> simp
  rw [named,effective_mode,Settings.stacked_value]
  cases request.noShell <;> simp

theorem Modeless.fails (modeless : Modeless decoders sources (host state) request below above) :
    (execute (configured decoders sources host around) (request.on filename) state).1 =
      .error (LauncherSettings.unknownMode (Setting.mode.first below above)) := by
  have loaded : (configured decoders sources host around).settings state =
      .ok (Settings.stacked below above) := Settings.load_stacks.mpr ⟨_,_,modeless.layers,rfl⟩
  have named : (effective (Settings.stacked below above) (request.on filename)).mode =
      Setting.mode.first below above := by
    rw [effective_mode,Settings.stacked_value,Request.on,modeless.shell]
    rfl
  have refused := stacked_check below above (request.on filename)
  rw [named,Mode.ofName?_none.mpr modeless.unknown] at refused
  rw [execute_complete (.rejected rfl loaded refused)]

theorem Wordless.fails (wordless : Wordless decoders sources (host state) request below above) :
    (execute (configured decoders sources host around) (request.on filename) state).1 =
      .error (.of .emptyCommand) := by
  have loaded : (configured decoders sources host around).settings state =
      .ok (Settings.stacked below above) := Settings.load_stacks.mpr ⟨_,_,wordless.layers,rfl⟩
  have read : LineRules.standard.split
      (Setting.interpreter.value (Settings.stacked below above)) = .ok [] := by
    rw [Settings.stacked_value]
    exact wordless.none_
  have ready : Ready (configured decoders sources host around) (request.on filename) state filename
      (Settings.stacked below above) .exec := ⟨rfl,loaded,stacked_exec.mpr wordless.bare⟩
  exact (ready_fails ready _).mpr
    (.inl fun script => plan_fails_exact.mpr ⟨rfl,.inr ⟨read,rfl⟩⟩)

theorem failsBy_blames {cause : Cause}
    (fails : FailsBy (configured decoders sources host around) (request.on filename) state cause) :
    Blames decoders sources (host state) request cause := by
  obtain ⟨fault,failed,caused⟩ := fails
  obtain ⟨result,p,course⟩ :=
    course_exists (configured decoders sources host around) (request.on filename) state
  rw [execute_complete course] at failed
  subst failed
  cases course with
  | misused wrong => cases wrong
  | unloaded single lost => exact .outer ((Settings.load_outer lost).context _ _ caused)
  | rejected single loaded refused =>
    obtain ⟨below,above,layers,rfl⟩ := Settings.load_stacks.mp loaded
    rw [stacked_check] at refused
    split at refused
    · cases refused
    · rename_i unknown
      cases refused
      rw [effective_mode,Settings.stacked_value] at unknown
      -- Without a shell the mode is always one that is known.
      simp only [LauncherSettings.unknownMode,Fault.causes,List.mem_singleton] at caused
      subst caused
      cases shell : request.noShell with
      | true =>
        rw [Request.on,shell] at unknown
        cases unknown
      | false =>
        rw [Request.on,shell] at unknown
        exact .mode ⟨layers,shell,Mode.ofName?_none.mp unknown⟩
  | unplanned ready lost =>
    obtain ⟨below,above,layers,rfl⟩ := Settings.load_stacks.mp ready.loaded
    obtain ⟨rfl,⟨inner,read,rfl⟩ | ⟨read,rfl⟩⟩ := plan_fails_exact.mp lost
    · exact .outer ((LineRules.standard_outer read).context _ _ caused)
    · have none_ : LineRules.standard.split
          (Setting.interpreter.value (Settings.stacked below above)) = .ok [] := read
      rw [Settings.stacked_value] at none_
      simp only [Fault.causes,List.mem_singleton] at caused
      subst caused
      exact .interpreter ⟨layers,stacked_exec.mp ready.checked,none_⟩
  | unequipped ready decided real lost =>
    obtain ⟨named,unread⟩ := withVariables_fails.mp (congrArg Prod.fst lost)
    exact .outer (Dotenv.load_outer unread _ caused)

end

-- Loading gives the defaults under the user's layer under the project's: of every text the first one
-- that is not empty, and the warnings of both, the user's first. So what the defaults set is never
-- empty. A launch of one argument whose settings are loaded in this way does not stop for want of an
-- entry script, stops for want of a mode exactly where the first one named is none and a shell is not
-- ruled out, and stops for want of an interpreter exactly where it is to do without a shell and the
-- first one named has no words.
theorem first_text_is_effective (decoders : Decoders) (sources : Sources) :
    (∀ host settings, Settings.load decoders sources host = .ok settings →
      ∃ below above, Settings.Layers decoders sources host below above ∧
        (∀ setting : Setting, setting.value settings = setting.first below above) ∧
        settings.warnings = Settings.warningsIn below ++ Settings.warningsIn above ∧
        ∀ setting ∈ [Setting.interpreter,.entryScript,.mode,.level], setting.value settings ≠ []) ∧
    ∀ (host : σ → Host) (around : Surroundings σ) (request : Request) (filename : Bytes) (state : σ),
      let fails := FailsBy (configured decoders sources host around) (request.on filename) state
      ¬fails .emptyEntryScript ∧
      (fails .invalidMode ↔
        ∃ below above, Modeless decoders sources (host state) request below above) ∧
      (fails .emptyCommand ↔
        ∃ below above, Wordless decoders sources (host state) request below above) := by
  refine ⟨fun host settings loaded => ?_,fun host around request filename state => ?_⟩
  · obtain ⟨below,above,layers,rfl⟩ := Settings.load_stacks.mp loaded
    refine ⟨below,above,layers,fun setting => Settings.stacked_value setting below above,
      Settings.stacked_warnings below above,fun setting listed => ?_⟩
    have set : setting.value .default ≠ [] := by
      revert setting
      decide
    rw [Settings.stacked_value]
    exact Settings.first_set set below above
  · refine ⟨fun fails => ?_,⟨fun fails => ?_,?_⟩,⟨fun fails => ?_,?_⟩⟩
    · cases failsBy_blames fails with
      | outer outer => cases outer
    · cases failsBy_blames fails with
      | outer outer => cases outer
      | mode modeless => exact ⟨_,_,modeless⟩
    · rintro ⟨below,above,modeless⟩
      exact ⟨_,modeless.fails,by simp [LauncherSettings.unknownMode,Fault.causes]⟩
    · cases failsBy_blames fails with
      | outer outer => cases outer
      | interpreter wordless => exact ⟨_,_,wordless⟩
    · rintro ⟨below,above,wordless⟩
      exact ⟨_,wordless.fails,by simp [Fault.causes]⟩

-- A run of the launcher has surroundings of this kind.
example (setup : Setup) (options : Options) (workDir : Bytes) (host : Host) :
    configured setup.decoders (Program.sources options workDir host) Machine.host
      (Program.around setup options workDir host) = Program.around setup options workDir host := rfl

-- A user's file with an interpreter of blanks under a project's file with a mode that is none, each
-- with a section that is unknown.
def blankDecoders : Decoders where
  toml _ := .ok [(text "launcher",.table [(text "interpreter",.text (text " "))]),(text "x",.other)]
  yaml _ := .ok [(text "launcher",.table [(text "mode",.text (text "batch"))]),(text "y",.other)]

def blankHost : Host :=
  (Host.put ⟨.empty,none,[]⟩ (text "/g/config.toml") [] 0o644).put (text "/p/.orion.yml") [] 0o644

def blankSources : Sources := ⟨text "/p",[],text "/g"⟩

def blankAround : Surroundings (List Log.Entry) :=
  configured blankDecoders blankSources (fun _ => blankHost) sampleAround

theorem blank_interpreter_waits_for_mode : ∃ settings,
    Settings.load blankDecoders blankSources blankHost = .ok settings ∧
      settings.launcher.mode = text "batch" ∧ settings.launcher.entryScript = text "main.py" ∧
      settings.warnings = [text "unknown section: x",text "unknown section: y"] ∧
      FailsBy blankAround (sampleRequest.on (text "a")) [] .invalidMode ∧
      FailsBy blankAround (bareRequest.on (text "a")) [] .emptyCommand := by
  obtain ⟨loads,stops⟩ := first_text_is_effective blankDecoders blankSources
  have loaded : Settings.load blankDecoders blankSources blankHost = .ok _ := rfl
  obtain ⟨below,above,layers,values,-,-⟩ := loads blankHost _ loaded
  have blank := values .interpreter
  have unknown := values .mode
  refine ⟨_,loaded,rfl,rfl,by decide +kernel,(stops _ _ _ _ _).2.1.mpr ⟨below,above,layers,rfl,?_⟩,
    (stops _ _ _ _ _).2.2.mpr ⟨below,above,layers,.inl rfl,?_⟩⟩
  · rw [← unknown]
    intro mode
    cases mode <;> decide
  · rw [← blank]
    rfl

end Launch

end ScriptLauncher
