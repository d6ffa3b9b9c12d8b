import ScriptLauncher.Proofs.Layers

namespace ScriptLauncher

-- The sections that the launcher knows.
inductive Part where
  | launcher
  | log
  deriving DecidableEq

namespace Part

def name : Part → Bytes
  | .launcher => Settings.launcherSection
  | .log => Settings.logSection

def keys : Part → List Bytes
  | .launcher => Settings.launcherKeys
  | .log => Settings.logKeys

theorem name_injective {one other : Part} (same : one.name = other.name) : one = other := by
  revert same
  cases one <;> cases other <;> decide

def find? (name : Bytes) : Option Part := [launcher,log].find? (·.name == name)

theorem find?_exact {name : Bytes} {part : Part} : find? name = some part ↔ name = part.name := by
  constructor
  · intro found
    unfold find? at found
    have same : part.name = name := by simpa using List.find?_some found
    exact same.symm
  · rintro rfl
    cases part <;> decide

@[simp] theorem find?_name (part : Part) : find? part.name = some part := find?_exact.mpr rfl

theorem find?_none {name : Bytes} : find? name = none ↔ ∀ part : Part, name ≠ part.name := by
  rw [Option.eq_none_iff_forall_ne_some]
  exact forall_congr' fun part => not_congr find?_exact

end Part

-- The settings that are texts.
inductive Setting where
  | interpreter
  | entryScript
  | mode
  | shell
  | envFile
  | level
  deriving DecidableEq

namespace Setting

def key : Setting → Bytes
  | .interpreter => text "interpreter"
  | .entryScript => text "entry_script"
  | .mode => text "mode"
  | .shell => text "shell"
  | .envFile => text "env_file"
  | .level => text "level"

def value : Setting → Settings → Bytes
  | .interpreter,settings => settings.launcher.interpreter
  | .entryScript,settings => settings.launcher.entryScript
  | .mode,settings => settings.launcher.mode
  | .shell,settings => settings.launcher.shell
  | .envFile,settings => settings.launcher.envFile
  | .level,settings => settings.level

def put : Setting → Bytes → Settings → Settings
  | .interpreter,given,s => { s with launcher := { s.launcher with interpreter := given } }
  | .entryScript,given,s => { s with launcher := { s.launcher with entryScript := given } }
  | .mode,given,s => { s with launcher := { s.launcher with mode := given } }
  | .shell,given,s => { s with launcher := { s.launcher with shell := given } }
  | .envFile,given,s => { s with launcher := { s.launcher with envFile := given } }
  | .level,given,s => { s with level := given }

theorem value_put (own setting : Setting) (given : Bytes) (settings : Settings) :
    own.value (setting.put given settings) = if own = setting then given else own.value settings := by
  cases own <;> cases setting <;> rfl

theorem value_merge (setting : Setting) (lower upper : Settings) :
    setting.value (.merge lower upper) =
      Settings.uppermost (setting.value lower) (setting.value upper) := by
  cases setting <;> rfl

end Setting

deriving instance DecidableEq for Switch

namespace Switch

def put : Switch → Bool → Settings → Settings
  | .propagateExitCode,on,s => { s with launcher := { s.launcher with propagateExitCode := on } }
  | .resolveEntryScript,on,s => { s with launcher := { s.launcher with resolveEntryScript := on } }

theorem isOn_put (own switch : Switch) (on : Bool) (settings : Settings) :
    own.isOn (switch.put on settings) = if own = switch then on else own.isOn settings := by
  cases own <;> cases switch <;> rfl

end Switch

-- All that a document can set, with the place and the type that it has there.
inductive Field where
  | text (setting : Setting)
  | flag (switch : Switch)

namespace Field

def part : Field → Part
  | .text .level => .log
  | _ => .launcher

def key : Field → Bytes
  | .text setting => setting.key
  | .flag switch => switch.key

-- What settings have for a field, as a document would say it.
def value : Field → Settings → Raw
  | .text setting,settings => .text (setting.value settings)
  | .flag switch,settings => .flag (switch.isOn settings)

def zero : Field → Raw
  | .text _ => .text []
  | .flag _ => .flag false

def Takes : Field → Raw → Prop
  | .text _,.text _ => True
  | .flag _,.flag _ => True
  | _,_ => False

def put : Field → Raw → Settings → Settings
  | .text setting,.text value,settings => setting.put value settings
  | .flag switch,.flag on,settings => switch.put on settings
  | _,_,settings => settings

-- In the order of the sections and of the keys in them.
def all : List Field :=
  [.text .interpreter,.text .entryScript,.text .mode,.text .shell,.text .envFile,
    .flag .propagateExitCode,.flag .resolveEntryScript,.text .level]

def find? (part : Part) (key : Bytes) : Option Field :=
  all.find? fun field => field.part == part && field.key == key

theorem find?_exact {part : Part} {key : Bytes} {field : Field} :
    find? part key = some field ↔ field.part = part ∧ field.key = key := by
  constructor
  · intro found
    unfold find? at found
    simpa using List.find?_some found
  · rintro ⟨rfl,rfl⟩
    rcases field with setting | switch
    · cases setting <;> rfl
    · cases switch <;> rfl

-- The keys that are known in a section are those of its fields.
theorem keys_exact (part : Part) (key : Bytes) :
    part.keys.contains key = (find? part key).isSome := by
  have listed : part.keys = (all.filter fun field => field.part == part).map Field.key := by
    cases part <;> rfl
  rw [listed,find?,Bool.eq_iff_iff,List.find?_isSome]
  simp [and_assoc]

theorem value_put {field : Field} {raw : Raw} (takes : field.Takes raw) (settings : Settings) :
    field.value (field.put raw settings) = raw := by
  cases field with
  | text setting =>
    cases raw with
    | text given => simp [value,put,Setting.value_put]
    | _ => exact takes.elim
  | flag switch =>
    cases raw with
    | flag on => simp [value,put,Switch.isOn_put]
    | _ => exact takes.elim

theorem put_other {field other : Field} {raw : Raw} (idle : field = other → ¬field.Takes raw)
    (settings : Settings) : field.value (other.put raw settings) = field.value settings := by
  cases other with
  | text setting =>
    cases raw with
    | text given =>
      cases field with
      | text own =>
        have apart : own ≠ setting := fun same => idle (congrArg Field.text same) trivial
        simp [value,put,Setting.value_put,apart]
      | flag switch => cases setting <;> cases switch <;> rfl
    | _ => rfl
  | flag switch =>
    cases raw with
    | flag on =>
      cases field with
      | text own => cases own <;> cases switch <;> rfl
      | flag own =>
        have apart : own ≠ switch := fun same => idle (congrArg Field.flag same) trivial
        simp [value,put,Switch.isOn_put,apart]
    | _ => rfl

theorem put_warnings (field : Field) (raw : Raw) (settings : Settings) :
    (field.put raw settings).warnings = settings.warnings := by
  rcases field with setting | switch
  · cases raw with
    | text given => cases setting <;> rfl
    | _ => rfl
  · cases raw with
    | flag on => cases switch <;> rfl
    | _ => rfl

end Field

-- The fields and the warnings are all that there is to settings.
theorem Settings.ext_fields {one other : Settings}
    (fields : ∀ field : Field, field.value one = field.value other)
    (warnings : one.warnings = other.warnings) : one = other := by
  have texts (setting : Setting) : setting.value one = setting.value other :=
    Raw.text.inj (fields (.text setting))
  have flags (switch : Switch) : switch.isOn one = switch.isOn other :=
    Raw.flag.inj (fields (.flag switch))
  obtain ⟨⟨_,_,_,_,_,_,_⟩,_,_⟩ := one
  obtain ⟨⟨_,_,_,_,_,_,_⟩,_,_⟩ := other
  cases texts .interpreter
  cases texts .entryScript
  cases texts .mode
  cases texts .shell
  cases texts .envFile
  cases texts .level
  cases flags .propagateExitCode
  cases flags .resolveEntryScript
  cases warnings
  rfl

end ScriptLauncher
