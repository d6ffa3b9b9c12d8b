import ScriptLauncher.Main
import ScriptLauncher.Proofs.Precedence

namespace ScriptLauncher.Settings

theorem uppermost_assoc (low middle high : Bytes) :
    uppermost (uppermost low middle) high = uppermost low (uppermost middle high) := by
  cases high <;> rfl

theorem uppermost_nil (text : Bytes) : uppermost [] text = text := by
  cases text <;> rfl

theorem firstSet_append (texts more : List Bytes) :
    firstSet (texts ++ more) = uppermost (firstSet more) (firstSet texts) := by
  induction texts with
  | nil => rfl
  | cons given rest ih => rw [List.cons_append,firstSet_cons,ih,firstSet_cons,uppermost_assoc]

theorem merge_assoc (low middle high : Settings) :
    merge (merge low middle) high = merge low (merge middle high) := by
  apply ext_fields
  · intro field
    cases field with
    | text setting => simp only [Field.value,Setting.value_merge,uppermost_assoc]
    | flag switch => simp only [Field.value,Switch.isOn_merge,Bool.or_assoc]
  · exact List.append_assoc ..

-- `{}` is the layer that sets nothing and warns of nothing.
theorem merge_empty (layer : Settings) : merge layer {} = layer := by
  apply ext_fields
  · intro field
    cases field with
    | text setting => cases setting <;> rfl
    | flag switch => cases switch <;> exact congrArg Raw.flag (Bool.or_false _)
  · exact List.append_nil _

theorem empty_merge (layer : Settings) : merge {} layer = layer := by
  apply ext_fields
  · intro field
    cases field with
    | text setting => cases setting <;> exact congrArg Raw.text (uppermost_nil _)
    | flag switch => cases switch <;> rfl
  · rfl

instance : Std.Associative merge := ⟨merge_assoc⟩

-- The layers that set something or warn of something.
def filled (layers : List Settings) : List Settings := layers.filter (· ≠ {})

theorem foldl_filled (layers : List Settings) (bottom : Settings) :
    (filled layers).foldl merge bottom = layers.foldl merge bottom := by
  induction layers generalizing bottom with
  | nil => rfl
  | cons layer rest ih =>
    by_cases empty : layer = {}
    · have skipped : filled (layer :: rest) = filled rest := by simp [filled,empty]
      rw [skipped,ih,List.foldl_cons,empty,merge_empty]
    · have kept : filled (layer :: rest) = layer :: filled rest := by simp [filled,empty]
      rw [kept,List.foldl_cons,ih,List.foldl_cons]

-- Layers put together two at a time, in some order of the steps.
inductive Grouping where
  | layer (settings : Settings)
  | pile (lower upper : Grouping)

namespace Grouping

-- The layers from the lowest to the highest.
def layers : Grouping → List Settings
  | .layer settings => [settings]
  | .pile lower upper => lower.layers ++ upper.layers

def merged : Grouping → Settings
  | .layer settings => settings
  | .pile lower upper => merge lower.merged upper.merged

theorem merged_layers (grouping : Grouping) : grouping.merged = grouping.layers.foldl merge {} := by
  induction grouping with
  | layer settings => exact (empty_merge settings).symm
  | pile lower upper lowerMerged upperMerged =>
    calc merge lower.merged upper.merged
        = merge lower.merged (upper.layers.foldl merge {}) := by rw [upperMerged]
      _ = upper.layers.foldl merge (merge lower.merged {}) := List.foldl_assoc.symm
      _ = upper.layers.foldl merge (lower.layers.foldl merge {}) := by
        rw [merge_empty,lowerMerged]
      _ = (lower.layers ++ upper.layers).foldl merge {} := List.foldl_append.symm

theorem merged_filled {grouping other : Grouping}
    (same : filled grouping.layers = filled other.layers) : grouping.merged = other.merged := by
  rw [merged_layers,merged_layers,← foldl_filled grouping.layers,← foldl_filled other.layers,same]

theorem merged_value (grouping : Grouping) (setting : Setting) :
    setting.value grouping.merged = firstSet (grouping.layers.reverse.map setting.value) := by
  induction grouping with
  | layer settings => exact (firstSet_single _).symm
  | pile lower upper lowerFirst upperFirst =>
    rw [merged,Setting.value_merge,lowerFirst,upperFirst,layers,List.reverse_append,List.map_append,
      firstSet_append]

theorem merged_isOn (grouping : Grouping) (switch : Switch) :
    switch.isOn grouping.merged = grouping.layers.any switch.isOn := by
  induction grouping with
  | layer settings => exact (Bool.or_false _).symm
  | pile lower upper lowerOn upperOn =>
    rw [merged,Switch.isOn_merge,lowerOn,upperOn,layers,List.any_append]

theorem merged_warnings (grouping : Grouping) :
    grouping.merged.warnings = grouping.layers.flatMap warnings := by
  induction grouping with
  | layer settings => exact (List.append_nil _).symm
  | pile lower upper lowerWarned upperWarned =>
    rw [layers,List.flatMap_append,← lowerWarned,← upperWarned]
    rfl

end Grouping

theorem load_grouped {decoders : Decoders} {sources : Sources} {host : Host}
    {below above : Option Settings} (layers : Layers decoders sources host below above)
    {grouping : Grouping}
    (same : filled grouping.layers = filled (default :: (below.toList ++ above.toList))) :
    load decoders sources host = .ok grouping.merged := by
  have stack : stacked below above =
      (default :: (below.toList ++ above.toList)).foldl merge {} := by
    rw [List.foldl_cons,empty_merge]
    rfl
  rw [load_stacks.mpr ⟨_,_,layers,rfl⟩,stack,← foldl_filled,← same,foldl_filled,
    ← Grouping.merged_layers]

theorem ofRaw_nil : ofRaw [] = {} := by
  simp only [ofRaw,List.flatMap_nil,List.mergeSort_nil]
  rfl

theorem empty_decoded (path : Bytes) : decoded Main.decoders path [] = .ok [] := by
  unfold decoded
  split <;> rfl

theorem empty_holds {host : Host} {path : Bytes} (empty : host.read path = .ok []) :
    Holds Main.decoders host path {} :=
  ⟨[],[],empty,empty_decoded path,ofRaw_nil.symm⟩

-- Layers make a monoid, so only which layers there are and in which order decides what they come to,
-- and a layer that is empty can be left out. Each text is the first that is not empty from the
-- highest layer down, a switch is on where any layer has it on, and the warnings are those of all
-- layers from the lowest up. Loading gives what any such grouping of the defaults and the layers of
-- its files comes to. A file without a byte in it holds the empty layer; it still keeps its place
-- among the files, so an empty candidate of the project decides over the later ones.
theorem grouping_is_irrelevant :
    (∀ low middle high, merge (merge low middle) high = merge low (merge middle high)) ∧
    (∀ layer, merge {} layer = layer ∧ merge layer {} = layer) ∧
    (∀ grouping other : Grouping, filled grouping.layers = filled other.layers →
      grouping.merged = other.merged) ∧
    (∀ grouping : Grouping,
      (∀ setting : Setting,
        setting.value grouping.merged = firstSet (grouping.layers.reverse.map setting.value)) ∧
      (∀ switch : Switch, switch.isOn grouping.merged = grouping.layers.any switch.isOn) ∧
      grouping.merged.warnings = grouping.layers.flatMap warnings) ∧
    (∀ decoders sources host below above, Layers decoders sources host below above →
      ∀ grouping : Grouping,
        filled grouping.layers = filled (default :: (below.toList ++ above.toList)) →
        load decoders sources host = .ok grouping.merged) ∧
    ∀ host path, Host.read host path = .ok [] → Holds Main.decoders host path {} := by
  refine ⟨merge_assoc,fun layer => ⟨empty_merge layer,merge_empty layer⟩,?_,?_,?_,?_⟩
  · intro grouping other same
    exact Grouping.merged_filled same
  · intro grouping
    exact ⟨grouping.merged_value,grouping.merged_isOn,grouping.merged_warnings⟩
  · intro decoders sources host below above layers grouping same
    exact load_grouped layers same
  · intro host path empty
    exact empty_holds empty

-- A user's file with nothing in it, and a project that names a level.
def levelDocument : Bytes := text "log.level='warn'"

def levelLayer : Settings := { level := text "warn" }

def hollowHost : Host :=
  (Host.put ⟨.empty,none,[]⟩ (text "/g/config.toml") [] 0o644).put (text "/p/.orion.toml")
    levelDocument 0o644

def hollowSources : Sources := ⟨text "/p",[],text "/g"⟩

theorem decoded_toml {path : Bytes} (plain : isYaml path = false) (data : Bytes) :
    decoded Main.decoders path data = Toml.decode data := by
  simp [decoded,plain,Main.decoders]

theorem levelLayer_held : Holds Main.decoders hollowHost (text "/p/.orion.toml") levelLayer := by
  have plain : isYaml (text "/p/.orion.toml") = false := by decide
  have layer : (Toml.decode levelDocument).toOption.map ofRaw = some levelLayer := by decide +kernel
  cases decodes : Toml.decode levelDocument with
  | error detail =>
    rw [decodes] at layer
    cases layer
  | ok document =>
    rw [decodes] at layer
    exact ⟨_,_,by rfl,(decoded_toml plain levelDocument).trans decodes,(Option.some.inj layer).symm⟩

theorem hollow_file_changes_nothing :
    Gives Main.decoders hollowHost (globalFile hollowSources hollowHost) (.ok (some {})) ∧
      load Main.decoders hollowSources hollowHost = .ok (merge default levelLayer) := by
  obtain ⟨-,-,-,-,loads,empties⟩ := grouping_is_irrelevant
  have user : Gives Main.decoders hollowHost (globalFile hollowSources hollowHost)
      (.ok (some {})) := .layer (empties hollowHost (text "/g/config.toml") rfl)
  have project : Gives Main.decoders hollowHost (decidingFile hollowSources hollowHost)
      (.ok (some levelLayer)) := .layer levelLayer_held
  exact ⟨user,loads _ _ _ _ _ ⟨user,project⟩ (.pile (.layer default) (.layer levelLayer)) (by decide)⟩

end ScriptLauncher.Settings
