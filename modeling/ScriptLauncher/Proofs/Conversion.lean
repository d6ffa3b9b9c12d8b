import Mathlib.Data.List.Perm.Basic
import ScriptLauncher.Proofs.Fields
import ScriptLauncher.Proofs.Listing

namespace ScriptLauncher

-- What settings are warned about.
inductive Complaint where
  | unknownSection (name : Bytes)
  | noTable (part : Part)
  | unknownKey (part : Part) (key : Bytes)

def Complaint.text : Complaint → Bytes
  | .unknownSection name => ScriptLauncher.text "unknown section: " ++ name
  | .noTable part =>
    ScriptLauncher.text "section [" ++ part.name ++ ScriptLauncher.text "] must be a table"
  | .unknownKey part key =>
    ScriptLauncher.text "unknown key in [" ++ part.name ++ ScriptLauncher.text "]: " ++ key

-- The section that a complaint is about.
def Complaint.about : Complaint → Bytes
  | .unknownSection name => name
  | .noTable part => part.name
  | .unknownKey part _ => part.name

-- Different complaints read differently.
theorem Complaint.text_injective {one other : Complaint} (same : one.text = other.text) :
    one = other := by
  cases one with
  | unknownSection name =>
    cases other with
    | unknownSection other => rw [List.append_cancel_left same]
    | noTable part => cases congrArg (·[0]?) same
    | unknownKey part key => cases congrArg (·[8]?) same
  | noTable part =>
    cases other with
    | unknownSection other => cases congrArg (·[0]?) same
    | noTable other =>
      have named : part.name = other.name :=
        List.append_cancel_left (List.append_cancel_right same)
      rw [Part.name_injective named]
    | unknownKey part key => cases congrArg (·[0]?) same
  | unknownKey part key =>
    cases other with
    | unknownSection other => cases congrArg (·[8]?) same
    | noTable other => cases congrArg (·[0]?) same
    | unknownKey other given =>
      cases part <;> cases other
      · rw [List.append_cancel_left same]
      · cases congrArg (·[17]?) same
      · cases congrArg (·[17]?) same
      · rw [List.append_cancel_left same]

namespace RawTable

-- A section that is a table, and what it has at a key.
def Holds (document : RawTable) (part : Part) (key : Bytes) (raw : Raw) : Prop :=
  ∃ entries, (part.name,.table entries) ∈ document ∧ (key,raw) ∈ entries

-- No section is there twice, and no key twice in a table that is one.
structure Distinct (document : RawTable) : Prop where
  sections : (document.map (·.1)).Nodup
  keys : ∀ name entries, (name,.table entries) ∈ document → (entries.map (·.1)).Nodup

end RawTable

-- The same section, with its keys in the same or in another order.
inductive Raw.Shuffled : Raw → Raw → Prop where
  | same : Shuffled raw raw
  | table (moved : entries.Perm others) : Shuffled (.table entries) (.table others)

-- The same document, with its sections and the keys in them in another order.
def RawTable.Shuffled (document other : RawTable) : Prop :=
  ∃ between, document.Perm between ∧
    List.Forall₂ (fun one other => one.1 = other.1 ∧ one.2.Shuffled other.2) between other

-- What a document says about a field: the value at its key, if it is of its type, and else nothing.
inductive Field.Reads (field : Field) (document : RawTable) : Raw → Prop where
  | stated (held : document.Holds field.part field.key raw) (takes : field.Takes raw) :
      Reads field document raw
  | unset (idle : ∀ raw, document.Holds field.part field.key raw → ¬field.Takes raw) :
      Reads field document field.zero

-- The complaints that a document gives rise to.
inductive Complaint.Due (document : RawTable) : Complaint → Prop where
  | unknownSection (there : (name,raw) ∈ document) (unknown : ∀ part : Part, name ≠ part.name) :
      Due document (.unknownSection name)
  | noTable (there : (part.name,raw) ∈ document) (other : ∀ entries, raw ≠ .table entries) :
      Due document (.noTable part)
  | unknownKey (held : document.Holds part key raw)
      (unknown : ∀ field : Field, field.part = part → field.key ≠ key) :
      Due document (.unknownKey part key)

namespace Settings

def warn (settings : Settings) (complaint : Complaint) : Settings :=
  { settings with warnings := settings.warnings ++ [complaint.text] }

-- One entry of a known section: a field takes its value, any other key is warned about.
def enter (part : Part) (settings : Settings) (entry : Bytes × Raw) : Settings :=
  match Field.find? part entry.1 with
  | some field => field.put entry.2 settings
  | none => settings.warn (.unknownKey part entry.1)

-- One section.
def visit (settings : Settings) (entry : Bytes × Raw) : Settings :=
  match Part.find? entry.1,entry.2 with
  | some part,.table entries => entries.foldl (enter part) settings
  | some part,_ => settings.warn (.noTable part)
  | none,_ => settings.warn (.unknownSection entry.1)

-- A document read entry by entry, in the order in which they come: what was set last stays, and the
-- warnings are put into their order at the end.
def gather (document : RawTable) : Settings :=
  let read := document.foldl visit {}
  { read with warnings := read.warnings.mergeSort Bytes.le }

end Settings

section

variable {σ α β : Type} {step : σ → α → σ} {read : σ → β} {entries : List α}

theorem foldl_keeps (keeps : ∀ entry ∈ entries, ∀ s, read (step s entry) = read s) (s : σ) :
    read (entries.foldl step s) = read s := by
  induction entries generalizing s with
  | nil => rfl
  | cons entry rest ih =>
    obtain ⟨first,others⟩ := List.forall_mem_cons.mp keeps
    exact (ih others (step s entry)).trans (first s)

-- What one entry writes stays, whenever its turn comes, if no other one writes to the same place.
theorem foldl_writes {entry : α} (there : entry ∈ entries) {written : β}
    (writes : ∀ s, read (step s entry) = written)
    (keeps : ∀ other ∈ entries, other ≠ entry → ∀ s, read (step s other) = read s) (s : σ) :
    read (entries.foldl step s) = written := by
  induction entries generalizing s with
  | nil => cases there
  | cons first rest ih =>
    obtain ⟨here,later⟩ := List.forall_mem_cons.mp keeps
    by_cases again : entry ∈ rest
    · exact ih again later (step s first)
    · obtain rfl : entry = first := (List.mem_cons.mp there).resolve_right again
      have rested : ∀ other ∈ rest, ∀ s, read (step s other) = read s := fun other behind =>
        later other behind (fun same => again (same ▸ behind))
      exact (foldl_keeps rested (step s entry)).trans (writes s)

end

namespace Settings

section

variable {field : Field} {document : RawTable}

theorem value_warned (field : Field) (settings : Settings) (warnings : List Bytes) :
    field.value { settings with warnings } = field.value settings := by
  rcases field with setting | switch
  · cases setting <;> rfl
  · cases switch <;> rfl

theorem enter_writes {raw : Raw} (takes : field.Takes raw) (settings : Settings) :
    field.value (enter field.part settings (field.key,raw)) = raw := by
  have found : Field.find? field.part field.key = some field := Field.find?_exact.mpr ⟨rfl,rfl⟩
  simp only [enter,found]
  exact Field.value_put takes settings

theorem enter_keeps {part : Part} {entry : Bytes × Raw}
    (idle : field.part = part → field.key = entry.1 → ¬field.Takes entry.2) (settings : Settings) :
    field.value (enter part settings entry) = field.value settings := by
  unfold enter
  split
  · rename_i other found
    obtain ⟨rfl,named⟩ := Field.find?_exact.mp found
    refine Field.put_other ?_ settings
    rintro rfl
    exact idle rfl named
  · exact value_warned ..

theorem visit_writes (distinct : document.Distinct) {entries : List (Bytes × Raw)} {raw : Raw}
    (there : (field.part.name,.table entries) ∈ document) (inside : (field.key,raw) ∈ entries)
    (takes : field.Takes raw) (settings : Settings) :
    field.value (visit settings (field.part.name,.table entries)) = raw := by
  simp only [visit,Part.find?_name]
  refine foldl_writes inside (enter_writes takes) (fun other among apart => ?_) settings
  refine enter_keeps fun _ named => ?_
  exact (apart (List.inj_on_of_nodup_map (distinct.keys _ _ there) among inside named.symm)).elim

theorem visit_keeps {entry : Bytes × Raw}
    (idle : ∀ entries, entry = (field.part.name,.table entries) →
      ∀ raw, (field.key,raw) ∈ entries → ¬field.Takes raw) (settings : Settings) :
    field.value (visit settings entry) = field.value settings := by
  obtain ⟨name,raw⟩ := entry
  unfold visit
  split
  · rename_i part entries found given
    obtain rfl := Part.find?_exact.mp found
    cases given
    refine foldl_keeps (fun other among => enter_keeps ?_) settings
    rintro rfl named
    obtain ⟨key,raw⟩ := other
    cases named
    exact idle entries rfl raw among
  · exact value_warned ..
  · exact value_warned ..

theorem value_gather (distinct : document.Distinct) {raw : Raw} (reads : field.Reads document raw) :
    field.value (gather document) = raw := by
  rw [gather,value_warned]
  cases reads with
  | stated held takes =>
    obtain ⟨entries,there,inside⟩ := held
    refine foldl_writes there (visit_writes distinct there inside takes) ?_ {}
    intro other among apart
    refine visit_keeps fun others named => ?_
    subst named
    exact (apart (List.inj_on_of_nodup_map distinct.sections among there rfl)).elim
  | unset idle =>
    have zero : field.value {} = field.zero := by
      rcases field with setting | switch
      · cases setting <;> rfl
      · cases switch <;> rfl
    rw [← zero]
    refine foldl_keeps (fun entry among => visit_keeps ?_) {}
    rintro entries rfl raw inside
    exact idle raw ⟨entries,among,inside⟩

end

end Settings

namespace RawTable

theorem get?_exact {table : RawTable} (distinct : (table.map (·.1)).Nodup) {key : Bytes}
    {raw : Raw} : table.get? key = some raw ↔ (key,raw) ∈ table := keyed_exact distinct

theorem held_exact {document : RawTable} (distinct : document.Distinct) {part : Part} {key : Bytes}
    {raw : Raw} :
    (document.tableAt part.name).get? key = some raw ↔ document.Holds part key raw := by
  constructor
  · intro found
    unfold tableAt at found
    split at found
    · rename_i entries there
      have among := (get?_exact distinct.sections).mp there
      exact ⟨entries,among,(get?_exact (distinct.keys _ _ among)).mp found⟩
    · cases found
  · rintro ⟨entries,there,inside⟩
    have section_ : document.tableAt part.name = entries := by
      rw [tableAt,(get?_exact distinct.sections).mpr there]
    rw [section_,get?_exact (distinct.keys _ _ there)]
    exact inside

end RawTable

namespace Settings

section

variable {field : Field} {document : RawTable}

theorem ofRaw_takes {raw : Raw}
    (found : (document.tableAt field.part.name).get? field.key = some raw)
    (takes : field.Takes raw) : field.value (ofRaw document) = raw := by
  rcases field with setting | switch
  · cases raw with
    | text given =>
      have read : (document.tableAt (Field.text setting).part.name).textAt (Field.text setting).key =
          given := by
        rw [RawTable.textAt,found]
      cases setting <;> exact congrArg Raw.text read
    | _ => exact takes.elim
  · cases raw with
    | flag on =>
      have read : (document.tableAt (Field.flag switch).part.name).flagAt (Field.flag switch).key =
          on := by
        rw [RawTable.flagAt,found]
      cases switch <;> exact congrArg Raw.flag read
    | _ => exact takes.elim

theorem ofRaw_idle (idle : ∀ raw,
      (document.tableAt field.part.name).get? field.key = some raw → ¬field.Takes raw) :
    field.value (ofRaw document) = field.zero := by
  rcases field with setting | switch
  · have read : (document.tableAt (Field.text setting).part.name).textAt setting.key = [] := by
      unfold RawTable.textAt
      split
      · rename_i given found
        exact (idle _ found trivial).elim
      · rfl
    cases setting <;> exact congrArg Raw.text read
  · have read : (document.tableAt (Field.flag switch).part.name).flagAt switch.key = false := by
      unfold RawTable.flagAt
      split
      · rename_i on found
        exact (idle _ found trivial).elim
      · rfl
    cases switch <;> exact congrArg Raw.flag read

theorem value_ofRaw (distinct : document.Distinct) {raw : Raw} (reads : field.Reads document raw) :
    field.value (ofRaw document) = raw := by
  cases reads with
  | stated held takes => exact ofRaw_takes ((RawTable.held_exact distinct).mpr held) takes
  | unset idle =>
    exact ofRaw_idle fun raw found => idle raw ((RawTable.held_exact distinct).mp found)

theorem reads_exists (field : Field) (document : RawTable) : ∃ raw, field.Reads document raw := by
  by_cases stated : ∃ raw, document.Holds field.part field.key raw ∧ field.Takes raw
  · obtain ⟨raw,held,takes⟩ := stated
    exact ⟨raw,.stated held takes⟩
  · exact ⟨_,.unset fun raw held takes => stated ⟨raw,held,takes⟩⟩

theorem reads_exact (distinct : document.Distinct) {raw : Raw} :
    field.value (ofRaw document) = raw ↔ field.Reads document raw := by
  constructor
  · rintro rfl
    obtain ⟨raw,reads⟩ := reads_exists field document
    rw [value_ofRaw distinct reads]
    exact reads
  · exact value_ofRaw distinct

end

-- The complaints about one section, in the order of its keys.
def complaints (entry : Bytes × Raw) : List Complaint :=
  match Part.find? entry.1,entry.2 with
  | some part,.table entries =>
    (entries.filter fun inner => (Field.find? part inner.1).isNone).map fun inner =>
      .unknownKey part inner.1
  | some part,_ => [.noTable part]
  | none,_ => [.unknownSection entry.1]

theorem enter_warnings (part : Part) (entries : List (Bytes × Raw)) (settings : Settings) :
    (entries.foldl (enter part) settings).warnings = settings.warnings ++
      ((entries.filter fun inner => (Field.find? part inner.1).isNone).map fun inner =>
        (Complaint.unknownKey part inner.1).text) := by
  induction entries generalizing settings with
  | nil => simp
  | cons entry rest ih =>
    rw [List.foldl_cons,ih]
    cases found : Field.find? part entry.1 with
    | some field => simp [enter,found,Field.put_warnings]
    | none => simp [enter,found,warn]

theorem visit_warnings (settings : Settings) (entry : Bytes × Raw) :
    (visit settings entry).warnings =
      settings.warnings ++ (complaints entry).map Complaint.text := by
  unfold visit complaints
  split
  · rename_i part entries _ given
    rw [enter_warnings]
    simp
  · rfl
  · rfl

theorem gathered_warnings (document : RawTable) (settings : Settings) :
    (document.foldl visit settings).warnings =
      settings.warnings ++ (document.flatMap complaints).map Complaint.text := by
  induction document generalizing settings with
  | nil => simp
  | cons entry rest ih => simp [ih,visit_warnings]

theorem entryWarnings_known (part : Part) (raw : Raw) :
    entryWarnings (part.name,raw) = sectionWarnings part.name part.keys raw := by
  cases part <;> rfl

theorem entryWarnings_exact (entry : Bytes × Raw) :
    entryWarnings entry = (complaints entry).map Complaint.text := by
  obtain ⟨name,raw⟩ := entry
  cases found : Part.find? name with
  | none =>
    have unknown := Part.find?_none.mp found
    have first : name ≠ launcherSection := unknown .launcher
    have second : name ≠ logSection := unknown .log
    simp [entryWarnings,complaints,found,first,second,Complaint.text]
  | some part =>
    obtain rfl := Part.find?_exact.mp found
    rw [entryWarnings_known]
    cases raw with
    | table entries =>
      simp only [sectionWarnings,complaints,found,Field.keys_exact,Option.not_isSome,List.map_map]
      rfl
    | _ => simp [sectionWarnings,complaints,Complaint.text]

-- Every warning comes from one entry of a document, and is about that entry's section.
theorem ofRaw_warnings (document : RawTable) : (ofRaw document).warnings =
    ((document.flatMap complaints).map Complaint.text).mergeSort Bytes.le := by
  have told : document.flatMap entryWarnings = (document.flatMap complaints).map Complaint.text := by
    rw [List.map_flatMap]
    exact List.flatMap_congr fun entry _ => entryWarnings_exact entry
  rw [← told]
  rfl

theorem gather_warnings (document : RawTable) :
    (gather document).warnings = (ofRaw document).warnings := by
  rw [ofRaw_warnings]
  exact congrArg (·.mergeSort Bytes.le) (gathered_warnings document {})

theorem mem_complaints {document : RawTable} {complaint : Complaint} :
    complaint ∈ document.flatMap complaints ↔ complaint.Due document := by
  rw [List.mem_flatMap]
  constructor
  · rintro ⟨⟨name,raw⟩,there,about⟩
    unfold complaints at about
    split at about
    · rename_i part entries found given
      obtain rfl := Part.find?_exact.mp found
      cases given
      obtain ⟨⟨key,inner⟩,inside,rfl⟩ := List.mem_map.mp about
      obtain ⟨inside,unknown⟩ := List.mem_filter.mp inside
      refine .unknownKey ⟨entries,there,inside⟩ fun field at_ named => ?_
      rw [Field.find?_exact.mpr ⟨at_,named⟩] at unknown
      cases unknown
    · rename_i part found other
      obtain rfl := Part.find?_exact.mp found
      obtain rfl := List.mem_singleton.mp about
      exact .noTable there other
    · rename_i given found
      obtain rfl := List.mem_singleton.mp about
      exact .unknownSection there (Part.find?_none.mp found)
  · intro due
    cases due with
    | unknownSection there unknown =>
      refine ⟨_,there,?_⟩
      simp [complaints,Part.find?_none.mpr unknown]
    | noTable there other =>
      rename_i raw part
      refine ⟨_,there,?_⟩
      cases raw with
      | table entries => exact (other entries rfl).elim
      | _ => simp [complaints]
    | unknownKey held unknown =>
      rename_i part key raw
      obtain ⟨entries,there,inside⟩ := held
      have none_ : Field.find? part key = none := by
        rw [Option.eq_none_iff_forall_ne_some]
        intro field found
        obtain ⟨at_,named⟩ := Field.find?_exact.mp found
        exact unknown field at_ named
      refine ⟨_,there,?_⟩
      simp only [complaints,Part.find?_name]
      exact List.mem_map.mpr ⟨_,List.mem_filter.mpr ⟨inside,by simp [none_]⟩,rfl⟩

theorem complaints_about {entry : Bytes × Raw} {complaint : Complaint}
    (given : complaint ∈ complaints entry) : complaint.about = entry.1 := by
  unfold complaints at given
  split at given
  · rename_i part entries found _
    obtain ⟨inner,-,rfl⟩ := List.mem_map.mp given
    exact (Part.find?_exact.mp found).symm
  · rename_i part found _
    obtain rfl := List.mem_singleton.mp given
    exact (Part.find?_exact.mp found).symm
  · obtain rfl := List.mem_singleton.mp given
    rfl

theorem complaints_once {document : RawTable} (distinct : document.Distinct) :
    (document.flatMap complaints).Nodup := by
  rw [List.nodup_flatMap]
  constructor
  · rintro ⟨name,raw⟩ there
    unfold complaints
    split
    · rename_i part entries _ given
      cases given
      have keys : ((entries.filter fun inner => (Field.find? part inner.1).isNone).map
          (·.1)).Nodup :=
        (distinct.keys _ _ there).sublist (List.filter_sublist.map _)
      have different : Function.Injective (Complaint.unknownKey part) := fun _ _ same =>
        (Complaint.unknownKey.inj same).2
      simpa [Function.comp_def] using keys.map different
    · exact List.nodup_singleton _
    · exact List.nodup_singleton _
  · refine (List.pairwise_map.mp distinct.sections).imp fun apart => ?_
    intro complaint first second
    exact apart ((complaints_about first).symm.trans (complaints_about second))

theorem warnings_ascend {document : RawTable} (distinct : document.Distinct) :
    (ofRaw document).warnings.Pairwise (· < ·) := by
  have once := (complaints_once distinct).map fun _ _ => Complaint.text_injective
  rw [ofRaw_warnings]
  exact listed_ascending id (by simpa using once)

end Settings

namespace RawTable

section

variable {document other : RawTable}

theorem Shuffled.names (shuffled : document.Shuffled other) :
    (document.map (·.1)).Perm (other.map (·.1)) := by
  obtain ⟨between,moved,alike⟩ := shuffled
  have names : between.map (·.1) = other.map (·.1) := by
    rw [← List.forall₂_eq_eq_eq,List.forall₂_map_left_iff,List.forall₂_map_right_iff]
    exact alike.imp fun _ _ same => same.1
  exact names ▸ moved.map _

theorem Shuffled.symm (shuffled : document.Shuffled other) : other.Shuffled document := by
  obtain ⟨between,moved,alike⟩ := shuffled
  obtain ⟨beyond,first,later⟩ := List.perm_comp_forall₂ moved alike
  refine ⟨beyond,later.symm,List.Forall₂.flip (first.imp ?_)⟩
  rintro ⟨name,raw⟩ ⟨_,again⟩ ⟨rfl,keys⟩
  refine ⟨rfl,?_⟩
  cases keys with
  | same => exact .same
  | table inner => exact .table inner.symm

theorem Shuffled.there (shuffled : document.Shuffled other) {name : Bytes}
    {entries : List (Bytes × Raw)} (there : (name,.table entries) ∈ document) :
    ∃ later, (name,.table later) ∈ other ∧ entries.Perm later := by
  obtain ⟨between,moved,alike⟩ := shuffled
  rw [moved.mem_iff] at there
  clear moved
  induction alike with
  | nil => cases there
  | cons same _ ih =>
    rcases List.mem_cons.mp there with rfl | behind
    · rename_i entry rest others _
      obtain ⟨named,keys⟩ := same
      obtain ⟨_,raw⟩ := entry
      cases named
      cases keys with
      | same => exact ⟨entries,List.mem_cons_self,.refl _⟩
      | table inner => exact ⟨_,List.mem_cons_self,inner⟩
    · obtain ⟨later,found,inner⟩ := ih behind
      exact ⟨later,List.mem_cons_of_mem _ found,inner⟩

theorem Shuffled.holds (shuffled : document.Shuffled other) {part : Part} {key : Bytes} {raw : Raw}
    (held : document.Holds part key raw) : other.Holds part key raw := by
  obtain ⟨entries,there,inside⟩ := held
  obtain ⟨later,found,inner⟩ := shuffled.there there
  exact ⟨later,found,inner.mem_iff.mp inside⟩

theorem Shuffled.distinct (shuffled : document.Shuffled other) (distinct : document.Distinct) :
    other.Distinct where
  sections := shuffled.names.nodup_iff.mp distinct.sections
  keys := by
    intro name entries there
    obtain ⟨earlier,found,inner⟩ := shuffled.symm.there there
    exact (inner.map _).nodup_iff.mpr (distinct.keys name earlier found)

theorem Shuffled.reads (shuffled : document.Shuffled other) {field : Field} {raw : Raw}
    (reads : field.Reads document raw) : field.Reads other raw := by
  cases reads with
  | stated held takes => exact .stated (shuffled.holds held) takes
  | unset idle => exact .unset fun raw held => idle raw (shuffled.symm.holds held)

theorem Shuffled.complaints (shuffled : document.Shuffled other) :
    (other.flatMap Settings.complaints).Perm (document.flatMap Settings.complaints) := by
  obtain ⟨between,moved,alike⟩ := shuffled
  refine List.Perm.trans ?_ (moved.flatMap_right _).symm
  clear moved
  induction alike with
  | nil => exact .refl _
  | cons same _ ih =>
    rename_i entry given rest others _
    obtain ⟨name,raw⟩ := entry
    obtain ⟨_,again⟩ := given
    obtain ⟨rfl,keys⟩ := same
    refine List.Perm.append ?_ ih
    cases keys with
    | same => exact .refl _
    | table inner =>
      unfold Settings.complaints
      cases Part.find? name with
      | none => exact .refl _
      | some part => exact ((inner.filter _).map _).symm

end

end RawTable

namespace Settings

theorem gather_exact {document : RawTable} (distinct : document.Distinct) :
    gather document = ofRaw document := by
  refine ext_fields (fun field => ?_) (gather_warnings document)
  obtain ⟨raw,reads⟩ := reads_exists field document
  rw [value_gather distinct reads,value_ofRaw distinct reads]

theorem ofRaw_shuffled {document other : RawTable} (distinct : document.Distinct)
    (shuffled : document.Shuffled other) : ofRaw other = ofRaw document := by
  refine ext_fields (fun field => ?_) ?_
  · obtain ⟨raw,reads⟩ := reads_exists field document
    rw [value_ofRaw distinct reads,
      value_ofRaw (shuffled.distinct distinct) (shuffled.reads reads)]
  · have once := (complaints_once distinct).map fun _ _ => Complaint.text_injective
    rw [ofRaw_warnings,ofRaw_warnings]
    exact listed_unique id (by simpa using once) (shuffled.complaints.map _)

-- A document in which nothing stands twice says the same in whatever order its sections and keys are
-- gone through. Each field has the value at its key, if that is of its type, and is empty or off
-- otherwise. The warnings ascend; there is one for each complaint that is due and no other one. A key
-- that is known with a value of another type sets nothing and is not warned about.
theorem conversion_ignores_order {document other : RawTable} (distinct : document.Distinct)
    (shuffled : document.Shuffled other) :
    gather other = ofRaw document ∧ ofRaw other = ofRaw document ∧
    (∀ (field : Field) raw, field.value (ofRaw document) = raw ↔ field.Reads document raw) ∧
    (ofRaw document).warnings.Pairwise (· < ·) ∧
    (∀ warning, warning ∈ (ofRaw document).warnings ↔
      ∃ complaint : Complaint, complaint.Due document ∧ complaint.text = warning) ∧
    (∀ one two : Complaint, one.text = two.text → one = two) ∧
    ∀ (field : Field) raw, document.Holds field.part field.key raw → ¬field.Takes raw →
      field.value (ofRaw document) = field.zero ∧
        ¬(Complaint.unknownKey field.part field.key).Due document := by
  have same := ofRaw_shuffled distinct shuffled
  refine ⟨(gather_exact (shuffled.distinct distinct)).trans same,same,
    fun field raw => reads_exact distinct,warnings_ascend distinct,fun warning => ?_,
    fun _ _ => Complaint.text_injective,fun field raw held other => ⟨?_,?_⟩⟩
  · rw [ofRaw_warnings,List.mem_mergeSort,List.mem_map]
    simp only [mem_complaints]
  · refine value_ofRaw distinct (.unset fun again heldAgain takes => other ?_)
    have found := (RawTable.held_exact distinct).mpr held
    rw [(RawTable.held_exact distinct).mpr heldAgain] at found
    cases found
    exact takes
  · intro due
    cases due with
    | unknownKey _ unknown => exact unknown field rfl rfl

-- A key without a meaning in each section, a key with a value of another type, a section that is none
-- and one that is not known.
def mixedDocument : RawTable :=
  [(text "colour",.other),
    (launcherSection,.table [(text "zoom",.other),(text "mode",.text (text "exec")),
      (text "shell",.flag true),(text "args",.other),(text "resolve_entry_script",.flag true)]),
    (logSection,.flag true)]

def mixedAgain : RawTable :=
  [(logSection,.flag true),
    (launcherSection,.table [(text "resolve_entry_script",.flag true),(text "args",.other),
      (text "shell",.flag true),(text "mode",.text (text "exec")),(text "zoom",.other)]),
    (text "colour",.other)]

theorem mixed_distinct : mixedDocument.Distinct where
  sections := by decide
  keys := by
    intro name entries there
    simp only [mixedDocument,List.mem_cons,Prod.mk.injEq,reduceCtorEq,and_false,Raw.table.injEq,
      false_or,List.not_mem_nil,or_false] at there
    rw [there.2]
    decide

theorem mixed_shuffled : mixedDocument.Shuffled mixedAgain := by
  have inner : Raw.Shuffled (mixedDocument[1]).2 (mixedAgain[1]).2 :=
    .table (List.reverse_perm _).symm
  exact ⟨mixedDocument.reverse,(List.reverse_perm _).symm,
    .cons ⟨rfl,.same⟩ (.cons ⟨rfl,inner⟩ (.cons ⟨rfl,.same⟩ .nil))⟩

theorem mixed_documents_agree : gather mixedAgain =
    { launcher := { mode := text "exec",resolveEntryScript := true }
      warnings := [text "section [log] must be a table",text "unknown key in [launcher]: args",
        text "unknown key in [launcher]: zoom",text "unknown section: colour"] } := by
  obtain ⟨same,-,-,ascending,-⟩ := conversion_ignores_order mixed_distinct mixed_shuffled
  have warnings : (ofRaw mixedDocument).warnings =
      [text "section [log] must be a table",text "unknown key in [launcher]: args",
        text "unknown key in [launcher]: zoom",text "unknown section: colour"] :=
    ascending_unique id ((List.mergeSort_perm _ _).trans (by decide)) ascending (by decide)
  rw [same,← warnings]
  rfl

end Settings

end ScriptLauncher
