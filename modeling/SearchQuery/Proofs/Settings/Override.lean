import SearchQuery.Proofs.Text.Spelled
import SearchQuery.Settings.File

/-! Settings under the variables of an environment. A variable puts one value into one setting or
does nothing at all, so that each setting ends up with the value of the last variable that could be
read for it, whatever stands between. Only a blank document type can make valid settings invalid,
since a direction is kept by its name. Main statements: `set?_eq_some_iff`, `override_append`,
`get_override_of_lastRead`, `validate_eq_ok_iff`, `override_takes_last`. -/
namespace SearchQuery

/-! ### Directions -/

namespace Direction

theorem ofName?_eq_some_iff {name : String} {direction : Direction} :
    ofName? name = some direction ↔ name = direction.name := by
  constructor
  · intro h
    unfold ofName? at h
    split at h
    · next hasc =>
      cases h
      exact hasc
    · split at h
      · next hdesc =>
        cases h
        exact hdesc
      · cases h
  · rintro rfl
    cases direction <;> rfl

theorem plain_name (direction : Direction) : ∀ c ∈ direction.name.toList, Text.Plain c := by
  cases direction <;> simp [name, Text.Plain]

theorem parse?_eq_some_iff {text : String} {direction : Direction} :
    parse? text = some direction ↔ Text.Spells text direction.name := by
  have hne : direction.name ≠ "" := by cases direction <;> decide
  rw [parse?, ofName?_eq_some_iff, Text.normal_eq_iff_spells direction.plain_name hne]

theorem spells_name (direction : Direction) : Text.Spells direction.name direction.name := by
  rw [← parse?_eq_some_iff]
  cases direction <;> decide

end Direction

/-! ### What variables say -/

namespace Setting

/-- What a setting holds. -/
abbrev Value : Setting → Type
  | .docType | .direction => String
  | .mergeSource => Bool

/-- The name of the variable for a setting. -/
def key : Setting → String
  | .docType => "ESBUILDER_INDEX__DEFAULT_TYPE"
  | .direction => "ESBUILDER_QUERY__DEFAULT_DIRECTION"
  | .mergeSource => "ESBUILDER_QUERY__MERGE_SOURCE"

/-- Any text is a document type. A direction may be spelled in either case, with blanks around it,
and is read as its name; a boolean is one of two words as they are. -/
inductive Reads : (setting : Setting) → String → setting.Value → Prop
  | docType (text : String) : Reads .docType text text
  | direction {text : String} (direction : Direction) (spelled : Text.Spells text direction.name) :
      Reads .direction text direction.name
  | yes : Reads .mergeSource "true" true
  | no : Reads .mergeSource "false" false

def Unreadable (setting : Setting) (text : String) : Prop := ∀ value, ¬setting.Reads text value

/-- No variable has a value that can be read for the setting. -/
def Unread (setting : Setting) (environment : List (String × String)) : Prop :=
  ∀ text, (setting.key, text) ∈ environment → setting.Unreadable text

/-- The last variable whose value can be read for the setting has this value. -/
def LastRead (setting : Setting) (environment : List (String × String)) (value : setting.Value) :
    Prop :=
  ∃ before text after, environment = before ++ (setting.key, text) :: after ∧
    setting.Reads text value ∧ setting.Unread after

/-- The variable is for no setting, or its value cannot be read. -/
def Idle (entry : String × String) : Prop :=
  ∀ setting : Setting, entry.1 = setting.key → setting.Unreadable entry.2

variable {setting : Setting}

theorem key_eq (setting : Setting) : setting.key = Settings.overrideStart ++ setting.path := by
  cases setting <;> decide

theorem ofPath?_eq_some_iff {path : String} :
    ofPath? path = some setting ↔ path = setting.path := by
  constructor
  · intro h
    rw [ofPath?] at h
    have hpath := List.find?_some h
    exact (beq_iff_eq.mp hpath).symm
  · rintro rfl
    cases setting <;> decide

theorem idle_or_reads (entry : String × String) :
    Idle entry ∨ ∃ setting text value, entry = (key setting, text) ∧ setting.Reads text value := by
  by_cases h : Idle entry
  · exact .inl h
  · simp only [Idle, Unreadable, not_forall, not_not] at h
    obtain ⟨setting, hkey, value, hreads⟩ := h
    exact .inr ⟨setting, entry.2, value, Prod.ext hkey rfl, hreads⟩

/-- There is a last value that can be read, or there is none at all. -/
theorem exists_lastRead_or_unread (setting : Setting) (environment : List (String × String)) :
    (∃ value, setting.LastRead environment value) ∨ setting.Unread environment := by
  induction environment with
  | nil => exact .inr fun _ h => nomatch h
  | cons entry rest ih =>
    obtain ⟨value, before, text, after, rfl, hreads, hafter⟩ | hrest := ih
    · exact .inl ⟨value, entry :: before, text, after, rfl, hreads, hafter⟩
    · by_cases h : ∃ text value, entry = (setting.key, text) ∧ setting.Reads text value
      · obtain ⟨text, value, rfl, hreads⟩ := h
        exact .inl ⟨value, [], text, rest, rfl, hreads, hrest⟩
      · -- what comes first does not count either, so that nothing does
        refine .inr fun text htext value hreads => ?_
        obtain heq | hmem := List.mem_cons.mp htext
        · exact h ⟨text, value, heq.symm, hreads⟩
        · exact hrest text hmem value hreads

end Setting

namespace Settings

variable {settings : Settings} {setting : Setting}

/-! ### Values put into settings -/

def get (settings : Settings) : (setting : Setting) → setting.Value
  | .docType => settings.docType
  | .direction => settings.direction
  | .mergeSource => settings.mergeSource

def put (settings : Settings) : (setting : Setting) → setting.Value → Settings
  | .docType, name => { settings with docType := name }
  | .direction, name => { settings with direction := name }
  | .mergeSource, merge => { settings with mergeSource := merge }

/-- What no variable sets. -/
def about (settings : Settings) : String × Option String × Option String :=
  (settings.schemaVersion, settings.createdAt, settings.lastModified)

@[simp] theorem get_put (settings : Settings) (setting : Setting) (value : setting.Value) :
    (settings.put setting value).get setting = value := by
  cases setting <;> rfl

theorem get_put_of_ne {other : Setting} (h : setting ≠ other) (settings : Settings)
    (value : other.Value) : (settings.put other value).get setting = settings.get setting := by
  cases setting <;> cases other <;> simp [get, put] at h ⊢

theorem put_comm {other : Setting} (h : setting ≠ other) (settings : Settings)
    (value : setting.Value) (value' : other.Value) :
    (settings.put setting value).put other value' =
      (settings.put other value').put setting value := by
  cases setting <;> cases other <;> simp [put] at h ⊢

@[simp] theorem about_put (settings : Settings) (setting : Setting) (value : setting.Value) :
    (settings.put setting value).about = settings.about := by
  cases setting <;> rfl

/-! ### One variable -/

/-- A setting changes exactly if its text can be read, and then to what is read. -/
theorem set?_eq_some_iff {text : String} {changed : Settings} :
    settings.set? setting text = some changed ↔
      ∃ value, setting.Reads text value ∧ changed = settings.put setting value := by
  cases setting with
  | docType =>
    constructor
    · rintro ⟨⟩
      exact ⟨_, .docType text, rfl⟩
    · rintro ⟨_, ⟨⟩, rfl⟩
      rfl
  | direction =>
    rw [set?, Option.map_eq_some_iff]
    constructor
    · rintro ⟨direction, hparse, rfl⟩
      exact ⟨_, .direction direction (Direction.parse?_eq_some_iff.mp hparse), rfl⟩
    · rintro ⟨_, hreads, rfl⟩
      cases hreads with
      | direction direction spelled =>
        exact ⟨direction, Direction.parse?_eq_some_iff.mpr spelled, rfl⟩
  | mergeSource =>
    constructor
    · intro h
      rw [set?] at h
      split at h
      · next htrue =>
        cases h
        exact ⟨_, htrue ▸ .yes, rfl⟩
      · split at h
        · next hfalse =>
          cases h
          exact ⟨_, hfalse ▸ .no, rfl⟩
        · cases h
    · rintro ⟨_, ⟨⟩ | ⟨⟩, rfl⟩
      · rfl
      · rfl

theorem set?_eq_none_iff {text : String} :
    settings.set? setting text = none ↔ setting.Unreadable text := by
  constructor
  · intro h value hreads
    rw [set?_eq_some_iff.mpr ⟨value, hreads, rfl⟩] at h
    cases h
  · intro h
    refine Option.eq_none_iff_forall_ne_some.mpr fun changed hset => ?_
    obtain ⟨value, hreads, _⟩ := set?_eq_some_iff.mp hset
    exact h value hreads

theorem overridePath?_eq_some_iff {key path : String} :
    overridePath? key = some path ↔ key = overrideStart ++ path := by
  rw [overridePath?, ← String.toList_inj, String.toList_append]
  split
  · next h =>
    obtain ⟨rest, hrest⟩ := List.isPrefixOf_iff_prefix.mp h
    rw [← hrest, ← String.length_toList, List.drop_left, Option.some_inj, ← String.toList_inj,
      String.toList_ofList, List.append_cancel_left_eq]
  · next h =>
    refine iff_of_false nofun fun hkey => h ?_
    rw [List.isPrefixOf_iff_prefix, hkey]
    exact List.prefix_append _ _

/-- A variable that can be read puts its value into its setting. -/
theorem value_overrideOne_of_reads {text : String} {value : setting.Value}
    (h : setting.Reads text value) (settings : Settings) :
    (settings.overrideOne setting.key text).value = settings.put setting value := by
  have hpath : overridePath? setting.key = some setting.path :=
    overridePath?_eq_some_iff.mpr setting.key_eq
  have hsetting : Setting.ofPath? setting.path = some setting := Setting.ofPath?_eq_some_iff.mpr rfl
  have hset : settings.set? setting text = some (settings.put setting value) :=
    set?_eq_some_iff.mpr ⟨value, h, rfl⟩
  simp only [overrideOne, hpath, hsetting, hset, Logged.value_pure]

theorem value_overrideOne_of_idle {key text : String} (h : Setting.Idle (key, text))
    (settings : Settings) : (settings.overrideOne key text).value = settings := by
  unfold overrideOne
  split
  · rfl
  · next path hpath =>
    split
    · rfl
    · next setting hsetting =>
      have hkey : key = setting.key := by
        rw [overridePath?_eq_some_iff.mp hpath, Setting.ofPath?_eq_some_iff.mp hsetting,
          setting.key_eq]
      rw [set?_eq_none_iff.mpr (h setting hkey)]
      rfl

theorem about_overrideOne (settings : Settings) (key text : String) :
    (settings.overrideOne key text).value.about = settings.about := by
  obtain hidle | ⟨setting, text, value, heq, hreads⟩ := Setting.idle_or_reads (key, text)
  · rw [value_overrideOne_of_idle hidle]
  · cases heq
    rw [value_overrideOne_of_reads hreads, about_put]

theorem get_overrideOne_of_unreadable {key text : String}
    (h : key = setting.key → setting.Unreadable text) (settings : Settings) :
    (settings.overrideOne key text).value.get setting = settings.get setting := by
  obtain hidle | ⟨other, text, value, heq, hreads⟩ := Setting.idle_or_reads (key, text)
  · rw [value_overrideOne_of_idle hidle]
  · cases heq
    have hne : setting ≠ other := by
      rintro rfl
      exact h rfl value hreads
    rw [value_overrideOne_of_reads hreads, get_put_of_ne hne]

theorem overrideOne_comm {first second : String × String} (h : first.1 ≠ second.1)
    (settings : Settings) :
    ((settings.overrideOne first.1 first.2).value.overrideOne second.1 second.2).value =
      ((settings.overrideOne second.1 second.2).value.overrideOne first.1 first.2).value := by
  obtain hidle | ⟨setting, text, value, rfl, hreads⟩ := Setting.idle_or_reads first
  · rw [value_overrideOne_of_idle hidle, value_overrideOne_of_idle hidle]
  · -- two variables that both put a value have different settings
    obtain hidle | ⟨other, text', value', rfl, hreads'⟩ := Setting.idle_or_reads second
    · rw [value_overrideOne_of_idle hidle, value_overrideOne_of_idle hidle]
    · have hne : setting ≠ other := fun heq => h (congrArg Setting.key heq)
      simp only [value_overrideOne_of_reads hreads, value_overrideOne_of_reads hreads',
        put_comm hne]

/-! ### Many variables -/

variable {environment : List (String × String)}

theorem override_cons (settings : Settings) (entry : String × String)
    (rest : List (String × String)) :
    (settings.override (entry :: rest)).value =
      ((settings.overrideOne entry.1 entry.2).value.override rest).value := rfl

theorem override_append (settings : Settings) (before after : List (String × String)) :
    (settings.override (before ++ after)).value =
      ((settings.override before).value.override after).value := by
  induction before generalizing settings with
  | nil => rfl
  | cons entry rest ih => rw [List.cons_append, override_cons, override_cons, ih]

theorem about_override (settings : Settings) (environment : List (String × String)) :
    (settings.override environment).value.about = settings.about := by
  induction environment generalizing settings with
  | nil => rfl
  | cons entry rest ih => rw [override_cons, ih, about_overrideOne]

theorem get_override_of_unread (h : setting.Unread environment) (settings : Settings) :
    (settings.override environment).value.get setting = settings.get setting := by
  induction environment generalizing settings with
  | nil => rfl
  | cons entry rest ih =>
    have hentry : entry.1 = setting.key → setting.Unreadable entry.2 :=
      fun hkey => h entry.2 (hkey ▸ List.mem_cons_self)
    have hrest : setting.Unread rest := fun text htext => h text (List.mem_cons_of_mem _ htext)
    rw [override_cons, ih hrest, get_overrideOne_of_unreadable hentry]

theorem get_override_of_lastRead {value : setting.Value} (h : setting.LastRead environment value)
    (settings : Settings) : (settings.override environment).value.get setting = value := by
  obtain ⟨before, text, after, rfl, hreads, hafter⟩ := h
  rw [override_append, override_cons, get_override_of_unread hafter,
    value_overrideOne_of_reads hreads, get_put]

theorem override_swap {first second : String × String} (h : first.1 ≠ second.1)
    (settings : Settings) (before after : List (String × String)) :
    (settings.override (before ++ first :: second :: after)).value =
      (settings.override (before ++ second :: first :: after)).value := by
  simp only [override_append, override_cons, overrideOne_comm h]

theorem override_erase {entry : String × String} (h : Setting.Idle entry) (settings : Settings)
    (before after : List (String × String)) :
    (settings.override (before ++ entry :: after)).value =
      (settings.override (before ++ after)).value := by
  rw [override_append, override_cons, value_overrideOne_of_idle h, override_append]

/-! ### Valid settings -/

theorem validate_eq_ok_iff : settings.validate = .ok () ↔
    settings.schemaVersion = "1.0.0" ∧ ¬Text.Blank settings.docType.toList ∧
      ∃ direction : Direction, Text.Spells settings.direction direction.name := by
  have hversion : settings.versionProblems = [] ↔ settings.schemaVersion = "1.0.0" := by
    simp [versionProblems]
  have hdocType : settings.docTypeProblems = [] ↔ ¬Text.Blank settings.docType.toList := by
    simp [docTypeProblems, ← Text.isEmpty_trim_iff]
  have hdirection : settings.directionProblems = [] ↔
      ∃ direction : Direction, Text.Spells settings.direction direction.name := by
    simp [directionProblems, Option.isSome_iff_exists, Direction.parse?_eq_some_iff]
  have hvalid : settings.validate = .ok () ↔ settings.problems = [] := by
    simp [validate]
  rw [hvalid, problems, List.append_eq_nil_iff, List.append_eq_nil_iff, hversion, hdocType,
    hdirection, and_assoc]

/-- A direction that was read is kept by its name, which is read again. -/
theorem spells_direction_override
    (h : ∃ direction : Direction, Text.Spells settings.direction direction.name)
    (environment : List (String × String)) :
    ∃ direction : Direction,
      Text.Spells (settings.override environment).value.direction direction.name := by
  obtain ⟨name, hlast⟩ | hunread := Setting.direction.exists_lastRead_or_unread environment
  · have hname : (settings.override environment).value.direction = name :=
      get_override_of_lastRead hlast settings
    obtain ⟨_, _, _, _, hreads, _⟩ := hlast
    rw [hname]
    cases hreads with
    | direction direction _ => exact ⟨direction, direction.spells_name⟩
  · have hsame : (settings.override environment).value.direction = settings.direction :=
      get_override_of_unread hunread settings
    rwa [hsame]

theorem blank_docType_override_iff (h : ¬Text.Blank settings.docType.toList)
    (environment : List (String × String)) :
    Text.Blank (settings.override environment).value.docType.toList ↔
      ∃ name, Setting.docType.LastRead environment name ∧ Text.Blank name.toList := by
  have hname {name : String} (hlast : Setting.docType.LastRead environment name) :
      (settings.override environment).value.docType = name :=
    get_override_of_lastRead hlast settings
  constructor
  · intro hblank
    obtain ⟨name, hlast⟩ | hunread := Setting.docType.exists_lastRead_or_unread environment
    · exact ⟨name, hlast, hname hlast ▸ hblank⟩
    · have hsame : (settings.override environment).value.docType = settings.docType :=
        get_override_of_unread hunread settings
      exact absurd (hsame ▸ hblank) h
  · rintro ⟨name, hlast, hblank⟩
    rwa [hname hlast]

/-- Settings that are valid stay so, unless the last document type is blank. -/
theorem validate_override_iff (valid : settings.validate = .ok ())
    (environment : List (String × String)) :
    (settings.override environment).value.validate = .ok () ↔
      ¬∃ name, Setting.docType.LastRead environment name ∧ Text.Blank name.toList := by
  obtain ⟨hversion, hdocType, hdirection⟩ := validate_eq_ok_iff.mp valid
  have hversion' : (settings.override environment).value.schemaVersion = "1.0.0" :=
    (congrArg Prod.fst (settings.about_override environment)).trans hversion
  rw [validate_eq_ok_iff, blank_docType_override_iff hdocType]
  exact ⟨fun h => h.2.1, fun h => ⟨hversion', h, spells_direction_override hdirection environment⟩⟩

/-- The last variable that can be read wins, setting by setting. What no variable sets is as before;
neighbours of different names may change places; a variable that is for no setting or cannot be read
may be left out; and valid settings stay valid exactly if the last document type, should there be
one, is not blank. -/
theorem override_takes_last (settings : Settings) (environment : List (String × String)) :
    (∀ setting : Setting,
        (∀ value, setting.LastRead environment value →
          (settings.override environment).value.get setting = value) ∧
        (setting.Unread environment →
          (settings.override environment).value.get setting = settings.get setting)) ∧
      (settings.override environment).value.about = settings.about ∧
      (∀ before first second after, environment = before ++ first :: second :: after →
        first.1 ≠ second.1 → (settings.override environment).value =
          (settings.override (before ++ second :: first :: after)).value) ∧
      (∀ before entry after, environment = before ++ entry :: after → Setting.Idle entry →
        (settings.override environment).value = (settings.override (before ++ after)).value) ∧
      (settings.validate = .ok () →
        ((settings.override environment).value.validate = .ok () ↔
          ¬∃ name, Setting.docType.LastRead environment name ∧ Text.Blank name.toList)) := by
  refine ⟨fun setting => ⟨fun value hlast => ?_, fun hunread => ?_⟩, ?_, ?_, ?_, fun valid => ?_⟩
  · exact get_override_of_lastRead hlast settings
  · exact get_override_of_unread hunread settings
  · exact settings.about_override environment
  · rintro before first second after rfl hne
    exact override_swap hne settings before after
  · rintro before entry after rfl hidle
    exact override_erase hidle settings before after
  · exact validate_override_iff valid environment

/-- The last direction and the only boolean cannot be read, and the first document type is blank. -/
def sideways : List (String × String) :=
  [("ESBUILDER_INDEX__DEFAULT_TYPE", " "), ("ESBUILDER_QUERY__DEFAULT_DIRECTION", " DeSC\t"),
    ("ESBUILDER_INDEX__DEFAULT_TYPE", "doc"), ("ESBUILDER_QUERY__DEFAULT_DIRECTION", "sideways"),
    ("ESBUILDER_QUERY__MERGE_SOURCE", "False"), ("HOME", "/root")]

theorem unreadable_sideways : Setting.direction.Unreadable "sideways" := by
  have hset : ({} : Settings).set? .direction "sideways" = none := rfl
  exact set?_eq_none_iff.mp hset

theorem idle_sideways : Setting.Idle ("ESBUILDER_QUERY__DEFAULT_DIRECTION", "sideways") := by
  intro setting hkey
  cases setting with
  | direction => exact unreadable_sideways
  | docType | mergeSource => exact absurd hkey (by decide)

theorem unread_sideways : Setting.mergeSource.Unread sideways := by
  have hset : ({} : Settings).set? .mergeSource "False" = none := rfl
  intro text htext
  obtain rfl : text = "False" := by simpa [sideways, Setting.key] using htext
  exact set?_eq_none_iff.mp hset

theorem lastRead_sideways :
    Setting.docType.LastRead sideways "doc" ∧ Setting.direction.LastRead sideways "desc" := by
  have hspelled : Text.Spells " DeSC\t" Direction.desc.name :=
    Direction.parse?_eq_some_iff.mp (by decide)
  constructor
  · refine ⟨sideways.take 2, "doc", sideways.drop 3, rfl, .docType _, fun text htext => ?_⟩
    simp [sideways, Setting.key] at htext
  · refine ⟨sideways.take 1, _, sideways.drop 2, rfl, .direction .desc hspelled, ?_⟩
    intro text htext
    obtain rfl : text = "sideways" := by simpa [sideways, Setting.key] using htext
    exact unreadable_sideways

theorem override_takes_last_sideways :
    Setting.docType.LastRead sideways "doc" ∧ Setting.direction.LastRead sideways "desc" ∧
      Setting.mergeSource.Unread sideways ∧
      Setting.Idle ("ESBUILDER_QUERY__DEFAULT_DIRECTION", "sideways") ∧
      ({} : Settings).validate = .ok () ∧
      (({} : Settings).override sideways).value.docType = "doc" ∧
      (({} : Settings).override sideways).value.direction = "desc" ∧
      (({} : Settings).override sideways).value.mergeSource = true ∧
      (({} : Settings).override sideways).value.validate = .ok () ∧
      (({} : Settings).override sideways).value = (({} : Settings).override
        (sideways.take 1 ++ sideways[2] :: sideways[1] :: sideways.drop 3)).value ∧
      (({} : Settings).override sideways).value =
        (({} : Settings).override (sideways.take 3 ++ sideways.drop 4)).value := by
  obtain ⟨hdocType, hdirection⟩ := lastRead_sideways
  have valid : ({} : Settings).validate = .ok () := rfl
  obtain ⟨hget, _, hswap, herase, hvalid⟩ := override_takes_last {} sideways
  have hdoc : (({} : Settings).override sideways).value.docType = "doc" :=
    (hget .docType).1 _ hdocType
  refine ⟨hdocType, hdirection, unread_sideways, idle_sideways, valid, hdoc,
    (hget .direction).1 _ hdirection, (hget .mergeSource).2 unread_sideways, (hvalid valid).mpr ?_,
    hswap _ _ _ _ rfl (by decide), herase _ _ _ rfl idle_sideways⟩
  rintro ⟨name, hlast, hblank⟩
  obtain rfl : name = "doc" := ((hget .docType).1 _ hlast).symm.trans hdoc
  exact absurd (hblank 'd' (by decide)) (by decide)

end Settings

end SearchQuery
