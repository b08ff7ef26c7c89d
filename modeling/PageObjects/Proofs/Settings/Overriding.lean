/-
  PageObjects.Proofs.Settings.Overriding

  Settings read from JSON are the defaults, overridden by what is given. `Typed` says
  what may be given, and `Overridden` what then is read.

    * `Settings.ofJson?_eq_some_iff`, `Settings.exists_ofJson?_iff`: what is read, and when.
    * `Settings.ofJson?_toJson`: settings are read back from their own JSON.
    * `Settings.parseJson_of_object`: both, for the texts of JSON.
-/

import PageObjects.Proofs.Settings.Applications

namespace PageObjects

open Json (Gives HasField HasType SpellsText SpellsWord)

variable {json : Json} {given : List (String × Json)}

namespace Settings

-- ============================================================================
-- Settings
-- ============================================================================

/-- The fields that all applications share, with what is given in place of the defaults. -/
structure SharedOverridden (given : List (String × Json)) (settings : Settings) : Prop where
  waitTimeoutMs : HasField SpellsWord given "wait_timeout_ms" 60000 settings.waitTimeoutMs
  pollIntervalMs : HasField SpellsWord given "poll_interval_ms" 500 settings.pollIntervalMs
  driverLogLevel : HasField SpellsText given "driver_log_level" "warning" settings.driverLogLevel
  dataAttribute : HasField SpellsText given "data_e2e_attribute" "data-e2e" settings.dataAttribute
  tableAttribute :
    HasField SpellsText given "table_e2e_attribute" "data-e2e-table" settings.tableAttribute
  defaultTableTag :
    HasField SpellsText given "default_table_tag" "p-table" settings.defaultTableTag
  nestedTableTag : HasField SpellsText given "nested_table_tag" "table" settings.nestedTableTag

/-- Settings with what is given in place of the defaults. -/
structure Overridden (given : List (String × Json)) (settings : Settings) : Prop
    extends SharedOverridden given settings where
  apps : HasField SpellsApps given "apps" [] settings.apps

/-- Each field that is given has its type. -/
structure Typed (given : List (String × Json)) : Prop where
  apps : ∀ json, ("apps", json) ∈ given → SoundApps json
  waitTimeoutMs : HasType SpellsWord given "wait_timeout_ms"
  pollIntervalMs : HasType SpellsWord given "poll_interval_ms"
  driverLogLevel : HasType SpellsText given "driver_log_level"
  dataAttribute : HasType SpellsText given "data_e2e_attribute"
  tableAttribute : HasType SpellsText given "table_e2e_attribute"
  defaultTableTag : HasType SpellsText given "default_table_tag"
  nestedTableTag : HasType SpellsText given "nested_table_tag"

/-- The reader of applications as a relation. -/
def ReadsApps (json : Json) (apps : List (String × AppConfig)) : Prop :=
  appsOfJson? json = some apps

theorem appsField?_eq_some_iff {apps : List (String × AppConfig)} :
    appsField? given = some apps ↔ HasField ReadsApps given "apps" [] apps := by
  rw [appsField?, HasField]
  cases given.lookup "apps" with
  | none => exact Option.some_inj.trans eq_comm
  | some value => exact Iff.rfl

theorem ofJson?_eq_some_iff {settings : Settings} :
    ofJson? json = some settings ↔ ∃ given, Gives fieldNames json given
      ∧ HasField ReadsApps given "apps" [] settings.apps ∧ SharedOverridden given settings := by
  simp only [ofJson?, Option.bind_eq_bind, Option.bind_eq_some_iff, Json.fields?_eq_some_iff,
    Json.textField?_eq_some_iff, Json.wordField?_eq_some_iff, appsField?_eq_some_iff,
    exists_exists_and_eq_and]
  simp (disch := decide) only [Json.hasField_pick_iff]
  refine exists_congr fun given => and_congr_right fun _ => ⟨?_, ?_⟩
  · rintro ⟨apps, h_apps, waitTimeoutMs, h_timeout, pollIntervalMs, h_poll, driverLogLevel, h_level,
      dataAttribute, h_data, tableAttribute, h_table, defaultTableTag, h_default, nestedTableTag,
      h_nested, h_settings⟩
    obtain rfl := Option.some.inj h_settings
    exact ⟨h_apps, h_timeout, h_poll, h_level, h_data, h_table, h_default, h_nested⟩
  · rintro ⟨h_apps, h⟩
    exact ⟨_, h_apps, _, h.waitTimeoutMs, _, h.pollIntervalMs, _, h.driverLogLevel,
      _, h.dataAttribute, _, h.tableAttribute, _, h.defaultTableTag, _, h.nestedTableTag, rfl⟩

/-- Settings that are read are the defaults with what is given in their place. -/
theorem overridden_of_ofJson? {settings : Settings} (h : ofJson? json = some settings) :
    ∃ given, Gives fieldNames json given ∧ Overridden given settings := by
  obtain ⟨given, h_given, h_apps, h_shared⟩ := ofJson?_eq_some_iff.mp h
  refine ⟨given, h_given, { h_shared with apps := ?_ }⟩
  rw [HasField] at h_apps ⊢
  split
  · rename_i h_none
    rwa [h_none] at h_apps
  · rename_i value h_value
    rw [h_value] at h_apps
    exact spellsApps_of_appsOfJson? h_apps

theorem nodup_fieldNames : fieldNames.Nodup := by decide

/-- Settings can be read exactly if each field that is given has its type. -/
theorem exists_ofJson?_iff : (∃ settings, ofJson? json = some settings)
    ↔ ∃ given, Gives fieldNames json given ∧ Typed given := by
  constructor
  · rintro ⟨settings, h_settings⟩
    obtain ⟨given, h_given, h_apps, h⟩ := ofJson?_eq_some_iff.mp h_settings
    have h_distinct := h_given.distinct nodup_fieldNames
    have h_appsType : HasType ReadsApps given "apps" := h_apps.hasType h_distinct (by decide)
    exact ⟨given, h_given,
      { apps := fun value h_mem => exists_appsOfJson?_iff.mp (h_appsType value h_mem)
        waitTimeoutMs := h.waitTimeoutMs.hasType h_distinct (by decide)
        pollIntervalMs := h.pollIntervalMs.hasType h_distinct (by decide)
        driverLogLevel := h.driverLogLevel.hasType h_distinct (by decide)
        dataAttribute := h.dataAttribute.hasType h_distinct (by decide)
        tableAttribute := h.tableAttribute.hasType h_distinct (by decide)
        defaultTableTag := h.defaultTableTag.hasType h_distinct (by decide)
        nestedTableTag := h.nestedTableTag.hasType h_distinct (by decide) }⟩
  · rintro ⟨given, h_given, h⟩
    have h_appsType : HasType ReadsApps given "apps" := fun value h_mem =>
      exists_appsOfJson?_iff.mpr (h.apps value h_mem)
    obtain ⟨apps, h_apps⟩ := h_appsType.exists_hasField []
    obtain ⟨waitTimeoutMs, h_timeout⟩ := h.waitTimeoutMs.exists_hasField 60000
    obtain ⟨pollIntervalMs, h_poll⟩ := h.pollIntervalMs.exists_hasField 500
    obtain ⟨driverLogLevel, h_level⟩ := h.driverLogLevel.exists_hasField "warning"
    obtain ⟨dataAttribute, h_data⟩ := h.dataAttribute.exists_hasField "data-e2e"
    obtain ⟨tableAttribute, h_table⟩ := h.tableAttribute.exists_hasField "data-e2e-table"
    obtain ⟨defaultTableTag, h_default⟩ := h.defaultTableTag.exists_hasField "p-table"
    obtain ⟨nestedTableTag, h_nested⟩ := h.nestedTableTag.exists_hasField "table"
    exact ⟨{ apps, waitTimeoutMs, pollIntervalMs, driverLogLevel, dataAttribute, tableAttribute,
             defaultTableTag, nestedTableTag },
      ofJson?_eq_some_iff.mpr ⟨given, h_given, h_apps, h_timeout, h_poll, h_level, h_data, h_table,
        h_default, h_nested⟩⟩

-- ============================================================================
-- Reading back
-- ============================================================================

/-- Settings as a program has them: the names of the applications are distinct, and the times
    are unsigned words of 64 bits. -/
structure WellFormed (settings : Settings) : Prop where
  nodup : (settings.apps.map Prod.fst).Nodup
  waitTimeoutMs_lt : settings.waitTimeoutMs < 2 ^ 64
  pollIntervalMs_lt : settings.pollIntervalMs < 2 ^ 64

variable {settings : Settings}

theorem ofJson?_toJson (h : settings.WellFormed) : ofJson? settings.toJson = some settings :=
  ofJson?_eq_some_iff.mpr ⟨_, .object (.of_nodup nodup_fieldNames),
    @appsOfMembers?_toJson [] _ h.nodup,
    { waitTimeoutMs := ⟨Json.natural?_ofNat _, h.waitTimeoutMs_lt⟩
      pollIntervalMs := ⟨Json.natural?_ofNat _, h.pollIntervalMs_lt⟩
      driverLogLevel := rfl
      dataAttribute := rfl
      tableAttribute := rfl
      defaultTableTag := rfl
      nestedTableTag := rfl }⟩

theorem isWritable_toJson (settings : Settings) : settings.toJson.IsWritable := by
  refine .object fun member h_mem => ?_
  simp only [List.mem_cons, List.not_mem_nil, or_false] at h_mem
  rcases h_mem with rfl | rfl | rfl | rfl | rfl | rfl | rfl | rfl
  · refine .object fun member h_app => ?_
    obtain ⟨entry, -, rfl⟩ := List.mem_map.mp h_app
    exact entry.2.isWritable_toJson
  · exact .ofNat _
  · exact .ofNat _
  · exact .string _
  · exact .string _
  · exact .string _
  · exact .string _
  · exact .string _

theorem parseJson_eq_ok_iff {text : String} : parseJson text = .ok settings
    ↔ ∃ json, Json.parse? text = some json ∧ ofJson? json = some settings := by
  rw [← Option.bind_eq_some_iff, parseJson]
  cases (Json.parse? text).bind ofJson? <;> simp

/-- A JSON object is read as settings exactly if its names are texts, no known one is repeated and
    each known member has its type; what is read are the defaults with the members in their place.
    The JSON of settings is read as the settings. -/
theorem parseJson_of_object :
    (∀ text members, Json.parse? text = some (.object members) →
      ((∃ settings, parseJson text = .ok settings)
        ↔ ∃ given, Json.object members = Json.ofMembers given
            ∧ Fields.Distinct fieldNames given ∧ Typed given)
      ∧ ∀ settings, parseJson text = .ok settings →
          ∃ given, Json.object members = Json.ofMembers given ∧ Overridden given settings)
    ∧ ∀ settings, WellFormed settings → parseJson settings.toJson.render = .ok settings := by
  constructor
  · intro text members h_text
    have h_iff : ∀ settings, parseJson text = .ok settings
        ↔ ofJson? (.object members) = some settings := by
      intro settings
      rw [parseJson_eq_ok_iff, h_text]
      simp only [Option.some.injEq, exists_eq_left']
    constructor
    · simp only [h_iff, exists_ofJson?_iff, Json.gives_object_iff, and_assoc]
    · intro settings h_settings
      obtain ⟨given, h_given, h_over⟩ := overridden_of_ofJson? ((h_iff settings).mp h_settings)
      exact ⟨given, (Json.gives_object_iff.mp h_given).1, h_over⟩
  · intro settings h
    exact parseJson_eq_ok_iff.mpr
      ⟨_, Json.parse?_render settings.isWritable_toJson, ofJson?_toJson h⟩

/-- The members of an object that has two settings of one application, and a member that settings
    do not have. -/
def twoShops : List (String × Json) :=
  [("theme", .array [.number "2.5", .null]),
   ("apps", .ofMembers [
     ("shop", .ofMembers [("has_page_ready_script", .bool true)]),
     ("shop", .ofMembers [("base_url", .ofString "http://shop.local/"), ("theme", .null)])]),
   ("poll_interval_ms", .ofNat 7)]

/-- The defaults with the later of the two. -/
def lastShop : Settings :=
  { apps := [("shop", { baseUrl := some "http://shop.local/" })], pollIntervalMs := 7 }

theorem isWritable_twoShops : (Json.ofMembers twoShops).IsWritable := by
  refine .object fun member h_mem => ?_
  simp only [twoShops, List.mem_cons, List.not_mem_nil, or_false] at h_mem
  rcases h_mem with rfl | rfl | rfl
  · exact .array (List.forall_mem_cons.mpr
      ⟨.number rfl, List.forall_mem_singleton.mpr .null⟩)
  · have h_last : (Json.ofMembers
        [("base_url", .ofString "http://shop.local/"), ("theme", .null)]).IsWritable :=
      .object (List.forall_mem_cons.mpr ⟨.string _, List.forall_mem_singleton.mpr .null⟩)
    exact .object (List.forall_mem_cons.mpr
      ⟨.object (List.forall_mem_singleton.mpr (.bool true)), List.forall_mem_singleton.mpr h_last⟩)
  · exact .ofNat 7

theorem parseJson_of_object_twoShops :
    Json.parse? (Json.ofMembers twoShops).render = some (Json.ofMembers twoShops)
      ∧ parseJson (Json.ofMembers twoShops).render = .ok lastShop ∧ lastShop.WellFormed
      ∧ (∃ given, Json.ofMembers twoShops = Json.ofMembers given ∧ Overridden given lastShop)
      ∧ parseJson lastShop.toJson.render = .ok lastShop := by
  have h_text := Json.parse?_render isWritable_twoShops
  have h_read : parseJson (Json.ofMembers twoShops).render = .ok lastShop :=
    parseJson_eq_ok_iff.mpr ⟨_, h_text, by decide +kernel⟩
  have h_formed : lastShop.WellFormed := ⟨by decide, by decide, by decide⟩
  exact ⟨h_text, h_read, h_formed, (parseJson_of_object.1 _ _ h_text).2 lastShop h_read,
    parseJson_of_object.2 lastShop h_formed⟩

/-- An object that has the fields of an application in an array. -/
def listedShop : Json :=
  .ofMembers [("apps", .ofMembers [("shop", .array [.ofString "http://shop.local/"])])]

/-- The application is no object, but the settings are read. -/
theorem parseJson_listedShop :
    listedShop.render = "\x7b\"apps\":\x7b\"shop\":[\"http://shop.local/\"]\x7d\x7d"
      ∧ Json.parse? listedShop.render = some listedShop
      ∧ (¬ ∃ members, Json.array [.ofString "http://shop.local/"] = .object members)
      ∧ parseJson listedShop.render
        = .ok { apps := [("shop", { baseUrl := some "http://shop.local/" })] } := by
  have h_writable : listedShop.IsWritable :=
    .object (List.forall_mem_singleton.mpr (.object (List.forall_mem_singleton.mpr
      (.array (List.forall_mem_singleton.mpr (.string _))))))
  have h_text := Json.parse?_render h_writable
  exact ⟨by decide +kernel, h_text, nofun,
    parseJson_eq_ok_iff.mpr ⟨_, h_text, by decide +kernel⟩⟩

end Settings

end PageObjects
