import PlainScan.Proofs.Config.Keys

namespace PlainScan

/-!
# What becomes of the settings

Reading the settings is one pass over all keys.  Each key looks at its own value and writes its own
field, and the first fault ends the pass.

* `SettingKey.put`, `SettingKey.fault?`, `SettingKey.write` — what one key does.
* `ofSettings_eq` — the pass.
* `SettingKey.IsFirstWrong` — the key whose fault is reported, by `ofSettings_eq_error_iff`.
* `field_of_ofSettings` — what the settings hold for a key.
-/

namespace SettingKey

/-! ### One key -/

/-- The value of a key is put into the settings. -/
def put (settings : Settings) (key : SettingKey) : Config → Except SettingError Config :=
  putSetting key.read (fun config held => key.store config held) (settings.get? key.name)

/-- The fault of the value of a key. -/
def fault? (settings : Settings) (key : SettingKey) : Option SettingError :=
  (settings.get? key.name).bind fun value =>
    match key.read value with
    | .ok _ => none
    | .error e => some e

/-- The settings with the value of a key, where it has one without a fault. -/
def write (settings : Settings) (config : Config) (key : SettingKey) : Config :=
  match settings.get? key.name with
  | none => config
  | some value =>
    match key.read value with
    | .ok held => key.store config held
    | .error _ => config

variable {settings : Settings} {key : SettingKey}

theorem put_eq (config : Config) : key.put settings config =
    match key.fault? settings with
    | some e => .error e
    | none => .ok (key.write settings config) := by
  simp only [put, fault?, write]
  cases settings.get? key.name with
  | none => rfl
  | some value =>
    simp only [putSetting, Option.bind_some]
    cases key.read value <;> rfl

/-- A value that the key takes stands in its field, once it is converted. -/
theorem field_store {value : Yaml} {held : SettingValue} (h : key.Converts value held)
    (config : Config) : key.field (key.store config held) = held := by
  cases h with
  | count _ => exact congrArg _ (CountKey.get_set_self _ _ _)
  | whole _ => exact congrArg _ (NumberKey.get_set_self _ _ _)
  | real _ => exact congrArg _ (NumberKey.get_set_self _ _ _)
  | @list key texts => cases key <;> rfl
  | model _ => rfl

theorem field_write_of_ne (config : Config) {other : SettingKey} (h : other ≠ key) :
    other.field (key.write settings config) = other.field config := by
  rw [write]
  split
  · rfl
  · split
    · exact field_store_of_ne config _ h
    · rfl

theorem field_foldl_write_of_notMem {keys : List SettingKey} (h : key ∉ keys) (config : Config) :
    key.field (keys.foldl (fun config k => k.write settings config) config) = key.field config := by
  induction keys generalizing config with
  | nil => rfl
  | cons k rest ih =>
    rw [List.mem_cons, not_or] at h
    rw [List.foldl_cons, ih h.2, field_write_of_ne config h.1]

/-! ### All keys -/

end SettingKey

/-- The settings with the values of all keys that have no fault. -/
def Config.written (settings : Settings) : Config :=
  SettingKey.all.foldl (fun config key => key.write settings config) .default

open SettingKey

theorem putSettings_append {κ : Type} (put : κ → Config → Except SettingError Config)
    (keys more : List κ) (config : Config) : putSettings put (keys ++ more) config =
      (putSettings put keys config).bind (putSettings put more) := by
  induction keys generalizing config with
  | nil => rfl
  | cons key rest ih =>
    rw [List.cons_append, putSettings, putSettings]
    cases put key config with
    | ok config => exact ih config
    | error e => rfl

theorem putSettings_map {κ κ' : Type} {f : κ → κ'}
    {put : κ → Config → Except SettingError Config}
    {put' : κ' → Config → Except SettingError Config} (h : ∀ key, put' (f key) = put key)
    (keys : List κ) (config : Config) :
    putSettings put' (keys.map f) config = putSettings put keys config := by
  induction keys generalizing config with
  | nil => rfl
  | cons key rest ih =>
    rw [List.map_cons, putSettings, putSettings, h]
    cases put key config with
    | ok config => exact ih config
    | error e => rfl

/-- Reading one by one what a key holds, the first fault ends the pass. -/
theorem putSettings_put (settings : Settings) (keys : List SettingKey) (config : Config) :
    putSettings (SettingKey.put settings) keys config =
      match keys.findSome? (SettingKey.fault? settings) with
      | some e => .error e
      | none => .ok (keys.foldl (fun config key => key.write settings config) config) := by
  induction keys generalizing config with
  | nil => rfl
  | cons key rest ih =>
    rw [putSettings, put_eq, List.findSome?_cons]
    cases key.fault? settings with
    | some e => rfl
    | none => exact ih _

/-- Putting a value in does not depend on how what was read is wrapped up. -/
theorem putSetting_map {α β : Type} {read : Yaml → Except SettingError α}
    {set : Config → α → Config} {wrap : α → β} {set' : Config → β → Config}
    (h : ∀ config x, set' config (wrap x) = set config x) (value : Option Yaml) (config : Config) :
    putSetting (fun value => (read value).map wrap) set' value config
      = putSetting read set value config := by
  cases value with
  | none => rfl
  | some value =>
    rw [putSetting, putSetting]
    cases read value with
    | ok x => exact congrArg _ (h config x)
    | error e => rfl

/-- **One pass.** The settings are read key by key. -/
theorem ofSettings_eq (settings : Settings) : Config.ofSettings settings =
    match all.findSome? (SettingKey.fault? settings) with
    | some e => .error e
    | none => .ok (.written settings) := by
  -- what is read for the keys of one kind is only wrapped up
  have hcount (key : CountKey) : SettingKey.put settings (.count key) =
      putSetting (countValue key) (fun config n => key.set config n) (settings.get? key.name) :=
    funext fun config => putSetting_map (fun _ _ => rfl) _ config
  have hnumber (key : NumberKey) : SettingKey.put settings (.number key) =
      putSetting (numberValue key) (fun config x => key.set config x) (settings.get? key.name) :=
    funext fun config => putSetting_map (fun _ _ => rfl) _ config
  have hlist (key : ListKey) : SettingKey.put settings (.list key) =
      putSetting (listValue key) (fun config texts => key.set config texts)
        (settings.get? key.name) :=
    funext fun config => putSetting_map (fun _ _ => by cases key <;> rfl) _ config
  have hmodel : SettingKey.put settings .model =
      putSetting modelValue (fun config text => { config with model := text })
        (settings.get? modelKey) :=
    funext fun config => putSetting_map (fun _ _ => rfl) _ config
  -- the four passes come one after another, and each may end all of it
  rw [Config.written, ← putSettings_put, all, putSettings_append, putSettings_map hcount,
    Config.ofSettings]
  dsimp only
  cases putSettings _ CountKey.all Config.default with
  | error e => rfl
  | ok config =>
    dsimp only [Except.bind]
    rw [putSettings_append, putSettings_map hnumber]
    cases putSettings _ NumberKey.all config with
    | error e => rfl
    | ok config =>
      dsimp only [Except.bind]
      rw [putSettings_append, putSettings_map hlist]
      cases putSettings _ ListKey.all config with
      | error e => rfl
      | ok config =>
        dsimp only [Except.bind]
        rw [putSettings, hmodel]
        cases putSetting modelValue _ (settings.get? modelKey) config <;> rfl

/-! ### Outcomes -/

namespace SettingKey

variable {settings : Settings} {key : SettingKey}

/-- The value of a key, if it has one, is taken and can be converted. -/
def IsFine (settings : Settings) (key : SettingKey) : Prop :=
  ∀ value, settings.get? key.name = some value → key.Takes value ∧ ¬ key.Overflows value

/-- The first key in order whose value is not fine has one that it does not take. -/
structure IsFirstWrong (settings : Settings) (key : SettingKey) : Prop where
  wrong : ∃ value, settings.get? key.name = some value ∧ ¬ key.Takes value
  earlier : ∀ earlier : SettingKey, earlier.place < key.place → earlier.IsFine settings

theorem fault?_eq_some_iff {e : SettingError} : key.fault? settings = some e ↔
    ∃ value, settings.get? key.name = some value ∧ key.read value = .error e := by
  rw [fault?, Option.bind_eq_some_iff]
  refine exists_congr fun value => and_congr_right fun _ => ?_
  cases key.read value <;> simp

theorem fault?_eq_none_iff : key.fault? settings = none ↔ key.IsFine settings := by
  rw [fault?, Option.bind_eq_none_iff]
  refine forall₂_congr fun value _ => ?_
  cases hread : key.read value with
  | ok held =>
    obtain ⟨hheld, hfits⟩ := converts_of_read hread
    exact iff_of_true rfl ⟨⟨held, hheld⟩, hfits⟩
  | error e =>
    refine iff_of_false (Option.some_ne_none e) fun hfine => ?_
    rcases fault_of_read hread with ⟨-, hwrong⟩ | ⟨-, -, hover⟩
    · exact hwrong hfine.1
    · exact hfine.2 hover

theorem error_injective : Function.Injective error := by
  intro key other h
  cases key <;> cases other <;> cases h <;> rfl

theorem error_ne_overflow (key : SettingKey) (number : NumberKey) :
    key.error ≠ .overflow number := by
  cases key <;> exact nofun

theorem fault?_eq_error_iff {other : SettingKey} : key.fault? settings = some other.error ↔
    key = other ∧ ∃ value, settings.get? key.name = some value ∧ ¬ key.Takes value := by
  rw [fault?_eq_some_iff, ← exists_and_left]
  refine exists_congr fun value => ?_
  rw [and_left_comm]
  refine and_congr_right fun _ => ?_
  cases hread : key.read value with
  | ok held =>
    exact iff_of_false nofun fun hwrong => hwrong.2 ⟨held, (converts_of_read hread).1⟩
  | error e =>
    rw [Except.error.injEq]
    rcases fault_of_read hread with ⟨rfl, hwrong⟩ | ⟨⟨number, rfl⟩, htakes, -⟩
    · rw [error_injective.eq_iff]
      exact (and_iff_left hwrong).symm
    · exact iff_of_false (error_ne_overflow other number).symm fun hwrong => hwrong.2 htakes

theorem ofSettings_eq_error_iff_exists {e : SettingError} :
    Config.ofSettings settings = .error e ↔ ∃ key : SettingKey, key.fault? settings = some e ∧
      ∀ earlier : SettingKey, earlier.place < key.place → earlier.fault? settings = none := by
  rw [ofSettings_eq, ← findSome?_all_eq_some_iff]
  cases all.findSome? (SettingKey.fault? settings) <;> simp

theorem ofSettings_eq_ok_iff {config : Config} : Config.ofSettings settings = .ok config ↔
    (∀ key : SettingKey, key.IsFine settings) ∧ .written settings = config := by
  have hnone : all.findSome? (SettingKey.fault? settings) = none ↔
      ∀ key : SettingKey, key.IsFine settings := by
    rw [List.findSome?_eq_none_iff]
    exact ⟨fun h key => fault?_eq_none_iff.mp (h key (mem_all key)),
      fun h key _ => fault?_eq_none_iff.mpr (h key)⟩
  rw [ofSettings_eq, ← hnone]
  cases all.findSome? (SettingKey.fault? settings) <;> simp

/-- **Refusal.** The fault of a key is reported exactly if it is the first wrong one. -/
theorem ofSettings_eq_error_iff :
    Config.ofSettings settings = .error key.error ↔ key.IsFirstWrong settings := by
  rw [ofSettings_eq_error_iff_exists]
  constructor
  · rintro ⟨first, hfirst, hearlier⟩
    obtain ⟨rfl, hwrong⟩ := fault?_eq_error_iff.mp hfirst
    exact ⟨hwrong, fun earlier hplace => fault?_eq_none_iff.mp (hearlier earlier hplace)⟩
  · rintro ⟨hwrong, hearlier⟩
    exact ⟨key, fault?_eq_error_iff.mpr ⟨rfl, hwrong⟩,
      fun earlier hplace => fault?_eq_none_iff.mpr (hearlier earlier hplace)⟩

/-- Where no settings come about, a key does not take its value or cannot convert it. -/
theorem exists_of_ofSettings_eq_error {e : SettingError}
    (h : Config.ofSettings settings = .error e) :
    (∃ key : SettingKey, e = key.error) ∨
      ∃ (key : SettingKey) (value : Yaml) (number : NumberKey),
        settings.get? key.name = some value ∧ key.Overflows value ∧ e = .overflow number := by
  obtain ⟨key, hkey, -⟩ := ofSettings_eq_error_iff_exists.mp h
  obtain ⟨value, hvalue, hread⟩ := fault?_eq_some_iff.mp hkey
  rcases fault_of_read hread with ⟨rfl, -⟩ | ⟨⟨number, rfl⟩, -, hover⟩
  · exact .inl ⟨key, rfl⟩
  · exact .inr ⟨key, value, number, hvalue, hover, rfl⟩

/-- **Acceptance.** A field is the value of its key, converted, and the default where the key has
    none. -/
theorem field_of_ofSettings {config : Config} (h : Config.ofSettings settings = .ok config)
    (key : SettingKey) :
    (∀ value, settings.get? key.name = some value → key.Converts value (key.field config)) ∧
      (settings.get? key.name = none → key.field config = key.field .default) := by
  obtain ⟨hfine, rfl⟩ := ofSettings_eq_ok_iff.mp h
  obtain ⟨before, after, hall, hbefore⟩ := List.eq_append_cons_of_mem (mem_all key)
  have hafter : key ∉ after := by
    have hnodup := nodup_all
    rw [hall, List.nodup_append] at hnodup
    exact (List.nodup_cons.mp hnodup.2.1).1
  -- the keys before and after it leave the field alone
  have hfield : key.field (.written settings) = key.field (key.write settings
      (before.foldl (fun config k => k.write settings config) .default)) := by
    rw [Config.written, hall, List.foldl_append, List.foldl_cons,
      field_foldl_write_of_notMem hafter]
  constructor
  · intro value hvalue
    cases hread : key.read value with
    | ok held =>
      obtain ⟨hheld, -⟩ := converts_of_read hread
      simp only [hfield, write, hvalue, hread]
      rwa [field_store hheld]
    | error e =>
      -- settings with such a value are not accepted
      have hfault := fault?_eq_some_iff.mpr ⟨value, hvalue, hread⟩
      rw [fault?_eq_none_iff.mpr (hfine key)] at hfault
      cases hfault
  · intro hnone
    simp only [hfield, write, hnone]
    exact field_foldl_write_of_notMem hbefore _

end SettingKey

end PlainScan
