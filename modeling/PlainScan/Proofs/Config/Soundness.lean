import PlainScan.Config.Document
import PlainScan.Proofs.Config.Outcome
import PlainScan.Proofs.Text.LowerCase

namespace PlainScan

/-!
# Sound settings

Settings are to be usable: counts are at least one, numbers finite and positive, endings of files in
lower case, the model is named, and the limit on the size of a file is a number of bytes.  What the
checks guarantee of this depends on the numbers alone.  A number passes unless it is at most zero,
so what is infinite and what is not a number do pass, and so do integers beyond the end of the
binary format, which then cannot be converted.

* `Number.IsPositiveBelow` — positive numbers below a power of two;
  `Converts.isPositiveBelow_iff` tells which values become such a number.
* `floorBytes?_iff` — the sizes in mebibytes that are a number of bytes.
* `Config.IsSound`, `IsSoundOutcome` — what is to be.
* `ofSettings_isSound_iff` — when it is so.
-/

/-! ### Numbers -/

/-- A positive number of the binary format below a power of two.  The format ends at `2 ^ 1024`. -/
def Number.IsPositiveBelow (e : Nat) (x : Number) : Prop :=
  ∃ units, x = .real (.finite false units) ∧ 0 < units ∧ units < 2 ^ e * Binary64.unitsOfOne

theorem lt_of_lt_pow_mul {e e' units one : Nat} (h : e ≤ e') (hlt : units < 2 ^ e * one) :
    units < 2 ^ e' * one :=
  Nat.lt_of_lt_of_le hlt (Nat.mul_le_mul_right one (Nat.pow_le_pow_right (by decide) h))

theorem Number.IsPositiveBelow.mono {x : Number} {e e' : Nat} (h : e ≤ e')
    (hx : x.IsPositiveBelow e) : x.IsPositiveBelow e' := by
  obtain ⟨units, rfl, hpos, hlt⟩ := hx
  exact ⟨units, rfl, hpos, lt_of_lt_pow_mul h hlt⟩

/-- A value becomes a positive number below a power of two exactly if it is rounded below it. -/
theorem SettingKey.Converts.isPositiveBelow_iff {key : NumberKey} {value : Yaml} {x : Number}
    {e : Nat} (he : 54 ≤ e) (hend : e ≤ 1024)
    (h : SettingKey.Converts (.number key) value (.number x)) :
    x.IsPositiveBelow e ↔ value.RoundsBelow e := by
  cases h with
  -- an integer is rounded, and it is below the power exactly if its rounding is
  | @whole _ n hpos =>
    have hround := Binary64.wholeUnits_toNat_lt_iff he hpos
    rw [Number.IsPositiveBelow, Yaml.RoundsBelow, ← hround, Binary64.ofInt_of_pos hpos]
    constructor
    · rintro ⟨units, hunits, -, hbelow⟩
      rw [Binary64.ofUnits] at hunits
      split at hunits
      · rw [(Binary64.finite.inj (Number.real.inj hunits)).2]
        exact hbelow
      · cases Number.real.inj hunits
    · intro hbelow
      refine ⟨Binary64.wholeUnits n.toNat, ?_, Binary64.wholeUnits_pos (by omega), hbelow⟩
      rw [Binary64.ofUnits, Binary64.overflowUnits_eq, if_pos (lt_of_lt_pow_mul hend hbelow)]
  | @real _ y hpos =>
    -- a number of the format is kept, and of those that pass two have no units at all
    cases y with
    | nan => exact iff_of_false (by rintro ⟨_, ⟨⟩, _⟩) id
    | infinite negative => exact iff_of_false (by rintro ⟨_, ⟨⟩, _⟩) id
    | finite negative units =>
      have hsign : negative = false ∧ 0 < units := by
        cases negative <;> simp [Binary64.le, Binary64.lt, Binary64.zero] at hpos ⊢ <;> omega
      obtain ⟨rfl, hunits⟩ := hsign
      constructor
      · rintro ⟨_, ⟨⟩, -, hbelow⟩
        exact hbelow
      · intro hbelow
        exact ⟨units, rfl, hunits, hbelow⟩

/-- A size in mebibytes is a number of bytes exactly if there is room for twenty doublings. -/
theorem Number.floorBytes?_iff {x : Number} (h : x.IsPositiveBelow 1024) :
    (∃ bytes, x.floorBytes? = some bytes ∧ 0 ≤ bytes) ↔ x.IsPositiveBelow 1004 := by
  obtain ⟨units, rfl, hpos, -⟩ := h
  -- twenty doublings stay below the end of the format
  have hroom : units * 2 ^ 20 < Binary64.overflowUnits ↔
      units < 2 ^ 1004 * Binary64.unitsOfOne := by
    have hend : Binary64.overflowUnits = 2 ^ 1004 * Binary64.unitsOfOne * 2 ^ 20 := by
      rw [Binary64.overflowUnits_eq, Nat.mul_right_comm, ← Nat.pow_add]
    rw [hend, Nat.mul_lt_mul_right (by decide)]
  have hbelow : (Number.real (.finite false units)).IsPositiveBelow 1004 ↔
      units < 2 ^ 1004 * Binary64.unitsOfOne := by
    constructor
    · rintro ⟨_, hsame, -, hlt⟩
      rw [(Binary64.finite.inj (Number.real.inj hsame)).2]
      exact hlt
    · intro hlt
      exact ⟨units, rfl, hpos, hlt⟩
  rw [hbelow, ← hroom, Number.floorBytes?, Binary64.scaleUp, Binary64.natPow_eq, Binary64.ofUnits]
  split
  case isTrue hlt =>
    refine iff_of_true ⟨_, rfl, ?_⟩ hlt
    exact Int.tdiv_nonneg (Int.natCast_nonneg _) (Int.natCast_nonneg _)
  case isFalse hlt =>
    exact iff_of_false (by rintro ⟨_, ⟨⟩, _⟩) hlt

/-! ### Sound settings -/

/-- The power of two below which the number of a key has to be: a size leaves room for the bytes of
    a mebibyte. -/
def NumberKey.bound : NumberKey → Nat
  | maxFileSizeMb => 1004
  | _ => 1024

theorem NumberKey.bound_cases (key : NumberKey) :
    key = maxFileSizeMb ∧ key.bound = 1004 ∨ key.bound = 1024 := by
  cases key <;> simp [bound]

theorem NumberKey.bound_le (key : NumberKey) : 54 ≤ key.bound ∧ key.bound ≤ 1024 := by
  rcases key.bound_cases with ⟨-, h⟩ | h <;> rw [h] <;> decide

/-- Settings that have passed the checks; for them a number is positive that is no number at all. -/
structure Config.IsChecked (config : Config) : Prop where
  counts : ∀ key : CountKey, 1 ≤ key.get config
  positive : ∀ key : NumberKey, (key.get config).isPositive = true
  fileTypes : ∀ text ∈ config.allowedFileTypes, Text.lowerString text = text
  model : config.model ≠ ""

/-- Settings that can be used. -/
structure Config.IsSound (config : Config) : Prop extends config.IsChecked where
  numbers : ∀ key : NumberKey, (key.get config).IsPositiveBelow 1024
  bytes : ∃ bytes, config.maxFileBytes? = some bytes ∧ 0 ≤ bytes

/-- Either settings that can be used, or a fault of a value, of which the user can be told. -/
def IsSoundOutcome : Except SettingError Config → Prop
  | .ok config => config.IsSound
  | .error e => (ConfigFault.badSetting e).isForeseen = true

theorem isForeseen_badSetting_iff {e : SettingError} :
    (ConfigFault.badSetting e).isForeseen = true ↔ ∀ number, e ≠ .overflow number := by
  cases e <;> simp [ConfigFault.isForeseen]

/-- Numbers below their bounds are what is needed of the numbers. -/
theorem numbers_bytes_iff {config : Config} :
    ((∀ key : NumberKey, (key.get config).IsPositiveBelow 1024) ∧
      ∃ bytes, config.maxFileBytes? = some bytes ∧ 0 ≤ bytes) ↔
    ∀ key : NumberKey, (key.get config).IsPositiveBelow key.bound := by
  constructor
  · rintro ⟨hnumbers, hbytes⟩ key
    rcases key.bound_cases with ⟨rfl, hbound⟩ | hbound <;> rw [hbound]
    · exact (Number.floorBytes?_iff (hnumbers .maxFileSizeMb)).mp hbytes
    · exact hnumbers key
  · intro h
    have hnumbers (key : NumberKey) : (key.get config).IsPositiveBelow 1024 :=
      (h key).mono (key.bound_le).2
    exact ⟨hnumbers, (Number.floorBytes?_iff (hnumbers .maxFileSizeMb)).mpr (h .maxFileSizeMb)⟩

/-! ### Defaults -/

theorem isPositiveBelow_default (key : NumberKey) :
    (key.get .default).IsPositiveBelow key.bound := by
  obtain ⟨n, hpos, hlt, hdefault⟩ :
      ∃ n : Int, 0 < n ∧ n < 2 ^ 53 ∧ key.get .default = .real (.ofInt n) := by
    cases key <;> exact ⟨_, by decide, by decide, rfl⟩
  have hheld : SettingKey.Converts (.number key) (.int n) _ := .whole hpos
  rw [hdefault, hheld.isPositiveBelow_iff key.bound_le.1 key.bound_le.2]
  exact Yaml.roundsBelow_of_lt key.bound_le.1 hlt

theorem lowerString_default :
    ∀ text ∈ Config.default.allowedFileTypes, Text.lowerString text = text := by
  decide +kernel

/-! ### Which settings are sound -/

section

open SettingKey

variable {settings : Settings} {config : Config}

theorem field_default_or_converts (h : Config.ofSettings settings = .ok config)
    (key : SettingKey) : key.field config = key.field .default ∨
      ∃ value held, key.field config = held ∧ key.Converts value held := by
  obtain ⟨hvalue, hnone⟩ := field_of_ofSettings h key
  cases hget : settings.get? key.name with
  | none => exact .inl (hnone hget)
  | some value => exact .inr ⟨value, _, rfl, hvalue value hget⟩

theorem isPositive_ofUnits {units : Nat} (h : 0 < units) :
    (Number.real (.ofUnits false units)).isPositive = true := by
  rw [Binary64.ofUnits]
  split
  · simp [Number.isPositive, Binary64.le, Binary64.lt, Binary64.zero, h]
  · rfl

theorem isPositive_of_isPositiveBelow {x : Number} {e : Nat} (h : x.IsPositiveBelow e) :
    x.isPositive = true := by
  obtain ⟨units, rfl, hpos, -⟩ := h
  simp [Number.isPositive, Binary64.le, Binary64.lt, Binary64.zero, hpos]

/-- Settings have passed the checks. -/
theorem isChecked_of_ofSettings (h : Config.ofSettings settings = .ok config) :
    config.IsChecked := by
  -- each field holds the default, which passes its check, or a value that was let through
  constructor
  case counts =>
    intro key
    rcases field_default_or_converts h (.count key) with hfield | ⟨value, held, hfield, hheld⟩
    · rw [SettingValue.count.inj hfield]
      cases key <;> decide
    · cases hheld with
      | count hpos => exact SettingValue.count.inj hfield ▸ hpos
  case positive =>
    intro key
    rcases field_default_or_converts h (.number key) with hfield | ⟨value, held, hfield, hheld⟩
    · rw [SettingValue.number.inj hfield]
      exact isPositive_of_isPositiveBelow (isPositiveBelow_default key)
    · cases hheld with
      | @whole _ n hpos =>
        -- a whole number may be rounded, but not to nothing
        have hunits : 0 < Binary64.wholeUnits n.toNat := Binary64.wholeUnits_pos (by omega)
        rw [SettingValue.number.inj hfield, Binary64.ofInt_of_pos hpos]
        exact isPositive_ofUnits hunits
      | real hpos =>
        rw [SettingValue.number.inj hfield, Number.isPositive, hpos]
        rfl
  case fileTypes =>
    rcases field_default_or_converts h (.list .allowedFileTypes) with
      hfield | ⟨value, held, hfield, hheld⟩
    · rw [show config.allowedFileTypes = _ from SettingValue.texts.inj hfield]
      exact lowerString_default
    · cases hheld with
      | list texts =>
        rw [show config.allowedFileTypes = _ from SettingValue.texts.inj hfield]
        exact List.forall_mem_map.mpr fun text _ => Text.lowerString_lowerString text
  case model =>
    rcases field_default_or_converts h .model with hfield | ⟨value, held, hfield, hheld⟩
    · rw [show config.model = _ from SettingValue.text.inj hfield]
      decide
    · cases hheld with
      | model hne => exact SettingValue.text.inj hfield ▸ hne

/-- Settings are sound exactly if their numbers are in range. -/
theorem isSound_iff_of_ofSettings (h : Config.ofSettings settings = .ok config) :
    config.IsSound ↔ ∀ (key : NumberKey) (value : Yaml), settings.get? key.name = some value →
      value.RoundsBelow key.bound := by
  -- all else that makes settings sound has been checked already
  have hnumbers :
      config.IsSound ↔ ∀ key : NumberKey, (key.get config).IsPositiveBelow key.bound := by
    rw [← numbers_bytes_iff]
    exact ⟨fun hsound => ⟨hsound.numbers, hsound.bytes⟩,
      fun hsound => ⟨isChecked_of_ofSettings h, hsound.1, hsound.2⟩⟩
  rw [hnumbers]
  refine forall_congr' fun key => ?_
  obtain ⟨hvalue, hnone⟩ := field_of_ofSettings h (.number key)
  constructor
  · intro hbelow value hget
    exact ((hvalue value hget).isPositiveBelow_iff key.bound_le.1 key.bound_le.2).mp hbelow
  · intro hbelow
    cases hget : settings.get? key.name with
    | none =>
      rw [SettingValue.number.inj (hnone hget)]
      exact isPositiveBelow_default key
    | some value =>
      exact ((hvalue value hget).isPositiveBelow_iff key.bound_le.1 key.bound_le.2).mpr
        (hbelow value hget)

/-- A value that overflows is beyond the bound of its key. -/
theorem exists_not_roundsBelow_of_overflows {key : SettingKey} {value : Yaml}
    (h : key.Overflows value) :
    ∃ number, key = .number number ∧ ¬ value.RoundsBelow number.bound := by
  cases key with
  | number number =>
    cases value with
    | int n =>
      exact ⟨number, rfl, fun hbelow => h (hbelow.mono number.bound_le.1 number.bound_le.2)⟩
    | _ => exact h.elim
  | _ => exact h.elim

end

/-- **Sound settings.** Reading settings ends well exactly in two cases: a value that its key does
    not take comes, in the order of the checks, before any that overflows, so that the user is told;
    or all numbers are in range.  Settings that come about have passed the checks in any case, and
    what they hold for a list is a list of strings. -/
theorem ofSettings_isSound_iff (settings : Settings) :
    (IsSoundOutcome (Config.ofSettings settings) ↔
      (∃ key : SettingKey, key.IsFirstWrong settings) ∨
        ∀ (key : NumberKey) (value : Yaml), settings.get? key.name = some value →
          value.RoundsBelow key.bound) ∧
    ∀ config, Config.ofSettings settings = .ok config → config.IsChecked ∧
      ∀ (key : ListKey) (value : Yaml), settings.get? key.name = some value →
        ∃ texts : List String, value = .seq (texts.map .str) ∧ key.get config = key.kept texts := by
  constructor
  · cases hread : Config.ofSettings settings with
    | ok config =>
      -- no key is wrong, so all depends on the numbers
      have hright : ¬ ∃ key : SettingKey, key.IsFirstWrong settings := by
        rintro ⟨key, hwrong⟩
        rw [SettingKey.ofSettings_eq_error_iff.mpr hwrong] at hread
        cases hread
      rw [or_iff_right hright]
      exact isSound_iff_of_ofSettings hread
    | error e =>
      rw [IsSoundOutcome, isForeseen_badSetting_iff]
      rcases SettingKey.exists_of_ofSettings_eq_error hread with
        ⟨key, rfl⟩ | ⟨key, value, number, hget, hover, rfl⟩
      · exact iff_of_true key.error_ne_overflow
          (.inl ⟨key, SettingKey.ofSettings_eq_error_iff.mp hread⟩)
      · -- an integer was read that overflows, before any wrong value
        refine iff_of_false (fun h => h number rfl) ?_
        rintro (⟨other, hwrong⟩ | hrange)
        · rw [SettingKey.ofSettings_eq_error_iff.mpr hwrong] at hread
          exact other.error_ne_overflow number (Except.error.inj hread)
        · obtain ⟨number, rfl, hbeyond⟩ := exists_not_roundsBelow_of_overflows hover
          exact hbeyond (hrange number value hget)
  · intro config hconfig
    refine ⟨isChecked_of_ofSettings hconfig, fun key value hget => ?_⟩
    have hheld := (SettingKey.field_of_ofSettings hconfig (.list key)).1 value hget
    generalize hfield : (SettingKey.list key).field config = held at hheld
    cases hheld with
    | list texts => exact ⟨texts, rfl, SettingValue.texts.inj hfield⟩

/-- What is not a number passes for a positive one, and then the limit on sizes is no number of
    bytes. -/
theorem not_isSoundOutcome_of_nan :
    Config.ofSettings [("max_file_size_mb", .num .nan)]
        = .ok { Config.default with maxFileSizeMb := .real .nan } ∧
      ¬ IsSoundOutcome (Config.ofSettings [("max_file_size_mb", .num .nan)]) := by
  have hread : Config.ofSettings [("max_file_size_mb", .num .nan)]
      = .ok { Config.default with maxFileSizeMb := .real .nan } := rfl
  refine ⟨hread, ?_⟩
  rw [hread]
  rintro ⟨-, -, _, hbytes, -⟩
  cases hbytes

end PlainScan
