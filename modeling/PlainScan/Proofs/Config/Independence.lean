import Mathlib.Data.List.Nodup
import PlainScan.Proofs.Config.Outcome

namespace PlainScan

/-!
# Keys do not touch one another

A mapping names each of its values once, and where an entry stands in it does not matter: the value
of a key is what the mapping has for its name.

* `Yaml.NamesDiffer` — the string keys of a mapping; `mem_entries_iff` finds what it has for one.
* `Yaml.NamesSetting` — the entries that the settings look at.
* `SettingKey.IsFirstInvalid` — the first key in order that does not take its value.
* `ofSettings_independent` — the settings of a mapping, key by key.
-/

/-! ### Mappings -/

namespace Yaml

/-- Entries of a mapping: no string stands for two of them. -/
def NamesDiffer (entries : List (Yaml × Yaml)) : Prop :=
  ((namedEntries entries).map Prod.fst).Nodup

/-- An entry whose key is one of the settings. -/
def NamesSetting (entry : Yaml × Yaml) : Prop := ∃ key : SettingKey, entry.1 = .str key.name

instance : DecidablePred NamesSetting := fun entry =>
  decidable_of_iff (∃ key ∈ SettingKey.all, str? entry.1 = some key.name) <| by
    obtain ⟨name, value⟩ := entry
    constructor
    · rintro ⟨key, -, h⟩
      cases name <;> cases h
      exact ⟨key, rfl⟩
    · rintro ⟨key, rfl⟩
      exact ⟨key, key.mem_all, rfl⟩

theorem mem_namedEntries_iff {entries : List (Yaml × Yaml)} {name : String} {value : Yaml} :
    (name, value) ∈ namedEntries entries ↔ (.str name, value) ∈ entries := by
  rw [namedEntries, List.mem_filterMap]
  constructor
  · rintro ⟨⟨key, v⟩, hmem, h⟩
    cases key <;> cases h
    exact hmem
  · intro hmem
    exact ⟨_, hmem, rfl⟩

end Yaml

/-- What settings have for a name is the value of its entry. -/
theorem get?_eq_some_iff_mem {settings : Settings} (hnodup : (settings.map Prod.fst).Nodup)
    {name : String} {value : Yaml} :
    settings.get? name = some value ↔ (name, value) ∈ settings := by
  rw [Settings.get?, Option.map_eq_some_iff]
  constructor
  · rintro ⟨⟨found, v⟩, hfind, rfl⟩
    have hname := List.find?_some hfind
    rw [beq_iff_eq] at hname
    rw [← hname]
    exact List.mem_reverse.mp (List.mem_of_find?_eq_some hfind)
  · intro hmem
    have hisSome : (settings.reverse.find? fun e => e.1 == name).isSome = true :=
      List.find?_isSome.mpr ⟨_, List.mem_reverse.mpr hmem, beq_self_eq_true name⟩
    obtain ⟨found, hfind⟩ := Option.isSome_iff_exists.mp hisSome
    have hname := List.find?_some hfind
    rw [beq_iff_eq] at hname
    -- the entry that is found has the same name, so it is the same entry
    have hsame := List.inj_on_of_nodup_map hnodup
      (List.mem_reverse.mp (List.mem_of_find?_eq_some hfind)) hmem hname
    exact ⟨found, hfind, congrArg Prod.snd hsame⟩

section

open Yaml

variable {entries others : List (Yaml × Yaml)}

theorem get?_namedEntries_eq_some_iff (h : NamesDiffer entries) {name : String} {value : Yaml} :
    (namedEntries entries : Settings).get? name = some value ↔ (.str name, value) ∈ entries := by
  rw [get?_eq_some_iff_mem h, mem_namedEntries_iff]

theorem get?_namedEntries_eq_none_iff (h : NamesDiffer entries) {name : String} :
    (namedEntries entries : Settings).get? name = none ↔
      ∀ value, (.str name, value) ∉ entries := by
  rw [Option.eq_none_iff_forall_ne_some]
  exact forall_congr' fun value => not_congr (get?_namedEntries_eq_some_iff h)

/-- Mappings that name the same settings have the same value for each key. -/
theorem get?_eq_of_perm (h : NamesDiffer entries) (hothers : NamesDiffer others)
    (hperm : (others.filter (NamesSetting ·)).Perm (entries.filter (NamesSetting ·)))
    (key : SettingKey) : (namedEntries others : Settings).get? key.name
      = (namedEntries entries : Settings).get? key.name := by
  refine Option.ext fun value => ?_
  rw [get?_namedEntries_eq_some_iff h, get?_namedEntries_eq_some_iff hothers]
  have hmem := hperm.mem_iff (a := (.str key.name, value))
  simpa only [List.mem_filter, decide_eq_true_eq,
    and_iff_left (show NamesSetting (.str key.name, value) from ⟨key, rfl⟩)] using hmem

end

/-- Settings come only from what there is for the names of the keys. -/
theorem ofSettings_congr {settings others : Settings}
    (h : ∀ key : SettingKey, settings.get? key.name = others.get? key.name) :
    Config.ofSettings settings = Config.ofSettings others := by
  have hfault : SettingKey.fault? settings = SettingKey.fault? others := by
    funext key
    rw [SettingKey.fault?, h, SettingKey.fault?]
  have hwrite : SettingKey.write settings = SettingKey.write others := by
    funext config key
    rw [SettingKey.write, h, SettingKey.write]
  rw [ofSettings_eq, ofSettings_eq, Config.written, Config.written, hfault, hwrite]

/-! ### The settings of a mapping -/

namespace SettingKey

/-- A key of a mapping that does not take its value, all keys before it taking theirs. -/
structure IsFirstInvalid (entries : List (Yaml × Yaml)) (key : SettingKey) : Prop where
  invalid : ∃ value, (.str key.name, value) ∈ entries ∧ ¬ key.Takes value
  earlier : ∀ (earlier : SettingKey) (value : Yaml), earlier.place < key.place →
    (.str earlier.name, value) ∈ entries → earlier.Takes value

/-- No value overflows that is in the range of the binary format. -/
theorem not_overflows {key : SettingKey} {value : Yaml}
    (h : ∀ number, key = .number number → value.RoundsBelow 1024) : ¬ key.Overflows value := by
  intro hover
  cases key with
  | number number =>
    cases value with
    | int n => exact hover (h number rfl)
    | _ => exact hover
  | _ => exact hover

end SettingKey

/-- **Keys are independent.** Take a mapping whose numbers are in the range of the binary format.
    The order of its entries and the entries that name no setting do not matter.  There are no
    settings exactly if a key does not take its value, and then the message is about the first such
    key in the order of the checks.  Otherwise each field holds the value of its own key, converted,
    and its default where the mapping has none for it. -/
theorem ofSettings_independent {entries : List (Yaml × Yaml)} (hdiffer : Yaml.NamesDiffer entries)
    (hrange : ∀ (key : NumberKey) (value : Yaml), (.str key.name, value) ∈ entries →
      value.RoundsBelow 1024) :
    (∀ others, Yaml.NamesDiffer others →
      (others.filter (Yaml.NamesSetting ·)).Perm (entries.filter (Yaml.NamesSetting ·)) →
      Config.ofSettings (Yaml.namedEntries others)
        = Config.ofSettings (Yaml.namedEntries entries)) ∧
    (∀ e, Config.ofSettings (Yaml.namedEntries entries) = .error e ↔
      ∃ key : SettingKey, key.IsFirstInvalid entries ∧ e = key.error ∧
        e.message = key.name ++ " must be " ++ key.requirement) ∧
    ∀ config, Config.ofSettings (Yaml.namedEntries entries) = .ok config → ∀ key : SettingKey,
      (∀ value, (.str key.name, value) ∈ entries → key.Converts value (key.field config)) ∧
        ((∀ value, (.str key.name, value) ∉ entries) → key.field config = key.field .default) := by
  -- in the range no value overflows, so that a key that fails does so for its value
  have hfits (key : SettingKey) (value : Yaml) (hmem : (.str key.name, value) ∈ entries) :
      ¬ key.Overflows value :=
    SettingKey.not_overflows fun number hkey => hrange number value (by subst hkey; exact hmem)
  -- entries and looked-up values tell of the same first key
  have hfirst (key : SettingKey) :
      key.IsFirstWrong (Yaml.namedEntries entries) ↔ key.IsFirstInvalid entries := by
    constructor
    · rintro ⟨⟨value, hvalue, hwrong⟩, hearlier⟩
      refine ⟨⟨value, (get?_namedEntries_eq_some_iff hdiffer).mp hvalue, hwrong⟩, ?_⟩
      intro earlier value hplace hmem
      exact (hearlier earlier hplace value
        ((get?_namedEntries_eq_some_iff hdiffer).mpr hmem)).1
    · rintro ⟨⟨value, hmem, hwrong⟩, hearlier⟩
      refine ⟨⟨value, (get?_namedEntries_eq_some_iff hdiffer).mpr hmem, hwrong⟩, ?_⟩
      intro earlier hplace value hvalue
      rw [get?_namedEntries_eq_some_iff hdiffer] at hvalue
      exact ⟨hearlier earlier value hplace hvalue, hfits earlier value hvalue⟩
  refine ⟨fun others hothers hperm => ?_, fun e => ?_, fun config hconfig key => ?_⟩
  -- the settings are read by looking up each key
  · exact ofSettings_congr fun key => get?_eq_of_perm hdiffer hothers hperm key
  · constructor
    -- an error is of a first key that does not take its value, as nothing overflows
    · intro herror
      rcases SettingKey.exists_of_ofSettings_eq_error herror with
        ⟨key, rfl⟩ | ⟨key, value, number, hvalue, hover, rfl⟩
      · exact ⟨key, (hfirst key).mp (SettingKey.ofSettings_eq_error_iff.mp herror), rfl,
          key.message_error⟩
      · rw [get?_namedEntries_eq_some_iff hdiffer] at hvalue
        exact absurd hover (hfits key value hvalue)
    · rintro ⟨key, hinvalid, rfl, -⟩
      exact SettingKey.ofSettings_eq_error_iff.mpr ((hfirst key).mpr hinvalid)
  -- the field of a key is written by its own entry only
  · obtain ⟨hvalue, hnone⟩ := SettingKey.field_of_ofSettings hconfig key
    exact ⟨fun value hmem => hvalue value ((get?_namedEntries_eq_some_iff hdiffer).mpr hmem),
      fun habsent => hnone ((get?_namedEntries_eq_none_iff hdiffer).mpr habsent)⟩

namespace Sample

/-- A mapping with two wrong values, the first of them for the last key in order. -/
def twoFaults : List (Yaml × Yaml) :=
  [(.str "model", .str ""), (.int 3, .null), (.str "tree_timeout_seconds", .int 20),
    (.str "fast_max_files", .int 0), (.str "colour", .bool true)]

theorem ofSettings_twoFaults :
    Config.ofSettings (Yaml.namedEntries twoFaults) = .error (.badCount .fastMaxFiles) ∧
      Config.ofSettings (Yaml.namedEntries twoFaults.reverse)
        = Config.ofSettings (Yaml.namedEntries twoFaults) := by
  have hdiffer : Yaml.NamesDiffer twoFaults := by
    unfold Yaml.NamesDiffer
    decide
  have hrange (key : NumberKey) (value : Yaml) (hmem : (.str key.name, value) ∈ twoFaults) :
      value.RoundsBelow 1024 := by
    simp only [twoFaults, List.mem_cons, Prod.mk.injEq, List.not_mem_nil, or_false] at hmem
    rcases hmem with ⟨-, rfl⟩ | ⟨-, rfl⟩ | ⟨-, rfl⟩ | ⟨-, rfl⟩ | ⟨-, rfl⟩ <;>
      first | trivial | exact Yaml.roundsBelow_of_lt (by decide) (by decide)
  obtain ⟨horder, hfault, -⟩ := ofSettings_independent hdiffer hrange
  refine ⟨(hfault _).mpr ⟨.count .fastMaxFiles, ⟨?_, ?_⟩, rfl,
    SettingKey.message_error (.count .fastMaxFiles)⟩, ?_⟩
  -- zero is no count
  · refine ⟨.int 0, by simp [twoFaults, SettingKey.name, CountKey.name], ?_⟩
    rintro ⟨_, h⟩
    cases h with
    | count hpos => exact Nat.lt_irrefl _ hpos
  · intro earlier value hplace hmem
    -- only one key comes before, and the mapping has nothing for it
    have hearlier : earlier = .count .maxFindingsPerPanel := by
      have hlt : SettingKey.all.idxOf earlier < 1 := hplace
      rw [Nat.lt_one_iff] at hlt
      have hget := List.getElem_idxOf (List.idxOf_lt_length_of_mem earlier.mem_all)
      simp only [hlt] at hget
      exact hget.symm
    subst hearlier
    simp [twoFaults, SettingKey.name, CountKey.name] at hmem
  · refine horder _ ?_ ((List.reverse_perm _).filter _)
    unfold Yaml.NamesDiffer
    decide

end Sample

end PlainScan
