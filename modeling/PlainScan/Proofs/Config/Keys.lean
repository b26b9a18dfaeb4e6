import Mathlib.Data.List.Basic
import PlainScan.Config.Settings
import PlainScan.Proofs.Number.Rounding

namespace PlainScan

/-!
# Keys of the settings

The keys of the four kinds are taken together here: each one has its place in the order of the
checks, its own field in the settings, and the values that it takes.

* `SettingKey` — the keys of all kinds; `SettingKey.all` has them in the order of the checks.
* `SettingKey.field`, `SettingKey.store` — the field of a key; no other key touches it.
* `SettingKey.Converts` — the values that a key takes, and what becomes of them.
* `Yaml.RoundsBelow` — numbers whose nearest binary number is below a power of two.
* `SettingKey.reads` — how the value of a key fares: it is taken, refused, or beyond the end of the
  binary format.  `converts_of_read` and `fault_of_read` read this off an outcome.
-/

/-- A key of the settings. -/
inductive SettingKey where
  | count (key : CountKey)
  | number (key : NumberKey)
  | list (key : ListKey)
  | model
  deriving DecidableEq

/-- What the settings hold for a key. -/
inductive SettingValue where
  | count (n : Nat)
  | number (x : Number)
  | texts (texts : List String)
  | text (text : String)

/-- The texts that are kept of a list: endings of files are put in lower case. -/
def ListKey.kept (texts : List String) : ListKey → List String
  | allowedFileTypes => texts.map Text.lowerString
  | _ => texts

/-! ### Numbers in range -/

/-- A number whose nearest binary number is below a power of two; what is no number counts as well.
    An integer has to be below the middle between the power and the binary number before it. -/
def Yaml.RoundsBelow (e : Nat) : Yaml → Prop
  | .int n => n + 2 ^ (e - 54) < 2 ^ e
  | .num (.finite _ units) => units < 2 ^ e * Binary64.unitsOfOne
  | .num _ => False
  | _ => True

/-- Small integers are in the range of the format. -/
theorem Yaml.roundsBelow_of_lt {e : Nat} (he : 54 ≤ e) {n : Int} (h : n < 2 ^ 53) :
    (Yaml.int n).RoundsBelow e := by
  obtain ⟨p, rfl⟩ := Nat.exists_eq_add_of_le he
  have hpos : (0 : Int) < 2 ^ p := Int.pow_pos (by decide)
  rw [RoundsBelow, Nat.add_sub_cancel_left, Int.pow_add]
  omega

theorem Yaml.RoundsBelow.mono {e e' : Nat} (he : 54 ≤ e) (hle : e ≤ e') {value : Yaml}
    (h : value.RoundsBelow e) : value.RoundsBelow e' := by
  cases value with
  | int n =>
    obtain ⟨p, rfl⟩ := Nat.exists_eq_add_of_le he
    obtain ⟨q, rfl⟩ := Nat.exists_eq_add_of_le hle
    have hpow : (2 : Int) ^ p ≤ 2 ^ (p + q) :=
      pow_le_pow_right₀ (by decide) (Nat.le_add_right p q)
    rw [RoundsBelow, Nat.add_sub_cancel_left, Int.pow_add] at h
    rw [RoundsBelow, Nat.add_assoc, Nat.add_sub_cancel_left, Int.pow_add 2 54]
    omega
  | num x =>
    cases x with
    | finite negative units =>
      exact Nat.lt_of_lt_of_le h
        (Nat.mul_le_mul_right _ (Nat.pow_le_pow_right (by decide) hle))
    | _ => exact h
  | _ => exact h

namespace SettingKey

/-! ### Keys -/

/-- All keys in the order in which they are checked. -/
def all : List SettingKey :=
  CountKey.all.map count ++ (NumberKey.all.map number ++ (ListKey.all.map list ++ [model]))

/-- The place of a key in this order. -/
def place (key : SettingKey) : Nat := all.idxOf key

/-- The name of a key. -/
def name : SettingKey → String
  | count key => key.name
  | number key => key.name
  | list key => key.name
  | model => modelKey

/-- What the value of a key has to be. -/
def requirement : SettingKey → String
  | count _ => "a positive integer"
  | number _ => "a positive number"
  | list _ => "a list of strings"
  | model => "a non-empty string"

/-- The fault of a value that the key does not take. -/
def error : SettingKey → SettingError
  | count key => .badCount key
  | number key => .badNumber key
  | list key => .badList key
  | model => .badModel

/-- The message about a fault names the key. -/
theorem message_error (key : SettingKey) :
    key.error.message = key.name ++ " must be " ++ key.requirement := by
  cases key <;> rw [String.append_assoc] <;> rfl

theorem mem_all (key : SettingKey) : key ∈ all := by
  rcases key with key | key | key | _ <;> first | (cases key <;> decide) | decide

theorem nodup_all : all.Nodup := by decide

/-- The first key in order that a function singles out. -/
theorem findSome?_all_eq_some_iff {β : Type} {f : SettingKey → Option β} {b : β} :
    all.findSome? f = some b ↔
      ∃ key, f key = some b ∧ ∀ earlier, earlier.place < key.place → f earlier = none := by
  rw [List.findSome?_eq_some_iff]
  constructor
  · rintro ⟨before, key, after, hall, hkey, hbefore⟩
    refine ⟨key, hkey, fun earlier hplace => hbefore earlier ?_⟩
    -- no key is listed twice, so an earlier one stands in front
    have hnodup := nodup_all
    rw [hall, List.nodup_append] at hnodup
    have hnot : key ∉ before := fun hmem =>
      hnodup.2.2 key hmem key List.mem_cons_self rfl
    by_contra hlate
    rw [place, place, hall, List.idxOf_append_of_notMem hlate, List.idxOf_append_of_notMem hnot,
      List.idxOf_cons_self] at hplace
    omega
  · rintro ⟨key, hkey, hearlier⟩
    -- what stands in front has an earlier place
    obtain ⟨before, after, hall, hnot⟩ := List.eq_append_cons_of_mem (mem_all key)
    refine ⟨before, key, after, hall, hkey, fun earlier hmem => hearlier earlier ?_⟩
    rw [place, place, hall, List.idxOf_append_of_mem hmem, List.idxOf_append_of_notMem hnot,
      List.idxOf_cons_self, Nat.add_zero]
    exact List.idxOf_lt_length_of_mem hmem

/-! ### Fields -/

/-- What the settings hold for a key. -/
def field (config : Config) : SettingKey → SettingValue
  | count key => .count (key.get config)
  | number key => .number (key.get config)
  | list key => .texts (key.get config)
  | model => .text config.model

/-- The settings with another value for a key, which has to be of its kind. -/
def store (config : Config) : SettingKey → SettingValue → Config
  | count key, .count n => key.set config n
  | number key, .number x => key.set config x
  | list .ignoredDirectories, .texts texts => { config with ignoredDirectories := texts }
  | list .allowedFileTypes, .texts texts => { config with allowedFileTypes := texts }
  | list .lintCommand, .texts texts => { config with lintCommand := texts }
  | list .auditCommand, .texts texts => { config with auditCommand := texts }
  | model, .text text => { config with model := text }
  | _, _ => config

/-- A value for one key leaves the others alone. -/
theorem field_store_of_ne (config : Config) (value : SettingValue) {key other : SettingKey}
    (h : other ≠ key) : other.field (key.store config value) = other.field config := by
  -- only a value of the key's own kind is stored, and in one field
  cases key with
  | count key =>
    cases value with
    | count n =>
      rcases other with other | other | other | _
      · cases key <;> cases other <;> first | rfl | exact absurd rfl h
      · cases key <;> cases other <;> rfl
      · cases key <;> cases other <;> rfl
      · cases key <;> rfl
    | _ => rfl
  | number key =>
    cases value with
    | number x =>
      rcases other with other | other | other | _
      · cases key <;> cases other <;> rfl
      · cases key <;> cases other <;> first | rfl | exact absurd rfl h
      · cases key <;> cases other <;> rfl
      · cases key <;> rfl
    | _ => rfl
  | list key =>
    cases value with
    | texts texts =>
      rcases other with other | other | other | _
      · cases key <;> cases other <;> rfl
      · cases key <;> cases other <;> rfl
      · cases key <;> cases other <;> first | rfl | exact absurd rfl h
      · cases key <;> rfl
    | _ => cases key <;> rfl
  | model =>
    cases value with
    | text text =>
      rcases other with other | other | other | _
      · cases other <;> rfl
      · cases other <;> rfl
      · cases other <;> rfl
      · exact absurd rfl h
    | _ => rfl

/-! ### Values -/

/-- The values that a key takes, and what becomes of them: integers stay, other numbers become
    binary ones, endings of files are put in lower case. -/
inductive Converts : SettingKey → Yaml → SettingValue → Prop
  | count {key : CountKey} {n : Nat} (hpos : 0 < n) :
      Converts (.count key) (.int n) (.count n)
  | whole {key : NumberKey} {n : Int} (hpos : 0 < n) :
      Converts (.number key) (.int n) (.number (.real (.ofInt n)))
  | real {key : NumberKey} {x : Binary64} (hpos : x.le .zero = false) :
      Converts (.number key) (.num x) (.number (.real x))
  | list {key : ListKey} (texts : List String) :
      Converts (.list key) (.seq (texts.map .str)) (.texts (key.kept texts))
  | model {text : String} (hne : text ≠ "") :
      Converts .model (.str text) (.text text)

/-- A value that the key takes. -/
def Takes (key : SettingKey) (value : Yaml) : Prop := ∃ held, key.Converts value held

/-- An integer beyond the end of the binary format, which the key takes and cannot convert. -/
def Overflows : SettingKey → Yaml → Prop
  | number _, .int n => ¬ (Yaml.int n).RoundsBelow 1024
  | _, _ => False

/-- What is held for a key once its value is read. -/
def read : SettingKey → Yaml → Except SettingError SettingValue
  | count key, value => (countValue key value).map .count
  | number key, value => (numberValue key value).map .number
  | list key, value => (listValue key value).map fun texts => .texts (key.kept texts)
  | model, value => (modelValue value).map .text

/-- The ways in which the value of a key fares. -/
inductive Reads (key : SettingKey) (value : Yaml) : Except SettingError SettingValue → Prop
  | accepted {held : SettingValue} (h : key.Converts value held) (hfits : ¬ key.Overflows value) :
      Reads key value (.ok held)
  | refused (h : ¬ key.Takes value) : Reads key value (.error key.error)
  | overflowed {number : NumberKey} (h : key.Takes value) (hover : key.Overflows value) :
      Reads key value (.error (.overflow number))

theorem reads_count (key : CountKey) (value : Yaml) :
    Reads (.count key) value ((countValue key value).map .count) := by
  cases value with
  | int n =>
    rw [countValue]
    split
    case isTrue hpos =>
      obtain ⟨k, rfl⟩ := Int.eq_ofNat_of_zero_le hpos.le
      rw [Int.toNat_natCast]
      exact .accepted (.count (by omega)) id
    case isFalse hpos =>
      refine .refused ?_
      rintro ⟨_, h⟩
      cases h
      omega
  | _ =>
    refine .refused ?_
    rintro ⟨_, h⟩
    cases h

theorem reads_number (key : NumberKey) (value : Yaml) :
    Reads (.number key) value ((numberValue key value).map .number) := by
  cases value with
  | int n =>
    rw [numberValue]
    split
    case isTrue hneg =>
      refine .refused ?_
      rintro ⟨_, h⟩
      cases h
      omega
    case isFalse hpos =>
      rw [not_le] at hpos
      -- a positive integer is finite exactly if it is rounded below the end of the format
      by_cases hbelow : (Yaml.int n).RoundsBelow 1024
      · have hfinite := Binary64.ofInt_of_lt hpos hbelow
        have hheld : Converts (.number key) (.int n) _ := .whole hpos
        rw [hfinite] at hheld ⊢
        exact .accepted hheld (not_not_intro hbelow)
      · rw [Binary64.ofInt_of_not_lt hpos hbelow]
        exact .overflowed ⟨_, .whole hpos⟩ hbelow
  | num x =>
    rw [numberValue]
    split
    -- what is not above zero is refused
    case isTrue hle =>
      refine .refused ?_
      rintro ⟨_, h⟩
      cases h with
      | real hpos => exact Bool.noConfusion (hpos.symm.trans hle)
    case isFalse hpos =>
      rw [Bool.not_eq_true] at hpos
      exact .accepted (.real hpos) id
  | _ =>
    refine .refused ?_
    rintro ⟨_, h⟩
    cases h

/-- A list is one of strings exactly if each of its items has a text. -/
theorem mapM_str?_eq_some_iff {items : List Yaml} {texts : List String} :
    items.mapM Yaml.str? = some texts ↔ items = texts.map .str := by
  induction items generalizing texts with
  | nil => cases texts <;> simp
  | cons item rest ih =>
    cases texts with
    | nil => simp [List.mapM_cons, Option.bind_eq_some_iff]
    | cons text texts =>
      cases item <;> simp [List.mapM_cons, Option.bind_eq_some_iff, Yaml.str?, ih, and_comm]

theorem reads_list (key : ListKey) (value : Yaml) :
    Reads (.list key) value ((listValue key value).map fun texts => .texts (key.kept texts)) := by
  cases value with
  | seq items =>
    rw [listValue]
    cases htexts : items.mapM Yaml.str? with
    | some texts =>
      rw [mapM_str?_eq_some_iff.mp htexts]
      exact .accepted (.list texts) id
    | none =>
      refine .refused ?_
      rintro ⟨_, h⟩
      cases h with
      | list texts =>
        rw [mapM_str?_eq_some_iff.mpr rfl] at htexts
        cases htexts
  | _ =>
    refine .refused ?_
    rintro ⟨_, h⟩
    cases h

theorem reads_model (value : Yaml) : Reads .model value ((modelValue value).map .text) := by
  cases value with
  | str text =>
    rw [modelValue]
    split
    case isTrue hempty =>
      refine .refused ?_
      rintro ⟨_, h⟩
      cases h with
      | model hne => exact hne (String.isEmpty_iff.mp hempty)
    case isFalse hne =>
      exact .accepted (.model fun h => hne (String.isEmpty_iff.mpr h)) id
  | _ =>
    refine .refused ?_
    rintro ⟨_, h⟩
    cases h

/-- How the value of a key fares. -/
theorem reads (key : SettingKey) (value : Yaml) : key.Reads value (key.read value) := by
  cases key with
  | count key => exact reads_count key value
  | number key => exact reads_number key value
  | list key => exact reads_list key value
  | model => exact reads_model value

section

variable {key : SettingKey} {value : Yaml}

/-- What is held for a key is what becomes of a value that it takes. -/
theorem converts_of_read {held : SettingValue} (h : key.read value = .ok held) :
    key.Converts value held ∧ ¬ key.Overflows value := by
  have hreads := key.reads value
  rw [h] at hreads
  cases hreads with
  | accepted hheld hfits => exact ⟨hheld, hfits⟩

/-- A fault is that of the key, or that of the conversion. -/
theorem fault_of_read {e : SettingError} (h : key.read value = .error e) :
    e = key.error ∧ ¬ key.Takes value ∨
      (∃ number, e = .overflow number) ∧ key.Takes value ∧ key.Overflows value := by
  have hreads := key.reads value
  rw [h] at hreads
  cases hreads with
  | refused hwrong => exact .inl ⟨rfl, hwrong⟩
  | overflowed htakes hover => exact .inr ⟨⟨_, rfl⟩, htakes, hover⟩

end

end SettingKey

end PlainScan
