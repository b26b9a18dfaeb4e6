import Mathlib.Data.List.DropRight
import PlainScan.Proofs.Reply.Balance

namespace PlainScan

/-!
# Array texts in a reply

What the readings of a reply have to do with the text of an array of which only the texts of its
items are known.

* `arrayText` — the text of an array, its items separated by a comma and a space.
* `candidatesOf_eq_ok_iff` — what the candidates of a reply are.
* `ReadsWithinLimits` — no limit is met while a reply is read.
* `candidatesOf_eq_chunks_iff` — the candidates of a reply that holds no array.
* `outermost_append` — an array stands between the outermost brackets, if no opening one comes
    before it and no closing one behind it.
-/

/-! ### Items one after another -/

/-- What stands between two items. -/
def itemGap : List Char := [',', ' ']

/-- The text of an array with the given texts as its items. -/
def arrayText (items : List (List Char)) : List Char := '[' :: (itemGap.intercalate items ++ [']'])

/-- A character that a test of all characters does not meet is none of them. -/
theorem ne_of_all_ne {text : List Char} {stop : Char} (h : (text.all fun c => c != stop) = true) :
    ∀ c ∈ text, c ≠ stop :=
  fun c hc => bne_iff_ne.mp (List.all_eq_true.mp h c hc)

/-- The gap opens no braces. -/
theorem ne_brace_of_itemGap : ∀ c ∈ itemGap, c ≠ '\x7b' := by
  simp [itemGap]

/-- The start of two texts ends within the first one, or within the second one. -/
theorem prefix_append_cases {u a b : List Char} (h : u <+: a ++ b) :
    (u <+: a ∧ u ≠ a) ∨ ∃ v, u = a ++ v ∧ v <+: b := by
  rcases List.prefix_or_prefix_of_prefix h (List.prefix_append a b) with hua | ⟨v, rfl⟩
  · by_cases hne : u = a
    · exact Or.inr ⟨[], by rw [hne, List.append_nil], List.nil_prefix⟩
    · exact Or.inl ⟨hua, hne⟩
  · exact Or.inr ⟨v, rfl, (List.prefix_append_right_inj a).mp h⟩

/-! ### The outermost brackets -/

/-- Brackets are looked for from the first opening one on. -/
theorem fromFirstBracket_append {before : List Char} (h : ∀ c ∈ before, c ≠ '[')
    (rest : List Char) : fromFirstBracket (before ++ '[' :: rest) = '[' :: rest := by
  rw [fromFirstBracket, List.dropWhile_append_of_pos, List.dropWhile_cons_of_neg]
  · simp
  · intro c hc
    simpa using h c hc

/-- Nothing is left out before the last closing bracket. -/
theorem upToLastBracket_isPrefix (text : List Char) : upToLastBracket text <+: text :=
  List.rdropWhile_prefix (· != ']') text

/-- What stands behind the last closing bracket is left out. -/
theorem upToLastBracket_append {after : List Char} (h : ∀ c ∈ after, c ≠ ']') (text : List Char) :
    upToLastBracket (text ++ ']' :: after) = text ++ [']'] := by
  have hall : ∀ c ∈ after.reverse, (c != ']') = true := by
    intro c hc
    simpa using h c (List.mem_reverse.mp hc)
  rw [upToLastBracket, List.reverse_append, List.reverse_cons, List.append_assoc,
    List.dropWhile_append_of_pos hall, List.singleton_append, List.dropWhile_cons_of_neg (by simp),
    List.reverse_cons, List.reverse_reverse]

/-- Brackets are looked for up to the last closing one from the first opening one on. -/
theorem outermost_append {before behind : List Char} (hbefore : ∀ c ∈ before, c ≠ '[')
    (hbehind : ∀ c ∈ behind, c ≠ ']') (inside : List Char) :
    outermost (before ++ '[' :: (inside ++ ']' :: behind)) = '[' :: (inside ++ [']']) := by
  rw [outermost, fromFirstBracket_append hbefore, ← List.cons_append,
    upToLastBracket_append hbehind, List.cons_append]

/-! ### The readings one by one -/

/-- The whole reply has candidates, or none, if no limit is met in it. -/
theorem wholeCandidates_eq_ok_iff {text : List Char} {found : Option (List Json)} :
    wholeCandidates text = .ok found
      ↔ Json.WithinLimits text ∧ found = (Json.read? text).bind itemsOf? := by
  rw [wholeCandidates, map_eq_ok_iff]
  constructor
  · rintro ⟨value, hvalue, rfl⟩
    obtain ⟨hwithin, rfl⟩ := Json.attempt_eq_ok_iff.mp hvalue
    exact ⟨hwithin, rfl⟩
  · rintro ⟨hwithin, rfl⟩
    exact ⟨_, hwithin.attempt_eq, rfl⟩

/-- So has what stands between the outermost brackets. -/
theorem sliceCandidates_eq_ok_iff {text : List Char} {found : Option (List Json)} :
    sliceCandidates text = .ok found
      ↔ Json.WithinLimits (outermost text)
        ∧ found = (Json.read? (outermost text)).bind Json.arr? := by
  rw [sliceCandidates, map_eq_ok_iff]
  constructor
  · rintro ⟨value, hvalue, rfl⟩
    obtain ⟨hwithin, rfl⟩ := Json.attempt_eq_ok_iff.mp hvalue
    exact ⟨hwithin, rfl⟩
  · rintro ⟨hwithin, rfl⟩
    exact ⟨_, hwithin.attempt_eq, rfl⟩

/-! ### The readings in turn -/

/-- The candidates of a reply are those of the first reading that yields any, and the readings
    before it have met no limit. -/
theorem candidatesOf_eq_ok_iff {text : List Char} {found : List Json} :
    candidatesOf text = .ok found
      ↔ wholeCandidates text = .ok (some found)
        ∨ wholeCandidates text = .ok none
          ∧ (sliceCandidates text = .ok (some found)
            ∨ sliceCandidates text = .ok none ∧ chunkValues (braceChunks text) = .ok found) := by
  -- the last reading gives no candidates where there are none
  have hobjects : (objectCandidates text).map (fun found => found.getD [])
      = chunkValues (braceChunks text) := by
    rw [objectCandidates]
    cases chunkValues (braceChunks text) with
    | error limit => rfl
    | ok values => cases values <;> rfl
  unfold candidatesOf
  cases wholeCandidates text with
  | error limit => simp
  | ok whole =>
    cases whole with
    | some items => simp
    | none =>
      cases sliceCandidates text with
      | error limit => simp
      | ok slice =>
        cases slice with
        | some items => simp
        | none => simp [hobjects]

/-- The reader meets no limit in what the readings of a reply give to it: the reply, what stands
    between its outermost brackets, and its chunks. -/
structure ReadsWithinLimits (text : List Char) : Prop where
  whole : Json.WithinLimits text
  slice : Json.WithinLimits (outermost text)
  chunks : ∀ chunk ∈ braceChunks text, Json.WithinLimits chunk

/-- What the readings that yield something agree on is what the candidates are, if the brackets
    yield it and no limit is met in the whole reply. -/
theorem candidatesOf_of_slice_iff {text : List Char} {items found : List Json}
    (hwhole : ∀ values, (Json.read? text).bind itemsOf? = some values → values = items)
    (hslice : sliceCandidates text = .ok (some items)) :
    candidatesOf text = .ok found ↔ Json.WithinLimits text ∧ found = items := by
  rw [candidatesOf_eq_ok_iff, hslice]
  simp only [wholeCandidates_eq_ok_iff, Except.ok.injEq, Option.some.injEq, reduceCtorEq, false_and,
    or_false]
  constructor
  · rintro (⟨hwithin, hvalues⟩ | ⟨⟨hwithin, -⟩, rfl⟩)
    · exact ⟨hwithin, hwhole found hvalues.symm⟩
    · exact ⟨hwithin, rfl⟩
  · rintro ⟨hwithin, rfl⟩
    cases hvalues : (Json.read? text).bind itemsOf? with
    | none => exact .inr ⟨⟨hwithin, rfl⟩, rfl⟩
    | some values => exact .inl ⟨hwithin, congrArg some (hwhole values hvalues).symm⟩

/-- **Chunks.** The candidates of a reply that spells no value, nor does what stands between its
    outermost brackets, are the values of its chunks, if no limit is met in any of these texts. -/
theorem candidatesOf_eq_chunks_iff {text : List Char} {found : List Json}
    (hwhole : Json.read? text = none) (hslice : Json.read? (outermost text) = none) :
    candidatesOf text = .ok found
      ↔ ReadsWithinLimits text ∧ found = (braceChunks text).filterMap Json.read? := by
  rw [candidatesOf_eq_ok_iff, wholeCandidates_eq_ok_iff, wholeCandidates_eq_ok_iff,
    sliceCandidates_eq_ok_iff, sliceCandidates_eq_ok_iff, BraceScan.chunkValues_eq_ok_iff, hwhole,
    hslice]
  simp only [Option.bind_none, reduceCtorEq, and_false, false_or, and_true]
  constructor
  · rintro ⟨hone, htwo, hchunks, heq⟩
    exact ⟨⟨hone, htwo, hchunks⟩, heq⟩
  · rintro ⟨hreads, heq⟩
    exact ⟨hreads.whole, hreads.slice, hreads.chunks, heq⟩

end PlainScan
