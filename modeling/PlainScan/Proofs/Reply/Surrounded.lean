import PlainScan.Proofs.Json.Equality
import PlainScan.Proofs.Json.Limits
import PlainScan.Proofs.Reply.Array

namespace PlainScan

/-!
# Arrays in prose

A reply may say something before the array that was asked for, and something behind it.  Quotes,
backslashes, braces and code fences in what it says make no difference.

* `ArrayInProse` — an array with prose around it.
* `ArrayInProse.eq_of_read?` — if the reply spells candidates as a whole, then those of the array.
* `ArrayInProse.outermost_text` — between the outermost brackets stands the array.
* `candidatesOf_arrayInProse_iff` — the candidates are the items of the array, unless a limit is
  met.
* `ArrayInProse.behindLongNumber` — the same array behind prose in which one is met.
-/

/-- The text of an array, behind prose that opens neither a bracket nor a brace, and before prose
    that closes no bracket. -/
structure ArrayInProse where
  before : List Char
  array : List Char
  behind : List Char
  items : List Json
  load_eq : Json.load array = .ok (.arr items)
  head_eq : array.head? = some '['
  last_eq : array.getLast? = some ']'
  ne_of_mem_before : ∀ c ∈ before, c ≠ '[' ∧ c ≠ '\x7b'
  ne_of_mem_behind : ∀ c ∈ behind, c ≠ ']'

namespace ArrayInProse

/-- The reply. -/
def text (r : ArrayInProse) : List Char := r.before ++ (r.array ++ r.behind)

theorem read_eq (r : ArrayInProse) : Json.read? r.array = some (.arr r.items) :=
  Json.read?_of_load r.load_eq

/-- The text of the array stands for it. -/
theorem spells (r : ArrayInProse) : Json.Spells (.value (.arr r.items)) r.array := by
  -- its ends are brackets, hence there are no spaces
  refine Json.spells_of_read? r.read_eq ?_ ?_
  · intro c hc
    rw [r.head_eq, Option.some.injEq] at hc
    rw [← hc]
    rfl
  · intro c hc
    rw [r.last_eq, Option.some.injEq] at hc
    rw [← hc]
    rfl

/-- The text of the array goes from one bracket to another. -/
theorem exists_inside (r : ArrayInProse) : ∃ inside, r.array = '[' :: (inside ++ [']']) := by
  obtain ⟨rest, hrest⟩ := List.head?_eq_some_iff.mp r.head_eq
  have hlast := r.last_eq
  rw [hrest] at hlast ⊢
  rcases List.eq_nil_or_concat rest with rfl | ⟨inside, c, rfl⟩
  · cases hlast
  · rw [List.concat_eq_append, ← List.cons_append, List.getLast?_concat, Option.some.injEq] at hlast
    exact ⟨inside, by rw [hlast, List.concat_eq_append]⟩

/-! ### The reply as a whole -/

/-- No object starts where the prose ends. -/
theorem text_ne_of_brace (r : ArrayInProse) {sp more : List Char} (hsp : Json.Spaces sp) :
    r.text ≠ sp ++ '\x7b' :: more := by
  intro h
  obtain ⟨inside, harray⟩ := r.exists_inside
  rw [text, harray] at h
  rcases List.append_eq_append_iff.mp h with ⟨mid, hspaces, hrest⟩ | ⟨mid, hbefore, hrest⟩
  · -- the bracket is a space or the brace
    cases mid with
    | nil => cases (List.cons.inj hrest).1
    | cons c _ =>
      have hspace := hsp c (by simp [hspaces])
      rw [← (List.cons.inj hrest).1] at hspace
      cases hspace
  · -- the brace belongs to the prose or is the bracket
    cases mid with
    | nil => cases (List.cons.inj hrest).1
    | cons c _ =>
      refine (r.ne_of_mem_before c (by simp [hbefore])).2 ?_
      exact (List.cons.inj hrest).1.symm

/-- An array that the reply consists of is the one in it. -/
theorem eq_items_of_read? (r : ArrayInProse) {values : List Json}
    (h : Json.read? r.text = some (.arr values)) : values = r.items := by
  obtain ⟨sp, a, sp', hsp, -, hspells, htext⟩ := Json.read?_eq_some_iff.mp h
  -- both texts start with the first bracket of the reply
  have hspaces : ∀ c ∈ sp, c ≠ '[' := by
    rintro c hc rfl
    cases hsp '[' hc
  have hfrom := congrArg fromFirstBracket htext
  obtain ⟨inside, harray⟩ := r.exists_inside
  obtain ⟨more, ha⟩ := hspells.exists_cons_of_array
  have hbefore : ∀ c ∈ r.before, c ≠ '[' := fun c hc => (r.ne_of_mem_before c hc).1
  rw [text, harray, ha, List.cons_append, List.cons_append, fromFirstBracket_append hbefore,
    fromFirstBracket_append hspaces, ← List.cons_append, ← harray, ← List.cons_append, ← ha]
    at hfrom
  exact (r.spells.eq_of_append hspells hfrom).1.symm

/-- **The reply as a whole.** If it spells candidates as it is, then the items of the array in it.
    -/
theorem eq_of_read? (r : ArrayInProse) {values : List Json}
    (h : (Json.read? r.text).bind itemsOf? = some values) : values = r.items := by
  obtain ⟨v, hread, hitems⟩ := Option.bind_eq_some_iff.mp h
  cases v with
  | arr found =>
    cases hitems
    exact r.eq_items_of_read? hread
  | obj fields =>
    -- an object would have to start before the array
    obtain ⟨sp, a, sp', hsp, -, hspells, htext⟩ := Json.read?_eq_some_iff.mp hread
    obtain ⟨more, rfl⟩ := hspells.exists_cons_of_object
    exact absurd htext (r.text_ne_of_brace hsp)
  | _ => cases hitems

/-! ### The outermost brackets -/

/-- **The outermost brackets.** What stands between them is the array. -/
theorem outermost_text (r : ArrayInProse) : outermost r.text = r.array := by
  obtain ⟨inside, harray⟩ := r.exists_inside
  rw [text, harray, List.cons_append, List.append_assoc, List.singleton_append]
  exact outermost_append (fun c hc => (r.ne_of_mem_before c hc).1) r.ne_of_mem_behind inside

/-- It is accepted, and its items are the candidates. -/
theorem sliceCandidates_text (r : ArrayInProse) : sliceCandidates r.text = .ok (some r.items) := by
  rw [sliceCandidates_eq_ok_iff, r.outermost_text, r.read_eq]
  exact ⟨(Json.load_eq_ok_iff.mp r.load_eq).1, rfl⟩

/-! ### A long number -/

/-- The array behind an integer of too many digits. -/
def behindLongNumber (r : ArrayInProse) : ArrayInProse where
  before := List.replicate (Json.digitLimit + 1) '1' ++ [' ']
  array := r.array
  behind := r.behind
  items := r.items
  load_eq := r.load_eq
  head_eq := r.head_eq
  last_eq := r.last_eq
  ne_of_mem_before c hc := by
    rcases List.mem_append.mp hc with hc | hc
    · rw [List.eq_of_mem_replicate hc]
      decide
    · rw [List.mem_singleton.mp hc]
      decide
  ne_of_mem_behind := r.ne_of_mem_behind

/-- The reader meets a limit in that integer and does not come to the array. -/
theorem candidatesOf_behindLongNumber (r : ArrayInProse) :
    candidatesOf r.behindLongNumber.text = .error .digits := by
  have hattempt : Json.attempt r.behindLongNumber.text = .error .digits := by
    rw [text, behindLongNumber, List.append_assoc]
    exact Json.tooManyDigits_ones.attempt_eq (notStarting_cons.mpr rfl)
  rw [candidatesOf, wholeCandidates, hattempt]
  rfl

end ArrayInProse

/-- **Arrays in prose.** The candidates of a reply that has an array in it are the items of the
    array, whatever stands before its first bracket and behind its last one, exactly if no limit is
    met in the reply.  There are no others. -/
theorem candidatesOf_arrayInProse_iff (r : ArrayInProse) {found : List Json} :
    candidatesOf r.text = .ok found ↔ Json.WithinLimits r.text ∧ found = r.items :=
  candidatesOf_of_slice_iff (fun _ h => r.eq_of_read? h) r.sliceCandidates_text

/-! ### Two replies -/

/-- A number before the array, and behind it a brace, a quote and a backslash that nothing closes;
    in the array a string with brackets. -/
def bracketsInString : ArrayInProse where
  before := "12: ```json \"".toList
  array := "[\x7b\"id\":\"a]\"\x7d, [\"[\"] ]".toList
  behind := "``` \x7b \" \\ [".toList
  items := [.obj [("id", .str "a]")], .arr [.str "["]]
  load_eq := by decide +kernel
  head_eq := by decide +kernel
  last_eq := by decide +kernel
  ne_of_mem_before c hc :=
    ⟨ne_of_all_ne (by decide +kernel) c hc, ne_of_all_ne (by decide +kernel) c hc⟩
  ne_of_mem_behind := ne_of_all_ne (by decide +kernel)

/-- Its candidates are the object and the array in that array. -/
theorem candidatesOf_bracketsInString :
    Json.WithinLimits bracketsInString.text ∧
      candidatesOf bracketsInString.text
        = .ok [.obj [("id", .str "a]")], .arr [.str "["]] := by
  have hwithin : Json.WithinLimits bracketsInString.text :=
    Json.withinLimits_of_length (by decide +kernel)
  exact ⟨hwithin, (candidatesOf_arrayInProse_iff bracketsInString).mpr ⟨hwithin, rfl⟩⟩

/-- An array with one object and nothing around it. -/
def loneArray : ArrayInProse where
  before := []
  array := "[\x7b\"id\":\"x\"\x7d]".toList
  behind := []
  items := [.obj [("id", .str "x")]]
  load_eq := by decide +kernel
  head_eq := by decide +kernel
  last_eq := by decide +kernel
  ne_of_mem_before := List.forall_mem_nil _
  ne_of_mem_behind := List.forall_mem_nil _

/-- Behind an integer of too many digits it is not found. -/
theorem candidatesOf_loneArray_behindLongNumber :
    candidatesOf loneArray.behindLongNumber.text = .error .digits :=
  loneArray.candidatesOf_behindLongNumber

end PlainScan
