import PlainScan.Proofs.Json.Equality
import PlainScan.Proofs.Json.Limits
import PlainScan.Proofs.Reply.Array

namespace PlainScan

/-!
# Objects in prose

A reply may hold objects one after another with prose around them.

* `isProse` — the characters of prose: no quotes, no braces and no brackets.
* `ObjectPiece` — the text of an object and the prose behind it.
* `objectCandidates_joined` — the search for braces finds all objects.
* `candidatesOf_joined_iff` — when they are the candidates of the reply.
* `candidatesOf_joined_ne` — an array in the only object stands for it.
-/

/-! ### Pieces -/

/-- The characters of prose: all but the quote, the braces and the brackets. -/
def isProse (c : Char) : Bool :=
  c != '"' && c != '\x7b' && c != '\x7d' && c != '[' && c != ']'

/-- The text of an object and the prose behind it. -/
structure ObjectPiece where
  text : List Char
  fields : Fields
  prose : List Char
  load_eq : Json.load text = .ok (.obj fields)
  isProse_of_mem : ∀ c ∈ prose, isProse c = true

/-- The object of a piece. -/
def ObjectPiece.value (p : ObjectPiece) : Json := .obj p.fields

theorem ObjectPiece.read_eq (p : ObjectPiece) : Json.read? p.text = some p.value :=
  Json.read?_of_load p.load_eq

/-- Pieces one after another. -/
def joined (pieces : List ObjectPiece) : List Char := pieces.flatMap fun p => p.text ++ p.prose

theorem joined_cons (p : ObjectPiece) (rest : List ObjectPiece) :
    joined (p :: rest) = (p.text ++ p.prose) ++ joined rest := rfl

/-! ### The search for braces -/

/-- Prose does not open braces. -/
theorem ne_brace_of_prose {prose : List Char} (h : ∀ c ∈ prose, isProse c = true) :
    ∀ c ∈ prose, c ≠ '\x7b' := by
  rintro c hc rfl
  cases h _ hc

/-- In a piece its object is found. -/
theorem ObjectPiece.finds (p : ObjectPiece) : BraceScan.Finds (p.text ++ p.prose) [p.value] :=
  (BraceScan.finds_of_read? p.read_eq).append
    (BraceScan.finds_outside (ne_brace_of_prose p.isProse_of_mem))

/-- In prose with objects these objects are found in their order. -/
theorem finds_joined {before : List Char} {pieces : List ObjectPiece}
    (hprose : ∀ c ∈ before, isProse c = true) :
    BraceScan.Finds (before ++ joined pieces) (pieces.map ObjectPiece.value) := by
  have hbefore := BraceScan.finds_outside (ne_brace_of_prose hprose)
  have hpieces := BraceScan.finds_flatMap fun p (_ : p ∈ pieces) => p.finds
  rw [← List.map_eq_flatMap] at hpieces
  exact hbefore.append hpieces

/-- **All objects are found.** Read chunk by chunk, prose with objects gives these objects in their
    order, if no limit is met in any chunk. -/
theorem objectCandidates_joined {before : List Char} {pieces : List ObjectPiece}
    (hprose : ∀ c ∈ before, isProse c = true) (hne : pieces ≠ []) :
    objectCandidates (before ++ joined pieces) = .ok (some (pieces.map ObjectPiece.value))
      ↔ ∀ chunk ∈ braceChunks (before ++ joined pieces), Json.WithinLimits chunk := by
  rw [(finds_joined hprose).objectCandidates_eq_ok_iff]
  simp [hne]

/-! ### The whole reply -/

/-- A value that starts with a character of prose is a word or a number. -/
theorem spellsScalar_of_prose {c : Char} {rest : List Char} {v : Json}
    (h : Json.Spells (.value v) (c :: rest)) (hc : isProse c = true) :
    Json.SpellsScalar (c :: rest) v := by
  cases h with
  | scalar hscalar => exact hscalar
  | string hs =>
    cases hs
    cases hc
  | emptyArray => cases hc
  | array => cases hc
  | emptyObject => cases hc
  | object => cases hc

/-- A text that starts with prose and holds a brace is no JSON text. -/
theorem read?_of_prose {before rest : List Char} (hprose : ∀ c ∈ before, isProse c = true)
    (hmark : ¬ Json.Spaces before) (hbrace : '\x7b' ∈ rest) :
    Json.read? (before ++ rest) = none := by
  cases hread : Json.read? (before ++ rest) with
  | none => rfl
  | some v =>
    exfalso
    obtain ⟨sp, a, sp', hsp, hsp', hspells, htext⟩ := Json.read?_eq_some_iff.mp hread
    obtain ⟨sp₀, hsp₀, hbefore⟩ := Json.exists_spaces before
    -- the first character that is no space belongs to the prose, hence to the value
    cases hrest : Json.skipSpaces before with
    | nil => exact hmark (Json.spaces_of_skipSpaces (by rw [hrest]; rfl))
    | cons c more =>
      have hc : Json.isSpace c = false := by
        have hstart := notStarting_dropWhile Json.isSpace before
        rw [Json.skipSpaces] at hrest
        rwa [hrest, notStarting_cons] at hstart
      rw [hrest] at hbefore
      have hskip : Json.skipSpaces (before ++ rest) = c :: (more ++ rest) := by
        rw [hbefore, List.append_assoc]
        exact Json.skipSpaces_append hsp₀ (notStarting_cons.mpr hc)
      have heq : a ++ sp' = c :: (more ++ rest) := by
        rw [← hskip, htext, Json.skipSpaces_append hsp (hspells.notStarting sp')]
      obtain ⟨c', tail, rfl, -⟩ := hspells.exists_cons
      rw [List.cons_append, List.cons.injEq] at heq
      obtain ⟨rfl, heq⟩ := heq
      have hmem : c' ∈ before := by
        rw [hbefore]
        exact List.mem_append_right _ List.mem_cons_self
      have hscalar := spellsScalar_of_prose hspells (hprose c' hmem)
      -- neither a word or a number nor spaces have a brace
      have hin : '\x7b' ∈ tail ++ sp' := by
        rw [heq]
        exact List.mem_append_right _ hbrace
      rcases List.mem_append.mp hin with hin | hin
      · cases hscalar.chars _ (List.mem_cons_of_mem _ hin)
      · cases hsp' _ hin

/-- Pieces hold a brace. -/
theorem brace_mem_joined {pieces : List ObjectPiece} (hne : pieces ≠ []) :
    '\x7b' ∈ joined pieces := by
  obtain ⟨p, rest, rfl⟩ := List.exists_cons_of_ne_nil hne
  obtain ⟨sp, a, sp', -, -, hspells, htext, -⟩ := Json.exists_spells_of_read? p.read_eq
  obtain ⟨inside, rfl⟩ := hspells.exists_cons_of_object
  rw [joined_cons, htext]
  simp

/-- **Objects in prose.** Where prose that is more than spaces comes first, and then objects with
    prose behind each, all of them are found between their braces, if no limit is met there.  They
    are the candidates of the reply exactly if no limit is met in the reply as a whole and if what
    stands between its first opening and its last closing bracket gives them as well, or gives way
    to the braces. -/
theorem candidatesOf_joined_iff {before : List Char} {pieces : List ObjectPiece}
    (hprose : ∀ c ∈ before, isProse c = true) (hmark : ¬ Json.Spaces before) (hne : pieces ≠ []) :
    (objectCandidates (before ++ joined pieces) = .ok (some (pieces.map ObjectPiece.value))
        ↔ ∀ chunk ∈ braceChunks (before ++ joined pieces), Json.WithinLimits chunk)
      ∧ (candidatesOf (before ++ joined pieces) = .ok (pieces.map ObjectPiece.value)
        ↔ Json.WithinLimits (before ++ joined pieces)
          ∧ (sliceCandidates (before ++ joined pieces) = .ok (some (pieces.map ObjectPiece.value))
            ∨ sliceCandidates (before ++ joined pieces) = .ok none
              ∧ ∀ chunk ∈ braceChunks (before ++ joined pieces), Json.WithinLimits chunk)) := by
  refine ⟨objectCandidates_joined hprose hne, ?_⟩
  have hread := read?_of_prose hprose hmark (brace_mem_joined hne)
  have hvalues : (braceChunks (before ++ joined pieces)).filterMap Json.read?
      = pieces.map ObjectPiece.value := (finds_joined hprose).filterMap_run
  rw [candidatesOf_eq_ok_iff, BraceScan.chunkValues_eq_ok_iff, hvalues]
  simp only [wholeCandidates_eq_ok_iff, hread, Option.bind_none, reduceCtorEq, and_false, and_true,
    false_or]

/-! ### Two replies -/

/-- The piece for a text that is accepted as an object, without prose behind it. -/
def ObjectPiece.ofText (text : List Char)
    (h : ((Json.accepted? text).bind Json.obj?).isSome = true) : ObjectPiece where
  text := text
  fields := ((Json.accepted? text).bind Json.obj?).get h
  prose := []
  load_eq := Json.load_of_isSome h
  isProse_of_mem := by
    intro c hc
    cases hc

/-- An object with an array. -/
def approachesPiece : ObjectPiece :=
  .ofText "\x7b\"id\":\"x\",\"commonApproaches\":[\"a\",\"b\"]\x7d".toList (by decide +kernel)

/-- Of two objects with arrays both are candidates, for what stands between the outermost brackets
    is no array. -/
theorem candidatesOf_two_objects :
    (∀ c ∈ "Here: ".toList, isProse c = true) ∧ ¬ Json.Spaces "Here: ".toList ∧
      [approachesPiece, approachesPiece] ≠ [] ∧
      candidatesOf ("Here: ".toList ++ joined [approachesPiece, approachesPiece])
        = .ok [approachesPiece.value, approachesPiece.value] := by
  have hprose : ∀ c ∈ "Here: ".toList, isProse c = true :=
    List.all_eq_true.mp (by decide)
  have hmark : ¬ Json.Spaces "Here: ".toList := by
    intro h
    cases h 'H' (by decide)
  have hne : [approachesPiece, approachesPiece] ≠ [] := List.cons_ne_nil _ _
  -- from the first array through the second, with a brace in between
  have hslice : sliceCandidates
      ("Here: ".toList ++ joined [approachesPiece, approachesPiece]) = .ok none := by
    decide +kernel
  have hchunks : ∀ chunk ∈ braceChunks
      ("Here: ".toList ++ joined [approachesPiece, approachesPiece]), Json.WithinLimits chunk := by
    decide +kernel
  have hwhole : Json.WithinLimits ("Here: ".toList ++ joined [approachesPiece, approachesPiece]) :=
    Json.withinLimits_of_length (by decide +kernel)
  exact ⟨hprose, hmark, hne,
    (candidatesOf_joined_iff hprose hmark hne).2.mpr ⟨hwhole, .inr ⟨hslice, hchunks⟩⟩⟩

/-- The array in the only object of a reply stands for that object. -/
theorem candidatesOf_joined_ne :
    (∀ c ∈ "Here: ".toList, isProse c = true) ∧ ¬ Json.Spaces "Here: ".toList ∧
      candidatesOf ("Here: ".toList ++ joined [approachesPiece]) ≠ .ok [approachesPiece.value] := by
  refine ⟨List.all_eq_true.mp (by decide), ?_, by decide +kernel⟩
  intro h
  cases h 'H' (by decide)

end PlainScan
