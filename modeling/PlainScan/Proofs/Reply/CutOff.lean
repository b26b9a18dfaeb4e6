import PlainScan.Proofs.Json.Limits
import PlainScan.Proofs.Reply.Array

namespace PlainScan

/-!
# Replies that are cut off

A reply may end in the middle of the array that was asked for: in a string, behind a backslash,
inside of an object or between two of them.

* `ObjectText` — the text of an object, from its opening brace to its closing one.
* `placed` — the objects of an array, each with the place where its text ends.
* `readings_of_cut` — no array that is cut off can be read.
* `candidatesOf_cut_iff` — the candidates are the objects that are there in full, unless a limit is
  met.
-/

/-! ### Objects and their places -/

/-- The text of an object without spaces around it. -/
structure ObjectText where
  text : List Char
  fields : Fields
  load_eq : Json.load text = .ok (.obj fields)
  head_eq : text.head? = some '\x7b'
  last_eq : text.getLast? = some '\x7d'

namespace ObjectText

/-- The object of a text. -/
def value (o : ObjectText) : Json := .obj o.fields

theorem read_eq (o : ObjectText) : Json.read? o.text = some o.value := Json.read?_of_load o.load_eq

theorem withinLimits (o : ObjectText) : Json.WithinLimits o.text :=
  (Json.load_eq_ok_iff.mp o.load_eq).1

/-- The text stands for the object. -/
theorem spells (o : ObjectText) : Json.Spells (.value o.value) o.text := by
  -- its ends are braces, hence there are no spaces
  refine Json.spells_of_read? o.read_eq ?_ ?_
  · intro c hc
    rw [o.head_eq, Option.some.injEq] at hc
    rw [← hc]
    rfl
  · intro c hc
    rw [o.last_eq, Option.some.injEq] at hc
    rw [← hc]
    rfl

theorem balanced (o : ObjectText) : BraceScan.Balanced o.text :=
  BraceScan.balanced_of_spells o.spells

end ObjectText

/-- The objects of an array from a place on, each with the place where its text ends. -/
def placed (start : Nat) : List ObjectText → List (Nat × ObjectText)
  | [] => []
  | o :: rest =>
    (start + o.text.length, o) :: placed (start + o.text.length + itemGap.length) rest

/-- No object ends before the place where the first one starts. -/
theorem le_of_mem_placed {start : Nat} {objects : List ObjectText} {p : Nat × ObjectText}
    (h : p ∈ placed start objects) : start ≤ p.1 := by
  induction objects generalizing start with
  | nil => cases h
  | cons o rest ih =>
    rcases List.mem_cons.mp h with rfl | h
    · exact Nat.le_add_right _ _
    · have hrest := ih h
      omega

/-- The objects that end at a place or before it. -/
def endedBy (place : Nat) (objects : List (Nat × ObjectText)) : List ObjectText :=
  (objects.filter fun p => p.1 ≤ place).map (·.2)

/-- No object has ended where the first one has not yet started. -/
theorem endedBy_of_lt {start place : Nat} (h : place < start) (objects : List ObjectText) :
    endedBy place (placed start objects) = [] := by
  rw [endedBy, List.map_eq_nil_iff, List.filter_eq_nil_iff]
  intro p hp
  have hle := le_of_mem_placed hp
  rw [decide_eq_true_eq]
  omega

/-- No object has ended before the first one has. -/
theorem endedBy_cons_of_lt {start place : Nat} {o : ObjectText}
    (h : place < start + o.text.length) (rest : List ObjectText) :
    endedBy place (placed start (o :: rest)) = [] := by
  have hrest := endedBy_of_lt (Nat.lt_add_right itemGap.length h) rest
  rw [endedBy, placed, List.filter_cons_of_neg (by simpa using h)]
  exact hrest

/-- Where the first object has ended, it comes before the others that have. -/
theorem endedBy_cons_of_le {start place : Nat} {o : ObjectText}
    (h : start + o.text.length ≤ place) (rest : List ObjectText) :
    endedBy place (placed start (o :: rest))
      = o :: endedBy place (placed (start + o.text.length + itemGap.length) rest) := by
  rw [endedBy, placed, List.filter_cons_of_pos (by simpa using h), List.map_cons]
  rfl

/-! ### No array -/

/-- Objects one after another are the items of an array. -/
theorem spells_items (o : ObjectText) (rest : List ObjectText) :
    Json.Spells (.items ((o :: rest).map ObjectText.value))
      (itemGap.intercalate ((o :: rest).map ObjectText.text)) := by
  induction rest generalizing o with
  | nil =>
    have hlast := Json.Spells.lastItem o.spells Json.spaces_nil
    rw [List.append_nil] at hlast
    rwa [List.map_singleton, List.map_singleton, List.intercalate_singleton]
  | cons other more ih =>
    have hitem := Json.Spells.item o.spells Json.spaces_nil Json.spaces_singleton (ih other)
    simpa [itemGap] using hitem

/-- Objects make up an array. -/
theorem spells_arrayText (objects : List ObjectText) :
    Json.Spells (.value (.arr (objects.map ObjectText.value)))
      (arrayText (objects.map ObjectText.text)) := by
  cases objects with
  | nil => exact .emptyArray Json.spaces_nil
  | cons o rest => exact .array Json.spaces_nil (spells_items o rest)

/-- No start of an array can be read, nor what is in it between brackets. -/
theorem readings_of_cut {objects : List ObjectText} {text : List Char}
    (hstart : text <+: arrayText (objects.map ObjectText.text))
    (hcut : text ≠ arrayText (objects.map ObjectText.text)) :
    Json.read? text = none ∧ Json.read? (outermost text) = none := by
  have hread : ∀ part, part <+: text → Json.read? part = none := by
    intro part hpart
    refine Json.read?_of_prefix (spells_arrayText objects) (hpart.trans hstart) ?_
    rintro rfl
    exact hcut (hstart.eq_of_length_le hpart.length_le)
  refine ⟨hread text List.prefix_rfl, ?_⟩
  cases text with
  | nil => exact hread _ List.prefix_rfl
  | cons c rest =>
    -- the first bracket is at the front, so that all that is left out is behind the last one
    obtain ⟨rfl, -⟩ := List.cons_prefix_cons.mp hstart
    rw [outermost, fromFirstBracket, List.dropWhile_cons_of_neg (by simp)]
    exact hread _ (upToLastBracket_isPrefix _)

/-! ### The search for braces -/

/-- Nothing comes out of a gap that ends before an object starts. -/
theorem run_of_itemGap {text : List Char} (h : text <+: itemGap) : BraceScan.run {} text = [] :=
  (BraceScan.after_outside fun c hc => ne_brace_of_itemGap c (h.subset hc)).2

/-- Nothing comes out of the first object if it is not there in full. -/
theorem run_of_cut_first (o : ObjectText) (rest : List ObjectText) (start : Nat)
    {text : List Char} (h : text <+: o.text) (hne : text ≠ o.text) :
    BraceScan.run {} text
      = (endedBy (start + text.length) (placed start (o :: rest))).map ObjectText.text := by
  have hlt : text.length < o.text.length :=
    Nat.lt_of_not_le fun hle => hne (h.eq_of_length_le hle)
  rw [o.balanced.run_of_prefix h hne, endedBy_cons_of_lt (Nat.add_lt_add_left hlt start),
    List.map_nil]

/-- Of objects one after another, those come out that are there in full. -/
theorem run_of_prefix_items (o : ObjectText) (rest : List ObjectText) (start : Nat)
    {text : List Char} (h : text <+: itemGap.intercalate ((o :: rest).map ObjectText.text)) :
    BraceScan.run {} text
      = (endedBy (start + text.length) (placed start (o :: rest))).map ObjectText.text := by
  -- Along the objects: the text ends in the first one, in the gap behind it, or later.
  induction rest generalizing o start text with
  | nil =>
    rw [List.map_singleton, List.intercalate_singleton] at h
    by_cases hne : text = o.text
    · rw [hne, o.balanced.run_eq.2, endedBy_cons_of_le (Nat.le_refl _)]
      rfl
    · exact run_of_cut_first o [] start h hne
  | cons other more ih =>
    rw [List.map_cons, List.map_cons, List.intercalate_cons_cons, List.append_assoc,
      ← List.map_cons] at h
    rcases prefix_append_cases h with ⟨hfirst, hne⟩ | ⟨behind, rfl, hbehind⟩
    · exact run_of_cut_first o (other :: more) start hfirst hne
    -- the first object is there in full
    · obtain ⟨hafter, hrun⟩ := o.balanced.run_eq
      have hended : start + o.text.length ≤ start + (o.text ++ behind).length := by
        rw [List.length_append]
        omega
      rw [BraceScan.run_append, hafter, hrun, endedBy_cons_of_le hended, List.map_cons,
        List.singleton_append, List.length_append]
      refine congrArg (o.text :: ·) ?_
      rcases prefix_append_cases hbehind with ⟨hgap, hne⟩ | ⟨later, rfl, hlater⟩
      -- the text ends in the gap, where no object does
      · have hlt : behind.length < itemGap.length :=
          Nat.lt_of_not_le fun hle => hne (hgap.eq_of_length_le hle)
        rw [run_of_itemGap hgap, endedBy_of_lt (by omega), List.map_nil]
      · obtain ⟨hgapAfter, hgapRun⟩ := BraceScan.after_outside ne_brace_of_itemGap
        have hplace : start + (o.text.length + (itemGap ++ later).length)
            = start + o.text.length + itemGap.length + later.length := by
          rw [List.length_append]
          omega
        rw [BraceScan.run_append, hgapAfter, hgapRun, hplace, List.nil_append]
        exact ih other _ hlater

/-- Of an array that is cut off, the objects come out that are there in full. -/
theorem chunks_of_cut {objects : List ObjectText} {text : List Char}
    (hstart : text <+: arrayText (objects.map ObjectText.text))
    (hcut : text ≠ arrayText (objects.map ObjectText.text)) :
    braceChunks text = (endedBy text.length (placed 1 objects)).map ObjectText.text := by
  rw [arrayText, ← List.cons_append] at hstart hcut
  have hopen := (List.prefix_concat_iff.mp hstart).resolve_left hcut
  rcases List.prefix_cons_iff.mp hopen with rfl | ⟨behind, rfl, hbehind⟩
  · rw [List.length_nil, endedBy_of_lt Nat.one_pos]
    rfl
  · -- the opening bracket is skipped
    have hskip : braceChunks ('[' :: behind) = BraceScan.run {} behind := rfl
    rw [hskip, List.length_cons, Nat.add_comm]
    cases objects with
    | nil =>
      rw [List.prefix_nil.mp hbehind]
      rfl
    | cons o rest => exact run_of_prefix_items o rest 1 hbehind

/-- Each text of an object is read as that object. -/
theorem filterMap_read?_objects (objects : List ObjectText) :
    (objects.map ObjectText.text).filterMap Json.read? = objects.map ObjectText.value := by
  rw [List.filterMap_map, ← List.filterMap_eq_map]
  exact congrArg (List.filterMap · objects) (funext ObjectText.read_eq)

/-- **Cut off.** The candidates of an array of objects that is cut off somewhere are the objects
    that end before that place, in their order, exactly if no limit is met in the reply and between
    its outermost brackets.  There are no others. -/
theorem candidatesOf_cut_iff {objects : List ObjectText} {text : List Char} {found : List Json}
    (hstart : text <+: arrayText (objects.map ObjectText.text))
    (hcut : text ≠ arrayText (objects.map ObjectText.text)) :
    candidatesOf text = .ok found
      ↔ (Json.WithinLimits text ∧ Json.WithinLimits (outermost text))
        ∧ found = (endedBy text.length (placed 1 objects)).map ObjectText.value := by
  obtain ⟨hwhole, hslice⟩ := readings_of_cut hstart hcut
  have hchunks := chunks_of_cut hstart hcut
  rw [candidatesOf_eq_chunks_iff hwhole hslice, hchunks, filterMap_read?_objects]
  constructor
  · rintro ⟨hreads, heq⟩
    exact ⟨⟨hreads.whole, hreads.slice⟩, heq⟩
  · rintro ⟨⟨hone, htwo⟩, heq⟩
    refine ⟨⟨hone, htwo, ?_⟩, heq⟩
    -- each chunk is the text of an object, hence accepted
    intro chunk hchunk
    rw [hchunks] at hchunk
    obtain ⟨o, -, rfl⟩ := List.mem_map.mp hchunk
    exact o.withinLimits

/-! ### A reply that ends inside of a string -/

/-- The object of a text. -/
def ObjectText.ofText (text : List Char)
    (h : ((Json.accepted? text).bind Json.obj?).isSome = true)
    (hhead : text.head? = some '\x7b') (hlast : text.getLast? = some '\x7d') :
    ObjectText where
  text := text
  fields := ((Json.accepted? text).bind Json.obj?).get h
  load_eq := Json.load_of_isSome h
  head_eq := hhead
  last_eq := hlast

/-- An object with an array of strings. -/
def firstObject : ObjectText :=
  .ofText "\x7b\"id\":\"x\",\"commonApproaches\":[\"a\"]\x7d".toList (by decide +kernel)
    (by decide) (by decide)

/-- An object with an escaped quote, a bracket and a brace in a string. -/
def secondObject : ObjectText :=
  .ofText "\x7b\"id\":\"y\",\"context\":\"\\\"]\x7d\"\x7d".toList (by decide +kernel)
    (by decide) (by decide)

/-- An array of these two that ends behind the brace in the string of the second one. -/
def cutReply : List Char :=
  (arrayText [firstObject.text, secondObject.text]).take 63

/-- The only candidate of that reply is the first object. -/
theorem candidatesOf_cutReply :
    cutReply <+: arrayText ([firstObject, secondObject].map ObjectText.text) ∧
      cutReply ≠ arrayText ([firstObject, secondObject].map ObjectText.text) ∧
      candidatesOf cutReply = .ok [firstObject.value] := by
  have hstart : cutReply <+: arrayText ([firstObject, secondObject].map ObjectText.text) :=
    List.take_prefix 63 _
  have hcut : cutReply ≠ arrayText ([firstObject, secondObject].map ObjectText.text) := by
    decide +kernel
  have hwithin : Json.WithinLimits cutReply ∧ Json.WithinLimits (outermost cutReply) := by
    constructor <;> exact Json.withinLimits_of_length (by decide +kernel)
  exact ⟨hstart, hcut, (candidatesOf_cut_iff hstart hcut).mpr ⟨hwithin, rfl⟩⟩

/-! ### A reply that ends inside of a number -/

section Digits

variable {digits : List Char} (h : Json.TooManyDigits digits)

include h

/-- The limit is met in an array whose first item is such an object. -/
theorem attempt_cutInNumber :
    Json.attempt ('[' :: (Json.memberStart ++ digits)) = .error .digits := by
  obtain ⟨fuel, hfuel⟩ : ∃ fuel, Json.readFuel ('[' :: (Json.memberStart ++ digits)) = fuel + 5 :=
    ⟨2 * digits.length + 9, by simp [Json.readFuel, Json.memberStart]; omega⟩
  obtain ⟨depth, hdepth⟩ : ∃ depth, Json.nestingLimit = depth + 2 := ⟨_, rfl⟩
  have hobject := h.loadValue_memberStart (notStarting_nil _) fuel depth
  rw [List.append_nil] at hobject
  have hitems := Json.loadItems_of_error hobject
  have harray : Json.loadValue (fuel + 5) (depth + 2) ('[' :: (Json.memberStart ++ digits))
      = .error (.beyond .digits) := by
    show (Json.loadItems (fuel + 4) (depth + 1) (Json.memberStart ++ digits)).map _ = _
    rw [hitems]
    rfl
  have hskip : Json.skipSpaces ('[' :: (Json.memberStart ++ digits))
      = '[' :: (Json.memberStart ++ digits) :=
    rfl
  rw [Json.attempt, Json.load, hskip, hfuel, hdepth, harray]

/-- With a point in the number the object is accepted. -/
theorem load_decimal :
    Json.load (Json.memberStart ++ (digits ++ ".5\x7d".toList))
      = .ok (.obj [("a", Json.pointNumber digits '5')]) := by
  obtain ⟨fuel, hfuel⟩ : ∃ fuel,
      Json.readFuel (Json.memberStart ++ (digits ++ ".5\x7d".toList)) = fuel + 3 :=
    ⟨2 * digits.length + 15, by simp [Json.readFuel, Json.memberStart]; omega⟩
  obtain ⟨depth, hdepth⟩ : ∃ depth, Json.nestingLimit = depth + 1 := ⟨_, rfl⟩
  -- from the inside out: the number, the one member, the object
  have hvalue : Json.loadValue (fuel + 1) depth (Json.skipSpaces (digits ++ ".5\x7d".toList))
      = .ok (Json.pointNumber digits '5', ['\x7d']) := by
    rw [h.skipSpaces_eq]
    exact h.loadValue_point rfl (notStarting_cons.mpr rfl) fuel depth
  have hmembers : Json.loadMembers (fuel + 2) depth
      ("\"a\":".toList ++ (digits ++ ".5\x7d".toList))
      = .ok ([("a", Json.pointNumber digits '5')], []) :=
    Json.loadMembers_last rfl rfl hvalue rfl
  have hobject : Json.loadValue (fuel + 3) (depth + 1)
      (Json.memberStart ++ (digits ++ ".5\x7d".toList))
      = .ok (.obj [("a", Json.pointNumber digits '5')], []) := by
    show (Json.loadMembers (fuel + 2) depth
      ("\"a\":".toList ++ (digits ++ ".5\x7d".toList))).map _ = _
    rw [hmembers]
    rfl
  have hskip : ∀ rest, Json.skipSpaces (Json.memberStart ++ rest) = Json.memberStart ++ rest :=
    fun _ => rfl
  rw [Json.load, hskip, hfuel, hdepth, hobject]
  rfl

end Digits

/-- Digits that are too many for an integer, but may stand before a point. -/
def longDigits : List Char := List.replicate (Json.digitLimit + 1) '1'

/-- An object with a number of many digits and a point in it. -/
def decimalObject : ObjectText where
  text := Json.memberStart ++ (longDigits ++ ".5\x7d".toList)
  fields := [("a", Json.pointNumber longDigits '5')]
  load_eq := load_decimal Json.tooManyDigits_ones
  head_eq := rfl
  last_eq := by simp [List.getLast?_append]

/-- An array of that object which ends before the point. -/
def cutInNumber : List Char := '[' :: (Json.memberStart ++ longDigits)

/-- The reader meets a limit in that reply, although there is a point in the array that it comes
    from. -/
theorem candidatesOf_cutInNumber :
    cutInNumber <+: arrayText ([decimalObject].map ObjectText.text) ∧
      cutInNumber ≠ arrayText ([decimalObject].map ObjectText.text) ∧
      candidatesOf cutInNumber = .error .digits := by
  have harray : arrayText ([decimalObject].map ObjectText.text)
      = cutInNumber ++ ".5\x7d]".toList := by
    simp [arrayText, decimalObject, cutInNumber]
  refine ⟨?_, ?_, ?_⟩
  · rw [harray]
    exact List.prefix_append _ _
  · rw [harray]
    simp
  · have hattempt : Json.attempt cutInNumber = .error .digits :=
      attempt_cutInNumber Json.tooManyDigits_ones
    rw [candidatesOf, wholeCandidates, hattempt]
    rfl

end PlainScan
