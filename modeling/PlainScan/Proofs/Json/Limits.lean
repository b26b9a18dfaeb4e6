import PlainScan.Proofs.Json.Grammar

namespace PlainScan.Json

/-!
# Where the reader meets its limits

* `TooManyDigits` — digits that are read as an integer beyond the limit, wherever a value is read.
* `loadItems_of_error`, `loadMembers_of_error` — a fault in an item or a member is one of the whole.
* `Roomy` — few enough brackets and no long rows of digits.
* `withinLimits_of_roomy` — no limit is met in such a text, be it well-formed or not.
-/

/-! ### Too many digits -/

/-- Digits that are an integer of too many of them, unless a point or an exponent follows. -/
structure TooManyDigits (digits : List Char) : Prop where
  isDigit : ∀ c ∈ digits, c.isDigit = true
  head_ne : digits.head? ≠ some '0'
  length_lt : digitLimit < digits.length

/-- One digit more than an integer may have. -/
theorem tooManyDigits_ones : TooManyDigits (List.replicate (digitLimit + 1) '1') where
  isDigit := by
    intro c hc
    rw [List.eq_of_mem_replicate hc]
    rfl
  head_ne := by
    rw [List.replicate_succ, List.head?_cons]
    decide
  length_lt := by
    rw [List.length_replicate]
    exact Nat.lt_succ_self _

/-- The number of digits with a point and one more digit behind them. -/
def pointNumber (digits : List Char) (d : Char) : Json :=
  .num (Binary64.ofDecimal false (decimalNumber (digits ++ [d])) (0 - 1))

namespace TooManyDigits

variable {digits rest : List Char}

/-- There is a first digit. -/
theorem exists_cons (h : TooManyDigits digits) :
    ∃ d more, digits = d :: more ∧ d.isDigit = true ∧ d ≠ '0' := by
  obtain ⟨d, more, rfl⟩ :=
    List.exists_cons_of_length_pos (Nat.lt_of_le_of_lt (Nat.zero_le _) h.length_lt)
  refine ⟨d, more, rfl, h.isDigit d List.mem_cons_self, ?_⟩
  rintro rfl
  exact h.head_ne rfl

/-- All of them are taken as the whole part of a number. -/
theorem takeWhole_eq (h : TooManyDigits digits) (hrest : NotStarting Char.isDigit rest) :
    takeWhole (digits ++ rest) = some (digits, rest) := by
  have htake := takeDigits_append h.isDigit hrest
  obtain ⟨d, more, rfl, -, hd⟩ := h.exists_cons
  unfold takeWhole
  split
  · rename_i heq
    exact absurd (List.cons.inj heq).1 hd
  · simp only [htake]
    rfl

/-- They are read as a number, whatever follows. -/
theorem loadValue_eq_loadNumber (h : TooManyDigits digits) (rest : List Char) (fuel depth : Nat) :
    loadValue (fuel + 1) depth (digits ++ rest) = loadNumber false (digits ++ rest) := by
  obtain ⟨d, more, rfl, hd, -⟩ := h.exists_cons
  -- a digit opens none of the other kinds of values
  have hne : ∀ c : Char, c.isDigit = false → d ≠ c := by
    rintro c hc rfl
    rw [hd] at hc
    cases hc
  rw [List.cons_append]
  have hscalar : loadScalar (d :: (more ++ rest)) = loadNumber false (d :: (more ++ rest)) := by
    simp only [loadScalar, readWord_digit hd]
    split
    · rename_i heq
      exact absurd (List.cons.inj heq).1 (hne '-' rfl)
    · rfl
  unfold loadValue
  split
  · rename_i heq
    exact absurd (List.cons.inj heq).1 (hne '"' rfl)
  · rename_i heq
    exact absurd (List.cons.inj heq).1 (hne '[' rfl)
  · rename_i heq
    exact absurd (List.cons.inj heq).1 (hne '\x7b' rfl)
  · exact hscalar

/-- Where a value is read they are beyond the limit. -/
theorem loadValue_eq (h : TooManyDigits digits) (hrest : NotStarting isScalarChar rest)
    (fuel depth : Nat) :
    loadValue (fuel + 1) depth (digits ++ rest) = .error (.beyond .digits) := by
  have hwhole := h.takeWhole_eq (hrest.imp fun c hc => isScalarChar_of_isDigit hc)
  have hfraction : takeFraction rest = none :=
    takeFraction_of_notStarting (hrest.imp isScalarChar_of_isFractionChar)
  have hlong : isTooLong (digits ++ rest) = true := by
    simp only [isTooLong, hwhole, hfraction, takeExponent_of_notStarting hrest,
      decide_eq_true h.length_lt, Option.isNone_none, Bool.and_self]
  rw [h.loadValue_eq_loadNumber, loadNumber, hlong, if_pos rfl]

/-- With a point and a digit behind them they are a number within the limit. -/
theorem loadValue_point {d : Char} (h : TooManyDigits digits) (hd : d.isDigit = true)
    (hrest : NotStarting isScalarChar rest) (fuel depth : Nat) :
    loadValue (fuel + 1) depth (digits ++ '.' :: d :: rest)
      = .ok (pointNumber digits d, rest) := by
  -- the point ends the whole part
  have hpoint : NotStarting Char.isDigit ('.' :: d :: rest) := notStarting_cons.mpr rfl
  have hwhole := h.takeWhole_eq hpoint
  have hdigits : takeDigits (d :: rest) = ([d], rest) :=
    takeDigits_append (List.forall_mem_singleton.mpr hd)
      (hrest.imp fun c hc => isScalarChar_of_isDigit hc)
  have hfraction : takeFraction ('.' :: d :: rest) = some ([d], rest) := by
    simp only [takeFraction, hdigits]
    rfl
  have hshort : isTooLong (digits ++ '.' :: d :: rest) = false := by
    simp only [isTooLong, hwhole, hfraction, Option.isNone_some, Bool.and_false, Bool.false_and]
  rw [h.loadValue_eq_loadNumber, loadNumber, hshort, if_neg Bool.false_ne_true, takeNumber, hwhole]
  simp only [hfraction, Option.map_some, Option.getD_some, takeExponent_of_notStarting hrest,
    Option.map_none, Option.getD_none, Option.isNone_some, Bool.false_and, Bool.false_eq_true,
    if_false, orMalformed, List.length_singleton]
  rfl

/-- No spaces come before them. -/
theorem skipSpaces_eq (h : TooManyDigits digits) (rest : List Char) :
    skipSpaces (digits ++ rest) = digits ++ rest := by
  obtain ⟨d, more, rfl, hd, -⟩ := h.exists_cons
  refine (takeWhile_of_notStarting (notStarting_cons.mpr ?_)).2
  cases hspace : isSpace d with
  | false => rfl
  | true =>
    simp only [isSpace, Bool.or_eq_true, beq_iff_eq] at hspace
    rcases hspace with ((rfl | rfl) | rfl) | rfl <;> cases hd

/-- A text that starts with them is beyond the limit. -/
theorem attempt_eq (h : TooManyDigits digits) (hrest : NotStarting isScalarChar rest) :
    attempt (digits ++ rest) = .error .digits := by
  rw [attempt, load, h.skipSpaces_eq, readFuel, h.loadValue_eq hrest]

end TooManyDigits

/-! ### Faults inside of arrays and objects -/

/-- A fault in an item is one of the items from there on. -/
theorem loadItems_of_error {fuel depth : Nat} {text : List Char} {fault : ReadFault}
    (h : loadValue fuel depth text = .error fault) :
    loadItems (fuel + 1) depth text = .error fault := by
  simp only [loadItems, h]

/-- A fault in the value of a member is one of the members from there on. -/
theorem loadMembers_of_error {fuel depth : Nat} {text mid more : List Char} {key : String}
    {fault : ReadFault} (hkey : readString text = some (key, mid))
    (hcolon : skipSpaces mid = ':' :: more)
    (h : loadValue fuel depth (skipSpaces more) = .error fault) :
    loadMembers (fuel + 1) depth ('"' :: text) = .error fault := by
  simp only [loadMembers, hkey, hcolon, h]

/-- The last member is read through the brace. -/
theorem loadMembers_last {fuel depth : Nat} {text mid more after rest : List Char} {key : String}
    {v : Json} (hkey : readString text = some (key, mid)) (hcolon : skipSpaces mid = ':' :: more)
    (hv : loadValue fuel depth (skipSpaces more) = .ok (v, after))
    (h : skipSpaces after = '\x7d' :: rest) :
    loadMembers (fuel + 1) depth ('"' :: text) = .ok ([(key, v)], rest) := by
  simp only [loadMembers, hkey, hcolon, hv, h]

/-- The start of an object, up to the value of its first member. -/
def memberStart : List Char := "\x7b\"a\":".toList

/-- Too many digits in the first member of an object are beyond the limit. -/
theorem TooManyDigits.loadMembers_eq {digits rest : List Char} (h : TooManyDigits digits)
    (hrest : NotStarting isScalarChar rest) (fuel depth : Nat) :
    loadMembers (fuel + 2) depth ("\"a\":".toList ++ (digits ++ rest))
      = .error (.beyond .digits) := by
  refine loadMembers_of_error rfl rfl ?_
  show loadValue (fuel + 1) depth (skipSpaces (digits ++ rest)) = _
  rw [h.skipSpaces_eq, h.loadValue_eq hrest]

/-- So is an object with them, whatever it goes on with. -/
theorem TooManyDigits.loadValue_memberStart {digits rest : List Char} (h : TooManyDigits digits)
    (hrest : NotStarting isScalarChar rest) (fuel depth : Nat) :
    loadValue (fuel + 3) (depth + 1) (memberStart ++ (digits ++ rest))
      = .error (.beyond .digits) := by
  show (loadMembers (fuel + 2) depth ("\"a\":".toList ++ (digits ++ rest))).map _ = _
  rw [h.loadMembers_eq hrest]
  rfl

/-- A text that starts with such an object is beyond the limit. -/
theorem TooManyDigits.attempt_memberStart {digits rest : List Char} (h : TooManyDigits digits)
    (hrest : NotStarting isScalarChar rest) :
    attempt (memberStart ++ (digits ++ rest)) = .error .digits := by
  obtain ⟨fuel, hfuel⟩ : ∃ fuel, readFuel (memberStart ++ (digits ++ rest)) = fuel + 3 :=
    ⟨2 * (digits ++ rest).length + 9, by simp [readFuel, memberStart]; omega⟩
  obtain ⟨depth, hdepth⟩ : ∃ depth, nestingLimit = depth + 1 := ⟨_, rfl⟩
  have hskip : ∀ text, skipSpaces (memberStart ++ text) = memberStart ++ text := fun _ => rfl
  rw [attempt, load, hskip, hfuel, hdepth, h.loadValue_memberStart hrest]

/-! ### Texts with room -/

/-- The characters that open an array or an object. -/
def isOpening (c : Char) : Bool := c == '[' || c == '\x7b'

/-- A text has at most so many opening brackets and braces, and no row of digits in it is too long.
    -/
structure Roomy (depth : Nat) (text : List Char) : Prop where
  openings : text.countP isOpening ≤ depth
  digits : ∀ part, part <:+: text → (∀ c ∈ part, c.isDigit = true) → part.length ≤ digitLimit

namespace Roomy

variable {depth : Nat} {text rest : List Char}

/-- The end of a text has room if the text has it. -/
theorem of_suffix (h : Roomy depth text) (hrest : rest <:+ text) : Roomy depth rest where
  openings := Nat.le_trans (hrest.sublist.countP_le) h.openings
  digits := fun part hpart => h.digits part (hpart.trans hrest.isInfix)

/-- Behind an opening bracket room for one less is needed. -/
theorem of_opening {c : Char} (hc : isOpening c = true) (h : Roomy depth (c :: rest)) :
    ∃ less, depth = less + 1 ∧ Roomy less rest := by
  have hopenings := h.openings
  rw [List.countP_cons_of_pos hc] at hopenings
  obtain ⟨less, rfl⟩ := Nat.exists_eq_add_one.mpr (Nat.lt_of_lt_of_le (Nat.succ_pos _) hopenings)
  exact ⟨less, rfl, Nat.le_of_succ_le_succ hopenings,
    fun part hpart => h.digits part (hpart.trans (List.suffix_cons _ _).isInfix)⟩

/-- A number in such a text is not too long. -/
theorem isTooLong_eq (h : Roomy depth text) : isTooLong text = false := by
  unfold isTooLong
  split
  · rename_i whole rest hwhole
    obtain ⟨rfl, -, hdigits, -⟩ := takeWhole_spec hwhole
    have hlength := h.digits whole (List.prefix_append _ _).isInfix hdigits
    rw [decide_eq_false (Nat.not_lt.mpr hlength), Bool.false_and, Bool.false_and]
  · rfl

end Roomy

/-- No limit was met. -/
def IsUnlimited (found : Except ReadFault α) : Prop := ∀ limit, found ≠ .error (.beyond limit)

theorem isUnlimited_ok (found : α) : IsUnlimited (.ok found) := by
  intro limit h
  cases h

theorem isUnlimited_malformed : IsUnlimited (.error .malformed : Except ReadFault α) := by
  intro limit h
  cases h

theorem isUnlimited_orMalformed (found : Option α) : IsUnlimited (orMalformed found) := by
  cases found with
  | none => exact isUnlimited_malformed
  | some value => exact isUnlimited_ok value

theorem IsUnlimited.map {found : Except ReadFault α} (h : IsUnlimited found) (f : α → β) :
    IsUnlimited (found.map f) := by
  cases found with
  | ok value => exact isUnlimited_ok (f value)
  | error fault =>
    intro limit hfault
    cases hfault
    exact h limit rfl

/-- What follows a value is the end of its text. -/
theorem suffix_of_loadValue {fuel depth : Nat} {text rest : List Char} {v : Json}
    (h : loadValue fuel depth text = .ok (v, rest)) : rest <:+ text := by
  have hagrees := (agrees_of_fuel fuel).1 depth text
  rw [h] at hagrees
  obtain ⟨a, rfl, -⟩ := exists_spells_of_reads fuel (.value v) text rest hagrees
  exact List.suffix_append _ _

theorem isUnlimited_loadScalar {depth : Nat} {text : List Char} (h : Roomy depth text) :
    IsUnlimited (loadScalar text) := by
  unfold loadScalar
  split
  · exact isUnlimited_ok _
  · split
    · rename_i rest
      rw [loadNumber, (h.of_suffix (List.suffix_cons _ _)).isTooLong_eq]
      exact isUnlimited_orMalformed _
    · rw [loadNumber, h.isTooLong_eq]
      exact isUnlimited_orMalformed _

theorem IsUnlimited.error {fault : ReadFault}
    (h : IsUnlimited (.error fault : Except ReadFault α)) :
    IsUnlimited (.error fault : Except ReadFault β) := by
  intro limit hfault
  cases hfault
  exact h limit rfl

/-- What is left of a text when its spaces are skipped is its end. -/
theorem skipSpaces_suffix (text : List Char) : skipSpaces text <:+ text := List.dropWhile_suffix _

/-- With one step more, no limit is met in values if none is met in items and members. -/
theorem isUnlimited_loadValue {fuel : Nat}
    (hitems : ∀ {depth text}, Roomy depth text → IsUnlimited (loadItems fuel depth text))
    (hmembers : ∀ {depth text}, Roomy depth text → IsUnlimited (loadMembers fuel depth text))
    {depth : Nat} {text : List Char} (h : Roomy depth text) :
    IsUnlimited (loadValue (fuel + 1) depth text) := by
  unfold loadValue
  split
  · exact isUnlimited_orMalformed _
  · obtain ⟨less, rfl, hless⟩ := h.of_opening rfl
    dsimp only
    split
    · exact isUnlimited_ok _
    · exact (hitems (hless.of_suffix (skipSpaces_suffix _))).map _
  · obtain ⟨less, rfl, hless⟩ := h.of_opening rfl
    dsimp only
    split
    · exact isUnlimited_ok _
    · exact (hmembers (hless.of_suffix (skipSpaces_suffix _))).map _
  · exact isUnlimited_loadScalar h

/-- With one step more, no limit is met in items if none is met in values and items. -/
theorem isUnlimited_loadItems {fuel : Nat}
    (hvalue : ∀ {depth text}, Roomy depth text → IsUnlimited (loadValue fuel depth text))
    (hitems : ∀ {depth text}, Roomy depth text → IsUnlimited (loadItems fuel depth text))
    {depth : Nat} {text : List Char} (h : Roomy depth text) :
    IsUnlimited (loadItems (fuel + 1) depth text) := by
  have hfirst := hvalue h
  unfold loadItems
  split
  · rename_i fault hload
    rw [hload] at hfirst
    exact hfirst.error
  · rename_i value rest hload
    have hrest := (h.of_suffix (suffix_of_loadValue hload)).of_suffix (skipSpaces_suffix rest)
    split
    · rename_i more hcomma
      rw [hcomma] at hrest
      exact (hitems (hrest.of_suffix ((skipSpaces_suffix _).trans (List.suffix_cons _ _)))).map _
    · exact isUnlimited_ok _
    · exact isUnlimited_malformed

/-- With one step more, no limit is met in members if none is met in values and members. -/
theorem isUnlimited_loadMembers {fuel : Nat}
    (hvalue : ∀ {depth text}, Roomy depth text → IsUnlimited (loadValue fuel depth text))
    (hmembers : ∀ {depth text}, Roomy depth text → IsUnlimited (loadMembers fuel depth text))
    {depth : Nat} {text : List Char} (h : Roomy depth text) :
    IsUnlimited (loadMembers (fuel + 1) depth text) := by
  unfold loadMembers
  split
  · rename_i inside
    split
    · exact isUnlimited_malformed
    · rename_i key behind hkey
      -- the room is passed on to what is left behind each part
      obtain ⟨quoted, htext, -⟩ := exists_spellsString hkey
      have hbehind : Roomy depth behind := h.of_suffix (htext ▸ List.suffix_append _ _)
      split
      · rename_i rest hcolon
        have hrest := hbehind.of_suffix (skipSpaces_suffix behind)
        rw [hcolon] at hrest
        -- behind the colon a value is read
        have hstart := hrest.of_suffix ((skipSpaces_suffix rest).trans (List.suffix_cons _ _))
        have hfirst := hvalue hstart
        split
        · rename_i fault hload
          rw [hload] at hfirst
          exact hfirst.error
        · rename_i value after hload
          have hafter :=
            (hstart.of_suffix (suffix_of_loadValue hload)).of_suffix (skipSpaces_suffix after)
          split
          · rename_i more hcomma
            rw [hcomma] at hafter
            have hmore :=
              hafter.of_suffix ((skipSpaces_suffix more).trans (List.suffix_cons _ _))
            exact (hmembers hmore).map _
          · exact isUnlimited_ok _
          · exact isUnlimited_malformed
      · exact isUnlimited_malformed
  · exact isUnlimited_malformed

/-- With enough room no limit is met in values, items and members. -/
theorem isUnlimited_of_roomy (fuel : Nat) :
    (∀ {depth text}, Roomy depth text → IsUnlimited (loadValue fuel depth text))
      ∧ (∀ {depth text}, Roomy depth text → IsUnlimited (loadItems fuel depth text))
      ∧ (∀ {depth text}, Roomy depth text → IsUnlimited (loadMembers fuel depth text)) := by
  -- Room is needed for what is left of the text only, and inside of brackets for one less.
  induction fuel with
  | zero =>
    refine ⟨?_, ?_, ?_⟩ <;>
      · intro depth text _
        simp only [loadValue, loadItems, loadMembers]
        exact isUnlimited_malformed
  | succ fuel ih =>
    obtain ⟨hvalue, hitems, hmembers⟩ := ih
    exact ⟨isUnlimited_loadValue hitems hmembers, isUnlimited_loadItems hvalue hitems,
      isUnlimited_loadMembers hvalue hmembers⟩

/-- With enough room no limit is met in a whole text. -/
theorem isUnlimited_load {text : List Char} (h : Roomy nestingLimit text) :
    IsUnlimited (load text) := by
  have hvalue := (isUnlimited_of_roomy (readFuel text)).1 (h.of_suffix (skipSpaces_suffix text))
  unfold load
  split
  · split
    · exact isUnlimited_ok _
    · exact isUnlimited_malformed
  · rename_i fault hload
    rw [hload] at hvalue
    exact hvalue.error

/-- **Room.** A text with few enough brackets and without long rows of digits is within the limits,
    whether it is well-formed or not. -/
theorem withinLimits_of_roomy {text : List Char} (h : Roomy nestingLimit text) :
    WithinLimits text := by
  have hload := isUnlimited_load h
  unfold WithinLimits attempt
  split
  · exact ⟨_, rfl⟩
  · exact ⟨_, rfl⟩
  · rename_i limit hlimit
    exact absurd hlimit (hload limit)

/-- A short text is within the limits. -/
theorem withinLimits_of_length {text : List Char} (h : text.length ≤ min nestingLimit digitLimit) :
    WithinLimits text := by
  refine withinLimits_of_roomy ⟨?_, ?_⟩
  · exact Nat.le_trans List.countP_le_length (Nat.le_trans h (Nat.min_le_left _ _))
  · intro part hpart _
    exact Nat.le_trans hpart.length_le (Nat.le_trans h (Nat.min_le_right _ _))

end PlainScan.Json
