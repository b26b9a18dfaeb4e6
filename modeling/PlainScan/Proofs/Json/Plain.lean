import PlainScan.Json.Reader

namespace PlainScan

/-!
# Reading without limits

The reader as it would be without its limits.  Which texts it takes depends on their grammar alone,
so that the grammar is compared with this reader; what the limits change is told here.

* `read?` — the value that a text spells.
* `Agrees` — what the reader finds within its limits is what it finds without them.
* `WithinLimits` — the reader meets no limit in a text.
* `attempt_eq_ok_iff`, `load_eq_ok_iff` — within the limits both readers give the same.
* `accepted?` — the value that the reader gives, whatever keeps it from giving one.
-/

/-- What comes of a computation that may fail, and is then changed by a function. -/
theorem map_eq_ok_iff {x : Except ε α} {f : α → β} {b : β} :
    x.map f = .ok b ↔ ∃ a, x = .ok a ∧ f a = b := by
  cases x with
  | error e => simp [Except.map]
  | ok a => simp [Except.map]

namespace Json

/-! ### The reader -/

/-- A word or a number at the front of a text. -/
def readScalar (text : List Char) : Option (Json × List Char) :=
  match readWord text with
  | some found => some found
  | none =>
    match text with
    | '-' :: rest => takeNumber true rest
    | _ => takeNumber false text

mutual

/-- One value at the front of a text, and what follows it. -/
def readValue : Nat → List Char → Option (Json × List Char)
  | 0, _ => none
  | fuel + 1, text =>
    match text with
    | '"' :: rest => (readString rest).map fun (s, after) => (.str s, after)
    | '[' :: rest =>
      match skipSpaces rest with
      | ']' :: after => some (.arr [], after)
      | inside => (readItems fuel inside).map fun (items, after) => (.arr items, after)
    | '\x7b' :: rest =>
      match skipSpaces rest with
      | '\x7d' :: after => some (.obj [], after)
      | inside =>
        (readMembers fuel inside).map fun (pairs, after) => (.obj (Fields.ofPairs pairs), after)
    | text => readScalar text

/-- The items of an array from one that must be there, through the bracket that closes it. -/
def readItems : Nat → List Char → Option (List Json × List Char)
  | 0, _ => none
  | fuel + 1, text =>
    match readValue fuel text with
    | none => none
    | some (value, rest) =>
      match skipSpaces rest with
      | ',' :: more =>
        (readItems fuel (skipSpaces more)).map fun (items, after) => (value :: items, after)
      | ']' :: after => some ([value], after)
      | _ => none

/-- The members of an object from one that must be there, through the brace that closes it. -/
def readMembers : Nat → List Char → Option (List (String × Json) × List Char)
  | 0, _ => none
  | fuel + 1, text =>
    match text with
    | '"' :: rest =>
      match readString rest with
      | none => none
      | some (key, rest) =>
        match skipSpaces rest with
        | ':' :: rest =>
          match readValue fuel (skipSpaces rest) with
          | none => none
          | some (value, rest) =>
            match skipSpaces rest with
            | ',' :: more =>
              (readMembers fuel (skipSpaces more)).map
                fun (pairs, after) => ((key, value) :: pairs, after)
            | '\x7d' :: after => some ([(key, value)], after)
            | _ => none
        | _ => none
    | _ => none

end

/-- The value that a whole text stands for, spaces around it aside. -/
def read? (text : List Char) : Option Json :=
  match readValue (readFuel text) (skipSpaces text) with
  | some (value, rest) => if (skipSpaces rest).isEmpty then some value else none
  | none => none

/-- The value that a string stands for. -/
def readText? (text : String) : Option Json := read? text.toList

/-! ### Agreement -/

/-- What is found within the limits is what is found without them.  Nothing is said of a text in
    which a limit is met. -/
def Agrees : Except ReadFault α → Option α → Prop
  | .ok found, plain => plain = some found
  | .error .malformed, plain => plain = none
  | .error (.beyond _), _ => True

theorem agrees_orMalformed (found : Option α) : Agrees (orMalformed found) found := by
  cases found <;> rfl

/-- Either both readers find the same, or both find the text malformed, or a limit is met. -/
theorem Agrees.cases {found : Except ReadFault α} {plain : Option α} (h : Agrees found plain) :
    (∃ value, found = .ok value ∧ plain = some value)
      ∨ (found = .error .malformed ∧ plain = none) ∨ ∃ limit, found = .error (.beyond limit) := by
  cases found with
  | ok value => exact .inl ⟨value, rfl, h⟩
  | error fault =>
    cases fault with
    | malformed => exact .inr (.inl ⟨rfl, h⟩)
    | beyond limit => exact .inr (.inr ⟨limit, rfl⟩)

theorem Agrees.map {found : Except ReadFault α} {plain : Option α} (h : Agrees found plain)
    (f : α → β) : Agrees (found.map f) (plain.map f) := by
  obtain ⟨value, rfl, rfl⟩ | ⟨rfl, rfl⟩ | ⟨limit, rfl⟩ := h.cases
  · rfl
  · rfl
  · exact trivial

theorem agrees_loadNumber (negative : Bool) (text : List Char) :
    Agrees (loadNumber negative text) (takeNumber negative text) := by
  unfold loadNumber
  split
  · exact trivial
  · exact agrees_orMalformed _

theorem agrees_loadScalar (text : List Char) : Agrees (loadScalar text) (readScalar text) := by
  unfold readScalar
  cases hword : readWord text with
  | some found =>
    simp only [loadScalar, hword]
    rfl
  | none =>
    dsimp only
    split
    · simp only [loadScalar, hword]
      exact agrees_loadNumber true _
    · simp only [loadScalar, hword]
      exact agrees_loadNumber false _

/-- With one step more, values agree if items and members do. -/
theorem agrees_loadValue {fuel : Nat}
    (hitems : ∀ depth text, Agrees (loadItems fuel depth text) (readItems fuel text))
    (hmembers : ∀ depth text, Agrees (loadMembers fuel depth text) (readMembers fuel text))
    (depth : Nat) (text : List Char) :
    Agrees (loadValue (fuel + 1) depth text) (readValue (fuel + 1) text) := by
  unfold readValue
  split
  · simp only [loadValue]
    exact agrees_orMalformed _
  · -- an array: without room for it a limit is met, and there is nothing to show
    rename_i rest
    cases depth with
    | zero => exact trivial
    | succ depth =>
      simp only [loadValue]
      -- what follows the bracket decides in both readers alike
      cases skipSpaces rest with
      | nil => exact (hitems depth _).map _
      | cons c inside =>
        by_cases hclosed : c = ']'
        · subst hclosed
          rfl
        · simp only [List.cons.injEq, hclosed, false_and, imp_self, implies_true]
          exact (hitems depth _).map _
  · rename_i rest
    cases depth with
    | zero => exact trivial
    | succ depth =>
      simp only [loadValue]
      cases skipSpaces rest with
      | nil => exact (hmembers depth _).map _
      | cons c inside =>
        by_cases hclosed : c = '\x7d'
        · subst hclosed
          rfl
        · simp only [List.cons.injEq, hclosed, false_and, imp_self, implies_true]
          exact (hmembers depth _).map _
  · simp only [loadValue]
    exact agrees_loadScalar _

/-- With one step more, items agree if values and items do. -/
theorem agrees_loadItems {fuel : Nat}
    (hvalue : ∀ depth text, Agrees (loadValue fuel depth text) (readValue fuel text))
    (hitems : ∀ depth text, Agrees (loadItems fuel depth text) (readItems fuel text))
    (depth : Nat) (text : List Char) :
    Agrees (loadItems (fuel + 1) depth text) (readItems (fuel + 1) text) := by
  obtain ⟨⟨value, rest⟩, hload, hplain⟩ | ⟨hload, hplain⟩ | ⟨limit, hload⟩ :=
    (hvalue depth text).cases
  · simp only [loadItems, readItems, hload, hplain]
    -- what follows the item decides in both readers alike
    cases skipSpaces rest with
    | nil => rfl
    | cons c more =>
      by_cases hcomma : c = ','
      · subst hcomma
        exact (hitems depth _).map _
      · by_cases hclosed : c = ']'
        · subst hclosed
          rfl
        · simp [hcomma, hclosed, Agrees]
  · simp only [loadItems, readItems, hload, hplain]
    rfl
  · simp only [loadItems, hload]
    exact trivial

/-- With one step more, members agree if values and members do. -/
theorem agrees_loadMembers {fuel : Nat}
    (hvalue : ∀ depth text, Agrees (loadValue fuel depth text) (readValue fuel text))
    (hmembers : ∀ depth text, Agrees (loadMembers fuel depth text) (readMembers fuel text))
    (depth : Nat) (text : List Char) :
    Agrees (loadMembers (fuel + 1) depth text) (readMembers (fuel + 1) text) := by
  unfold readMembers
  split
  · rename_i inside
    -- both readers take the key first and need a colon behind it
    cases hkey : readString inside with
    | none =>
      simp only [loadMembers, hkey]
      rfl
    | some found =>
      obtain ⟨key, behind⟩ := found
      simp only [loadMembers, hkey]
      cases skipSpaces behind with
      | nil => rfl
      | cons c rest =>
        by_cases hcolon : c = ':'
        · subst hcolon
          obtain ⟨⟨value, after⟩, hload, hplain⟩ | ⟨hload, hplain⟩ | ⟨limit, hload⟩ :=
            (hvalue depth (skipSpaces rest)).cases
          · simp only [hload, hplain]
            -- what follows the value decides in both readers alike
            cases skipSpaces after with
            | nil => rfl
            | cons c more =>
              by_cases hcomma : c = ','
              · subst hcomma
                exact (hmembers depth _).map _
              · by_cases hclosed : c = '\x7d'
                · subst hclosed
                  rfl
                · simp [hcomma, hclosed, Agrees]
          · simp only [hload, hplain]
            rfl
          · simp only [hload]
            exact trivial
        · simp [hcolon, Agrees]
  · simp only [loadMembers]
    rfl

/-- The two readers agree on values, items and members. -/
theorem agrees_of_fuel (fuel : Nat) :
    (∀ depth text, Agrees (loadValue fuel depth text) (readValue fuel text))
      ∧ (∀ depth text, Agrees (loadItems fuel depth text) (readItems fuel text))
      ∧ (∀ depth text, Agrees (loadMembers fuel depth text) (readMembers fuel text)) := by
  -- The three call each other with one step less, hence one induction for all of them.
  induction fuel with
  | zero =>
    refine ⟨?_, ?_, ?_⟩ <;>
      · intro depth text
        simp only [loadValue, loadItems, loadMembers, readValue, readItems, readMembers]
        exact rfl
  | succ fuel ih =>
    obtain ⟨hvalue, hitems, hmembers⟩ := ih
    exact ⟨agrees_loadValue hitems hmembers, agrees_loadItems hvalue hitems,
      agrees_loadMembers hvalue hmembers⟩

/-- **Agreement.** The two readers agree on whole texts. -/
theorem agrees_load (text : List Char) : Agrees (load text) (read? text) := by
  unfold load read?
  obtain ⟨found, hload, hplain⟩ | ⟨hload, hplain⟩ | ⟨limit, hload⟩ :=
    ((agrees_of_fuel (readFuel text)).1 nestingLimit (skipSpaces text)).cases
  · rw [hload, hplain]
    dsimp only
    split <;> rfl
  · rw [hload, hplain]
    rfl
  · rw [hload]
    exact trivial

/-! ### Limits -/

/-- The reader meets none of its limits in a text. -/
def WithinLimits (text : List Char) : Prop := ∃ value, attempt text = .ok value

instance (text : List Char) : Decidable (WithinLimits text) :=
  match h : attempt text with
  | .ok value => isTrue ⟨value, h⟩
  | .error limit => isFalse fun ⟨value, hvalue⟩ => by
      rw [h] at hvalue
      cases hvalue

/-- What is accepted is spelled. -/
theorem read?_of_load {text : List Char} {v : Json} (h : load text = .ok v) :
    read? text = some v := by
  have hagrees := agrees_load text
  rwa [h] at hagrees

/-- An attempt that meets no limit finds what the text spells. -/
theorem attempt_eq {text : List Char} {value : Option Json} (h : attempt text = .ok value) :
    value = read? text := by
  have hagrees := agrees_load text
  unfold attempt at h
  split at h
  · rename_i v hload
    cases h
    rw [hload] at hagrees
    exact hagrees.symm
  · rename_i hload
    cases h
    rw [hload] at hagrees
    exact hagrees.symm
  · cases h

theorem WithinLimits.attempt_eq {text : List Char} (h : WithinLimits text) :
    attempt text = .ok (read? text) := by
  obtain ⟨value, hvalue⟩ := h
  rw [hvalue, Json.attempt_eq hvalue]

/-- An attempt gives a value, or none, exactly if it meets no limit and the text spells that. -/
theorem attempt_eq_ok_iff {text : List Char} {value : Option Json} :
    attempt text = .ok value ↔ WithinLimits text ∧ value = read? text := by
  constructor
  · intro h
    exact ⟨⟨value, h⟩, attempt_eq h⟩
  · rintro ⟨hwithin, rfl⟩
    exact hwithin.attempt_eq

/-- A text is accepted exactly if it spells a value within the limits. -/
theorem load_eq_ok_iff {text : List Char} {v : Json} :
    load text = .ok v ↔ WithinLimits text ∧ read? text = some v := by
  constructor
  · intro h
    exact ⟨⟨some v, by rw [attempt, h]⟩, read?_of_load h⟩
  · rintro ⟨hwithin, hread⟩
    have hattempt := hwithin.attempt_eq
    rw [hread] at hattempt
    unfold attempt at hattempt
    split at hattempt
    · rename_i value hload
      cases hattempt
      exact hload
    · cases hattempt
    · cases hattempt

/-- The value that the reader gives, whatever keeps it from giving one. -/
def accepted? (text : List Char) : Option Json := (load text).toOption

theorem accepted?_of_load {text : List Char} {v : Json} (h : load text = .ok v) :
    accepted? text = some v := by
  rw [accepted?, h]
  rfl

/-- Nothing is accepted where a limit is met. -/
theorem accepted?_of_attempt {text : List Char} {limit : ReadLimit}
    (h : attempt text = .error limit) : accepted? text = none := by
  unfold accepted?
  cases hload : load text with
  | error fault => rfl
  | ok v =>
    rw [attempt, hload] at h
    cases h

/-- Within the limits what a text spells is accepted. -/
theorem WithinLimits.accepted?_eq {text : List Char} (h : WithinLimits text) :
    accepted? text = read? text := by
  cases hread : read? text with
  | some v => exact accepted?_of_load (load_eq_ok_iff.mpr ⟨h, hread⟩)
  | none =>
    unfold accepted?
    cases hload : load text with
    | error fault => rfl
    | ok v =>
      rw [read?_of_load hload] at hread
      cases hread

end Json

end PlainScan
