import PlainScan.Proofs.Json.Plain

namespace PlainScan

/-!
# Words and numbers in a JSON text

The reader of words and numbers goes as far as it can.  What it has read is read again with any
other text behind it, as long as that text does not go on with a character of a number or a word.

* `NotStarting` — a text does not start with a character of a kind.
* `Json.isScalarChar` — the characters of words and numbers.
* `Json.SpellsScalar` — a text is a word or a number, whatever stops it.
* `Json.exists_spellsScalar` — what is read is such a text.
-/

/-! ### First characters -/

/-- A text does not start with a character of a kind; it may be empty. -/
def NotStarting (p : Char → Bool) (text : List Char) : Prop := ∀ c ∈ text.head?, p c = false

theorem notStarting_nil (p : Char → Bool) : NotStarting p [] := by
  intro c hc
  cases hc

theorem notStarting_cons {p : Char → Bool} {c : Char} {rest : List Char} :
    NotStarting p (c :: rest) ↔ p c = false := by
  simp [NotStarting]

/-- A text of two pieces starts like the first one, or like the second where that is empty. -/
theorem NotStarting.append {p : Char → Bool} {a b : List Char} (ha : NotStarting p a)
    (hb : NotStarting p b) : NotStarting p (a ++ b) := by
  cases a with
  | nil => exact hb
  | cons c rest => exact notStarting_cons.mpr (notStarting_cons.mp ha)

/-- A text that starts with nothing of a kind starts with nothing of a narrower kind. -/
theorem NotStarting.imp {p q : Char → Bool} (hpq : ∀ c, q c = true → p c = true)
    {text : List Char} (h : NotStarting p text) : NotStarting q text := by
  intro c hc
  cases hq : q c with
  | false => rfl
  | true =>
    have hp := hpq c hq
    rw [h c hc] at hp
    cases hp

/-- What is left after all characters of a kind does not start with one. -/
theorem notStarting_dropWhile (p : Char → Bool) (text : List Char) :
    NotStarting p (text.dropWhile p) := by
  intro c hc
  have hhead := List.head?_dropWhile_not p text
  rw [Option.mem_def.mp hc] at hhead
  simpa using hhead

/-- Nothing is taken from a text that does not start with the kind. -/
theorem takeWhile_of_notStarting {p : Char → Bool} {text : List Char} (h : NotStarting p text) :
    text.takeWhile p = [] ∧ text.dropWhile p = text := by
  cases text with
  | nil => exact ⟨rfl, rfl⟩
  | cons c rest =>
    have hc := notStarting_cons.mp h
    simp [hc]

namespace Json

/-! ### Kinds of characters -/

/-- The characters of words and numbers. -/
def isScalarChar (c : Char) : Bool := c.isAlphanum || c == '+' || c == '-' || c == '.'

/-- The characters that may go on with a number whose whole part has been read, an exponent
    aside. -/
def isFractionChar (c : Char) : Bool := c.isDigit || c == '.'

theorem isScalarChar_of_isDigit {c : Char} (h : c.isDigit = true) : isScalarChar c = true := by
  simp [isScalarChar, Char.isAlphanum, h]

theorem isScalarChar_of_isFractionChar (c : Char) (h : isFractionChar c = true) :
    isScalarChar c = true := by
  rw [isFractionChar, Bool.or_eq_true] at h
  rcases h with h | h
  · exact isScalarChar_of_isDigit h
  · rw [beq_iff_eq] at h
    subst h
    rfl

theorem isFractionChar_of_isDigit (c : Char) (h : c.isDigit = true) : isFractionChar c = true := by
  simp [isFractionChar, h]

/-! ### Digits -/

/-- Digits are taken as far as they go. -/
theorem takeDigits_append {digits rest : List Char} (hd : ∀ c ∈ digits, c.isDigit = true)
    (hr : NotStarting Char.isDigit rest) : takeDigits (digits ++ rest) = (digits, rest) := by
  obtain ⟨htake, hdrop⟩ := takeWhile_of_notStarting hr
  rw [takeDigits, List.takeWhile_append_of_pos hd, List.dropWhile_append_of_pos hd, htake, hdrop,
    List.append_nil]

/-- The digits that are taken, and what follows them. -/
theorem takeDigits_spec {text digits rest : List Char} (h : takeDigits text = (digits, rest)) :
    text = digits ++ rest ∧ (∀ c ∈ digits, c.isDigit = true) := by
  rw [takeDigits, Prod.mk.injEq] at h
  obtain ⟨rfl, rfl⟩ := h
  refine ⟨List.takeWhile_append_dropWhile.symm, ?_⟩
  intro c hc
  exact List.all_eq_true.mp List.all_takeWhile c hc

/-- A whole part is taken again with another text behind it. -/
theorem takeWhole_spec {text whole rest : List Char} (h : takeWhole text = some (whole, rest)) :
    text = whole ++ rest ∧ whole ≠ [] ∧ (∀ c ∈ whole, c.isDigit = true) ∧
      ∀ after, NotStarting Char.isDigit after →
        takeWhole (whole ++ after) = some (whole, after) := by
  unfold takeWhole at h
  split at h
  · cases h
    refine ⟨rfl, List.cons_ne_nil _ _, ?_, ?_⟩
    · intro c hc
      rw [List.mem_singleton.mp hc]
      rfl
    · intro after _
      rfl
  · -- digits of which the first is not a zero
    rename_i hzero
    generalize htake : takeDigits text = taken at h
    obtain ⟨digits, tail⟩ := taken
    obtain ⟨htext, hdigits⟩ := takeDigits_spec htake
    dsimp only at h
    split at h
    · cases h
    · rename_i hne
      cases h
      rw [List.isEmpty_iff] at hne
      refine ⟨htext, hne, hdigits, ?_⟩
      intro after hafter
      unfold takeWhole
      split
      · rename_i other heq
        -- a zero in front would have been taken alone
        cases whole with
        | nil => exact absurd rfl hne
        | cons c more =>
          rw [List.cons_append, List.cons.injEq] at heq
          exact absurd (by rw [htext, heq.1]; rfl) (hzero (more ++ rest))
      · rw [takeDigits_append hdigits hafter]
        dsimp only
        rw [if_neg (by rwa [List.isEmpty_iff])]

/-! ### Optional parts of a number -/

/-- What is left of a text after an optional part. -/
def restAfter (take : List Char → Option (α × List Char)) (text : List Char) : List Char :=
  ((take text).map (·.2)).getD text

theorem restAfter_of_none {take : List Char → Option (α × List Char)} {text : List Char}
    (h : take text = none) : restAfter take text = text := by
  rw [restAfter, h]
  rfl

theorem restAfter_of_some {take : List Char → Option (α × List Char)} {text rest : List Char}
    {x : α} (h : take text = some (x, rest)) : restAfter take text = rest := by
  rw [restAfter, h]
  rfl

/-- The part that is taken from the front of a text, possibly nothing.  It is taken again with
    another text behind it, unless that starts with a character of the kind `stop`. -/
structure TakesPart (take : List Char → Option (α × List Char)) (stop : Char → Bool)
    (text part : List Char) : Prop where
  text_eq : text = part ++ restAfter take text
  chars : ∀ c ∈ part, isScalarChar c = true
  again : ∀ after, NotStarting stop after →
    (take (part ++ after)).map (·.1) = (take text).map (·.1) ∧
      restAfter take (part ++ after) = after

/-- Where there is no part, nothing is taken from what does not start like one. -/
theorem takesPart_nil {take : List Char → Option (α × List Char)} {stop : Char → Bool}
    {text : List Char} (h : take text = none)
    (hstop : ∀ after, NotStarting stop after → take after = none) :
    TakesPart take stop text [] where
  text_eq := (restAfter_of_none h).symm
  chars := by simp
  again := by
    intro after hafter
    have hnone := hstop after hafter
    rw [List.nil_append, hnone, h]
    exact ⟨rfl, restAfter_of_none hnone⟩

/-- Where there is one, it is enough that it is taken again. -/
theorem takesPart_some {take : List Char → Option (α × List Char)} {stop : Char → Bool}
    {text part rest : List Char} {found : α} (h : take text = some (found, rest))
    (htext : text = part ++ rest) (hchars : ∀ c ∈ part, isScalarChar c = true)
    (hagain : ∀ after, NotStarting stop after → take (part ++ after) = some (found, after)) :
    TakesPart take stop text part where
  text_eq := by rw [restAfter_of_some h, ← htext]
  chars := hchars
  again := by
    intro after hafter
    have hread := hagain after hafter
    rw [hread, h]
    exact ⟨rfl, restAfter_of_some hread⟩

/-- No fraction starts with anything but a point. -/
theorem takeFraction_of_notStarting {text : List Char} (h : NotStarting isFractionChar text) :
    takeFraction text = none := by
  unfold takeFraction
  split
  · have hpoint := notStarting_cons.mp h
    cases hpoint
  · rfl

/-- A fraction is a point with digits behind it. -/
theorem takeFraction_spec {text digits rest : List Char}
    (h : takeFraction text = some (digits, rest)) :
    text = '.' :: digits ++ rest ∧ (∀ c ∈ digits, c.isDigit = true) ∧ digits ≠ [] := by
  unfold takeFraction at h
  split at h
  · rename_i tail
    generalize htake : takeDigits tail = taken at h
    obtain ⟨taken, after⟩ := taken
    obtain ⟨htail, hall⟩ := takeDigits_spec htake
    dsimp only at h
    split at h
    · cases h
    · rename_i hne
      cases h
      exact ⟨by rw [htail, List.cons_append], hall, by rwa [List.isEmpty_iff] at hne⟩
  · cases h

/-- It is taken as far as the digits go. -/
theorem takeFraction_append {digits after : List Char} (hall : ∀ c ∈ digits, c.isDigit = true)
    (hne : digits ≠ []) (hafter : NotStarting Char.isDigit after) :
    takeFraction ('.' :: digits ++ after) = some (digits, after) := by
  rw [List.cons_append, takeFraction, takeDigits_append hall hafter]
  dsimp only
  rw [if_neg (by rwa [List.isEmpty_iff])]

/-- The fraction at the front of a text. -/
theorem exists_takesPart_fraction (text : List Char) :
    ∃ part, NotStarting Char.isDigit part ∧ TakesPart takeFraction isFractionChar text part := by
  cases htake : takeFraction text with
  | none =>
    exact ⟨[], notStarting_nil _, takesPart_nil htake fun _ => takeFraction_of_notStarting⟩
  | some found =>
    obtain ⟨digits, rest⟩ := found
    obtain ⟨htext, hall, hne⟩ := takeFraction_spec htake
    refine ⟨'.' :: digits, notStarting_cons.mpr rfl, takesPart_some htake htext ?_ ?_⟩
    · intro c hc
      rcases List.mem_cons.mp hc with rfl | hc
      · rfl
      · exact isScalarChar_of_isDigit (hall c hc)
    · intro after hafter
      exact takeFraction_append hall hne (hafter.imp isFractionChar_of_isDigit)

/-- A sign is taken again with a text behind it that starts with a digit. -/
theorem takeSign_spec {text tail : List Char} {negative : Bool}
    (h : takeSign text = (negative, tail)) :
    ∃ sign, text = sign ++ tail ∧ (∀ c ∈ sign, isScalarChar c = true) ∧
      ∀ d after, d.isDigit = true → takeSign (sign ++ d :: after) = (negative, d :: after) := by
  unfold takeSign at h
  split at h
  · cases h
    exact ⟨['-'], rfl, by simp [isScalarChar], fun _ _ _ => rfl⟩
  · cases h
    exact ⟨['+'], rfl, by simp [isScalarChar], fun _ _ _ => rfl⟩
  · cases h
    -- without a sign, and a digit is none
    refine ⟨[], rfl, by simp, ?_⟩
    intro d after hd
    rw [List.nil_append]
    unfold takeSign
    split
    · rename_i heq
      rw [(List.cons.inj heq).1] at hd
      cases hd
    · rename_i heq
      rw [(List.cons.inj heq).1] at hd
      cases hd
    · rfl

/-- No exponent starts with a character that is in no number. -/
theorem takeExponent_of_notStarting {text : List Char} (h : NotStarting isScalarChar text) :
    takeExponent text = none := by
  cases text with
  | nil => rfl
  | cons c rest =>
    have hc := notStarting_cons.mp h
    rw [takeExponent]
    split
    · rename_i he
      rw [Bool.or_eq_true, beq_iff_eq, beq_iff_eq] at he
      rcases he with rfl | rfl
      · cases hc
      · cases hc
    · rfl

/-- An exponent as it is written: the letter, a sign perhaps, and digits.  The sign is told from
    the digits by the first of them. -/
structure ExponentText (c : Char) (sign digits : List Char) (negative : Bool) : Prop where
  letter : (c == 'e' || c == 'E') = true
  sign_chars : ∀ x ∈ sign, isScalarChar x = true
  sign_eq : ∀ d after, d.isDigit = true → takeSign (sign ++ d :: after) = (negative, d :: after)
  isDigit : ∀ x ∈ digits, x.isDigit = true
  ne_nil : digits ≠ []

namespace ExponentText

variable {c : Char} {sign digits : List Char} {negative : Bool}

theorem eq_or_eq (h : ExponentText c sign digits negative) : c = 'e' ∨ c = 'E' := by
  have hletter := h.letter
  rwa [Bool.or_eq_true, beq_iff_eq, beq_iff_eq] at hletter

theorem chars (h : ExponentText c sign digits negative) :
    ∀ x ∈ c :: (sign ++ digits), isScalarChar x = true := by
  intro x hx
  rcases List.mem_cons.mp hx with rfl | hx
  · rcases h.eq_or_eq with rfl | rfl <;> rfl
  · rcases List.mem_append.mp hx with hx | hx
    · exact h.sign_chars x hx
    · exact isScalarChar_of_isDigit (h.isDigit x hx)

/-- It is taken as far as the digits go. -/
theorem takeExponent_append (h : ExponentText c sign digits negative) {after : List Char}
    (hafter : NotStarting Char.isDigit after) :
    takeExponent (c :: (sign ++ digits) ++ after)
      = some (if negative then -(decimalNumber digits : Int) else decimalNumber digits, after) := by
  obtain ⟨d, more, hd⟩ : ∃ d more, digits = d :: more := List.exists_cons_of_ne_nil h.ne_nil
  have hsigned : takeSign (sign ++ (digits ++ after)) = (negative, digits ++ after) := by
    rw [hd, List.cons_append]
    exact h.sign_eq d _ (h.isDigit d (by rw [hd]; exact List.mem_cons_self))
  rw [List.cons_append, List.append_assoc, takeExponent, if_pos h.letter, hsigned]
  dsimp only
  rw [takeDigits_append h.isDigit hafter]
  dsimp only
  rw [if_neg (by rw [List.isEmpty_iff]; exact h.ne_nil)]

end ExponentText

/-- What is taken as an exponent is one. -/
theorem takeExponent_spec {text rest : List Char} {power : Int}
    (h : takeExponent text = some (power, rest)) :
    ∃ c sign digits negative, ExponentText c sign digits negative
      ∧ text = c :: (sign ++ digits) ++ rest
      ∧ power = if negative then -(decimalNumber digits : Int) else decimalNumber digits := by
  cases text with
  | nil => cases h
  | cons c tail =>
    rw [takeExponent] at h
    split at h
    · rename_i hletter
      -- behind the letter a sign is taken, if there is one, and then the digits
      generalize hsign : takeSign tail = signed at h
      obtain ⟨negative, unsigned⟩ := signed
      obtain ⟨sign, htail, hsignChars, hsignAgain⟩ := takeSign_spec hsign
      dsimp only at h
      generalize hdigits : takeDigits unsigned = taken at h
      obtain ⟨digits, after⟩ := taken
      obtain ⟨hunsigned, hall⟩ := takeDigits_spec hdigits
      dsimp only at h
      split at h
      · cases h
      · rename_i hne
        cases h
        refine ⟨c, sign, digits, negative, ⟨hletter, hsignChars, hsignAgain, hall, ?_⟩, ?_, rfl⟩
        · rwa [List.isEmpty_iff] at hne
        · rw [htail, hunsigned, List.cons_append, List.append_assoc]
    · cases h

/-- The exponent at the front of a text. -/
theorem exists_takesPart_exponent (text : List Char) :
    ∃ part, NotStarting isFractionChar part ∧ TakesPart takeExponent isScalarChar text part := by
  cases htake : takeExponent text with
  | none =>
    exact ⟨[], notStarting_nil _, takesPart_nil htake fun _ => takeExponent_of_notStarting⟩
  | some found =>
    obtain ⟨power, rest⟩ := found
    obtain ⟨c, sign, digits, negative, hexponent, htext, rfl⟩ := takeExponent_spec htake
    refine ⟨c :: (sign ++ digits), ?_, takesPart_some htake htext hexponent.chars ?_⟩
    · rcases hexponent.eq_or_eq with rfl | rfl <;> exact notStarting_cons.mpr rfl
    · intro after hafter
      exact hexponent.takeExponent_append (hafter.imp fun _ => isScalarChar_of_isDigit)

/-! ### Numbers -/

/-- The number with a whole part, and perhaps a fraction and an exponent. -/
def numberOf (negative : Bool) (whole : List Char) (fraction : Option (List Char))
    (exponent : Option Int) : Json :=
  if fraction.isNone && exponent.isNone then
    let n : Int := decimalNumber whole
    .int (if negative then -n else n)
  else
    let places := fraction.getD []
    .num (Binary64.ofDecimal negative (decimalNumber (whole ++ places))
      (exponent.getD 0 - places.length))

/-- A number is read part by part. -/
theorem takeNumber_of_whole {negative : Bool} {text whole rest : List Char}
    (h : takeWhole text = some (whole, rest)) :
    takeNumber negative text = some
      (numberOf negative whole ((takeFraction rest).map (·.1))
          ((takeExponent (restAfter takeFraction rest)).map (·.1)),
        restAfter takeExponent (restAfter takeFraction rest)) := by
  rw [takeNumber, h]
  dsimp only [restAfter, numberOf]
  rw [Option.isNone_map, Option.isNone_map]
  split <;> rfl

/-- A number is neither an array nor an object. -/
theorem takeNumber_kind {negative : Bool} {text rest : List Char} {v : Json}
    (h : takeNumber negative text = some (v, rest)) : v.arr? = none ∧ v.obj? = none := by
  cases hwhole : takeWhole text with
  | none =>
    rw [takeNumber, hwhole] at h
    cases h
  | some found =>
    rw [takeNumber_of_whole hwhole, Option.some.injEq, Prod.mk.injEq] at h
    obtain ⟨rfl, -⟩ := h
    unfold numberOf
    split <;> exact ⟨rfl, rfl⟩

/-- A number is read again with another text behind it. -/
theorem takeNumber_spec {negative : Bool} {text rest : List Char} {v : Json}
    (h : takeNumber negative text = some (v, rest)) :
    ∃ d more, text = d :: more ++ rest ∧ d.isDigit = true
      ∧ (∀ c ∈ d :: more, isScalarChar c = true)
      ∧ ∀ after, NotStarting isScalarChar after →
          takeNumber negative (d :: more ++ after) = some (v, after) := by
  cases hwhole : takeWhole text with
  | none =>
    rw [takeNumber, hwhole] at h
    cases h
  | some found =>
    obtain ⟨whole, tail⟩ := found
    obtain ⟨htext, hne, hdigits, hwholeAgain⟩ := takeWhole_spec hwhole
    obtain ⟨fraction, hfractionStart, hfraction⟩ := exists_takesPart_fraction tail
    obtain ⟨exponent, hexponentStart, hexponent⟩ :=
      exists_takesPart_exponent (restAfter takeFraction tail)
    rw [takeNumber_of_whole hwhole, Option.some.injEq, Prod.mk.injEq] at h
    obtain ⟨rfl, rfl⟩ := h
    obtain ⟨d, more, rfl⟩ := List.exists_cons_of_ne_nil hne
    -- the text of the number is that of its parts, of which the last two may be empty
    refine ⟨d, more ++ (fraction ++ exponent), ?_, hdigits d List.mem_cons_self, ?_, ?_⟩
    · calc text = d :: more ++ tail := htext
        _ = d :: more ++ (fraction ++ (exponent
              ++ restAfter takeExponent (restAfter takeFraction tail))) := by
          rw [← hexponent.text_eq, ← hfraction.text_eq]
        _ = _ := by simp only [List.cons_append, List.append_assoc]
    · intro c hc
      rw [← List.cons_append, List.mem_append, List.mem_append] at hc
      rcases hc with hc | hc | hc
      · exact isScalarChar_of_isDigit (hdigits c hc)
      · exact hfraction.chars c hc
      · exact hexponent.chars c hc
    · -- each part stops at the next one that is there, the last one at the other text
      intro after hafter
      have hexponentStop : NotStarting isFractionChar (exponent ++ after) :=
        hexponentStart.append (hafter.imp isScalarChar_of_isFractionChar)
      have hfractionStop : NotStarting Char.isDigit (fraction ++ (exponent ++ after)) :=
        hfractionStart.append (hexponentStop.imp isFractionChar_of_isDigit)
      obtain ⟨hpower, hend⟩ := hexponent.again after hafter
      obtain ⟨hplaces, hmiddle⟩ := hfraction.again _ hexponentStop
      have hsplit : d :: (more ++ (fraction ++ exponent)) ++ after
          = d :: more ++ (fraction ++ (exponent ++ after)) := by
        simp only [List.cons_append, List.append_assoc]
      rw [hsplit, takeNumber_of_whole (hwholeAgain _ hfractionStop), hplaces, hmiddle, hpower, hend]

/-! ### Words -/

/-- A text is a word or a number, whatever follows, unless that goes on with it. -/
structure SpellsScalar (text : List Char) (v : Json) : Prop where
  ne_nil : text ≠ []
  chars : ∀ c ∈ text, isScalarChar c = true
  reads : ∀ after, NotStarting isScalarChar after →
    readScalar (text ++ after) = some (v, after)

/-- A word or else a number is read. -/
theorem readScalar_eq (text : List Char) :
    readScalar text = (readWord text).or
      (match text with
        | '-' :: rest => takeNumber true rest
        | _ => takeNumber false text) := by
  unfold readScalar
  cases readWord text with
  | some found => rw [Option.some_or]
  | none => exact Option.none_or.symm

/-- A word is read again with any text behind it. -/
theorem readWord_append {word : String} {v : Json} (h : (word, v) ∈ words) (after : List Char) :
    readWord (word.toList ++ after) = some (v, after) := by
  simp only [words, List.mem_cons, Prod.mk.injEq, List.not_mem_nil, or_false] at h
  rcases h with ⟨rfl, rfl⟩ | ⟨rfl, rfl⟩ | ⟨rfl, rfl⟩ | ⟨rfl, rfl⟩ | ⟨rfl, rfl⟩ | ⟨rfl, rfl⟩ <;> rfl

/-- Words are not empty and have no other characters than words and numbers. -/
theorem chars_of_mem_words :
    ∀ p ∈ words, p.1.toList ≠ [] ∧ ∀ c ∈ p.1.toList, isScalarChar c = true := by
  have hall : (words.all fun p => !p.1.toList.isEmpty && p.1.toList.all isScalarChar) = true := by
    decide
  intro p hp
  have hword := List.all_eq_true.mp hall p hp
  rw [Bool.and_eq_true, Bool.not_eq_true', List.isEmpty_eq_false_iff, List.all_eq_true] at hword
  exact hword

/-- What follows a word at the front of a text is the rest of that text. -/
theorem eq_append_of_takeWord {word text rest : List Char} (h : takeWord word text = some rest) :
    text = word ++ rest := by
  unfold takeWord at h
  split at h
  · rename_i hstart
    cases h
    exact (List.prefix_iff_eq_append.mp (List.isPrefixOf_iff_prefix.mp hstart)).symm
  · cases h

/-- What is read as a word is one of the words. -/
theorem exists_word_of_readWord {text rest : List Char} {v : Json}
    (h : readWord text = some (v, rest)) :
    ∃ word, (word, v) ∈ words ∧ text = word.toList ++ rest := by
  obtain ⟨⟨word, value⟩, hmem, htake⟩ := List.exists_of_findSome?_eq_some h
  obtain ⟨after, hafter, heq⟩ := Option.map_eq_some_iff.mp htake
  cases heq
  exact ⟨word, hmem, eq_append_of_takeWord hafter⟩

/-- A word is neither an array nor an object. -/
theorem words_kind {word : String} {v : Json} (h : (word, v) ∈ words) :
    v.arr? = none ∧ v.obj? = none := by
  simp only [words, List.mem_cons, Prod.mk.injEq, List.not_mem_nil, or_false] at h
  rcases h with ⟨-, rfl⟩ | ⟨-, rfl⟩ | ⟨-, rfl⟩ | ⟨-, rfl⟩ | ⟨-, rfl⟩ | ⟨-, rfl⟩ <;> exact ⟨rfl, rfl⟩

/-- No word is read that is not at the front of the text. -/
theorem readWord_eq_none {text : List Char} (h : ∀ p ∈ words, ¬ p.1.toList <+: text) :
    readWord text = none := by
  refine List.findSome?_eq_none_iff.mpr ?_
  intro p hp
  dsimp only
  rw [takeWord, if_neg, Option.map_none]
  rw [List.isPrefixOf_iff_prefix]
  exact h p hp

/-- Every word starts with two characters that are no digits. -/
theorem exists_cons_of_mem_words {word : String} {v : Json} (h : (word, v) ∈ words) :
    ∃ c c' more, word.toList = c :: c' :: more ∧ c.isDigit = false ∧ c'.isDigit = false := by
  simp only [words, List.mem_cons, Prod.mk.injEq, List.not_mem_nil, or_false] at h
  rcases h with ⟨rfl, -⟩ | ⟨rfl, -⟩ | ⟨rfl, -⟩ | ⟨rfl, -⟩ | ⟨rfl, -⟩ | ⟨rfl, -⟩ <;>
    exact ⟨_, _, _, rfl, rfl, rfl⟩

/-- No word starts with a digit. -/
theorem readWord_digit {d : Char} (hd : d.isDigit = true) (rest : List Char) :
    readWord (d :: rest) = none := by
  apply readWord_eq_none
  intro p hp hstart
  obtain ⟨c, c', more, hword, hc, -⟩ := exists_cons_of_mem_words hp
  rw [hword, List.cons_prefix_cons] at hstart
  rw [hstart.1, hd] at hc
  cases hc

/-- No word starts with a minus sign and a digit. -/
theorem readWord_minus_digit {d : Char} (hd : d.isDigit = true) (rest : List Char) :
    readWord ('-' :: d :: rest) = none := by
  apply readWord_eq_none
  intro p hp hstart
  obtain ⟨c, c', more, hword, -, hc'⟩ := exists_cons_of_mem_words hp
  rw [hword, List.cons_prefix_cons, List.cons_prefix_cons] at hstart
  rw [hstart.2.1, hd] at hc'
  cases hc'

/-! ### Scalars -/

/-- What is read as a word or a number is one, whatever follows. -/
theorem exists_spellsScalar {text rest : List Char} {v : Json}
    (h : readScalar text = some (v, rest)) :
    ∃ scalar, text = scalar ++ rest ∧ SpellsScalar scalar v := by
  rw [readScalar_eq] at h
  cases hword : readWord text with
  | some found =>
    rw [hword, Option.some_or, Option.some.injEq] at h
    subst h
    obtain ⟨word, hmem, htext⟩ := exists_word_of_readWord hword
    obtain ⟨hne, hchars⟩ := chars_of_mem_words _ hmem
    refine ⟨word.toList, htext, hne, hchars, ?_⟩
    intro after _
    rw [readScalar_eq, readWord_append hmem, Option.some_or]
  | none =>
    rw [hword, Option.none_or] at h
    split at h
    · -- a minus sign and a number: the only word that starts like it goes on with a letter
      obtain ⟨d, more, htail, hd, hchars, hagain⟩ := takeNumber_spec h
      refine ⟨'-' :: d :: more, by rw [htail]; rfl, List.cons_ne_nil _ _, ?_, ?_⟩
      · intro c hc
        rcases List.mem_cons.mp hc with rfl | hc
        · rfl
        · exact hchars c hc
      · intro after hafter
        rw [readScalar_eq, List.cons_append, List.cons_append, readWord_minus_digit hd,
          Option.none_or]
        exact hagain after hafter
    · obtain ⟨d, more, htext, hd, hchars, hagain⟩ := takeNumber_spec h
      refine ⟨d :: more, htext, List.cons_ne_nil _ _, hchars, ?_⟩
      intro after hafter
      rw [readScalar_eq, List.cons_append, readWord_digit hd, Option.none_or]
      split
      · -- a digit is no minus sign
        rename_i heq
        rw [(List.cons.inj heq).1] at hd
        cases hd
      · exact hagain after hafter

/-- A word or a number is neither an array nor an object. -/
theorem SpellsScalar.kind {text : List Char} {v : Json} (h : SpellsScalar text v) :
    v.arr? = none ∧ v.obj? = none := by
  have hread := h.reads [] (notStarting_nil _)
  rw [List.append_nil, readScalar_eq] at hread
  cases hword : readWord text with
  | some found =>
    rw [hword, Option.some_or, Option.some.injEq] at hread
    subst hread
    obtain ⟨word, hmem, -⟩ := exists_word_of_readWord hword
    exact words_kind hmem
  | none =>
    rw [hword, Option.none_or] at hread
    split at hread
    · exact takeNumber_kind hread
    · exact takeNumber_kind hread

end Json

end PlainScan
