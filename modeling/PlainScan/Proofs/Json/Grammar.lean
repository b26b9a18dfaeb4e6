import PlainScan.Proofs.Json.Scalar

namespace PlainScan.Json

/-!
# The grammar of JSON texts

Which texts stand for which values, without regard to how they are read.

* `SpellsString` — a quoted text stands for a string.
* `Part` — a value, the items of an array or the members of an object; the bracket or brace that
    closes it is not part of it.
* `Spells` — a text stands for a part.
* `exists_spells_of_reads`, `Spells.reads` — what is read is such a text, and such a text is read.
* `read?_eq_some_iff` — a whole text stands for a value exactly if it spells it, spaces around it
    aside.
* `read?_of_prefix` — no array that is cut off is read.
-/

/-! ### Spaces -/

/-- Nothing but spaces. -/
def Spaces (text : List Char) : Prop := ∀ c ∈ text, isSpace c = true

theorem spaces_nil : Spaces [] := by
  intro c hc
  cases hc

/-- A space alone. -/
theorem spaces_singleton : Spaces [' '] := by
  intro c hc
  rw [List.mem_singleton.mp hc]
  rfl

/-- Every text starts with the spaces that are skipped. -/
theorem exists_spaces (text : List Char) : ∃ sp, Spaces sp ∧ text = sp ++ skipSpaces text := by
  refine ⟨text.takeWhile isSpace, ?_, List.takeWhile_append_dropWhile.symm⟩
  intro c hc
  exact List.all_eq_true.mp List.all_takeWhile c hc

/-- Spaces are skipped up to what is none. -/
theorem skipSpaces_append {sp rest : List Char} (hsp : Spaces sp)
    (hrest : NotStarting isSpace rest) : skipSpaces (sp ++ rest) = rest := by
  rw [skipSpaces, List.dropWhile_append_of_pos hsp]
  exact (takeWhile_of_notStarting hrest).2

/-- Nothing is left of spaces. -/
theorem skipSpaces_of_spaces {sp : List Char} (hsp : Spaces sp) : skipSpaces sp = [] := by
  have h := skipSpaces_append hsp (notStarting_nil isSpace)
  rwa [List.append_nil] at h

/-- What consists of spaces is all spaces. -/
theorem spaces_of_skipSpaces {text : List Char} (h : (skipSpaces text).isEmpty = true) :
    Spaces text := by
  obtain ⟨sp, hsp, htext⟩ := exists_spaces text
  rw [List.isEmpty_iff.mp h, List.append_nil] at htext
  rwa [htext]

/-! ### Strings -/

/-- The raw inside of a string: a quote stands in it only behind a backslash, and a backslash only
    before another character. -/
inductive StringBody : List Char → Prop where
  | nil : StringBody []
  | escaped (c : Char) {rest : List Char} : StringBody rest → StringBody ('\\' :: c :: rest)
  | plain {c : Char} {rest : List Char} :
      c ≠ '"' → c ≠ '\\' → StringBody rest → StringBody (c :: rest)

/-- A text in quotes stands for a string. -/
inductive SpellsString : List Char → String → Prop where
  | quoted {raw chars : List Char} :
      StringBody raw → unescape raw = some chars →
        SpellsString ('"' :: (raw ++ ['"'])) (String.ofList chars)

/-- What is taken as the inside of a string is one, and a quote follows it. -/
theorem takeString_spec {text raw after : List Char} (h : takeString text = some (raw, after)) :
    text = raw ++ '"' :: after ∧ StringBody raw := by
  fun_induction takeString text generalizing raw after with
  | case1 => cases h
  | case2 rest =>
    cases h
    exact ⟨rfl, .nil⟩
  | case3 c rest ih =>
    obtain ⟨⟨raw', after'⟩, htake, heq⟩ := Option.map_eq_some_iff.mp h
    cases heq
    obtain ⟨rfl, hbody⟩ := ih htake
    exact ⟨rfl, .escaped c hbody⟩
  | case4 c rest hquote hescape ih =>
    obtain ⟨⟨raw', after'⟩, htake, heq⟩ := Option.map_eq_some_iff.mp h
    cases heq
    obtain ⟨rfl, hbody⟩ := ih htake
    refine ⟨rfl, .plain (fun hc => hquote hc) ?_ hbody⟩
    rintro rfl
    -- a backslash here would protect what follows it, which is at least the quote
    cases raw' with
    | nil => exact hescape _ _ rfl rfl
    | cons d more => exact hescape _ _ rfl rfl

/-- The inside of a string is taken up to the quote behind it. -/
theorem StringBody.takeString {raw : List Char} (h : StringBody raw) (after : List Char) :
    takeString (raw ++ '"' :: after) = some (raw, after) := by
  induction h with
  | nil => rfl
  | escaped c _ ih => simp [Json.takeString, ih]
  | plain _ hescape _ ih => simp [Json.takeString, hescape, ih]

/-- What is read as a string is a text in quotes, the first of which has been read. -/
theorem exists_spellsString {text rest : List Char} {s : String}
    (h : readString text = some (s, rest)) :
    ∃ quoted, '"' :: text = quoted ++ rest ∧ SpellsString quoted s := by
  unfold readString at h
  split at h
  · cases h
  · rename_i raw after htake
    obtain ⟨chars, hchars, heq⟩ := Option.map_eq_some_iff.mp h
    cases heq
    obtain ⟨rfl, hbody⟩ := takeString_spec htake
    exact ⟨'"' :: (raw ++ ['"']), by simp, .quoted hbody hchars⟩

/-- A text in quotes is read, whatever follows. -/
theorem SpellsString.reads {quoted : List Char} {s : String} (h : SpellsString quoted s) :
    ∃ text, quoted = '"' :: text ∧ ∀ after, readString (text ++ after) = some (s, after) := by
  obtain ⟨hbody, hchars⟩ := h
  rename_i raw chars
  refine ⟨raw ++ ['"'], rfl, ?_⟩
  intro after
  rw [List.append_assoc, List.singleton_append, readString, hbody.takeString after]
  simp only [hchars, Option.map_some]

/-! ### Values, items and members -/

/-- A part of a JSON text: a value, the items of an array or the members of an object. -/
inductive Part where
  | value (v : Json)
  | items (values : List Json)
  | members (pairs : List (String × Json))

/-- A text stands for the key of a member, the colon included. -/
inductive SpellsKey : List Char → String → Prop where
  | colon {quoted sp sp' : List Char} {key : String} :
      SpellsString quoted key → Spaces sp → Spaces sp' →
        SpellsKey (quoted ++ (sp ++ ':' :: sp')) key

/-- A text stands for a part. -/
inductive Spells : Part → List Char → Prop where
  | scalar {text : List Char} {v : Json} : SpellsScalar text v → Spells (.value v) text
  | string {text : List Char} {s : String} :
      SpellsString text s → Spells (.value (.str s)) text
  | emptyArray {sp : List Char} : Spaces sp → Spells (.value (.arr [])) ('[' :: (sp ++ [']']))
  | array {sp inside : List Char} {values : List Json} :
      Spaces sp → Spells (.items values) inside →
        Spells (.value (.arr values)) ('[' :: (sp ++ (inside ++ [']'])))
  | emptyObject {sp : List Char} :
      Spaces sp → Spells (.value (.obj [])) ('\x7b' :: (sp ++ ['\x7d']))
  | object {sp inside : List Char} {pairs : List (String × Json)} :
      Spaces sp → Spells (.members pairs) inside →
        Spells (.value (.obj (Fields.ofPairs pairs))) ('\x7b' :: (sp ++ (inside ++ ['\x7d'])))
  | lastItem {text sp : List Char} {v : Json} :
      Spells (.value v) text → Spaces sp → Spells (.items [v]) (text ++ sp)
  | item {text sp sp' more : List Char} {v : Json} {values : List Json} :
      Spells (.value v) text → Spaces sp → Spaces sp' → Spells (.items values) more →
        Spells (.items (v :: values)) (text ++ (sp ++ ',' :: (sp' ++ more)))
  | lastMember {start text sp : List Char} {key : String} {v : Json} :
      SpellsKey start key → Spells (.value v) text → Spaces sp →
        Spells (.members [(key, v)]) (start ++ (text ++ sp))
  | member {start text sp sp' more : List Char} {key : String} {v : Json}
      {pairs : List (String × Json)} :
      SpellsKey start key → Spells (.value v) text → Spaces sp → Spaces sp' →
        Spells (.members pairs) more →
          Spells (.members ((key, v) :: pairs)) (start ++ (text ++ (sp ++ ',' :: (sp' ++ more))))

/-- What closes a part. -/
def Part.closing : Part → List Char
  | value _ => []
  | items _ => [']']
  | members _ => ['\x7d']

/-- A part is read from the front of a text with a number of steps, up to what follows it. -/
def Part.Reads (fuel : Nat) (text rest : List Char) : Part → Prop
  | value v => readValue fuel text = some (v, rest)
  | items values => readItems fuel text = some (values, rest)
  | members pairs => readMembers fuel text = some (pairs, rest)

/-! ### What is read is spelled -/

/-- With one step more, values are read as values if parts are read as parts. -/
theorem exists_spells_of_readValue {fuel : Nat} {text rest : List Char} {v : Json}
    (ih : ∀ p text rest, Part.Reads fuel text rest p →
      ∃ a, text = a ++ (p.closing ++ rest) ∧ Spells p a)
    (h : readValue (fuel + 1) text = some (v, rest)) :
    ∃ a, text = a ++ rest ∧ Spells (.value v) a := by
  unfold readValue at h
  split at h
  · -- a string
    rename_i tail
    obtain ⟨⟨s, after⟩, hread, heq⟩ := Option.map_eq_some_iff.mp h
    cases heq
    obtain ⟨quoted, htext, hquoted⟩ := exists_spellsString hread
    exact ⟨quoted, htext, .string hquoted⟩
  · -- an array, which may be empty
    rename_i tail
    obtain ⟨sp, hsp, htail⟩ := exists_spaces tail
    split at h
    · rename_i after hskip
      cases h
      rw [hskip] at htail
      exact ⟨_, by rw [htail]; simp, .emptyArray hsp⟩
    · obtain ⟨⟨values, after⟩, hread, heq⟩ := Option.map_eq_some_iff.mp h
      cases heq
      obtain ⟨inside, hinside, hspells⟩ := ih (.items values) _ _ hread
      rw [hinside] at htail
      exact ⟨_, by rw [htail]; simp [Part.closing], .array hsp hspells⟩
  · -- an object, which may be empty
    rename_i tail
    obtain ⟨sp, hsp, htail⟩ := exists_spaces tail
    split at h
    · rename_i after hskip
      cases h
      rw [hskip] at htail
      exact ⟨_, by rw [htail]; simp, .emptyObject hsp⟩
    · obtain ⟨⟨pairs, after⟩, hread, heq⟩ := Option.map_eq_some_iff.mp h
      cases heq
      obtain ⟨inside, hinside, hspells⟩ := ih (.members pairs) _ _ hread
      rw [hinside] at htail
      exact ⟨_, by rw [htail]; simp [Part.closing], .object hsp hspells⟩
  · -- a word or a number
    obtain ⟨scalar, htext, hscalar⟩ := exists_spellsScalar h
    exact ⟨scalar, htext, .scalar hscalar⟩

/-- With one step more, items are read as items if parts are read as parts. -/
theorem exists_spells_of_readItems {fuel : Nat} {text rest : List Char} {values : List Json}
    (ih : ∀ p text rest, Part.Reads fuel text rest p →
      ∃ a, text = a ++ (p.closing ++ rest) ∧ Spells p a)
    (h : readItems (fuel + 1) text = some (values, rest)) :
    ∃ a, text = a ++ ']' :: rest ∧ Spells (.items values) a := by
  unfold readItems at h
  split at h
  · cases h
  · rename_i v tail hvalue
    obtain ⟨a, htext, hspells⟩ := ih (.value v) _ _ hvalue
    obtain ⟨sp, hsp, htail⟩ := exists_spaces tail
    split at h
    · -- a comma: other items follow
      rename_i more hskip
      obtain ⟨⟨others, after⟩, hread, heq⟩ := Option.map_eq_some_iff.mp h
      cases heq
      obtain ⟨sp', hsp', hmore⟩ := exists_spaces more
      obtain ⟨b, hb, hothers⟩ := ih (.items others) _ _ hread
      rw [hb] at hmore
      rw [hskip, hmore] at htail
      exact ⟨_, by rw [htext, htail]; simp [Part.closing], .item hspells hsp hsp' hothers⟩
    · rename_i after hskip
      cases h
      rw [hskip] at htail
      exact ⟨_, by rw [htext, htail]; simp [Part.closing], .lastItem hspells hsp⟩
    · cases h

/-- With one step more, members are read as members if parts are read as parts. -/
theorem exists_spells_of_readMembers {fuel : Nat} {text rest : List Char}
    {pairs : List (String × Json)}
    (ih : ∀ p text rest, Part.Reads fuel text rest p →
      ∃ a, text = a ++ (p.closing ++ rest) ∧ Spells p a)
    (h : readMembers (fuel + 1) text = some (pairs, rest)) :
    ∃ a, text = a ++ '\x7d' :: rest ∧ Spells (.members pairs) a := by
  unfold readMembers at h
  split at h
  · split at h
    · cases h
    · rename_i key afterKey hkey
      -- the key, then blanks and a colon, then the value; each is spelled by what it was read from
      obtain ⟨quoted, htext, hquoted⟩ := exists_spellsString hkey
      obtain ⟨sp, hsp, hafterKey⟩ := exists_spaces afterKey
      split at h
      · rename_i afterColon hcolon
        obtain ⟨sp', hsp', hafterColon⟩ := exists_spaces afterColon
        have hstart : SpellsKey _ key := .colon hquoted hsp hsp'
        split at h
        · cases h
        · rename_i v tail hvalue
          obtain ⟨a, ha, hspells⟩ := ih (.value v) _ _ hvalue
          obtain ⟨sp₂, hsp₂, htail⟩ := exists_spaces tail
          rw [ha] at hafterColon
          rw [hcolon, hafterColon] at hafterKey
          split at h
          · -- a comma: other members follow
            rename_i more hskip
            obtain ⟨⟨others, after⟩, hread, heq⟩ := Option.map_eq_some_iff.mp h
            cases heq
            obtain ⟨sp₃, hsp₃, hmore⟩ := exists_spaces more
            obtain ⟨b, hb, hothers⟩ := ih (.members others) _ _ hread
            rw [hb] at hmore
            rw [hskip, hmore] at htail
            exact ⟨_, by rw [htext, hafterKey, htail]; simp [Part.closing],
              .member hstart hspells hsp₂ hsp₃ hothers⟩
          -- the closing brace
          · rename_i after hskip
            cases h
            rw [hskip] at htail
            exact ⟨_, by rw [htext, hafterKey, htail]; simp [Part.closing],
              .lastMember hstart hspells hsp₂⟩
          · cases h
      · cases h
  · cases h

/-- **Soundness.** What is read as a part is a text that stands for it. -/
theorem exists_spells_of_reads (fuel : Nat) :
    ∀ p text rest, Part.Reads fuel text rest p →
      ∃ a, text = a ++ (p.closing ++ rest) ∧ Spells p a := by
  -- The three readers call each other with one step less, hence one induction for all parts.
  induction fuel with
  | zero =>
    intro p text rest h
    cases p <;> cases h
  | succ fuel ih =>
    intro p text rest h
    cases p with
    | value v => exact exists_spells_of_readValue ih h
    | items values => exact exists_spells_of_readItems ih h
    | members pairs => exact exists_spells_of_readMembers ih h

/-! ### What is spelled is read -/

/-- The characters between the parts of a text. -/
def isGap (c : Char) : Bool := isSpace c || c == ',' || c == ':' || c == ']' || c == '\x7d'

/-- No character of a word or a number stands between parts. -/
theorem isScalarChar_of_isGap {c : Char} (h : isGap c = true) : isScalarChar c = false := by
  simp only [isGap, isSpace, Bool.or_eq_true, beq_iff_eq] at h
  rcases h with ((((((rfl | rfl) | rfl) | rfl) | rfl) | rfl) | rfl) | rfl <;> rfl

/-- No part starts with a character that stands between parts. -/
theorem Spells.exists_cons {p : Part} {a : List Char} (h : Spells p a) :
    ∃ c more, a = c :: more ∧ isGap c = false := by
  induction h with
  | @scalar text v hscalar =>
    obtain ⟨c, more, rfl⟩ := List.exists_cons_of_ne_nil hscalar.ne_nil
    refine ⟨c, more, rfl, ?_⟩
    -- no word and no number has a character of a gap in it
    cases hc : isGap c with
    | false => rfl
    | true =>
      have hchar := hscalar.chars c List.mem_cons_self
      rw [isScalarChar_of_isGap hc] at hchar
      cases hchar
  | string hs =>
    obtain ⟨_, _⟩ := hs
    exact ⟨'"', _, rfl, rfl⟩
  | emptyArray _ => exact ⟨'[', _, rfl, rfl⟩
  | array _ _ _ => exact ⟨'[', _, rfl, rfl⟩
  | emptyObject _ => exact ⟨'\x7b', _, rfl, rfl⟩
  | object _ _ _ => exact ⟨'\x7b', _, rfl, rfl⟩
  | lastItem _ _ ih =>
    obtain ⟨c, more, rfl, hc⟩ := ih
    exact ⟨c, _, rfl, hc⟩
  | item _ _ _ _ ih _ =>
    obtain ⟨c, more, rfl, hc⟩ := ih
    exact ⟨c, _, rfl, hc⟩
  -- a member starts with the quote of its key
  | lastMember hkey _ _ _ =>
    obtain ⟨⟨_, _⟩, _, _⟩ := hkey
    exact ⟨'"', _, rfl, rfl⟩
  | member hkey _ _ _ _ _ _ =>
    obtain ⟨⟨_, _⟩, _, _⟩ := hkey
    exact ⟨'"', _, rfl, rfl⟩

/-- An object starts with a brace. -/
theorem Spells.exists_cons_of_object {fields : Fields} {a : List Char}
    (h : Spells (.value (.obj fields)) a) : ∃ rest, a = '\x7b' :: rest := by
  cases h with
  | scalar hscalar => cases hscalar.kind.2
  | emptyObject => exact ⟨_, rfl⟩
  | object => exact ⟨_, rfl⟩

/-- An array starts with a bracket. -/
theorem Spells.exists_cons_of_array {values : List Json} {a : List Char}
    (h : Spells (.value (.arr values)) a) : ∃ rest, a = '[' :: rest := by
  cases h with
  | scalar hscalar => cases hscalar.kind.1
  | emptyArray => exact ⟨_, rfl⟩
  | array => exact ⟨_, rfl⟩

/-- What starts like an array is one. -/
theorem Spells.exists_eq_arr {v : Json} {rest : List Char}
    (h : Spells (.value v) ('[' :: rest)) : ∃ values, v = .arr values := by
  cases h with
  | scalar hscalar => cases hscalar.chars '[' List.mem_cons_self
  | string hs => cases hs
  | emptyArray => exact ⟨_, rfl⟩
  | array => exact ⟨_, rfl⟩

/-- What starts like an object is one. -/
theorem Spells.exists_eq_obj {v : Json} {rest : List Char}
    (h : Spells (.value v) ('\x7b' :: rest)) : ∃ fields, v = .obj fields := by
  cases h with
  | scalar hscalar => cases hscalar.chars '\x7b' List.mem_cons_self
  | string hs => cases hs
  | emptyObject => exact ⟨_, rfl⟩
  | object => exact ⟨_, rfl⟩

/-- No part starts with a space. -/
theorem Spells.notStarting {p : Part} {a : List Char} (h : Spells p a) (rest : List Char) :
    NotStarting isSpace (a ++ rest) := by
  obtain ⟨c, more, rfl, hc⟩ := h.exists_cons
  rw [List.cons_append, notStarting_cons]
  simp only [isGap, Bool.or_eq_false_iff] at hc
  exact hc.1.1.1.1

/-- Spaces do not go on with a word or a number. -/
theorem Spaces.notStarting {sp rest : List Char} (hsp : Spaces sp)
    (hrest : NotStarting isScalarChar rest) : NotStarting isScalarChar (sp ++ rest) := by
  apply NotStarting.append _ hrest
  intro c hc
  apply isScalarChar_of_isGap
  rw [isGap, hsp c (List.mem_of_mem_head? hc)]
  rfl

/-- An empty array is read. -/
theorem readValue_emptyArray {fuel : Nat} {tail rest : List Char}
    (h : Json.skipSpaces tail = ']' :: rest) :
    readValue (fuel + 1) ('[' :: tail) = some (.arr [], rest) := by
  rw [readValue, h]
  rfl

/-- An array that is not empty is read item by item. -/
theorem readValue_array {fuel : Nat} {tail more : List Char} {c : Char}
    (h : Json.skipSpaces tail = c :: more) (hc : c ≠ ']') :
    readValue (fuel + 1) ('[' :: tail)
      = (readItems fuel (c :: more)).map fun (items, after) => (.arr items, after) := by
  rw [readValue, h]
  split
  · rename_i heq
    exact absurd (List.cons.inj heq).1 hc
  · rfl

/-- An array is read if its items are. -/
theorem readValue_array_of_items {fuel : Nat} {sp inside rest : List Char} {values : List Json}
    (hsp : Spaces sp) (hinside : Spells (.items values) inside)
    (hread : readItems fuel (inside ++ ']' :: rest) = some (values, rest)) :
    readValue (fuel + 1) ('[' :: (sp ++ (inside ++ [']'])) ++ rest)
      = some (.arr values, rest) := by
  have hskip := skipSpaces_append hsp (hinside.notStarting (']' :: rest))
  obtain ⟨c, more, rfl, hc⟩ := hinside.exists_cons
  -- the items do not start like the end of an empty array
  have hne : c ≠ ']' := by
    rintro rfl
    cases hc
  simp only [List.cons_append, List.append_assoc, List.nil_append] at hskip hread ⊢
  rw [readValue_array hskip hne, hread, Option.map_some]

/-- An empty object is read. -/
theorem readValue_emptyObject {fuel : Nat} {tail rest : List Char}
    (h : Json.skipSpaces tail = '\x7d' :: rest) :
    readValue (fuel + 1) ('\x7b' :: tail) = some (.obj [], rest) := by
  rw [readValue, h]
  rfl

/-- An object that is not empty is read member by member. -/
theorem readValue_object {fuel : Nat} {tail more : List Char} {c : Char}
    (h : Json.skipSpaces tail = c :: more) (hc : c ≠ '\x7d') :
    readValue (fuel + 1) ('\x7b' :: tail)
      = (readMembers fuel (c :: more)).map
          fun (pairs, after) => (.obj (Fields.ofPairs pairs), after) := by
  rw [readValue, h]
  split
  · rename_i heq
    exact absurd (List.cons.inj heq).1 hc
  · rfl

/-- An object is read if its members are. -/
theorem readValue_object_of_members {fuel : Nat} {sp inside rest : List Char}
    {pairs : List (String × Json)} (hsp : Spaces sp) (hinside : Spells (.members pairs) inside)
    (hread : readMembers fuel (inside ++ '\x7d' :: rest) = some (pairs, rest)) :
    readValue (fuel + 1) ('\x7b' :: (sp ++ (inside ++ ['\x7d'])) ++ rest)
      = some (.obj (Fields.ofPairs pairs), rest) := by
  have hskip := skipSpaces_append hsp (hinside.notStarting ('\x7d' :: rest))
  obtain ⟨c, more, rfl, hc⟩ := hinside.exists_cons
  -- the members do not start like the end of an empty object
  have hne : c ≠ '\x7d' := by
    rintro rfl
    cases hc
  simp only [List.cons_append, List.append_assoc, List.nil_append] at hskip hread ⊢
  rw [readValue_object hskip hne, hread, Option.map_some]

/-- A text that starts with a character of a word or a number is read as one. -/
theorem readValue_scalar {fuel : Nat} {c : Char} (hc : isScalarChar c = true)
    (rest : List Char) : readValue (fuel + 1) (c :: rest) = readScalar (c :: rest) := by
  unfold readValue
  split
  · rename_i heq
    rw [(List.cons.inj heq).1] at hc
    cases hc
  · rename_i heq
    rw [(List.cons.inj heq).1] at hc
    cases hc
  · rename_i heq
    rw [(List.cons.inj heq).1] at hc
    cases hc
  · rfl

/-- The last item is read through the bracket. -/
theorem readItems_last {fuel : Nat} {text after rest : List Char} {v : Json}
    (hv : readValue fuel text = some (v, after)) (h : Json.skipSpaces after = ']' :: rest) :
    readItems (fuel + 1) text = some ([v], rest) := by
  rw [readItems, hv]
  simp only [h]

/-- An item is read, and those behind the comma. -/
theorem readItems_cons {fuel : Nat} {text after more rest : List Char} {v : Json}
    {values : List Json} (hv : readValue fuel text = some (v, after))
    (h : Json.skipSpaces after = ',' :: more)
    (hmore : readItems fuel (Json.skipSpaces more) = some (values, rest)) :
    readItems (fuel + 1) text = some (v :: values, rest) := by
  rw [readItems, hv]
  simp only [h, hmore, Option.map_some]

/-- A key is read, and the colon behind it. -/
theorem SpellsKey.reads {start : List Char} {key : String} (h : SpellsKey start key) :
    ∃ tail, start = '"' :: tail ∧ ∀ after, NotStarting isSpace after →
      ∃ mid more, readString (tail ++ after) = some (key, mid)
        ∧ Json.skipSpaces mid = ':' :: more ∧ Json.skipSpaces more = after := by
  obtain ⟨hquoted, hsp, hsp'⟩ := h
  rename_i quoted sp sp'
  obtain ⟨tail, rfl, hread⟩ := hquoted.reads
  refine ⟨tail ++ (sp ++ ':' :: sp'), rfl, ?_⟩
  intro after hafter
  refine ⟨sp ++ ':' :: (sp' ++ after), sp' ++ after, ?_, ?_, ?_⟩
  · rw [← hread]
    simp only [List.append_assoc, List.cons_append]
  · exact skipSpaces_append hsp (notStarting_cons.mpr rfl)
  · exact skipSpaces_append hsp' hafter

/-- The last member is read through the brace. -/
theorem readMembers_last {fuel : Nat} {text mid more after rest : List Char} {key : String}
    {v : Json} (hkey : readString text = some (key, mid))
    (hcolon : Json.skipSpaces mid = ':' :: more)
    (hv : readValue fuel (Json.skipSpaces more) = some (v, after))
    (h : Json.skipSpaces after = '\x7d' :: rest) :
    readMembers (fuel + 1) ('"' :: text) = some ([(key, v)], rest) := by
  simp only [readMembers, hkey, hcolon, hv, h]

/-- No member is read without a value. -/
theorem readMembers_of_none {fuel : Nat} {text mid more : List Char} {key : String}
    (hkey : readString text = some (key, mid)) (hcolon : Json.skipSpaces mid = ':' :: more)
    (hv : readValue fuel (Json.skipSpaces more) = none) :
    readMembers (fuel + 1) ('"' :: text) = none := by
  simp only [readMembers, hkey, hcolon, hv]

/-- A member is read, and those behind the comma. -/
theorem readMembers_cons {fuel : Nat} {text mid more after others rest : List Char}
    {key : String} {v : Json} {pairs : List (String × Json)}
    (hkey : readString text = some (key, mid)) (hcolon : Json.skipSpaces mid = ':' :: more)
    (hv : readValue fuel (Json.skipSpaces more) = some (v, after))
    (h : Json.skipSpaces after = ',' :: others)
    (hmore : readMembers fuel (Json.skipSpaces others) = some (pairs, rest)) :
    readMembers (fuel + 1) ('"' :: text) = some ((key, v) :: pairs, rest) := by
  simp only [readMembers, hkey, hcolon, hv, h, hmore, Option.map_some]

/-- Items are read as they are written: a value, and the others behind a comma. -/
theorem readItems_of_item {fuel : Nat} {text sp sp' more rest : List Char} {v : Json}
    {values : List Json} (hsp : Spaces sp) (hsp' : Spaces sp') (hmore : Spells (.items values) more)
    (hv : readValue fuel (text ++ (sp ++ ',' :: (sp' ++ (more ++ ']' :: rest))))
      = some (v, sp ++ ',' :: (sp' ++ (more ++ ']' :: rest))))
    (hothers : readItems fuel (more ++ ']' :: rest) = some (values, rest)) :
    readItems (fuel + 1) (text ++ (sp ++ ',' :: (sp' ++ more)) ++ ']' :: rest)
      = some (v :: values, rest) := by
  simp only [List.append_assoc, List.cons_append]
  refine readItems_cons hv (skipSpaces_append hsp (notStarting_cons.mpr rfl)) ?_
  rwa [skipSpaces_append hsp' (hmore.notStarting _)]

/-- The last member is read as it is written: a key, its value and the brace. -/
theorem readMembers_of_last {fuel : Nat} {start text sp rest : List Char} {key : String} {v : Json}
    (hkey : SpellsKey start key) (htext : Spells (.value v) text) (hsp : Spaces sp)
    (hv : readValue fuel (text ++ (sp ++ '\x7d' :: rest)) = some (v, sp ++ '\x7d' :: rest)) :
    readMembers (fuel + 1) (start ++ (text ++ sp) ++ '\x7d' :: rest)
      = some ([(key, v)], rest) := by
  obtain ⟨tail, rfl, hstart⟩ := hkey.reads
  obtain ⟨mid, colon, hstring, hmid, hcolon⟩ := hstart _ (htext.notStarting (sp ++ '\x7d' :: rest))
  simp only [List.append_assoc, List.cons_append]
  rw [← hcolon] at hv
  exact readMembers_last hstring hmid hv (skipSpaces_append hsp (notStarting_cons.mpr rfl))

/-- Members are read as they are written: a key, its value, and the others behind a comma. -/
theorem readMembers_of_member {fuel : Nat} {start text sp sp' more rest : List Char} {key : String}
    {v : Json} {pairs : List (String × Json)} (hkey : SpellsKey start key)
    (htext : Spells (.value v) text) (hsp : Spaces sp) (hsp' : Spaces sp')
    (hmore : Spells (.members pairs) more)
    (hv : readValue fuel (text ++ (sp ++ ',' :: (sp' ++ (more ++ '\x7d' :: rest))))
      = some (v, sp ++ ',' :: (sp' ++ (more ++ '\x7d' :: rest))))
    (hothers : readMembers fuel (more ++ '\x7d' :: rest) = some (pairs, rest)) :
    readMembers (fuel + 1) (start ++ (text ++ (sp ++ ',' :: (sp' ++ more))) ++ '\x7d' :: rest)
      = some ((key, v) :: pairs, rest) := by
  obtain ⟨tail, rfl, hstart⟩ := hkey.reads
  obtain ⟨mid, colon, hstring, hmid, hcolon⟩ :=
    hstart _ (htext.notStarting (sp ++ ',' :: (sp' ++ (more ++ '\x7d' :: rest))))
  simp only [List.append_assoc, List.cons_append]
  rw [← hcolon] at hv
  refine readMembers_cons hstring hmid hv (skipSpaces_append hsp (notStarting_cons.mpr rfl)) ?_
  rwa [skipSpaces_append hsp' (hmore.notStarting _)]

/-- The steps that are enough to read a part. -/
def Part.steps (text : List Char) : Part → Nat
  | value _ => 2 * text.length
  | items _ => 2 * text.length + 1
  | members _ => 2 * text.length + 1

/-- To read a part, at least one step is needed. -/
theorem Spells.exists_succ {p : Part} {a : List Char} (h : Spells p a) {fuel : Nat}
    (hfuel : p.steps a ≤ fuel) : ∃ n, fuel = n + 1 := by
  obtain ⟨c, more, rfl, -⟩ := h.exists_cons
  refine Nat.exists_eq_add_one.mpr ?_
  cases p <;> simp only [Part.steps, List.length_cons] at hfuel <;> omega

/-- **Completeness.** A text that stands for a part is read as it with enough steps, unless what
    follows goes on with a word or a number. -/
theorem Spells.reads {p : Part} {a : List Char} (h : Spells p a) :
    ∀ {fuel : Nat} {rest : List Char}, p.steps a ≤ fuel →
      NotStarting isScalarChar (p.closing ++ rest) →
        Part.Reads fuel (a ++ (p.closing ++ rest)) rest p := by
  -- Along the derivation: a step is spent on each part, and what it consists of is shorter.
  induction h with
  | @scalar text v hscalar =>
    intro fuel rest hfuel hrest
    obtain ⟨n, rfl⟩ := (Spells.scalar hscalar).exists_succ hfuel
    obtain ⟨c, more, rfl⟩ := List.exists_cons_of_ne_nil hscalar.ne_nil
    show readValue (n + 1) (c :: more ++ rest) = some (v, rest)
    rw [List.cons_append, readValue_scalar (hscalar.chars c List.mem_cons_self), ← List.cons_append]
    exact hscalar.reads rest hrest
  | @string text s hs =>
    intro fuel rest hfuel _
    obtain ⟨n, rfl⟩ := (Spells.string hs).exists_succ hfuel
    obtain ⟨inside, rfl, hread⟩ := hs.reads
    show readValue (n + 1) ('"' :: inside ++ rest) = some (.str s, rest)
    rw [List.cons_append, readValue, hread rest, Option.map_some]
  | @emptyArray sp hsp =>
    intro fuel rest hfuel _
    obtain ⟨n, rfl⟩ := (Spells.emptyArray hsp).exists_succ hfuel
    show readValue (n + 1) ('[' :: (sp ++ [']']) ++ rest) = some (.arr [], rest)
    rw [List.cons_append, List.append_assoc]
    exact readValue_emptyArray (skipSpaces_append hsp (notStarting_cons.mpr rfl))
  | @array sp inside values hsp hinside ih =>
    intro fuel rest hfuel _
    obtain ⟨n, rfl⟩ := (Spells.array hsp hinside).exists_succ hfuel
    -- the brackets pay for this step and for the first one of the items
    have hread : readItems n (inside ++ ']' :: rest) = some (values, rest) := by
      refine ih ?_ (notStarting_cons.mpr rfl)
      simp only [Part.steps, List.length_cons, List.length_append] at hfuel ⊢
      omega
    exact readValue_array_of_items hsp hinside hread
  | @emptyObject sp hsp =>
    intro fuel rest hfuel _
    obtain ⟨n, rfl⟩ := (Spells.emptyObject hsp).exists_succ hfuel
    show readValue (n + 1) ('\x7b' :: (sp ++ ['\x7d']) ++ rest) = some (.obj [], rest)
    rw [List.cons_append, List.append_assoc]
    exact readValue_emptyObject (skipSpaces_append hsp (notStarting_cons.mpr rfl))
  | @object sp inside pairs hsp hinside ih =>
    intro fuel rest hfuel _
    obtain ⟨n, rfl⟩ := (Spells.object hsp hinside).exists_succ hfuel
    have hread : readMembers n (inside ++ '\x7d' :: rest) = some (pairs, rest) := by
      refine ih ?_ (notStarting_cons.mpr rfl)
      simp only [Part.steps, List.length_cons, List.length_append] at hfuel ⊢
      omega
    exact readValue_object_of_members hsp hinside hread
  | @lastItem text sp v htext hsp ih =>
    intro fuel rest hfuel _
    obtain ⟨n, rfl⟩ := (Spells.lastItem htext hsp).exists_succ hfuel
    have hv : readValue n (text ++ (sp ++ ']' :: rest)) = some (v, sp ++ ']' :: rest) := by
      refine ih ?_ (hsp.notStarting (notStarting_cons.mpr rfl))
      simp only [Part.steps, List.length_append] at hfuel ⊢
      omega
    show readItems (n + 1) (text ++ sp ++ ']' :: rest) = some ([v], rest)
    rw [List.append_assoc]
    exact readItems_last hv (skipSpaces_append hsp (notStarting_cons.mpr rfl))
  | @item text sp sp' more v values htext hsp hsp' hmore ih ihMore =>
    intro fuel rest hfuel _
    obtain ⟨n, rfl⟩ := (Spells.item htext hsp hsp' hmore).exists_succ hfuel
    simp only [Part.steps, List.length_append, List.length_cons] at hfuel ih ihMore
    -- the value stops at the spaces or the comma behind it
    exact readItems_of_item hsp hsp' hmore
      (ih (by omega) (hsp.notStarting (notStarting_cons.mpr rfl)))
      (ihMore (by omega) (notStarting_cons.mpr rfl))
  | @lastMember start text sp key v hkey htext hsp ih =>
    intro fuel rest hfuel _
    obtain ⟨n, rfl⟩ := (Spells.lastMember hkey htext hsp).exists_succ hfuel
    obtain ⟨tail, hstart, -⟩ := hkey.reads
    simp only [Part.steps, List.length_append, hstart, List.length_cons] at hfuel ih
    exact readMembers_of_last hkey htext hsp
      (ih (by omega) (hsp.notStarting (notStarting_cons.mpr rfl)))
  | @member start text sp sp' more key v pairs hkey htext hsp hsp' hmore ih ihMore =>
    intro fuel rest hfuel _
    obtain ⟨n, rfl⟩ := (Spells.member hkey htext hsp hsp' hmore).exists_succ hfuel
    obtain ⟨tail, hstart, -⟩ := hkey.reads
    simp only [Part.steps, List.length_append, hstart, List.length_cons] at hfuel ih ihMore
    exact readMembers_of_member hkey htext hsp hsp' hmore
      (ih (by omega) (hsp.notStarting (notStarting_cons.mpr rfl)))
      (ihMore (by omega) (notStarting_cons.mpr rfl))

/-- An array is read whatever follows, since its bracket ends it. -/
theorem Spells.readValue_of_array {values : List Json} {a : List Char}
    (h : Spells (.value (.arr values)) a) {fuel : Nat} (hfuel : 2 * a.length ≤ fuel)
    (rest : List Char) : readValue fuel (a ++ rest) = some (.arr values, rest) := by
  obtain ⟨n, rfl⟩ := h.exists_succ hfuel
  cases h with
  | scalar hscalar => cases hscalar.kind.1
  | @emptyArray sp hsp =>
    rw [List.cons_append, List.append_assoc]
    exact readValue_emptyArray (skipSpaces_append hsp (notStarting_cons.mpr rfl))
  | @array sp inside _ hsp hinside =>
    have hread : readItems n (inside ++ ']' :: rest) = some (values, rest) := by
      refine hinside.reads ?_ (notStarting_cons.mpr rfl)
      simp only [Part.steps, List.length_cons, List.length_append] at hfuel ⊢
      omega
    exact readValue_array_of_items hsp hinside hread

/-- Of the arrays that a text starts with, there is one at most. -/
theorem Spells.eq_of_append {values values' : List Json} {a b rest rest' : List Char}
    (h : Spells (.value (.arr values)) a) (h' : Spells (.value (.arr values')) b)
    (heq : a ++ rest = b ++ rest') : values = values' ∧ rest = rest' := by
  -- both are read from the same text with as many steps as either needs
  have hread := h.readValue_of_array (Nat.le_add_right (2 * a.length) (2 * b.length)) rest
  have hread' := h'.readValue_of_array (Nat.le_add_left (2 * b.length) (2 * a.length)) rest'
  rw [heq, hread', Option.some.injEq, Prod.mk.injEq, Json.arr.injEq] at hread
  exact ⟨hread.1.symm, hread.2.symm⟩

/-- An array does not go on behind the end of another one. -/
theorem Spells.eq_nil_of_append {values values' : List Json} {a rest : List Char}
    (h : Spells (.value (.arr values)) a) (h' : Spells (.value (.arr values')) (a ++ rest)) :
    rest = [] :=
  (h.eq_of_append h' (List.append_nil _).symm).2

/-! ### Whole texts -/

/-- **Whole texts.** A text is read as a value exactly if it spells that value, spaces around it
    aside. -/
theorem read?_eq_some_iff {text : List Char} {v : Json} :
    read? text = some v ↔
      ∃ sp a sp', Spaces sp ∧ Spaces sp' ∧ Spells (.value v) a ∧ text = sp ++ (a ++ sp') := by
  constructor
  · intro h
    unfold read? at h
    split at h
    · -- nothing but spaces may follow the value
      rename_i value rest hread
      split at h
      · rename_i hrest
        cases h
        obtain ⟨sp, hsp, htext⟩ := exists_spaces text
        obtain ⟨a, ha, hspells⟩ := exists_spells_of_reads _ (.value v) _ _ hread
        rw [ha] at htext
        exact ⟨sp, a, rest, hsp, spaces_of_skipSpaces hrest, hspells, htext⟩
      · cases h
    · cases h
  · rintro ⟨sp, a, sp', hsp, hsp', hspells, rfl⟩
    -- two steps for each character are enough, and nothing that belongs to the value follows it
    have hsteps : 2 * a.length ≤ readFuel (sp ++ (a ++ sp')) := by
      simp only [readFuel, List.length_append]
      omega
    have hstop : NotStarting isScalarChar sp' := by
      have h := hsp'.notStarting (notStarting_nil isScalarChar)
      rwa [List.append_nil] at h
    have hread : readValue (readFuel (sp ++ (a ++ sp'))) (a ++ sp') = some (v, sp') :=
      hspells.reads hsteps hstop
    rw [read?, skipSpaces_append hsp (hspells.notStarting sp'), hread]
    simp only [skipSpaces_of_spaces hsp', List.isEmpty_nil, if_true]

/-- A text that is read consists of a value and spaces around it, and without them the value is read
    as well. -/
theorem exists_spells_of_read? {text : List Char} {v : Json} (h : read? text = some v) :
    ∃ sp a sp', Spaces sp ∧ Spaces sp' ∧ Spells (.value v) a ∧ text = sp ++ (a ++ sp')
      ∧ read? a = some v := by
  obtain ⟨sp, a, sp', hsp, hsp', hspells, htext⟩ := read?_eq_some_iff.mp h
  refine ⟨sp, a, sp', hsp, hsp', hspells, htext, ?_⟩
  exact read?_eq_some_iff.mpr ⟨[], a, [], spaces_nil, spaces_nil, hspells, by simp⟩

/-- A text that is read and has no spaces at its ends stands for its value. -/
theorem spells_of_read? {text : List Char} {v : Json} (h : read? text = some v)
    (hhead : ∀ c, text.head? = some c → isSpace c = false)
    (hlast : ∀ c, text.getLast? = some c → isSpace c = false) : Spells (.value v) text := by
  obtain ⟨sp, a, sp', hsp, hsp', hspells, rfl⟩ := read?_eq_some_iff.mp h
  have hbefore : sp = [] := by
    cases sp with
    | nil => rfl
    | cons c more =>
      have hspace := hsp c List.mem_cons_self
      rw [hhead c rfl] at hspace
      cases hspace
  have hbehind : sp' = [] := by
    rcases List.eq_nil_or_concat sp' with hnil | ⟨more, c, rfl⟩
    · exact hnil
    · have hspace := hsp' c (by simp)
      rw [hlast c (by simp [← List.append_assoc])] at hspace
      cases hspace
  rwa [hbefore, hbehind, List.nil_append, List.append_nil]

/-- **Arrays that are cut off.** No text that an array goes on from stands for a value. -/
theorem read?_of_prefix {values : List Json} {whole text : List Char}
    (h : Spells (.value (.arr values)) whole) (hstart : text <+: whole) (hne : text ≠ whole) :
    read? text = none := by
  cases hread : read? text with
  | none => rfl
  | some v =>
    exfalso
    obtain ⟨sp, a, sp', hsp, -, hspells, rfl⟩ := read?_eq_some_iff.mp hread
    obtain ⟨rest, rfl⟩ := hstart
    -- what comes first is the bracket of the array, and no space
    have hnil : sp = [] := by
      cases sp with
      | nil => rfl
      | cons c more =>
        have hspace := notStarting_cons.mp (h.notStarting [])
        rw [hsp c List.mem_cons_self] at hspace
        cases hspace
    subst hnil
    obtain ⟨c, more, rfl, -⟩ := hspells.exists_cons
    obtain ⟨tail, htail⟩ := h.exists_cons_of_array
    obtain rfl : c = '[' := (List.cons.inj htail).1
    obtain ⟨values', rfl⟩ := hspells.exists_eq_arr
    rw [List.nil_append, List.append_assoc] at h
    have hrest : sp' ++ rest = [] := hspells.eq_nil_of_append h
    rw [(List.append_eq_nil_iff.mp hrest).2, List.append_nil] at hne
    exact hne rfl

/-! ### Objects -/

/-- Only an object has fields. -/
theorem eq_obj_of_obj? {v : Json} {fields : Fields} (h : v.obj? = some fields) :
    v = .obj fields := by
  cases v with
  | obj inner => exact congrArg Json.obj (Option.some.inj h)
  | _ => cases h

/-- A text that is accepted and has fields is accepted as the object with these fields. -/
theorem load_of_isSome {text : List Char} (h : ((accepted? text).bind Json.obj?).isSome = true) :
    load text = .ok (.obj (((accepted? text).bind Json.obj?).get h)) := by
  obtain ⟨v, haccepted, hv⟩ := Option.bind_eq_some_iff.mp (Option.some_get h).symm
  unfold accepted? at haccepted
  cases hload : load text with
  | error fault =>
    rw [hload] at haccepted
    cases haccepted
  | ok w =>
    rw [hload] at haccepted
    cases haccepted
    exact congrArg Except.ok (eq_obj_of_obj? hv)

end PlainScan.Json
