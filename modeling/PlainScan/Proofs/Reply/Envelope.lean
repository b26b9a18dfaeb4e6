import PlainScan.Proofs.Json.Equality
import PlainScan.Proofs.Json.Limits
import PlainScan.Proofs.Reply.Array

namespace PlainScan

/-!
# Malformed items

Some items of an array may not be readable although their braces are balanced.  The array comes by
itself, or an object wraps it under one of the keys that are looked for.

* `IsMalformed`, `IsElement` — an item that cannot be read, and any item.
* `Envelope` — an array by itself, or wrapped.
* `readValue_arrayText` — no array with a malformed item can be read.
* `candidatesOf_bare`, `candidatesOf_under` — what the candidates are in both cases.
* `candidatesOf_envelope_iff` — when they are the items that can be read.
-/

/-! ### Items -/

/-- A text that spells an object. -/
def IsObjectText (text : List Char) : Prop := ∃ fields, Json.read? text = some (.obj fields)

/-- What is accepted as an object spells one. -/
theorem isObjectText_of_load {text : List Char} {fields : Fields}
    (h : Json.load text = .ok (.obj fields)) : IsObjectText text := ⟨fields, Json.read?_of_load h⟩

/-- A text with balanced braces that spells no value. -/
structure IsMalformed (text : List Char) : Prop where
  balanced : BraceScan.Balanced text
  read_eq : Json.read? text = none

/-- The text of an object, or a malformed one. -/
def IsElement (text : List Char) : Prop := IsObjectText text ∨ IsMalformed text

/-- No text is both. -/
theorem IsMalformed.not_isObjectText {text : List Char} (h : IsMalformed text) :
    ¬ IsObjectText text := by
  rintro ⟨fields, hread⟩
  rw [h.read_eq] at hread
  cases hread

/-- An item is a balanced text with spaces around it, which make no difference when it is read. -/
theorem IsElement.exists_core {text : List Char} (h : IsElement text) :
    ∃ sp core sp', Json.Spaces sp ∧ Json.Spaces sp' ∧ BraceScan.Balanced core
      ∧ text = sp ++ (core ++ sp') ∧ Json.read? core = Json.read? text := by
  rcases h with ⟨fields, hread⟩ | hmalformed
  · obtain ⟨sp, core, sp', hsp, hsp', hspells, htext, hcore⟩ := Json.exists_spells_of_read? hread
    exact ⟨sp, core, sp', hsp, hsp', BraceScan.balanced_of_spells hspells, htext,
      hcore.trans hread.symm⟩
  · exact ⟨[], text, [], Json.spaces_nil, Json.spaces_nil, hmalformed.balanced, by simp, rfl⟩

/-! ### Items are passed, or found -/

/-- Outside of braces, an item that can be read is found in its own text, and nothing else is. -/
theorem IsElement.finds {text : List Char} (h : IsElement text) :
    BraceScan.Finds text ([text].filterMap Json.read?) := by
  rcases h with ⟨fields, hread⟩ | hmalformed
  · rw [List.filterMap_cons_some hread, List.filterMap_nil]
    exact BraceScan.finds_of_read? hread
  · exact hmalformed.balanced.finds

/-- Inside of braces an item is passed. -/
theorem IsElement.passes {text : List Char} (h : IsElement text) : BraceScan.Passes text := by
  obtain ⟨sp, core, sp', hsp, hsp', hbalanced, rfl, -⟩ := h.exists_core
  exact (BraceScan.passes_spaces hsp).append
    (hbalanced.passes.append (BraceScan.passes_spaces hsp'))

/-- Of items one after another, those are found that can be read. -/
theorem finds_items {texts : List (List Char)} (h : ∀ e ∈ texts, IsElement e) :
    BraceScan.Finds (itemGap.intercalate texts) (texts.filterMap Json.read?) := by
  induction texts with
  | nil => exact ⟨rfl, rfl⟩
  | cons e rest ih =>
    rw [List.forall_mem_cons] at h
    cases rest with
    | nil =>
      rw [List.intercalate_singleton]
      exact h.1.finds
    | cons other more =>
      have hgap := BraceScan.finds_outside ne_brace_of_itemGap
      have hall := (h.1.finds.append hgap).append (ih h.2)
      rw [List.append_nil, ← List.filterMap_append] at hall
      rwa [List.intercalate_cons_cons]

/-- The brackets of an array are outside of braces. -/
theorem finds_arrayText {texts : List (List Char)} (h : ∀ e ∈ texts, IsElement e) :
    BraceScan.Finds (arrayText texts) (texts.filterMap Json.read?) := by
  have hopen : BraceScan.Finds ['['] [] := BraceScan.finds_outside (by simp)
  have hclose : BraceScan.Finds [']'] [] := BraceScan.finds_outside (by simp)
  simpa [arrayText] using hopen.append ((finds_items h).append hclose)

/-- An array of items is passed. -/
theorem passes_arrayText {texts : List (List Char)} (h : ∀ e ∈ texts, IsElement e) :
    BraceScan.Passes (arrayText texts) := by
  have hopen : BraceScan.Passes ['['] :=
    BraceScan.passes_singleton (by decide) (by decide) (by decide)
  have hclose : BraceScan.Passes [']'] :=
    BraceScan.passes_singleton (by decide) (by decide) (by decide)
  have hgap : BraceScan.Passes itemGap := BraceScan.passes_of_forall (by simp [itemGap])
  -- item by item, with the gaps between them
  have hitems : BraceScan.Passes (itemGap.intercalate texts) := by
    induction texts with
    | nil => exact BraceScan.passes_nil
    | cons e rest ih =>
      rw [List.forall_mem_cons] at h
      cases rest with
      | nil =>
        rw [List.intercalate_singleton]
        exact h.1.passes
      | cons other more =>
        rw [List.intercalate_cons_cons]
        exact (h.1.passes.append hgap).append (ih h.2)
  exact hopen.append (hitems.append hclose)

/-! ### No array -/

/-- Where an item is expected, reading starts at its opening brace. -/
theorem IsElement.skipSpaces_append {text : List Char} (h : IsElement text) :
    ∃ core sp', BraceScan.Balanced core ∧ Json.Spaces sp' ∧ Json.read? core = Json.read? text
      ∧ ∀ tail, Json.skipSpaces (text ++ tail) = core ++ (sp' ++ tail) := by
  obtain ⟨sp, core, sp', hsp, hsp', hbalanced, rfl, hread⟩ := h.exists_core
  refine ⟨core, sp', hbalanced, hsp', hread, ?_⟩
  intro tail
  obtain ⟨mid, rfl, -, -⟩ := hbalanced.exists_inside
  rw [List.append_assoc, List.append_assoc]
  exact Json.skipSpaces_append hsp (notStarting_cons.mpr rfl)

/-- If a value is read where an item is, then the item is the text of an object, and what follows
    the value follows the item. -/
theorem IsElement.isObjectText_of_spells {text a behind tail : List Char} {v : Json}
    (h : IsElement text) (hspells : Json.Spells (.value v) a)
    (heq : a ++ behind = Json.skipSpaces (text ++ tail)) :
    IsObjectText text ∧ Json.skipSpaces behind = Json.skipSpaces tail := by
  obtain ⟨core, sp', hbalanced, hsp', hread, hskip⟩ := h.skipSpaces_append
  rw [hskip tail] at heq
  -- the value starts with a brace, so it is an object, and no other balanced text starts here
  obtain ⟨c, more, rfl, -⟩ := hspells.exists_cons
  obtain ⟨mid, rfl, -, -⟩ := hbalanced.exists_inside
  obtain rfl : c = '\x7b' := (List.cons.inj heq).1
  obtain ⟨fields, rfl⟩ := hspells.exists_eq_obj
  have hsame := (BraceScan.balanced_of_spells hspells).eq_of_append hbalanced heq
  rw [hsame] at heq hspells
  constructor
  · refine ⟨fields, hread.symm.trans ?_⟩
    exact Json.read?_eq_some_iff.mpr
      ⟨[], _, [], Json.spaces_nil, Json.spaces_nil, hspells, by simp⟩
  · rw [List.append_cancel_left heq]
    exact List.dropWhile_append_of_pos hsp'

/-- If items are read where the given ones are, then these are all texts of objects. -/
theorem isObjectText_of_spells_items {texts : List (List Char)} (h : ∀ e ∈ texts, IsElement e)
    {inside behind tail : List Char} {values : List Json}
    (hspells : Json.Spells (.items values) inside)
    (heq : inside ++ ']' :: behind
      = Json.skipSpaces (itemGap.intercalate texts ++ ']' :: tail)) :
    ∀ e ∈ texts, IsObjectText e := by
  -- Along the given items: each of them is read as the next value.
  induction texts generalizing inside values with
  | nil =>
    intro e he
    cases he
  | cons e rest ih =>
    rw [List.forall_mem_cons] at h
    rw [List.forall_mem_cons]
    cases rest with
    | nil =>
      rw [List.intercalate_singleton] at heq
      have hfirst : IsObjectText e := by
        cases hspells with
        | lastItem hvalue _ =>
          rw [List.append_assoc] at heq
          exact (h.1.isObjectText_of_spells hvalue heq).1
        | item hvalue _ _ _ =>
          rw [List.append_assoc] at heq
          exact (h.1.isObjectText_of_spells hvalue heq).1
      refine ⟨hfirst, ?_⟩
      intro other hother
      cases hother
    | cons other more =>
      rw [List.intercalate_cons_cons, List.append_assoc, List.append_assoc] at heq
      cases hspells with
      | lastItem hvalue hsp =>
        -- a comma follows the item, and not the bracket
        rw [List.append_assoc] at heq
        obtain ⟨-, hskip⟩ := h.1.isObjectText_of_spells hvalue heq
        rw [Json.skipSpaces_append hsp (notStarting_cons.mpr rfl)] at hskip
        cases hskip
      | item hvalue hsp hsp' hmore =>
        rw [List.append_assoc, List.append_assoc, List.cons_append, List.append_assoc] at heq
        obtain ⟨hfirst, hskip⟩ := h.1.isObjectText_of_spells hvalue heq
        rw [Json.skipSpaces_append hsp (notStarting_cons.mpr rfl)] at hskip
        have htail := congrArg Json.skipSpaces (List.cons.inj hskip).2
        rw [Json.skipSpaces_append hsp' (hmore.notStarting _)] at htail
        exact ⟨hfirst, ih h.2 hmore htail⟩

/-- What starts with an item starts with a brace. -/
theorem skipSpaces_items {e : List Char} (h : IsElement e) (rest : List (List Char))
    (tail : List Char) :
    ∃ more, Json.skipSpaces (itemGap.intercalate (e :: rest) ++ tail) = '\x7b' :: more := by
  obtain ⟨core, sp', hbalanced, -, -, hskip⟩ := h.skipSpaces_append
  obtain ⟨mid, rfl, -, -⟩ := hbalanced.exists_inside
  cases rest with
  | nil =>
    rw [List.intercalate_singleton, hskip]
    exact ⟨_, rfl⟩
  | cons other more =>
    rw [List.intercalate_cons_cons, List.append_assoc, List.append_assoc, hskip]
    exact ⟨_, rfl⟩

/-- **No array.** Where an array has a malformed item, no value is read, whatever follows. -/
theorem readValue_arrayText {texts : List (List Char)} (h : ∀ e ∈ texts, IsElement e)
    (hmalformed : ∃ e ∈ texts, IsMalformed e) (fuel : Nat) (rest : List Char) :
    Json.readValue fuel (arrayText texts ++ rest) = none := by
  cases hread : Json.readValue fuel (arrayText texts ++ rest) with
  | none => rfl
  | some found =>
    exfalso
    obtain ⟨v, behind⟩ := found
    obtain ⟨e, he, hbad⟩ := hmalformed
    obtain ⟨a, (htext : _ = a ++ behind), hspells⟩ :=
      Json.exists_spells_of_reads fuel (.value v) _ _ hread
    have hbracket : arrayText texts ++ rest
        = '[' :: (itemGap.intercalate texts ++ ']' :: rest) := by
      rw [arrayText, List.cons_append, List.append_assoc, List.singleton_append]
    -- what is spelled starts with the bracket, so it is an array, and all of its items can be read
    obtain ⟨c, more, rfl, -⟩ := hspells.exists_cons
    rw [hbracket, List.cons_append] at htext
    obtain ⟨rfl, hmore⟩ := List.cons.inj htext
    obtain ⟨values, rfl⟩ := hspells.exists_eq_arr
    have hskip := congrArg Json.skipSpaces hmore
    cases hspells with
    | scalar hscalar => cases hscalar.kind.1
    | emptyArray hsp =>
      -- there is an item, hence something between the brackets
      cases texts with
      | nil => cases he
      | cons first others =>
        obtain ⟨inside, hinside⟩ :=
          skipSpaces_items (h first List.mem_cons_self) others (']' :: rest)
        rw [hinside, List.append_assoc, List.singleton_append,
          Json.skipSpaces_append hsp (notStarting_cons.mpr rfl)] at hskip
        cases hskip
    | array hsp hinside =>
      rw [List.append_assoc, List.append_assoc,
        Json.skipSpaces_append hsp (hinside.notStarting _)] at hskip
      exact hbad.not_isObjectText (isObjectText_of_spells_items h hinside hskip.symm e he)

/-! ### Envelopes -/

/-- A key of an object with its colon. -/
def keyText (key : String) : List Char := ('"' :: (key.toList ++ ['"'])) ++ [':', ' ']

/-- What an array comes in. -/
inductive Envelope where
  | bare
  | under (key : String) (mem : key ∈ envelopeKeys)

/-- An array of items in its envelope. -/
def Envelope.text (texts : List (List Char)) : Envelope → List Char
  | bare => arrayText texts
  | under key _ => '\x7b' :: ((keyText key ++ arrayText texts) ++ ['\x7d'])

/-- The key of an envelope is the key of a member. -/
theorem spellsKey_keyText {key : String} (h : key ∈ envelopeKeys) :
    Json.SpellsKey (keyText key) key := by
  have hread : ∀ key ∈ envelopeKeys,
      Json.readString (key.toList ++ ['"']) = some (key, []) := by decide +kernel
  obtain ⟨quoted, hquoted, hspells⟩ := Json.exists_spellsString (hread key h)
  rw [List.append_nil] at hquoted
  rw [← hquoted] at hspells
  exact .colon hspells Json.spaces_nil Json.spaces_singleton

/-- No bracket stands before the array. -/
theorem ne_bracket_of_keyText {key : String} (h : key ∈ envelopeKeys) :
    ∀ c ∈ '\x7b' :: keyText key, c ≠ '[' := by
  have hall : ∀ key ∈ envelopeKeys, ('\x7b' :: keyText key).all (· != '[') = true := by
    decide +kernel
  intro c hc
  exact bne_iff_ne.mp (List.all_eq_true.mp (hall key h) c hc)

/-- Between the outermost brackets stands the array, in all envelopes. -/
theorem Envelope.outermost_text (envelope : Envelope) (texts : List (List Char)) :
    outermost (envelope.text texts) = arrayText texts := by
  have hslice : ∀ before after : List Char, (∀ c ∈ before, c ≠ '[') → (∀ c ∈ after, c ≠ ']') →
      outermost (before ++ (arrayText texts ++ after)) = arrayText texts := by
    intro before after hbefore hafter
    rw [arrayText, List.cons_append, List.append_assoc, List.singleton_append]
    exact outermost_append hbefore hafter _
  cases envelope with
  | bare => simpa [text] using hslice [] [] (List.forall_mem_nil _) (List.forall_mem_nil _)
  | under key hkey =>
    simpa [text] using hslice ('\x7b' :: keyText key) ['\x7d'] (ne_bracket_of_keyText hkey)
      (by simp)

/-- An array with a malformed item cannot be read. -/
theorem read?_arrayText {texts : List (List Char)} (h : ∀ e ∈ texts, IsElement e)
    (hmalformed : ∃ e ∈ texts, IsMalformed e) : Json.read? (arrayText texts) = none := by
  have hread := readValue_arrayText h hmalformed (Json.readFuel (arrayText texts)) []
  rw [List.append_nil] at hread
  have hskip : Json.skipSpaces (arrayText texts) = arrayText texts := rfl
  rw [Json.read?, hskip, hread]

/-- An object that wraps such an array cannot be read either. -/
theorem read?_under {key : String} (hkey : key ∈ envelopeKeys) {texts : List (List Char)}
    (h : ∀ e ∈ texts, IsElement e) (hmalformed : ∃ e ∈ texts, IsMalformed e) :
    Json.read? ((Envelope.under key hkey).text texts) = none := by
  obtain ⟨tail, hstart, hreads⟩ := (spellsKey_keyText hkey).reads
  obtain ⟨mid, more, hstring, hcolon, hmore⟩ :=
    hreads (arrayText texts ++ ['\x7d']) (notStarting_cons.mpr rfl)
  have htext : (Envelope.under key hkey).text texts
      = '\x7b' :: '"' :: (tail ++ (arrayText texts ++ ['\x7d'])) := by
    rw [Envelope.text, hstart, List.append_assoc, List.cons_append]
  -- the key is read, but there is no value behind its colon
  have hmembers : ∀ fuel, Json.readMembers (fuel + 1)
      ('"' :: (tail ++ (arrayText texts ++ ['\x7d']))) = none := by
    intro fuel
    refine Json.readMembers_of_none hstring hcolon ?_
    rw [hmore, readValue_arrayText h hmalformed]
  have hvalue : ∀ fuel, Json.readValue (fuel + 2)
      ('\x7b' :: '"' :: (tail ++ (arrayText texts ++ ['\x7d']))) = none := by
    intro fuel
    rw [Json.readValue_object (c := '"') rfl (by decide), hmembers fuel, Option.map_none]
  have hskip : ∀ rest, Json.skipSpaces ('\x7b' :: rest) = '\x7b' :: rest := fun _ => rfl
  rw [htext, Json.read?, hskip, Json.readFuel, hvalue]

/-! ### Candidates -/

/-- **By itself.** Of an array with a malformed item, the candidates are the items that can be
    read, if no limit is met. -/
theorem candidatesOf_bare {texts : List (List Char)} (h : ∀ e ∈ texts, IsElement e)
    (hmalformed : ∃ e ∈ texts, IsMalformed e) {found : List Json} :
    candidatesOf (Envelope.bare.text texts) = .ok found
      ↔ ReadsWithinLimits (Envelope.bare.text texts) ∧ found = texts.filterMap Json.read? := by
  have hread : Json.read? (Envelope.bare.text texts) = none := read?_arrayText h hmalformed
  have hslice : Json.read? (outermost (Envelope.bare.text texts)) = none := by
    rw [Envelope.outermost_text, read?_arrayText h hmalformed]
  have hvalues : (braceChunks (Envelope.bare.text texts)).filterMap Json.read?
      = texts.filterMap Json.read? := (finds_arrayText h).filterMap_run
  rw [candidatesOf_eq_chunks_iff hread hslice, hvalues]

/-- **Wrapped.** An object around such an array has no candidates: it is the only chunk. -/
theorem candidatesOf_under {key : String} (hkey : key ∈ envelopeKeys) {texts : List (List Char)}
    (h : ∀ e ∈ texts, IsElement e) (hmalformed : ∃ e ∈ texts, IsMalformed e) {found : List Json} :
    candidatesOf ((Envelope.under key hkey).text texts) = .ok found
      ↔ ReadsWithinLimits ((Envelope.under key hkey).text texts) ∧ found = [] := by
  have hread := read?_under hkey h hmalformed
  have hslice : Json.read? (outermost ((Envelope.under key hkey).text texts)) = none := by
    rw [Envelope.outermost_text, read?_arrayText h hmalformed]
  have hpasses : BraceScan.Passes (keyText key ++ arrayText texts) :=
    (BraceScan.passes_key (spellsKey_keyText hkey)).append (passes_arrayText h)
  have hchunks : braceChunks ((Envelope.under key hkey).text texts)
      = [(Envelope.under key hkey).text texts] := hpasses.balanced.run_eq.2
  rw [candidatesOf_eq_chunks_iff hread hslice, hchunks, List.filterMap_cons_none hread,
    List.filterMap_nil]

/-- **Envelopes.** Where some items of an array can be read and some cannot, the candidates are the
    ones that can exactly if the array comes by itself and no limit is met while it is read.  If it
    is wrapped there are none. -/
theorem candidatesOf_envelope_iff (envelope : Envelope) {texts : List (List Char)}
    (h : ∀ e ∈ texts, IsElement e) (hmalformed : ∃ e ∈ texts, IsMalformed e)
    (hobject : ∃ e ∈ texts, IsObjectText e) :
    (candidatesOf (envelope.text texts) = .ok (texts.filterMap Json.read?)
        ↔ envelope = .bare ∧ ReadsWithinLimits (envelope.text texts))
      ∧ (envelope ≠ .bare → ∀ found, candidatesOf (envelope.text texts) = .ok found
        ↔ ReadsWithinLimits (envelope.text texts) ∧ found = []) := by
  cases envelope with
  | bare =>
    rw [candidatesOf_bare h hmalformed]
    refine ⟨⟨fun ⟨hreads, _⟩ => ⟨rfl, hreads⟩, fun ⟨_, hreads⟩ => ⟨hreads, rfl⟩⟩, ?_⟩
    intro hne
    exact absurd rfl hne
  | under key hkey =>
    refine ⟨iff_of_false ?_ fun ⟨heq, _⟩ => Envelope.noConfusion heq,
      fun _ found => candidatesOf_under hkey h hmalformed⟩
    -- one of the items can be read
    obtain ⟨e, he, fields, hread⟩ := hobject
    intro heq
    have hmem : Json.obj fields ∈ texts.filterMap Json.read? :=
      List.mem_filterMap.mpr ⟨e, he, hread⟩
    rw [((candidatesOf_under hkey h hmalformed).mp heq).2] at hmem
    cases hmem

/-! ### An item that is broken off -/

/-- The text of an object. -/
def wholeItem : List Char := "\x7b\"id\":\"a\"\x7d".toList

/-- A text that is broken off behind a comma. -/
def brokenItem : List Char := "\x7b\"id\":\"b\", broken\x7d".toList

theorem isObjectText_wholeItem : IsObjectText wholeItem :=
  isObjectText_of_load (Json.load_of_isSome (by decide +kernel))

theorem isMalformed_brokenItem : IsMalformed brokenItem where
  balanced := by decide +kernel
  read_eq := by decide +kernel

/-- An array of the two holds nothing else. -/
theorem isElement_of_mem_items : ∀ e ∈ [wholeItem, brokenItem], IsElement e := by
  simp only [List.forall_mem_cons, List.not_mem_nil, false_imp_iff, implies_true, and_true]
  exact ⟨.inl isObjectText_wholeItem, .inr isMalformed_brokenItem⟩

/-- By itself, such an array has the whole item as its only candidate. -/
theorem candidatesOf_bare_items :
    (∀ e ∈ [wholeItem, brokenItem], IsElement e) ∧
      (∃ e ∈ [wholeItem, brokenItem], IsMalformed e) ∧
      (∃ e ∈ [wholeItem, brokenItem], IsObjectText e) ∧
      candidatesOf (Envelope.bare.text [wholeItem, brokenItem])
        = .ok ([wholeItem, brokenItem].filterMap Json.read?) := by
  have hmalformed : ∃ e ∈ [wholeItem, brokenItem], IsMalformed e :=
    ⟨brokenItem, by simp, isMalformed_brokenItem⟩
  have hobject : ∃ e ∈ [wholeItem, brokenItem], IsObjectText e :=
    ⟨wholeItem, by simp, isObjectText_wholeItem⟩
  have hreads : ReadsWithinLimits (Envelope.bare.text [wholeItem, brokenItem]) :=
    ⟨Json.withinLimits_of_length (by decide +kernel),
      Json.withinLimits_of_length (by decide +kernel), by decide +kernel⟩
  refine ⟨isElement_of_mem_items, hmalformed, hobject, ?_⟩
  exact (candidatesOf_envelope_iff .bare isElement_of_mem_items hmalformed hobject).1.mpr
    ⟨rfl, hreads⟩

/-- Wrapped as findings, it has none. -/
theorem candidatesOf_under_items_ne :
    (∀ e ∈ [wholeItem, brokenItem], IsElement e) ∧ IsObjectText wholeItem ∧
      IsMalformed brokenItem ∧
      candidatesOf ((Envelope.under "findings" (by decide)).text [wholeItem, brokenItem])
        ≠ .ok ([wholeItem, brokenItem].filterMap Json.read?) := by
  refine ⟨isElement_of_mem_items, isObjectText_wholeItem, isMalformed_brokenItem, ?_⟩
  intro heq
  have hnone := ((candidatesOf_under (by decide) isElement_of_mem_items
    ⟨brokenItem, by simp, isMalformed_brokenItem⟩).mp heq).2
  have hone : ([wholeItem, brokenItem].filterMap Json.read?).length = 1 := by decide +kernel
  rw [hnone] at hone
  cases hone

end PlainScan
