import PlainScan.Proofs.Json.Equality
import PlainScan.Proofs.Reply.Envelope

namespace PlainScan

/-!
# Scattered items

A reply may hold items without an array around them, with any text before, between and behind them
that opens no brace.  Quotes, backslashes and closing braces in that text are not taken for parts of
an item, and an item that cannot be read takes no other one with it.

* `ScatteredItem` — an item, accepted or not, and the text behind it.
* `Scattered` — a reply of such items; `Scattered.objects` are the ones that are accepted.
* `Scattered.chunks_text` — the chunks of such a reply are its items.
* `objectCandidates_scattered_iff` — the reading by braces gives exactly these objects, unless a
  limit is met in an item.
* `exists_objectCandidates_iff` — there is no reply that this does not cover, but for a brace that
    stays open to the end.
-/

/-- An item and the text behind it, which opens no brace.  An item goes from an opening brace to the
    brace that closes it: the text of an object (`ObjectText.balanced`), or a text that cannot be
    read but is balanced. -/
structure ScatteredItem where
  text : List Char
  gap : List Char
  balanced : BraceScan.Balanced text
  ne_of_mem_gap : ∀ c ∈ gap, c ≠ '\x7b'

/-- Items one after another, behind a text that opens no brace. -/
structure Scattered where
  before : List Char
  items : List ScatteredItem
  ne_of_mem_before : ∀ c ∈ before, c ≠ '\x7b'

namespace Scattered

/-- The reply. -/
def text (r : Scattered) : List Char := r.before ++ r.items.flatMap fun i => i.text ++ i.gap

/-- What the items are accepted as, as far as they are. -/
def objects (r : Scattered) : List Json := r.items.filterMap fun i => Json.accepted? i.text

end Scattered

/-! ### The search for braces -/

/-- From items one after another these come out, and the search is outside of braces behind them. -/
theorem run_items (items : List ScatteredItem) :
    BraceScan.after {} (items.flatMap fun i => i.text ++ i.gap) = {}
      ∧ BraceScan.run {} (items.flatMap fun i => i.text ++ i.gap) = items.map (·.text) := by
  induction items with
  | nil => exact ⟨rfl, rfl⟩
  | cons i rest ih =>
    obtain ⟨hafter, hrun⟩ := i.balanced.run_eq
    obtain ⟨hgapAfter, hgapRun⟩ := BraceScan.after_outside i.ne_of_mem_gap
    rw [List.flatMap_cons, BraceScan.after_append, BraceScan.after_append, BraceScan.run_append,
      BraceScan.run_append, BraceScan.after_append, hafter, hgapAfter, hrun, hgapRun, ih.1, ih.2]
    exact ⟨rfl, rfl⟩

namespace Scattered

/-- Behind the reply the search is outside of braces. -/
theorem after_text (r : Scattered) : BraceScan.after {} r.text = {} := by
  rw [text, BraceScan.after_append, (BraceScan.after_outside r.ne_of_mem_before).1,
    (run_items r.items).1]

/-- The chunks of the reply are its items. -/
theorem chunks_text (r : Scattered) : braceChunks r.text = r.items.map (·.text) := by
  rw [braceChunks, text, BraceScan.run_append, (BraceScan.after_outside r.ne_of_mem_before).1,
    (BraceScan.after_outside r.ne_of_mem_before).2, (run_items r.items).2, List.nil_append]

/-- If no limit is met in the items, they are accepted as what they spell. -/
theorem objects_eq {r : Scattered} (h : ∀ i ∈ r.items, Json.WithinLimits i.text) :
    r.objects = (r.items.map (·.text)).filterMap Json.read? := by
  rw [objects, List.filterMap_map]
  refine List.filterMap_congr ?_
  intro i hi
  exact (h i hi).accepted?_eq

/-- What the reading by braces gives, if the items are the chunks. -/
theorem objectCandidates_of_chunks (r : Scattered) {text : List Char}
    (h : braceChunks text = r.items.map (·.text)) {found : Option (List Json)} :
    objectCandidates text = .ok found
      ↔ (∀ i ∈ r.items, Json.WithinLimits i.text)
        ∧ found = if r.objects.isEmpty then none else some r.objects := by
  rw [objectCandidates, map_eq_ok_iff, h]
  constructor
  · rintro ⟨all, hall, rfl⟩
    obtain ⟨hwithin, rfl⟩ := BraceScan.chunkValues_eq_ok_iff.mp hall
    have hitems := List.forall_mem_map.mp hwithin
    exact ⟨hitems, by rw [objects_eq hitems]⟩
  · rintro ⟨hitems, rfl⟩
    refine ⟨r.objects, BraceScan.chunkValues_eq_ok_iff.mpr ⟨?_, objects_eq hitems⟩, rfl⟩
    exact List.forall_mem_map.mpr hitems

end Scattered

/-- **Scattered items.** Read chunk by chunk, a reply gives the objects among its items in their
    order, whatever stands around them and whichever of the other items are malformed, exactly if no
    limit is met in an item.  The reading gives way to none if there is no object. -/
theorem objectCandidates_scattered_iff (r : Scattered) {found : Option (List Json)} :
    objectCandidates r.text = .ok found
      ↔ (∀ i ∈ r.items, Json.WithinLimits i.text)
        ∧ found = if r.objects.isEmpty then none else some r.objects :=
  r.objectCandidates_of_chunks r.chunks_text

/-! ### A reply with stray quotes -/

/-- The text of an object with a quote and both braces in a string. -/
def quotingItem : List Char := "\x7b\"a\":\"\\\"\x7d\x7b\"\x7d".toList

/-- Two objects and a malformed item between them, in text with quotes that nothing closes, a
    backslash and closing braces. -/
def strayQuotes : Scattered where
  before := "\x7d \"".toList
  items :=
    [{ text := quotingItem
       gap := "\\\" \x7d".toList
       balanced := by decide +kernel
       ne_of_mem_gap := ne_of_all_ne (by decide +kernel) },
     { text := brokenItem
       gap := []
       balanced := by decide +kernel
       ne_of_mem_gap := ne_of_all_ne (by decide +kernel) },
     { text := wholeItem
       gap := "\"".toList
       balanced := by decide +kernel
       ne_of_mem_gap := ne_of_all_ne (by decide +kernel) }]
  ne_of_mem_before := ne_of_all_ne (by decide +kernel)

/-- The reading by braces gives both objects. -/
theorem objectCandidates_strayQuotes :
    (∀ i ∈ strayQuotes.items, Json.WithinLimits i.text) ∧
      objectCandidates strayQuotes.text
        = .ok (some [.obj [("a", .str "\"\x7d\x7b")], .obj [("id", .str "a")]]) := by
  have hwithin : ∀ i ∈ strayQuotes.items, Json.WithinLimits i.text := by decide +kernel
  have hobjects : strayQuotes.objects
      = [.obj [("a", .str "\"\x7d\x7b")], .obj [("id", .str "a")]] := by decide +kernel
  exact ⟨hwithin,
    (objectCandidates_scattered_iff strayQuotes).mpr ⟨hwithin, by rw [hobjects]; rfl⟩⟩

/-! ### A reply with a long number -/

/-- The key of a member is passed. -/
theorem passes_memberKey : BraceScan.Passes "\"a\":".toList :=
  BraceScan.passes_key (.colon (.quoted (.plain (by decide) (by decide) .nil) rfl) Json.spaces_nil
    Json.spaces_nil)

/-- An item that breaks off behind an integer of too many digits. -/
def longNumberItem : List Char :=
  Json.memberStart ++ (List.replicate (Json.digitLimit + 1) '1' ++ " oops\x7d".toList)

theorem balanced_longNumberItem : BraceScan.Balanced longNumberItem := by
  have hdigits : BraceScan.Passes (List.replicate (Json.digitLimit + 1) '1') := by
    refine BraceScan.passes_of_forall ?_
    intro c hc
    rw [List.eq_of_mem_replicate hc]
    decide
  have hrest : BraceScan.Passes " oops".toList := BraceScan.passes_of_forall (by simp)
  have hinside := (passes_memberKey.append (hdigits.append hrest)).balanced
  simpa [longNumberItem, Json.memberStart] using hinside

/-- That item and an object behind it. -/
def longNumberReply : Scattered where
  before := "Here: ".toList
  items :=
    [{ text := longNumberItem
       gap := []
       balanced := balanced_longNumberItem
       ne_of_mem_gap := List.forall_mem_nil _ },
     { text := wholeItem
       gap := []
       balanced := by decide +kernel
       ne_of_mem_gap := List.forall_mem_nil _ }]
  ne_of_mem_before := ne_of_all_ne (by decide +kernel)

/-- The reader meets a limit in the first item, which takes the object with it. -/
theorem objectCandidates_longNumberReply :
    longNumberReply.objects = [.obj [("id", .str "a")]] ∧
      objectCandidates longNumberReply.text = .error .digits := by
  have hattempt : Json.attempt longNumberItem = .error .digits :=
    Json.tooManyDigits_ones.attempt_memberStart (notStarting_cons.mpr rfl)
  have hobjects : longNumberReply.objects = [.obj [("id", .str "a")]] := by
    have hwhole : Json.accepted? wholeItem = some (.obj [("id", .str "a")]) := by decide +kernel
    simp [Scattered.objects, longNumberReply, Json.accepted?_of_attempt hattempt, hwhole]
  refine ⟨hobjects, ?_⟩
  have hchunks : braceChunks longNumberReply.text = [longNumberItem, wholeItem] :=
    longNumberReply.chunks_text
  rw [objectCandidates, hchunks, chunkValues, hattempt]
  rfl

/-! ### Any reply -/

namespace Scattered

/-- A reply that opens no brace. -/
def ofGap (gap : List Char) (h : ∀ c ∈ gap, c ≠ '\x7b') : Scattered := ⟨gap, [], h⟩

/-- A reply with one more item and some text before it. -/
def cons (gap core : List Char) (hgap : ∀ c ∈ gap, c ≠ '\x7b') (hcore : BraceScan.Balanced core)
    (r : Scattered) : Scattered :=
  ⟨gap, ⟨core, r.before, hcore, r.ne_of_mem_before⟩ :: r.items, hgap⟩

theorem text_ofGap (gap : List Char) (h : ∀ c ∈ gap, c ≠ '\x7b') : (ofGap gap h).text = gap := by
  simp [ofGap, text]

theorem text_cons (gap core : List Char) (hgap : ∀ c ∈ gap, c ≠ '\x7b')
    (hcore : BraceScan.Balanced core) (r : Scattered) :
    (r.cons gap core hgap hcore).text = gap ++ (core ++ r.text) := by
  simp [cons, text]

end Scattered

/-- Every text consists of scattered items, and perhaps a rest of which nothing comes out since its
    first brace is not closed. -/
theorem exists_scattered (text : List Char) :
    ∃ (r : Scattered) (rest : List Char), text = r.text ++ rest ∧ BraceScan.run {} rest = [] := by
  -- Along the items: behind the first one there is less text.
  induction hlength : text.length using Nat.strong_induction_on generalizing text with
  | _ n ih =>
    by_cases hbrace : '\x7b' ∈ text
    · obtain ⟨gap, more, rfl, hgap⟩ := List.eq_append_cons_of_mem hbrace
      have hne : ∀ c ∈ gap, c ≠ '\x7b' := fun c hc heq => hgap (heq ▸ hc)
      by_cases hrun : BraceScan.opened.run more = []
      · exact ⟨.ofGap gap hne, '\x7b' :: more, by rw [Scattered.text_ofGap], hrun⟩
      · obtain ⟨core, behind, hcore, hbalanced⟩ := BraceScan.exists_balanced_append hrun
        obtain ⟨mid, hmid, -, -⟩ := hbalanced.exists_inside
        have hshorter : behind.length < n := by
          rw [← hlength, hcore, hmid]
          simp only [List.length_append, List.length_cons]
          omega
        obtain ⟨r, rest, hbehind, hrest⟩ := ih behind.length hshorter behind rfl
        refine ⟨r.cons gap core hne hbalanced, rest, ?_, hrest⟩
        rw [hcore, hbehind, Scattered.text_cons]
        simp only [List.append_assoc]
    · refine ⟨.ofGap text fun c hc heq => hbrace (heq ▸ hc), [], ?_, rfl⟩
      rw [Scattered.text_ofGap, List.append_nil]

/-- **Any reply.** Whatever a reply is, the reading by braces gives the objects among the items
    scattered over it, unless a limit is met in one of them. -/
theorem exists_objectCandidates_iff (text : List Char) :
    ∃ (r : Scattered) (rest : List Char), text = r.text ++ rest ∧ BraceScan.run {} rest = []
      ∧ ∀ found, objectCandidates text = .ok found
        ↔ (∀ i ∈ r.items, Json.WithinLimits i.text)
          ∧ found = if r.objects.isEmpty then none else some r.objects := by
  obtain ⟨r, rest, rfl, hrest⟩ := exists_scattered text
  refine ⟨r, rest, rfl, hrest, fun found => r.objectCandidates_of_chunks ?_⟩
  rw [braceChunks, BraceScan.run_append, r.after_text, hrest, List.append_nil]
  exact r.chunks_text

end PlainScan
