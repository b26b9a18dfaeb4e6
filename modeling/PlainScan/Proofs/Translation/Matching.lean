import Mathlib.Data.List.Nodup
import PlainScan.Proofs.Reply.Surrounded
import PlainScan.Proofs.Translation.Accounts
import PlainScan.Proofs.Translation.Good
import PlainScan.Proofs.Translation.Pairing

namespace PlainScan

/-!
# Complete replies

A reply is complete if each finding has one item with its identifier and three good texts.  Then all
of it is used, whatever else the reply says, and in whatever order.

* `Answer` — an item that carries an identifier and three texts.
* `CompleteReply` — an array in prose with one answer for each finding, among other items.
* `candidatesFor_of_carried` — where all identifiers are carried, places do not count.
* `CompleteReply.candidatesFor_items` — each finding is given its own answer.
* `translatePanel_complete_iff` — the translation consists of the texts of the answers, unless the
  reader meets a limit in the reply.
-/

/-! ### Answers -/

/-- An item that carries an identifier and three texts, none of them blank. -/
structure Answer where
  item : Json
  id : String
  plain : String
  context : String
  reflection : String
  id_eq : namedId? item = some id
  plain_eq : item.field? "plainLanguage" = some (.str plain)
  context_eq : item.field? "context" = some (.str context)
  reflection_eq : item.field? "reflection" = some (.str reflection)
  not_blank : ∀ text ∈ [plain, context, reflection], Text.isBlankText text.toList = false

namespace Answer

/-- A finding in the words of an answer. -/
def translate (a : Answer) (raw : RawFinding) : TranslatedFinding where
  id := raw.id
  panel := raw.panel
  plainLanguage := .str (shownText a.plain)
  context := shownText a.context
  importance := raw.severity.importance
  reflection := shownText a.reflection
  commonApproaches := approachesOf a.item
  note := none

/-- The text of a field that an answer has. -/
theorem shown_of_field? {a : Answer} {key text : String} (h : a.item.field? key = some (.str text))
    (hmem : text ∈ [a.plain, a.context, a.reflection]) :
    shownText? (a.item.fieldD key) = some (shownText text) := by
  rw [Json.fieldD, h, Option.getD_some, shownText?_str (a.not_blank text hmem)]

/-- An answer is good enough for every finding. -/
theorem validateCandidate_item (a : Answer) (raw : RawFinding) :
    validateCandidate a.item raw = some (a.translate raw) := by
  rw [validateCandidate, Json.isObject_of_field? a.plain_eq, shown_of_field? a.plain_eq (by simp),
    shown_of_field? a.context_eq (by simp), shown_of_field? a.reflection_eq (by simp)]
  rfl

end Answer

/-! ### Matching by identifiers -/

/-- **Places.** Where every identifier is carried by a candidate, each finding is given the first
    candidate that carries its own, and no place counts. -/
theorem candidatesFor_of_carried {ids : List String} {candidates : List Json}
    (h : ∀ id ∈ ids, (candidates.find? (names id)).isSome = true) :
    candidatesFor ids candidates = ids.map fun id => candidates.find? (names id) := by
  -- the first candidate that carries the identifier is the finding's own
  have hfound : ∀ p ∈ ids.zipIdx,
      (ownPlace? ids candidates p.2 p.1).bind (fun place => candidates[place]?)
        = candidates.find? (names p.1) := by
    intro p hp
    have hid : p.1 ∈ ids := by
      rw [← List.zipIdx_map_fst 0 ids]
      exact List.mem_map_of_mem hp
    have hsome := h p.1 hid
    rw [← getElem?_findIdx?] at hsome ⊢
    unfold ownPlace?
    cases hplace : candidates.findIdx? (names p.1) with
    | none => rw [hplace] at hsome; cases hsome
    | some place => rfl
  calc candidatesFor ids candidates
      = ids.zipIdx.map fun p => candidates.find? (names p.1) := by
        rw [candidatesFor, placesFor_eq, List.map_map]
        exact List.map_congr_left hfound
    _ = (ids.zipIdx.map Prod.fst).map fun id => candidates.find? (names id) := by
        rw [List.map_map]
        rfl
    _ = ids.map fun id => candidates.find? (names id) := by rw [List.zipIdx_map_fst]

/-- The only candidate that carries an identifier is the first that does. -/
theorem find?_names {id : String} {candidates : List Json} {c : Json} (hmem : c ∈ candidates)
    (hnamed : namedId? c = some id) (honly : ∀ d ∈ candidates, namedId? d = some id → d = c) :
    candidates.find? (names id) = some c := by
  cases hfind : candidates.find? (names id) with
  | none =>
    have hnot := List.find?_eq_none.mp hfind c hmem
    rw [names, hnamed, beq_self_eq_true] at hnot
    exact absurd rfl hnot
  | some d =>
    have hd : names id d = true := List.find?_some hfind
    rw [honly d (List.mem_of_find?_eq_some hfind) (eq_of_beq hd)]

/-! ### Complete replies -/

/-- An array in prose that holds one answer for each finding, in any order and among items that
    carry the identifier of none. -/
structure CompleteReply (findings : List RawFinding) where
  reply : ArrayInProse
  answers : List Answer
  others : List Json
  ids_eq : answers.map Answer.id = findings.map RawFinding.id
  perm : reply.items.Perm (answers.map Answer.item ++ others)
  not_carried : ∀ other ∈ others, carriesId (findings.map RawFinding.id) other = false

namespace CompleteReply

variable {findings : List RawFinding}

/-- The findings in the words of their answers. -/
def translated (c : CompleteReply findings) : List TranslatedFinding :=
  List.zipWith (fun raw (a : Answer) => a.translate raw) findings c.answers

/-- The reply after its items have been put in another order, or into other prose. -/
def repackage (c : CompleteReply findings) (other : ArrayInProse)
    (h : other.items.Perm c.reply.items) : CompleteReply findings where
  reply := other
  answers := c.answers
  others := c.others
  ids_eq := c.ids_eq
  perm := h.trans c.perm
  not_carried := c.not_carried

/-- The identifier of an answer is that of a finding. -/
theorem id_mem (c : CompleteReply findings) {a : Answer} (ha : a ∈ c.answers) :
    a.id ∈ findings.map RawFinding.id := by
  rw [← c.ids_eq]
  exact List.mem_map_of_mem ha

/-- If the identifiers differ, an answer is the first item that carries its own. -/
theorem find?_items (c : CompleteReply findings) (hids : (findings.map RawFinding.id).Nodup)
    {a : Answer} (ha : a ∈ c.answers) : c.reply.items.find? (names a.id) = some a.item := by
  have hmem : a.item ∈ c.reply.items := by
    rw [c.perm.mem_iff]
    exact List.mem_append_left _ (List.mem_map_of_mem ha)
  refine find?_names hmem a.id_eq ?_
  intro d hd hnamed
  rw [c.perm.mem_iff, List.mem_append] at hd
  rcases hd with hd | hd
  · -- another answer has another identifier
    obtain ⟨b, hb, rfl⟩ := List.mem_map.mp hd
    rw [b.id_eq, Option.some.injEq] at hnamed
    rw [← c.ids_eq] at hids
    rw [List.inj_on_of_nodup_map hids hb ha hnamed]
  · have hnot := c.not_carried d hd
    rw [carriesId, hnamed] at hnot
    simp only [List.contains_eq_mem, c.id_mem ha, decide_true, Bool.true_eq_false] at hnot

/-- **Its own answer.** Each finding is given the answer with its identifier. -/
theorem candidatesFor_items (c : CompleteReply findings)
    (hids : (findings.map RawFinding.id).Nodup) :
    candidatesFor (findings.map RawFinding.id) c.reply.items
      = c.answers.map fun a => some a.item := by
  rw [candidatesFor_of_carried, ← c.ids_eq, List.map_map]
  · apply List.map_congr_left
    intro a ha
    exact c.find?_items hids ha
  · intro id hid
    rw [← c.ids_eq] at hid
    obtain ⟨a, ha, rfl⟩ := List.mem_map.mp hid
    rw [c.find?_items hids ha]
    rfl

/-- There is an answer for each finding. -/
theorem length_answers (c : CompleteReply findings) : findings.length = c.answers.length := by
  have h := congrArg List.length c.ids_eq
  rw [List.length_map, List.length_map] at h
  exact h.symm

/-- As many findings are translated as there are. -/
theorem length_translated (c : CompleteReply findings) :
    c.translated.length = findings.length := by
  rw [translated, List.length_zipWith, ← c.length_answers, Nat.min_self]

/-- No finding that is translated carries a note. -/
theorem isFallback_translated (c : CompleteReply findings) :
    ∀ f ∈ c.translated, f.isFallback = false := by
  intro f hf
  rw [translated, ← List.map_uncurry_zip_eq_zipWith] at hf
  obtain ⟨⟨raw, a⟩, -, rfl⟩ := List.mem_map.mp hf
  rfl

/-- The candidates of the reply are the items of its array, unless a limit is met. -/
theorem candidatesOf_reply_iff (c : CompleteReply findings) {found : List Json} :
    candidatesOf c.reply.text = .ok found
      ↔ Json.WithinLimits c.reply.text ∧ found = c.reply.items :=
  candidatesOf_of_slice_iff (fun _ h => c.reply.eq_of_read? h) c.reply.sliceCandidates_text

/-- Every finding is translated. -/
theorem mapFindings_items (c : CompleteReply findings)
    (hids : (findings.map RawFinding.id).Nodup) :
    mapFindings translateOne
        (findings.zip (candidatesFor (findings.map RawFinding.id) c.reply.items))
      = .ok c.translated := by
  rw [c.candidatesFor_items hids, List.zip_map_right, mapFindings_map, mapFindings_eq_ok_iff,
    translated, ← List.map_uncurry_zip_eq_zipWith, List.forall₂_map_right_iff, List.forall₂_same]
  rintro ⟨raw, a⟩ -
  show translateOne (raw, some a.item) = .ok (a.translate raw)
  rw [translateOne, Option.bind_some, a.validateCandidate_item]

/-- The translation by a complete reply. -/
def translation (c : CompleteReply findings) (panel : Panel) : PanelTranslation where
  panel := panel
  status := .success
  findings := c.translated
  reason := none
  truncated := false
  countBefore := findings.length
  translatedCount := findings.length

/-- The text of the reply is what counts, and it is not blank. -/
theorem text_blocks (c : CompleteReply findings) {parts : List ReplyBlock}
    (h : replyText parts = c.reply.text) :
    (ModelReply.blocks parts).text = .ok c.reply.text := by
  have hbracket : '[' ∈ c.reply.text := by
    obtain ⟨inside, harray⟩ := c.reply.exists_inside
    rw [ArrayInProse.text, harray]
    simp
  have hblank : Text.isBlankText c.reply.text = false :=
    List.all_eq_false.mpr ⟨'[', hbracket, Bool.false_ne_true⟩
  rw [ModelReply.text, h]
  simp only [hblank, Bool.false_eq_true, if_false]

/-- The items of a complete reply translate all findings. -/
theorem translateBy_items (c : CompleteReply findings) (hids : (findings.map RawFinding.id).Nodup)
    (panel : Panel) :
    translateBy panel ⟨findings, false, findings.length⟩ c.reply.items
      = .ok (c.translation panel) := by
  have hcount : (c.translated.filter fun f => !f.isFallback).length = findings.length := by
    rw [List.filter_eq_self.mpr, c.length_translated]
    intro f hf
    rw [c.isFallback_translated f hf]
    rfl
  unfold translateBy
  simp only [c.mapFindings_items hids, hcount, outcomeOf, if_true]
  rfl

/-- All of a complete reply is used, unless a limit is met in it. -/
theorem translatePanel_eq_ok_iff (c : CompleteReply findings) {config : Config}
    {access : ModelAccess} {model : Panel → ModelReply} {panel : Panel} {parts : List ReplyBlock}
    (hne : findings ≠ []) (hmax : findings.length ≤ config.maxFindingsPerPanel)
    (hids : (findings.map RawFinding.id).Nodup) (haccess : access ≠ .none)
    (hmodel : model panel = .blocks parts) (htext : replyText parts = c.reply.text)
    {t : PanelTranslation} :
    (translatePanel config access model panel findings).result = .ok t
      ↔ Json.WithinLimits c.reply.text ∧ t = c.translation panel := by
  have hempty : ¬ findings.isEmpty = true := by rwa [List.isEmpty_iff]
  have hresult : (translatePanel config access model panel findings).result
      = translateWith panel ⟨findings, false, findings.length⟩ c.reply.text := by
    unfold translatePanel
    rw [if_neg hempty, keepGravest, if_pos hmax]
    simp only [haccess, if_false, hmodel, c.text_blocks htext]
  rw [hresult, translateWith]
  cases hfound : candidatesOf c.reply.text with
  | ok found =>
    obtain ⟨hwithin, rfl⟩ := c.candidatesOf_reply_iff.mp hfound
    simp only [c.translateBy_items hids, Except.ok.injEq, hwithin, true_and]
    exact eq_comm
  | error limit =>
    simp only [reduceCtorEq, false_iff, not_and]
    intro hwithin
    rw [c.candidatesOf_reply_iff.mpr ⟨hwithin, rfl⟩] at hfound
    cases hfound

end CompleteReply

/-- **Complete replies.** If findings with different identifiers are few enough to be kept and the
    reply is complete, then the translation succeeds, and each finding is in the words of the answer
    with its own identifier; only a limit of the reader can prevent it.  Another order of the items,
    and other prose around them, change nothing but whether a limit is met. -/
theorem translatePanel_complete_iff {findings : List RawFinding} (c : CompleteReply findings)
    {config : Config} {access : ModelAccess} {model : Panel → ModelReply} {panel : Panel}
    {parts : List ReplyBlock} (hne : findings ≠ [])
    (hmax : findings.length ≤ config.maxFindingsPerPanel)
    (hids : (findings.map RawFinding.id).Nodup) (haccess : access ≠ .none)
    (hmodel : model panel = .blocks parts) (htext : replyText parts = c.reply.text) :
    (∀ t, (translatePanel config access model panel findings).result = .ok t
        ↔ Json.WithinLimits c.reply.text ∧ t =
            { panel := panel
              status := .success
              findings := List.zipWith (fun raw (a : Answer) => a.translate raw) findings c.answers
              reason := none
              truncated := false
              countBefore := findings.length
              translatedCount := findings.length })
      ∧ ∀ (other : ArrayInProse) (model' : Panel → ModelReply) (parts' : List ReplyBlock),
          other.items.Perm c.reply.items → model' panel = .blocks parts' →
          replyText parts' = other.text →
            ∀ t, (translatePanel config access model' panel findings).result = .ok t
              ↔ Json.WithinLimits other.text ∧ t = c.translation panel := by
  refine ⟨fun t => c.translatePanel_eq_ok_iff hne hmax hids haccess hmodel htext, ?_⟩
  intro other model' parts' hperm hmodel' htext' t
  exact (c.repackage other hperm).translatePanel_eq_ok_iff hne hmax hids haccess hmodel' htext'

/-- An answer of an identifier and three texts. -/
def Answer.ofTexts (id plain context reflection : String)
    (h : ∀ text ∈ [plain, context, reflection], Text.isBlankText text.toList = false) :
    Answer where
  item := .obj [("id", .str id), ("plainLanguage", .str plain), ("context", .str context),
    ("reflection", .str reflection)]
  id := id
  plain := plain
  context := context
  reflection := reflection
  id_eq := rfl
  plain_eq := rfl
  context_eq := rfl
  reflection_eq := rfl
  not_blank := h

/-- The answer for the first finding, with blanks around its context. -/
def answerForLow : Answer := .ofTexts "a" "P" " C " "R" (by decide +kernel)

/-- The answer for the second finding. -/
def answerForHigh : Answer := .ofTexts "b" "Q" "D" "S" (by decide +kernel)

/-- The answers in reverse, with a number between them and prose around them. -/
def inReverse : CompleteReply lowThenHigh where
  reply :=
    { before := "Sure: ".toList
      array := ("[\x7b\"id\": \"b\", \"plainLanguage\": \"Q\", \"context\": \"D\", "
        ++ "\"reflection\": \"S\"\x7d, 7, \x7b\"id\": \"a\", \"plainLanguage\": \"P\", "
        ++ "\"context\": \" C \", \"reflection\": \"R\"\x7d]").toList
      behind := " \x7b".toList
      items := [answerForHigh.item, .int 7, answerForLow.item]
      load_eq := by decide +kernel
      head_eq := by decide +kernel
      last_eq := by decide +kernel
      ne_of_mem_before := fun c hc =>
        ⟨ne_of_all_ne (by decide +kernel) c hc, ne_of_all_ne (by decide +kernel) c hc⟩
      ne_of_mem_behind := ne_of_all_ne (by decide +kernel) }
  answers := [answerForLow, answerForHigh]
  others := [.int 7]
  ids_eq := rfl
  perm := @List.perm_append_comm Json [answerForHigh.item, .int 7] [answerForLow.item]
  not_carried := by
    intro other hother
    rw [List.mem_singleton.mp hother]
    rfl

/-- The reply of one block with a given text. -/
def replyOf (text : List Char) : List ReplyBlock := [⟨true, String.ofList text⟩]

theorem replyText_replyOf (text : List Char) : replyText (replyOf text) = text := by
  simp [replyText, replyOf]

/-- Each of two findings is in the words of its own answer although the answers come in reverse. -/
theorem translatePanel_complete_inReverse :
    lowThenHigh ≠ [] ∧ lowThenHigh.length ≤ ({} : Config).maxFindingsPerPanel ∧
      (lowThenHigh.map RawFinding.id).Nodup ∧ ModelAccess.given ≠ .none ∧
      replyText (replyOf inReverse.reply.text) = inReverse.reply.text ∧
      Json.WithinLimits inReverse.reply.text ∧
      (translatePanel {} .given (fun _ => .blocks (replyOf inReverse.reply.text)) .secrets
          lowThenHigh).result.map (fun t => (t.status, t.findings.map fun f => (f.id, f.context)))
        = .ok (.success, [("a", "C"), ("b", "D")]) := by
  have hne : lowThenHigh ≠ [] := List.cons_ne_nil _ _
  have hmax : lowThenHigh.length ≤ ({} : Config).maxFindingsPerPanel := by decide +kernel
  have hids : (lowThenHigh.map RawFinding.id).Nodup := by decide +kernel
  have haccess : ModelAccess.given ≠ .none := by decide
  have htext := replyText_replyOf inReverse.reply.text
  have hwithin : Json.WithinLimits inReverse.reply.text :=
    Json.withinLimits_of_length (by decide +kernel)
  refine ⟨hne, hmax, hids, haccess, htext, hwithin, ?_⟩
  rw [((translatePanel_complete_iff inReverse hne hmax hids haccess rfl htext).1 _).mpr
    ⟨hwithin, rfl⟩]
  rfl

/-- There is no translation where the reader meets a limit in the reply. -/
theorem translatePanel_of_limit {config : Config} {access : ModelAccess}
    {model : Panel → ModelReply} {panel : Panel} {findings : List RawFinding} {text : List Char}
    {limit : Json.ReadLimit} (hne : findings ≠ []) (haccess : access ≠ .none)
    (htext : (model panel).text = .ok text) (hlimit : candidatesOf text = .error limit) :
    (translatePanel config access model panel findings).result = .error (.unreadable limit) := by
  simp [translatePanel, translateWith, hne, haccess, htext, hlimit]

/-- The same reply with an integer of too many digits before the array. -/
def behindLongNumber : CompleteReply lowThenHigh :=
  inReverse.repackage inReverse.reply.behindLongNumber (List.Perm.refl _)

/-- There is no translation by that reply, as the reader meets a limit in its prose. -/
theorem translatePanel_behindLongNumber :
    (translatePanel {} .given (fun _ => .blocks (replyOf behindLongNumber.reply.text)) .secrets
      lowThenHigh).result = .error (.unreadable .digits) :=
  translatePanel_of_limit (List.cons_ne_nil _ _) (by decide)
    (behindLongNumber.text_blocks (replyText_replyOf _))
    inReverse.reply.candidatesOf_behindLongNumber

end PlainScan
