import Mathlib.Data.List.Nodup
import PlainScan.Translation.Validation

namespace PlainScan

/-!
# How findings and candidates are paired

Findings are given candidates one after the other, and the candidates that were given away are kept
in mind.  What a finding is given can all the same be told without regard to the others: the first
candidate that carries its identifier, or else the one at its own place, if that is no one's.

* `lookup_namedPlaces` — where the first candidate stands that carries an identifier.
* `ownPlace?` — the place of the candidate of one finding, told by itself.
* `placesFor_eq` — one finding after the other or each by itself, the places are the same.
* `IsPairing` — how given candidates belong to findings; `candidatesFor_isPairing` — they do if the
  identifiers of the findings differ.
-/

/-- Whether a candidate carries an identifier. -/
def names (id : String) (candidate : Json) : Bool := namedId? candidate == some id

/-! ### Named candidates -/

section Named

variable {ids : List String}

/-- A candidate that carries one of the identifiers counts unless an earlier one carries it. -/
theorem lookup_noteName {id : String} (hid : id ∈ ids) (named : List (String × Nat)) (c : Json)
    (place : Nat) :
    (noteName ids named (c, place)).lookup id
      = (named.lookup id).or (if names id c then some place else none) := by
  unfold noteName names
  cases hc : namedId? c with
  | none => simp
  | some carried =>
    dsimp only
    by_cases hsame : carried = id
    · subst hsame
      -- the identifier is noted, or it was noted before
      cases hold : named.lookup carried with
      | none => simp [hid, hold, List.lookup_append]
      | some earlier => simp [hold]
    · have hother : (id == carried) = false := beq_false_of_ne (Ne.symm hsame)
      split
      · simp [List.lookup_append, List.lookup_cons, hother, hsame]
      · simp [hsame]

/-- What is noted of some more candidates: for each identifier that was not noted before, the first
    of them that carries it. -/
theorem lookup_foldl_noteName {id : String} (hid : id ∈ ids) (candidates : List Json)
    (named : List (String × Nat)) (start : Nat) :
    ((candidates.zipIdx start).foldl (noteName ids) named).lookup id
      = (named.lookup id).or ((candidates.findIdx? (names id)).map (start + ·)) := by
  induction candidates generalizing named start with
  | nil => simp
  | cons c rest ih =>
    rw [List.zipIdx_cons, List.foldl_cons, ih, lookup_noteName hid, Option.or_assoc,
      List.findIdx?_cons]
    congr 1
    by_cases hc : names id c = true
    · simp [hc]
    · simp [hc, Option.map_map, Function.comp_def, Nat.add_assoc, Nat.add_comm 1]

/-- **Names.** For the identifier of a finding the first candidate is noted that carries it. -/
theorem lookup_namedPlaces {id : String} (hid : id ∈ ids) (candidates : List Json) :
    (namedPlaces ids candidates).lookup id = candidates.findIdx? (names id) := by
  rw [namedPlaces, lookup_foldl_noteName hid]
  simp

/-- A candidate carries one of the identifiers exactly if it carries one of them. -/
theorem carriesId_iff {c : Json} :
    carriesId ids c = true ↔ ∃ id ∈ ids, namedId? c = some id := by
  unfold carriesId
  cases namedId? c <;> simp

/-- What is noted are places of candidates that carry one of the identifiers. -/
theorem carriesId_of_mem_foldl {candidates : List (Json × Nat)} {named : List (String × Nat)}
    {e : String × Nat} (h : e ∈ candidates.foldl (noteName ids) named) :
    e ∈ named ∨ ∃ c, (c, e.2) ∈ candidates ∧ carriesId ids c = true := by
  induction candidates generalizing named with
  | nil => exact .inl h
  | cons entry rest ih =>
    rcases ih h with hnoted | ⟨c, hc, hcarries⟩
    · unfold noteName at hnoted
      split at hnoted
      · rename_i id hnamed
        split at hnoted
        · rename_i hnew
          rcases List.mem_append.mp hnoted with hold | hnow
          · exact .inl hold
          · obtain rfl := List.mem_singleton.mp hnow
            rw [Bool.and_eq_true, List.contains_iff_mem] at hnew
            exact .inr ⟨entry.1, List.mem_cons_self, carriesId_iff.mpr ⟨id, hnew.1, hnamed⟩⟩
        · exact .inl hnoted
      · exact .inl hnoted
    · exact .inr ⟨c, List.mem_cons_of_mem entry hc, hcarries⟩

end Named

/-! ### Places -/

section Places

variable {ids : List String} {candidates : List Json}

/-- The place of the candidate of the finding at `index`: that of the first candidate which carries
    its identifier, or else its own if the candidate there is no one's. -/
def ownPlace? (ids : List String) (candidates : List Json) (index : Nat) (id : String) :
    Option Nat :=
  match candidates.findIdx? (names id) with
  | some place => some place
  | none => if isFree ids candidates [] index then some index else none

/-- What has been given away before a finding has its turn stands at an earlier place, or is someone
    else's. -/
def GivenBefore (ids : List String) (candidates : List Json) (used : List Nat) (index : Nat) :
    Prop :=
  ∀ place ∈ used, place < index ∨ ∃ c, candidates[place]? = some c ∧ carriesId ids c = true

/-- The candidates that are named are someone's. -/
theorem givenBefore_named (index : Nat) :
    GivenBefore ids candidates ((namedPlaces ids candidates).map (·.2)) index := by
  intro place hplace
  obtain ⟨e, he, rfl⟩ := List.mem_map.mp hplace
  rcases carriesId_of_mem_foldl he with hnil | ⟨c, hc, hcarries⟩
  · exact absurd hnil List.not_mem_nil
  · exact .inr ⟨c, List.mem_zipIdx_iff_getElem?.mp hc, hcarries⟩

theorem GivenBefore.next {used : List Nat} {index : Nat}
    (h : GivenBefore ids candidates used index) :
    GivenBefore ids candidates used (index + 1) :=
  fun place hplace => (h place hplace).imp Nat.lt_succ_of_lt id

theorem GivenBefore.give {used : List Nat} {index : Nat}
    (h : GivenBefore ids candidates used index) :
    GivenBefore ids candidates (index :: used) (index + 1) := by
  intro place hplace
  rcases List.mem_cons.mp hplace with rfl | hused
  · exact .inl (Nat.lt_succ_self place)
  · exact h.next place hused

/-- What has been given away does not matter to a finding that has its turn. -/
theorem GivenBefore.isFree_eq {used : List Nat} {index : Nat}
    (h : GivenBefore ids candidates used index) :
    isFree ids candidates used index = isFree ids candidates [] index := by
  unfold isFree
  by_cases hused : index ∈ used
  · rcases h index hused with hlt | ⟨c, hc, hcarries⟩
    · exact absurd hlt (Nat.lt_irrefl index)
    · -- a candidate that was given away by name is not free anyway
      rw [hc]
      cases c <;> simp [hcarries]
  · simp [hused]

/-- One finding after the other is given the candidate that it would be given by itself. -/
theorem placesFrom_eq {findings : List String} {used : List Nat} {start : Nat}
    (hids : ∀ id ∈ findings, id ∈ ids) (hused : GivenBefore ids candidates used start) :
    placesFrom ids candidates (namedPlaces ids candidates) used (findings.zipIdx start)
      = (findings.zipIdx start).map fun e => ownPlace? ids candidates e.2 e.1 := by
  induction findings generalizing used start with
  | nil => rfl
  | cons id rest ih =>
    have hrest : ∀ id ∈ rest, id ∈ ids := fun id hid => hids id (List.mem_cons_of_mem _ hid)
    rw [List.zipIdx_cons, placesFrom, List.map_cons, ownPlace?,
      lookup_namedPlaces (hids id List.mem_cons_self), hused.isFree_eq]
    cases candidates.findIdx? (names id) with
    | some place =>
      dsimp only
      rw [ih hrest hused.next]
    | none =>
      dsimp only
      split
      · rw [ih hrest hused.give]
      · rw [ih hrest hused.next]

/-- **By itself.** Each finding is given the candidate that it would be given by itself. -/
theorem placesFor_eq (ids : List String) (candidates : List Json) :
    placesFor ids candidates = ids.zipIdx.map fun e => ownPlace? ids candidates e.2 e.1 :=
  placesFrom_eq (fun _ hid => hid) (givenBefore_named 0)

/-- The place of the candidate of the finding with some number. -/
theorem getElem?_placesFor {index : Nat} {id : String} (h : ids[index]? = some id) :
    (placesFor ids candidates)[index]? = some (ownPlace? ids candidates index id) := by
  rw [placesFor_eq, List.getElem?_map, List.getElem?_zipIdx, h]
  simp

/-- The candidate at the place where the first one stands that carries an identifier. -/
theorem getElem?_findIdx? (p : Json → Bool) (candidates : List Json) :
    (candidates.findIdx? p).bind (fun place => candidates[place]?) = candidates.find? p := by
  induction candidates with
  | nil => rfl
  | cons c rest ih =>
    rw [List.findIdx?_cons, List.find?_cons]
    cases p c with
    | true => rfl
    | false => simpa [Option.bind_map, Function.comp_def] using ih

/-- A place is free exactly if a candidate stands there that is not null and no one's. -/
theorem isFree_iff {index : Nat} :
    isFree ids candidates [] index = true ↔
      ∃ c, candidates[index]? = some c ∧ c ≠ .null ∧ ∀ id ∈ ids, namedId? c ≠ some id := by
  have hcarries : ∀ c, carriesId ids c = false ↔ ∀ id ∈ ids, namedId? c ≠ some id := by
    intro c
    rw [← Bool.not_eq_true, carriesId_iff]
    simp
  unfold isFree
  cases hc : candidates[index]? with
  | none => simp
  | some c => cases c <;> simp [← hcarries]

end Places

/-! ### Pairings -/

/-- How given candidates belong to findings: what each finding is given, and that nothing is given
    away twice. -/
structure IsPairing (findings : List RawFinding) (candidates : List Json)
    (given : List (Option Json)) : Prop where
  length_eq : given.length = findings.length
  /-- The first candidate that carries the identifier of a finding is given to it. -/
  named : ∀ (i : Nat) (f : RawFinding) c, findings[i]? = some f →
    candidates.find? (names f.id) = some c → given[i]? = some (some c)
  /-- If there is none, the candidate at the place of the finding is, if it is no one's. -/
  placed : ∀ (i : Nat) (f : RawFinding) c, findings[i]? = some f →
    (∀ d ∈ candidates, namedId? d ≠ some f.id) → candidates[i]? = some c → c ≠ .null →
    (∀ g ∈ findings, namedId? c ≠ some g.id) → given[i]? = some (some c)
  /-- Otherwise nothing is given to it. -/
  nothing : ∀ (i : Nat) (f : RawFinding), findings[i]? = some f →
    (∀ d ∈ candidates, namedId? d ≠ some f.id) →
    (∀ c, candidates[i]? = some c → c = .null ∨ ∃ g ∈ findings, namedId? c = some g.id) →
    given[i]? = some none
  /-- What carries the identifier of a finding is given to no other. -/
  own : ∀ (i j : Nat) (g : RawFinding) c, given[i]? = some (some c) → findings[j]? = some g →
    namedId? c = some g.id → i = j
  /-- No place of a candidate is used for two findings. -/
  apart : ∃ places : List (Option Nat),
    given = places.map (fun place? => place?.bind fun place => candidates[place]?)
      ∧ (∀ place, some place ∈ places → place < candidates.length)
      ∧ ∀ (i j : Nat) place, places[i]? = some (some place) → places[j]? = some (some place) → i = j

section Given

variable {ids : List String} {candidates : List Json} {i j place : Nat} {id : String}

/-- What a finding is given, told by itself. -/
theorem getElem?_candidatesFor (h : ids[i]? = some id) :
    (candidatesFor ids candidates)[i]?
      = some ((ownPlace? ids candidates i id).bind fun place => candidates[place]?) := by
  rw [candidatesFor, List.getElem?_map, getElem?_placesFor h, Option.map_some]

/-- A finding that is named is given the first candidate that names it. -/
theorem candidatesFor_of_find? {c : Json} (h : ids[i]? = some id)
    (hc : candidates.find? (names id) = some c) :
    (candidatesFor ids candidates)[i]? = some (some c) := by
  rw [getElem?_candidatesFor h, ownPlace?, ← hc, ← getElem?_findIdx?]
  cases hfound : candidates.findIdx? (names id) with
  | none => rw [← getElem?_findIdx?, hfound] at hc; cases hc
  | some place => rfl

/-- A finding that is not named is given the candidate at its own place if that is free. -/
theorem candidatesFor_of_not_named (h : ids[i]? = some id)
    (hnone : ∀ d ∈ candidates, namedId? d ≠ some id) :
    (candidatesFor ids candidates)[i]?
      = some (if isFree ids candidates [] i then candidates[i]? else none) := by
  have hfound : candidates.findIdx? (names id) = none := by
    rw [List.findIdx?_eq_none_iff]
    simpa only [names, beq_eq_false_iff_ne] using hnone
  rw [getElem?_candidatesFor h, ownPlace?, hfound]
  dsimp only
  split
  · rfl
  · rfl

/-- A candidate stands at the place that a finding is given: it carries the identifier of the
    finding, or the place is that of the finding and the candidate is no one's. -/
theorem candidate_of_ownPlace? (h : ownPlace? ids candidates i id = some place) :
    ∃ c, candidates[place]? = some c ∧
      (namedId? c = some id ∨ place = i ∧ ∀ other ∈ ids, namedId? c ≠ some other) := by
  unfold ownPlace? at h
  split at h
  · rename_i found hfound
    obtain rfl : found = place := Option.some.inj h
    obtain ⟨hlt, hnames, -⟩ := List.findIdx?_eq_some_iff_getElem.mp hfound
    exact ⟨candidates[found], List.getElem?_eq_getElem hlt, .inl (eq_of_beq hnames)⟩
  · split at h
    · rename_i hfree
      obtain rfl : i = place := Option.some.inj h
      obtain ⟨c, hc, -, hnone⟩ := isFree_iff.mp hfree
      exact ⟨c, hc, .inr ⟨rfl, hnone⟩⟩
    · cases h

/-- A place that is used is that of the candidate of some finding. -/
theorem exists_of_getElem?_placesFor (h : (placesFor ids candidates)[i]? = some (some place)) :
    ∃ id, ids[i]? = some id ∧ ownPlace? ids candidates i id = some place := by
  rw [placesFor_eq, List.getElem?_map] at h
  obtain ⟨e, he, hplace⟩ := Option.map_eq_some_iff.mp h
  rw [List.getElem?_zipIdx] at he
  obtain ⟨id, hid, rfl⟩ := Option.map_eq_some_iff.mp he
  simp only [Nat.zero_add] at hplace
  exact ⟨id, hid, hplace⟩

/-- What is given to a finding carries its identifier or that of none. -/
theorem named_of_given {c : Json} (h : (candidatesFor ids candidates)[i]? = some (some c)) :
    ∃ id, ids[i]? = some id ∧
      (namedId? c = some id ∨ ∀ other ∈ ids, namedId? c ≠ some other) := by
  obtain ⟨hlt, -⟩ := List.getElem?_eq_some_iff.mp h
  rw [length_candidatesFor] at hlt
  have hid := List.getElem?_eq_getElem hlt
  rw [getElem?_candidatesFor hid, Option.some.injEq] at h
  obtain ⟨place, hplace, hc⟩ := Option.bind_eq_some_iff.mp h
  obtain ⟨d, hd, hwhy⟩ := candidate_of_ownPlace? hplace
  obtain rfl : c = d := Option.some.inj (hc.symm.trans hd)
  exact ⟨ids[i], hid, hwhy.imp id And.right⟩

/-- Different identifiers stand at different places. -/
theorem eq_of_getElem?_eq (hids : ids.Nodup) (hi : ids[i]? = some id) (hj : ids[j]? = some id) :
    i = j :=
  (List.getElem?_inj (List.getElem?_eq_some_iff.mp hi).1 hids).mp (hi.trans hj.symm)

/-- What carries the identifier of a finding is given to no other. -/
theorem eq_of_given {c : Json} (hids : ids.Nodup)
    (h : (candidatesFor ids candidates)[i]? = some (some c)) (hj : ids[j]? = some id)
    (hnamed : namedId? c = some id) : i = j := by
  obtain ⟨own, hi, hown | hno⟩ := named_of_given h
  · rw [hnamed, Option.some.injEq] at hown
    exact eq_of_getElem?_eq hids (hown ▸ hi) hj
  · exact absurd hnamed (hno id (List.mem_of_getElem? hj))

/-- No place is used for two findings. -/
theorem eq_of_placesFor (hids : ids.Nodup)
    (hi : (placesFor ids candidates)[i]? = some (some place))
    (hj : (placesFor ids candidates)[j]? = some (some place)) : i = j := by
  obtain ⟨one, hone, hplace⟩ := exists_of_getElem?_placesFor hi
  obtain ⟨other, hother, hplace'⟩ := exists_of_getElem?_placesFor hj
  obtain ⟨c, hc, hwhy⟩ := candidate_of_ownPlace? hplace
  obtain ⟨d, hd, hwhy'⟩ := candidate_of_ownPlace? hplace'
  obtain rfl : c = d := Option.some.inj (hc.symm.trans hd)
  rcases hwhy with hnamed | ⟨rfl, hfree⟩
  · rcases hwhy' with hnamed' | ⟨-, hfree'⟩
    · -- one candidate carries one identifier
      rw [hnamed, Option.some.injEq] at hnamed'
      exact eq_of_getElem?_eq hids hone (hnamed' ▸ hother)
    · exact absurd hnamed (hfree' one (List.mem_of_getElem? hone))
  · rcases hwhy' with hnamed' | ⟨hplace, -⟩
    · exact absurd hnamed' (hfree other (List.mem_of_getElem? hother))
    · exact hplace

end Given

/-- **Pairing.** Findings with different identifiers are paired with candidates: each is given the
    first candidate that carries its identifier, or else the one at its own place if it is no one's,
    or nothing; and no candidate is given away twice. -/
theorem candidatesFor_isPairing {findings : List RawFinding}
    (hids : (findings.map RawFinding.id).Nodup) (candidates : List Json) :
    IsPairing findings candidates (candidatesFor (findings.map RawFinding.id) candidates) := by
  -- places among the identifiers are places among the findings
  have hid : ∀ {i : Nat} {f : RawFinding}, findings[i]? = some f →
      (findings.map RawFinding.id)[i]? = some f.id := by
    intro i f hf
    rw [List.getElem?_map, hf, Option.map_some]
  refine ⟨?_, ?_, ?_, ?_, ?_, placesFor (findings.map RawFinding.id) candidates, rfl, ?_, ?_⟩
  · rw [length_candidatesFor, List.length_map]
  · intro i f c hf hc
    exact candidatesFor_of_find? (hid hf) hc
  · intro i f c hf hnone hc hnull hno
    -- no finding is named by the candidate, so its place is free
    have hfree := isFree_iff.mpr ⟨c, hc, hnull, List.forall_mem_map.mpr hno⟩
    rw [candidatesFor_of_not_named (hid hf) hnone, if_pos hfree, hc]
  · intro i f hf hnone hno
    rw [candidatesFor_of_not_named (hid hf) hnone, if_neg]
    intro hfree
    obtain ⟨c, hc, hnull, hall⟩ := isFree_iff.mp hfree
    rcases hno c hc with rfl | ⟨g, hg, hnamed⟩
    · exact hnull rfl
    · exact hall g.id (List.mem_map_of_mem hg) hnamed
  · intro i j g c hgiven hg hnamed
    exact eq_of_given hids hgiven (hid hg) hnamed
  · intro place hplace
    obtain ⟨i, hi⟩ := List.mem_iff_getElem?.mp hplace
    obtain ⟨id, -, hown⟩ := exists_of_getElem?_placesFor hi
    obtain ⟨c, hc, -⟩ := candidate_of_ownPlace? hown
    exact (List.getElem?_eq_some_iff.mp hc).1
  · intro i j place hi hj
    exact eq_of_placesFor hids hi hj

/-- A finding of which nothing but the identifier matters. -/
def findingNamed (id : String) : RawFinding :=
  { id := id, panel := .secrets, tool := "test", severity := .low, message := .str id }

/-- A candidate of which nothing but the identifier matters. -/
def candidateNaming (id : String) : Json := .obj [("id", .str id)]

/-- Three findings. -/
def threeFindings : List RawFinding := ["a", "b", "c"].map findingNamed

/-- Two candidates for the second of them, and one with an identifier that none of them has. -/
def fewCandidates : List Json :=
  [candidateNaming "b", candidateNaming "b", candidateNaming "x", .int 1]

/-- The first finding does not get the candidate at its place, the second one gets it by name, and
    the third one gets what stands at its own place. -/
theorem candidatesFor_isPairing_ofThree :
    (threeFindings.map RawFinding.id).Nodup ∧
      IsPairing threeFindings fewCandidates
        [none, some (candidateNaming "b"), some (candidateNaming "x")] := by
  have hids : (threeFindings.map RawFinding.id).Nodup := by decide +kernel
  exact ⟨hids, candidatesFor_isPairing hids fewCandidates⟩

end PlainScan
