import PlainScan.Analysis.Accessibility
import PlainScan.Proofs.Analysis.SecretTexts
import PlainScan.Proofs.Text.Lines

namespace PlainScan

/-!
# Line numbers

The search for secrets numbers the lines by all line ends, the search through pages by the line
feeds alone.  So the two agree about a secret exactly if no other line end stands before it.

* `Secrets.Sighting`, `Secrets.sightings` — the secrets found in a text, with their places in it.
* `Secrets.contentFindings_eq_map` — they are what is reported.
* `Secrets.Sighting.Stands` — a secret stands at its place, behind as many line ends as its number
  says.
* `Secrets.numberedAlike_iff` — when the two searches number alike.
-/

/-! ### Places -/

/-- The place in a text behind so many characters. -/
def Cursor.behind (text : List Char) (count : Nat) : Cursor :=
  ⟨(text.take count).reverse, text.drop count⟩

/-- Behind a part of a text and some characters of what follows. -/
theorem Cursor.behind_append (front rest : List Char) (count : Nat) :
    Cursor.behind (front ++ rest) (front.length + count)
      = ⟨(front ++ rest.take count).reverse, rest.drop count⟩ := by
  rw [behind, List.take_length_add_append, List.drop_length_add_append]

namespace Text

/-- Line feeds are line ends. -/
theorem count_le_countP_isLineEnd (text : List Char) :
    text.count '\n' ≤ text.countP isLineEnd := by
  rw [List.count_eq_countP]
  refine List.countP_mono_left fun c _ hc => ?_
  rw [beq_iff_eq.mp hc]
  decide

/-- There are as many line ends as line feeds if all line ends are line feeds. -/
theorem countP_isLineEnd_eq_iff {text : List Char} :
    text.countP isLineEnd = text.count '\n' ↔ ∀ c ∈ text, isLineEnd c = true → c = '\n' := by
  induction text with
  | nil => simp
  | cons c rest ih =>
    -- there are at least as many line ends, so one that is no line feed cannot be made up for
    have hle := count_le_countP_isLineEnd rest
    rw [List.forall_mem_cons, ← ih]
    by_cases hc : c = '\n'
    · have hend : isLineEnd c = true := by
        rw [hc]
        decide
      rw [List.countP_cons_of_pos hend, hc, List.count_cons_self]
      simp
    · rw [List.count_cons_of_ne hc]
      by_cases hend : isLineEnd c = true
      · rw [List.countP_cons_of_pos hend]
        simp only [hend, hc, forall_const, false_and, iff_false]
        omega
      · rw [List.countP_cons_of_neg hend]
        simp [hend]

end Text

namespace Secrets

/-! ### Sightings -/

/-- A secret found in a text: the number of its line, the pattern, the column, and the place in the
    text at which it starts. -/
structure Sighting where
  number : Nat
  pattern : SecretPattern
  column : Nat
  place : Cursor

/-- The secrets found in a line of a text; lines count from one. -/
def sightingsIn (text : List Char) (line : List Char × Nat) : List Sighting :=
  (lineHits line.1).map fun hit =>
    ⟨line.2, hit.1, hit.2,
      Cursor.behind text ((Text.beforeLine (line.2 - 1) text).length + hit.2)⟩

/-- The secrets found in a text. -/
def sightings (text : List Char) : List Sighting :=
  ((Text.splitLines text).zipIdx 1).flatMap (sightingsIn text)

namespace Sighting

/-- What the search for secrets reports. -/
def finding (path : FilePath) (s : Sighting) : RawFinding :=
  Secrets.finding path s.number s.pattern s.column

/-- Whatever the search through pages finds at the same place, it reports there with the same
    line. -/
def NumberedAlike (s : Sighting) : Prop :=
  ∀ (path : FilePath) (check : Accessibility.Check) (stop : Cursor),
    (s.finding path).line = (Accessibility.checkFinding path.text check ⟨s.place, stop⟩).line

/-- A secret stands at its place in a text: one of its texts follows, and before it there are as
    many line ends as there are lines before its line. -/
structure Stands (text : List Char) (s : Sighting) : Prop where
  text_eq : s.place.before.reverse ++ s.place.after = text
  follows : ∃ w ∈ textsOf s.pattern.id, w <+: s.place.after
  number_eq : s.number = s.place.before.countP Text.isLineEnd + 1

/-- The search through pages counts the line feeds before a place. -/
theorem numberedAlike_iff_eq_line {s : Sighting} : s.NumberedAlike ↔ s.number = s.place.line := by
  constructor
  · intro h
    have hline : Json.int s.number = .int s.place.line := h default default default
    exact Int.ofNat_inj.mp (Json.int.inj hline)
  · intro h path check stop
    exact congrArg (fun n : Nat => Json.int n) h

end Sighting

/-- The secrets found in a text are what is reported, in order. -/
theorem contentFindings_eq_map (path : FilePath) (text : List Char) :
    contentFindings path text = (sightings text).map (Sighting.finding path) := by
  rw [contentFindings, linesFindings_eq, sightings, List.map_flatMap]
  refine List.flatMap_congr fun line _ => ?_
  rw [lineFindings, sightingsIn, List.map_map]
  rfl

/-- **Places.** In a text without carriage returns the secrets stand where they are sighted. -/
theorem stands_of_mem_sightings {text : List Char} (htext : '\r' ∉ text) {s : Sighting}
    (hs : s ∈ sightings text) : s.Stands text := by
  obtain ⟨⟨line, number⟩, hline, hs⟩ := List.mem_flatMap.mp hs
  obtain ⟨⟨p, column⟩, hhit, rfl⟩ := List.mem_map.mp hs
  obtain ⟨hle, hline⟩ := List.mk_mem_zipIdx_iff_le_and_getElem?_sub.mp hline
  obtain ⟨q, hq, hfound⟩ := List.mem_filterMap.mp hhit
  obtain ⟨_, hcolumn, hsame⟩ := Option.map_eq_some_iff.mp hfound
  obtain ⟨rfl, rfl⟩ := Prod.mk.inj hsame
  obtain ⟨⟨rest, hrest⟩, hnone, hcount⟩ := Text.exists_of_getElem?_splitLines htext hline
  -- the secret stands in its line, in front of which are all lines before it
  obtain ⟨⟨front, w, back, rfl, hw, rfl⟩, -⟩ := (column?_iff hq).mp hcolumn
  have hplace : Cursor.behind text ((Text.beforeLine (number - 1) text).length + front.length)
      = ⟨(Text.beforeLine (number - 1) text ++ front).reverse, w ++ (back ++ rest)⟩ := by
    generalize Text.beforeLine (number - 1) text = before at hrest
    rw [hrest, List.append_assoc, Cursor.behind_append]
    simp
  refine ⟨?_, ⟨w, hw, ?_⟩, ?_⟩
  · rw [hplace, List.reverse_reverse]
    conv_rhs => rw [hrest]
    simp only [List.append_assoc]
  · rw [hplace]
    exact List.prefix_append w (back ++ rest)
  -- no line ends within the line
  · have hfront : front.countP Text.isLineEnd = 0 := by
      rw [List.countP_eq_zero]
      intro c hc
      simp [hnone c (by simp [hc])]
    rw [hplace]
    show number = ((Text.beforeLine (number - 1) text ++ front).reverse).countP Text.isLineEnd + 1
    rw [List.countP_reverse, List.countP_append, hcount, hfront]
    omega

/-- **Line numbers.** In a file that has been read the secrets that are reported stand at places of
    the text, and they are numbered by the line ends before them.  The search through pages numbers
    all of these places alike exactly if no line end but line feeds stands before any of them. -/
theorem numberedAlike_iff (path : FilePath) (raw : List Char) :
    let text := Text.normaliseNewlines raw
    contentFindings path text = (sightings text).map (Sighting.finding path)
      ∧ (∀ s ∈ sightings text, s.Stands text)
      ∧ ((∀ s ∈ sightings text, s.NumberedAlike) ↔
          ∀ s ∈ sightings text, ∀ c ∈ s.place.before, Text.isLineEnd c = true → c = '\n') := by
  intro text
  have hstands : ∀ s ∈ sightings text, s.Stands text := fun s hs =>
    stands_of_mem_sightings (Text.notMem_normaliseNewlines raw) hs
  refine ⟨contentFindings_eq_map path text, hstands, forall₂_congr fun s hs => ?_⟩
  rw [Sighting.numberedAlike_iff_eq_line, (hstands s hs).number_eq, Cursor.line,
    Nat.add_right_cancel_iff, Text.countP_isLineEnd_eq_iff]

/-! ### A form feed -/

namespace Sample

/-- A form feed in a line before a key. -/
def paged : List Char := "\x0c\nAKIAABCDEFGHIJKLMNOP".toList

/-- The form feed counts as a line for one search only. -/
theorem not_numberedAlike_paged :
    ¬ ∀ s ∈ sightings (Text.normaliseNewlines paged), s.NumberedAlike := by
  have hapart : (sightings (Text.normaliseNewlines paged)).map
      (fun s => (s.number, s.place.line)) = [(3, 2)] := by decide +kernel
  intro h
  have hsame : ∀ pair ∈ (sightings (Text.normaliseNewlines paged)).map
      (fun s => (s.number, s.place.line)), pair.1 = pair.2 := by
    rintro _ hpair
    obtain ⟨s, hs, rfl⟩ := List.mem_map.mp hpair
    exact Sighting.numberedAlike_iff_eq_line.mp (h s hs)
  rw [hapart] at hsame
  exact absurd (hsame _ (List.mem_singleton_self _)) (by decide)

end Sample

end Secrets

end PlainScan
