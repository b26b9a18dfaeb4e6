import PlainScan.Analysis.Accessibility
import PlainScan.Proofs.Pattern.Letters
import PlainScan.Proofs.Pattern.Search
import PlainScan.Proofs.Text.Blank

namespace PlainScan

/-!
# Parts of tags

A tag opens with an angle and a name, in any case, and goes on up to the first closing angle.

* `Pattern.ends_upToAngle`, `Pattern.ends_upToAngle_of_none` — the rest of a tag.
* `Accessibility.ends_openingTag_of_name` — the opening of a tag by its name.
-/

namespace Pattern

/-! ### The rest of a tag -/

/-- The rest of a tag is taken up to the first closing angle. -/
theorem ends_upToAngle {w : List Char} (hw : ∀ c ∈ w, c ≠ '>') {least : Nat}
    (hleast : least ≤ w.length) (before rest : List Char) :
    (seq (run (· != '>') least) (literal ">")).ends ⟨before, w ++ '>' :: rest⟩
      = [⟨'>' :: (w.reverse ++ before), rest⟩] := by
  have hangle : (literal ">").BeginsWith (· == '>') := BeginsWith.one _
  have hapart : ∀ c : Char, (c != '>') = true → (c == '>') = false := by
    intro c hc
    simpa using hc
  have hclass : ∀ c ∈ w, (c != '>') = true := by
    intro c hc
    simpa using hw c hc
  exact ends_run_seq hangle hapart hclass rfl hleast before

/-- Without a closing angle there is no tag. -/
theorem ends_upToAngle_of_none {w : List Char} (hw : ∀ c ∈ w, c ≠ '>') (least : Nat)
    (before : List Char) :
    (seq (run (· != '>') least) (literal ">")).ends ⟨before, w⟩ = [] := by
  have hnext : ∀ before c rest, (c != '>') = true →
      (literal ">").ends ⟨before, c :: rest⟩ = [] := by
    intro before c rest hc
    have hne : (c == '>') = false := by simpa using hc
    exact BeginsWith.one (· == '>') before (c :: rest) hne
  have hclass : ∀ c ∈ w, (c != '>') = true := by
    intro c hc
    simpa using hw c hc
  have hend : ([] : List Char).head?.any (· != '>') = false := rfl
  have hruns := flatMap_runEnds hnext hclass hend least before []
  rw [List.append_nil] at hruns
  rw [ends, ends, hruns]
  split
  · rfl
  · rfl

end Pattern

/-! ### The opening of a tag -/

namespace Accessibility

open Pattern

/-- The name of a tag: letters in lower case. -/
def IsTagName (name : String) : Prop :=
  name.toList.all Char.isLower = true ∧ name.toList ≠ []

/-- A tag is opened by its name if the name ends there. -/
theorem ends_openingTag_of_name {name : String} (hname : IsTagName name) {after : List Char}
    (hafter : Text.isWordAt after.head? = false) (before : List Char) :
    (openingTag name).ends ⟨before, '<' :: (name.toList ++ after)⟩
      = [⟨name.toList.reverse ++ '<' :: before, after⟩] := by
  obtain ⟨hlower, hne⟩ := hname
  rw [List.all_eq_true] at hlower
  have hangle : (literal "<").ends ⟨before, '<' :: (name.toList ++ after)⟩
      = [⟨'<' :: before, name.toList ++ after⟩] := rfl
  -- a name in lower case stands for itself
  have hletters : List.Forall₂ (fun test c => test c = true) (name.toList.map sameLetter)
      name.toList := by
    rw [List.forall₂_map_left_iff, List.forall₂_same]
    exact fun c hc => sameLetter_self (isUpper_of_isLower (hlower c hc))
  have hname : (literalAnyCase name).ends ⟨'<' :: before, name.toList ++ after⟩
      = [⟨name.toList.reverse ++ '<' :: before, after⟩] := by
    have hones := ends_all_ones hletters ('<' :: before) after
    rwa [List.map_map] at hones
  -- the name ends with a letter
  have hlast : Text.isWordAt (name.toList.reverse ++ '<' :: before).head? = true := by
    obtain ⟨c, more, hreverse⟩ := List.exists_cons_of_ne_nil
      (List.reverse_eq_nil_iff.not.mpr hne)
    have hc : c ∈ name.toList := by
      rw [← List.mem_reverse, hreverse]
      exact List.mem_cons_self
    rw [hreverse]
    exact isWord_of_isLower (hlower c hc)
  have hedge : wordEdge.ends ⟨name.toList.reverse ++ '<' :: before, after⟩
      = [⟨name.toList.reverse ++ '<' :: before, after⟩] := by
    rw [ends, Cursor.isWordEdge, Text.atWordEdge, hlast, hafter]
    rfl
  rw [openingTag, ends_all_cons, ends_seq_of_eq hangle, ends_all_cons, ends_seq_of_eq hname]
  exact hedge

end Accessibility

end PlainScan
