import Mathlib.Data.List.Induction
import PlainScan.Finding.Identity

namespace PlainScan

/-!
# What an identity text says

The identifier of a finding is made from the texts of some fields, joined by colons.  A field with
colons of its own, such as a path, would blur where the others end.  As long as there is one such
field only, and it has a fixed place among the others, the joined text still tells all of them
apart.

* `Text.joined_inj` — texts joined by a separator that is in all of them but one.
* `natText_inj`, `intText_inj` — numbers are told apart by their texts.
* `identityText_inj` — the fields that an identity text is made of.
* `Discriminant` — the two shapes that the fields of findings have; `Discriminant.parts_inj` reads
  them off.
-/

namespace Text

variable {separator : Char}

/-! ### Joined texts -/

/-- The texts, joined by a separator. -/
def joined (separator : Char) (texts : List (List Char)) : List Char :=
  [separator].intercalate texts

theorem joined_cons (first : List Char) {rest : List (List Char)} (h : rest ≠ []) :
    joined separator (first :: rest) = first ++ separator :: joined separator rest := by
  obtain ⟨second, more, rfl⟩ := List.exists_cons_of_ne_nil h
  simp [joined, List.intercalate]

theorem joined_concat (last : List Char) {init : List (List Char)} (h : init ≠ []) :
    joined separator (init ++ [last]) = joined separator init ++ separator :: last := by
  induction init with
  | nil => exact absurd rfl h
  | cons first rest ih =>
    rw [List.cons_append, joined_cons first (by simp)]
    by_cases hrest : rest = []
    · subst hrest
      simp [joined]
    · rw [ih hrest, joined_cons first hrest, List.append_assoc, List.cons_append]

/-- The first separator ends a text that has none. -/
theorem append_cons_inj_left {one other rest rest' : List Char} (hone : separator ∉ one)
    (hother : separator ∉ other) (h : one ++ separator :: rest = other ++ separator :: rest') :
    one = other ∧ rest = rest' := by
  induction one generalizing other with
  | nil =>
    cases other with
    | nil => exact ⟨rfl, (List.cons.inj h).2⟩
    | cons c more =>
      rw [(List.cons.inj h).1] at hother
      exact absurd List.mem_cons_self hother
  | cons c more ih =>
    cases other with
    | nil =>
      rw [← (List.cons.inj h).1] at hone
      exact absurd List.mem_cons_self hone
    | cons d others =>
      obtain ⟨rfl, hmore⟩ := List.cons.inj h
      obtain ⟨rfl, hrest⟩ := ih (fun hmem => hone (List.mem_cons_of_mem c hmem))
        (fun hmem => hother (List.mem_cons_of_mem c hmem)) hmore
      exact ⟨rfl, hrest⟩

/-- The last separator starts a text that has none. -/
theorem append_cons_inj_right {one other rest rest' : List Char} (hone : separator ∉ one)
    (hother : separator ∉ other) (h : rest ++ separator :: one = rest' ++ separator :: other) :
    rest = rest' ∧ one = other := by
  have hreverse := congrArg List.reverse h
  rw [List.reverse_append, List.reverse_append, List.reverse_cons, List.reverse_cons,
    List.append_assoc, List.append_assoc] at hreverse
  obtain ⟨hsame, hrest⟩ := append_cons_inj_left (by simpa using hone) (by simpa using hother)
    hreverse
  exact ⟨List.reverse_inj.mp hrest, List.reverse_inj.mp hsame⟩

/-- What stands at the end of joined texts can be taken away. -/
theorem joined_cons_append_inj {middle middle' : List Char} {back back' : List (List Char)}
    (hback : ∀ text ∈ back, separator ∉ text) (hback' : ∀ text ∈ back', separator ∉ text)
    (hlength : back.length = back'.length)
    (h : joined separator (middle :: back) = joined separator (middle' :: back')) :
    middle = middle' ∧ back = back' := by
  induction back using List.reverseRecOn generalizing back' with
  | nil =>
    obtain rfl := List.length_eq_zero_iff.mp hlength.symm
    simpa [joined] using h
  | append_singleton init last ih =>
    rcases List.eq_nil_or_concat back' with rfl | ⟨init', last', rfl⟩
    · simp at hlength
    · rw [List.concat_eq_append] at hback' hlength h ⊢
      simp only [List.forall_mem_append, List.mem_singleton, forall_eq] at hback hback'
      rw [← List.cons_append, ← List.cons_append, joined_concat last (List.cons_ne_nil _ _),
        joined_concat last' (List.cons_ne_nil _ _)] at h
      obtain ⟨hinit, rfl⟩ := append_cons_inj_right hback.2 hback'.2 h
      obtain ⟨rfl, rfl⟩ := ih hback.1 hback'.1 (by simpa using hlength) hinit
      exact ⟨rfl, rfl⟩

/-- **Joined texts.** If the separator is in one of the texts only, and it is known in which, the
    joined text tells what all of them are. -/
theorem joined_inj {front front' back back' : List (List Char)} {middle middle' : List Char}
    (hfront : ∀ text ∈ front, separator ∉ text) (hfront' : ∀ text ∈ front', separator ∉ text)
    (hback : ∀ text ∈ back, separator ∉ text) (hback' : ∀ text ∈ back', separator ∉ text)
    (hlength : front.length = front'.length) (hlength' : back.length = back'.length)
    (h : joined separator (front ++ middle :: back)
      = joined separator (front' ++ middle' :: back')) :
    front = front' ∧ middle = middle' ∧ back = back' := by
  induction front generalizing front' with
  | nil =>
    obtain rfl := List.length_eq_zero_iff.mp hlength.symm
    exact ⟨rfl, joined_cons_append_inj hback hback' hlength' h⟩
  | cons first rest ih =>
    cases front' with
    | nil => cases hlength
    | cons first' rest' =>
      rw [List.forall_mem_cons] at hfront hfront'
      rw [List.cons_append, List.cons_append, joined_cons first (by simp),
        joined_cons first' (by simp)] at h
      obtain ⟨rfl, hrest⟩ := append_cons_inj_left hfront.1 hfront'.1 h
      obtain ⟨rfl, hmiddle⟩ := ih hfront.2 hfront'.2 (Nat.succ.inj hlength) hrest
      exact ⟨rfl, hmiddle⟩

end Text

/-! ### Numbers -/

/-- Numbers are told apart by their digits. -/
theorem natText_inj {m n : Nat} : natText m = natText n ↔ m = n := by
  refine ⟨fun h => ?_, fun h => by rw [h]⟩
  have hdigits : Nat.toDigits 10 m = Nat.toDigits 10 n := by
    simpa only [natText, String.ofList_inj] using h
  rw [← Nat.ofDigitChars_ten_toDigits (n := m), hdigits, Nat.ofDigitChars_ten_toDigits]

/-- A number is written in digits alone. -/
theorem isDigit_of_mem_natText {n : Nat} {c : Char} (h : c ∈ (natText n).toList) :
    c.isDigit = true := by
  rw [natText, String.toList_ofList] at h
  exact Nat.isDigit_of_mem_toDigits (by decide) (by decide) h

/-- A number with a sign is written in digits, and with a hyphen before them if it is negative. -/
theorem intText_eq (n : Int) :
    (intText n).toList = (if n < 0 then ['-'] else []) ++ (natText n.natAbs).toList := by
  rw [intText]
  split
  · rw [String.toList_append]
    rfl
  · rfl

/-- No colon is in a number. -/
theorem colon_not_mem_intText (n : Int) : ':' ∉ (intText n).toList := by
  rw [intText_eq, List.mem_append]
  rintro (hsign | hdigit)
  · split at hsign
    · exact absurd hsign (by decide)
    · exact List.not_mem_nil hsign
  · exact absurd (isDigit_of_mem_natText hdigit) (by decide)

/-- Numbers with a sign are told apart by their texts. -/
theorem intText_inj {m n : Int} : intText m = intText n ↔ m = n := by
  refine ⟨fun h => ?_, fun h => by rw [h]⟩
  have htexts := congrArg String.toList h
  rw [intText_eq, intText_eq] at htexts
  have hdigits : ∀ {k : Nat} {rest : List Char}, (natText k).toList ≠ '-' :: rest := by
    intro k rest hk
    have hmem : '-' ∈ (natText k).toList := by
      rw [hk]
      exact List.mem_cons_self
    exact absurd (isDigit_of_mem_natText hmem) (by decide)
  -- both have a sign or none of them
  by_cases hm : m < 0 <;> by_cases hn : n < 0
  · rw [if_pos hm, if_pos hn] at htexts
    have habs := natText_inj.mp (String.toList_inj.mp (List.append_cancel_left htexts))
    omega
  · rw [if_pos hm, if_neg hn] at htexts
    exact absurd htexts.symm hdigits
  · rw [if_neg hm, if_pos hn] at htexts
    exact absurd htexts hdigits
  · rw [if_neg hm, if_neg hn] at htexts
    have habs := natText_inj.mp (String.toList_inj.mp (List.append_cancel_left htexts))
    omega

/-- A number has a text. -/
theorem intText_ne_empty (n : Int) : intText n ≠ "" := by
  intro h
  have htext := congrArg String.toList h
  rw [intText_eq] at htext
  have hdigits := (List.append_eq_nil_iff.mp htext).2
  rw [natText, String.toList_ofList] at hdigits
  exact Nat.toDigits_ne_nil hdigits

/-! ### Identity texts -/

/-- A text is a field as it is. -/
theorem identityPart_str (text : String) : identityPart (.str text) = text := rfl

theorem toList_identityText (parts : List Json) :
    (identityText parts).toList
      = Text.joined ':' (parts.map fun part => (identityPart part).toList) := by
  rw [identityText, String.toList_intercalate, List.map_map]
  rfl

/-- **Identity texts.** The identity text tells all its fields if no colon is in any of them but
    one, and it is known in which. -/
theorem identityText_inj {front front' back back' : List Json} {middle middle' : Json}
    (hfront : ∀ part ∈ front, ':' ∉ (identityPart part).toList)
    (hfront' : ∀ part ∈ front', ':' ∉ (identityPart part).toList)
    (hback : ∀ part ∈ back, ':' ∉ (identityPart part).toList)
    (hback' : ∀ part ∈ back', ':' ∉ (identityPart part).toList)
    (hlength : front.length = front'.length) (hlength' : back.length = back'.length)
    (h : identityText (front ++ middle :: back) = identityText (front' ++ middle' :: back')) :
    front.map identityPart = front'.map identityPart ∧ identityPart middle = identityPart middle'
      ∧ back.map identityPart = back'.map identityPart := by
  have hchars : ∀ {parts parts' : List Json},
      (parts.map fun part => (identityPart part).toList)
        = (parts'.map fun part => (identityPart part).toList) →
      parts.map identityPart = parts'.map identityPart := by
    intro parts parts' hsame
    refine (List.map_inj_right fun _ _ => String.toList_inj.mp).mp ?_
    rwa [List.map_map, List.map_map]
  have hnone : ∀ {parts : List Json}, (∀ part ∈ parts, ':' ∉ (identityPart part).toList) →
      ∀ text ∈ parts.map fun part => (identityPart part).toList, ':' ∉ text :=
    fun hparts => List.forall_mem_map.mpr hparts
  have htexts := congrArg String.toList h
  simp only [toList_identityText, List.map_append, List.map_cons] at htexts
  obtain ⟨hsame, hmiddle, hsame'⟩ := Text.joined_inj (hnone hfront) (hnone hfront') (hnone hback)
    (hnone hback') (by simpa using hlength) (by simpa using hlength') htexts
  exact ⟨hchars hsame, String.toList_inj.mp hmiddle, hchars hsame'⟩

/-! ### Fields of findings -/

/-- There is no colon in the text of a line. -/
theorem colon_not_mem_line (line : Option Int) :
    ':' ∉ (identityPart (.ofOption (line.map .int))).toList := by
  cases line with
  | none => decide
  | some n => exact colon_not_mem_intText n

/-- Lines are told apart by their texts, and a missing one from all of them. -/
theorem line_inj {line other : Option Int}
    (h : identityPart (.ofOption (line.map .int)) = identityPart (.ofOption (other.map .int))) :
    line = other := by
  cases line with
  | none =>
    cases other with
    | none => rfl
    | some n => exact absurd h.symm (intText_ne_empty n)
  | some m =>
    cases other with
    | none => exact absurd h (intText_ne_empty m)
    | some n => exact congrArg some (intText_inj.mp h)

/-- The fields by which findings of a tool differ: the rule, the path and the line, or the package,
    the word for its severity and where the vulnerability comes from. -/
inductive Discriminant where
  | place (rule path : String) (line : Json)
  | package (name severity via : String)

namespace Discriminant

/-- Which of the two shapes it is. -/
def isPackage : Discriminant → Bool
  | place _ _ _ => false
  | package _ _ _ => true

/-- The fields in order. -/
def parts : Discriminant → List Json
  | place rule path line => [.str rule, .str path, line]
  | package name severity via => [.str name, .str severity, .str via]

/-- There is no colon in any field but the path or the origin, and the line is a number or
    absent. -/
def IsClear : Discriminant → Prop
  | place rule _ line =>
    ':' ∉ rule.toList ∧ ∃ number : Option Int, line = .ofOption (number.map .int)
  | package name severity _ => ':' ∉ name.toList ∧ ':' ∉ severity.toList

variable {panel tool : String} {d e : Discriminant}

/-- **Reading off.** The joined text tells the fields. -/
theorem parts_inj (hpanel : ':' ∉ panel.toList) (htool : ':' ∉ tool.toList) (hd : d.IsClear)
    (he : e.IsClear) (hshape : d.isPackage = e.isPackage)
    (h : identityText (.str panel :: .str tool :: d.parts)
      = identityText (.str panel :: .str tool :: e.parts)) : d = e := by
  have hfront {texts : List String} (htexts : ∀ text ∈ texts, ':' ∉ text.toList) :
      ∀ part ∈ (panel :: tool :: texts).map Json.str, ':' ∉ (identityPart part).toList := by
    rw [List.forall_mem_map]
    exact List.forall_mem_cons.mpr ⟨hpanel, List.forall_mem_cons.mpr ⟨htool, htexts⟩⟩
  cases d with
  | place rule path line =>
    cases e with
    | package _ _ _ => cases hshape
    | place rule' path' line' =>
      obtain ⟨hrule, number, rfl⟩ := hd
      obtain ⟨hrule', number', rfl⟩ := he
      -- the path lies between the rule and the line
      obtain ⟨hrules, hpath, hline⟩ := identityText_inj
        (hfront (List.forall_mem_singleton.mpr hrule))
        (hfront (List.forall_mem_singleton.mpr hrule'))
        (List.forall_mem_singleton.mpr (colon_not_mem_line number))
        (List.forall_mem_singleton.mpr (colon_not_mem_line number')) rfl rfl h
      have hrule : rule = rule' := by simpa [identityPart_str] using hrules
      have hpath : path = path' := hpath
      have hline : number = number' := line_inj (by simpa using hline)
      rw [hrule, hpath, hline]
  | package name severity via =>
    cases e with
    | place _ _ _ => cases hshape
    | package name' severity' via' =>
      obtain ⟨hname, hseverity⟩ := hd
      obtain ⟨hname', hseverity'⟩ := he
      -- the origin comes last
      obtain ⟨hfields, hvia, -⟩ := identityText_inj
        (hfront (List.forall_mem_cons.mpr ⟨hname, List.forall_mem_singleton.mpr hseverity⟩))
        (hfront (List.forall_mem_cons.mpr ⟨hname', List.forall_mem_singleton.mpr hseverity'⟩))
        (List.forall_mem_nil _) (List.forall_mem_nil _) rfl rfl h
      have hfields : name = name' ∧ severity = severity' := by
        simpa [identityPart_str] using hfields
      have hvia : via = via' := hvia
      rw [hfields.1, hfields.2, hvia]

end Discriminant

end PlainScan
