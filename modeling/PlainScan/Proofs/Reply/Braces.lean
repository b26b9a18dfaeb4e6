import PlainScan.Proofs.Json.Grammar
import PlainScan.Translation.Candidates

namespace PlainScan

/-!
# Braces in a reply

The search for balanced braces looks at one character after another.  Here it is followed through
whole texts.

* `BraceScan.after` — where the search stands after a text.
* `BraceScan.Passes` — a text inside of braces leaves the search where it was.
* `BraceScan.passes_of_spells` — every part of a JSON text does so.
* `BraceScan.after_outside` — a text outside of braces is skipped.
-/

namespace BraceScan

/-- Where the search stands after a text. -/
def after (s : BraceScan) (text : List Char) : BraceScan := text.foldl (fun s c => (s.step c).1) s

@[simp] theorem after_nil (s : BraceScan) : s.after [] = s := rfl

@[simp] theorem after_cons (s : BraceScan) (c : Char) (rest : List Char) :
    s.after (c :: rest) = (s.step c).1.after rest := rfl

/-- Two texts are passed one after another. -/
theorem after_append (s : BraceScan) (a b : List Char) :
    s.after (a ++ b) = (s.after a).after b := List.foldl_append

/-- What comes out of a text is what comes out of its first character and of the rest. -/
theorem run_cons (s : BraceScan) (c : Char) (rest : List Char) :
    s.run (c :: rest) = (s.step c).2.toList ++ (s.step c).1.run rest := by
  rw [run]
  cases s.step c with
  | mk next chunk => cases chunk <;> rfl

/-- What comes out of two texts is what comes out of one and then of the other. -/
theorem run_append (s : BraceScan) (a b : List Char) :
    s.run (a ++ b) = s.run a ++ (s.after a).run b := by
  induction a generalizing s with
  | nil => rfl
  | cons c rest ih => rw [List.cons_append, run_cons, run_cons, ih, after_cons, List.append_assoc]

/-! ### Inside of braces -/

/-- The search with more characters behind the outermost brace. -/
def extend (s : BraceScan) (text : List Char) : BraceScan :=
  { s with chunk := text.reverse ++ s.chunk }

/-- A text inside of braces, but not inside of a string, leaves the search where it was, and
    nothing comes out of it. -/
def Passes (text : List Char) : Prop :=
  ∀ s : BraceScan, 0 < s.depth → s.inString = false → s.escaped = false →
    s.after text = s.extend text ∧ s.run text = []

theorem passes_nil : Passes [] := fun _ _ _ _ => ⟨rfl, rfl⟩

/-- Texts that are passed are passed together. -/
theorem Passes.append {a b : List Char} (ha : Passes a) (hb : Passes b) : Passes (a ++ b) := by
  intro s hdepth hstring hescaped
  obtain ⟨hafter, hrun⟩ := ha s hdepth hstring hescaped
  obtain ⟨hafter', hrun'⟩ := hb (s.extend a) hdepth hstring hescaped
  rw [after_append, run_append, hafter, hrun, hafter', hrun']
  refine ⟨?_, rfl⟩
  simp only [extend, List.reverse_append, List.append_assoc]

/-- A character that is neither a quote nor a brace is passed. -/
theorem passes_singleton {c : Char} (hquote : c ≠ '"') (hopen : c ≠ '\x7b') (hclose : c ≠ '\x7d') :
    Passes [c] := by
  intro s hdepth hstring _
  have hne : s.depth ≠ 0 := by omega
  have hstep : s.step c = (s.extend [c], none) := by
    simp [step, hstring, hne, hquote, hopen, hclose, extend]
  rw [after_cons, run_cons, hstep]
  exact ⟨rfl, rfl⟩

/-- A text without quotes and braces is passed. -/
theorem passes_of_forall {text : List Char}
    (h : ∀ c ∈ text, c ≠ '"' ∧ c ≠ '\x7b' ∧ c ≠ '\x7d') : Passes text := by
  induction text with
  | nil => exact passes_nil
  | cons c rest ih =>
    rw [List.forall_mem_cons] at h
    exact (passes_singleton h.1.1 h.1.2.1 h.1.2.2).append (ih h.2)

/-- Inside of a string the search goes on to the quote that closes it. -/
theorem after_stringBody {raw : List Char} (h : Json.StringBody raw) (s : BraceScan)
    (hstring : s.inString = true) (hescaped : s.escaped = false) :
    s.after raw = s.extend raw ∧ s.run raw = [] := by
  induction h generalizing s with
  | nil => exact ⟨rfl, rfl⟩
  | @escaped c rest _ ih =>
    -- the backslash protects the next character, whichever it is
    have hbackslash : s.step '\\' = ({ s.extend ['\\'] with escaped := true }, none) := by
      simp [step, stepString, hstring, hescaped, extend]
    have hnext : ({ s.extend ['\\'] with escaped := true } : BraceScan).step c
        = (s.extend ['\\', c], none) := by
      simp [step, stepString, hstring, hescaped, extend]
    obtain ⟨hafter, hrun⟩ := ih (s.extend ['\\', c]) hstring hescaped
    rw [after_cons, run_cons, hbackslash, after_cons, run_cons, hnext, hafter, hrun]
    exact ⟨by simp [extend], rfl⟩
  | @plain c rest hquote hescape _ ih =>
    have hstep : s.step c = (s.extend [c], none) := by
      simp [step, stepString, hstring, hescaped, hquote, hescape, extend]
    obtain ⟨hafter, hrun⟩ := ih (s.extend [c]) hstring hescaped
    rw [after_cons, run_cons, hstep, hafter, hrun]
    exact ⟨by simp [extend], rfl⟩

/-- A string is passed, whatever is in it. -/
theorem passes_string {text : List Char} {value : String} (h : Json.SpellsString text value) :
    Passes text := by
  obtain ⟨hbody, -⟩ := h
  rename_i raw chars
  intro s hdepth hstring hescaped
  have hne : s.depth ≠ 0 := by omega
  -- inside of braces a quote opens a string, inside of that the next one closes it
  have hopen : s.step '"' = ({ s.extend ['"'] with inString := true }, none) := by
    simp [step, hstring, hne, extend]
  obtain ⟨hafter, hrun⟩ :=
    after_stringBody hbody { s.extend ['"'] with inString := true } rfl hescaped
  have hclose : (({ s.extend ['"'] with inString := true } : BraceScan).extend raw).step '"'
      = (s.extend ('"' :: (raw ++ ['"'])), none) := by
    simp [step, stepString, hstring, hescaped, extend]
  rw [after_cons, run_cons, hopen, after_append, run_append, hafter, hrun, after_cons, run_cons,
    hclose]
  exact ⟨rfl, rfl⟩

/-- A pair of braces is passed if what is in it is. -/
theorem Passes.braces {text : List Char} (h : Passes text) :
    Passes ('\x7b' :: (text ++ ['\x7d'])) := by
  intro s hdepth hstring hescaped
  have hne : s.depth ≠ 0 := by omega
  -- the depth is at least two between the braces, so nothing comes out at the second
  have hopen : s.step '\x7b' = ({ s.extend ['\x7b'] with depth := s.depth + 1 }, none) := by
    simp [step, hstring, hne, extend]
  obtain ⟨hafter, hrun⟩ :=
    h { s.extend ['\x7b'] with depth := s.depth + 1 } (Nat.succ_pos _) hstring hescaped
  have hclose : (({ s.extend ['\x7b'] with depth := s.depth + 1 } : BraceScan).extend text).step
      '\x7d' = (s.extend ('\x7b' :: (text ++ ['\x7d'])), none) := by
    simp [step, hstring, hne, extend]
  rw [after_cons, run_cons, hopen, after_append, run_append, hafter, hrun, after_cons, run_cons,
    hclose]
  exact ⟨rfl, rfl⟩

/-! ### Parts of a JSON text -/

/-- Spaces are passed. -/
theorem passes_spaces {sp : List Char} (hsp : Json.Spaces sp) : Passes sp := by
  apply passes_of_forall
  intro c hc
  have hspace := hsp c hc
  refine ⟨?_, ?_, ?_⟩ <;> rintro rfl <;> cases hspace

/-- The key of a member is passed with its colon. -/
theorem passes_key {start : List Char} {key : String} (h : Json.SpellsKey start key) :
    Passes start := by
  obtain ⟨hquoted, hsp, hsp'⟩ := h
  have hcolon : Passes [':'] := passes_singleton (by decide) (by decide) (by decide)
  have hbehind := (passes_spaces hsp).append (hcolon.append (passes_spaces hsp'))
  exact (passes_string hquoted).append hbehind

/-- **Parts are passed.** Inside of braces the search leaves every part of a JSON text as it came,
    also one with brackets and braces of its own. -/
theorem passes_of_spells {p : Json.Part} {text : List Char} (h : Json.Spells p text) :
    Passes text := by
  -- what stands between the parts counts no more than they do
  have hcomma : Passes [','] := passes_singleton (by decide) (by decide) (by decide)
  have hopen : Passes ['['] := passes_singleton (by decide) (by decide) (by decide)
  have hclose : Passes [']'] := passes_singleton (by decide) (by decide) (by decide)
  induction h with
  | scalar hscalar =>
    apply passes_of_forall
    intro c hc
    have hchar := hscalar.chars c hc
    refine ⟨?_, ?_, ?_⟩ <;> rintro rfl <;> cases hchar
  | string hs => exact passes_string hs
  | emptyArray hsp => exact hopen.append ((passes_spaces hsp).append hclose)
  | array hsp _ ih => exact hopen.append ((passes_spaces hsp).append (ih.append hclose))
  | emptyObject hsp => exact (passes_spaces hsp).braces
  | object hsp _ ih =>
    have hinside := ((passes_spaces hsp).append ih).braces
    rwa [List.append_assoc] at hinside
  | lastItem _ hsp ih => exact ih.append (passes_spaces hsp)
  | item _ hsp hsp' _ ih ihMore =>
    have hbehind := hcomma.append ((passes_spaces hsp').append ihMore)
    exact ih.append ((passes_spaces hsp).append hbehind)
  | lastMember hkey _ hsp ih => exact (passes_key hkey).append (ih.append (passes_spaces hsp))
  | member hkey _ hsp hsp' _ ih ihMore =>
    have hbehind := hcomma.append ((passes_spaces hsp').append ihMore)
    exact (passes_key hkey).append (ih.append ((passes_spaces hsp).append hbehind))

/-! ### Outside of braces -/

/-- A text without an opening brace is skipped, and nothing comes out of it. -/
theorem after_outside {text : List Char} (h : ∀ c ∈ text, c ≠ '\x7b') :
    BraceScan.after {} text = {} ∧ BraceScan.run {} text = [] := by
  induction text with
  | nil => exact ⟨rfl, rfl⟩
  | cons c rest ih =>
    rw [List.forall_mem_cons] at h
    have hstep : BraceScan.step {} c = ({}, none) := by
      simp [step, h.1]
    rw [after_cons, run_cons, hstep]
    exact ih h.2

end BraceScan

end PlainScan
