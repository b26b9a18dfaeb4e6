import Mathlib.Data.List.TakeWhile
import PlainScan.Json.Reader
import PlainScan.Proofs.Acquisition.Requests

namespace PlainScan

/-!
# What the address of a file denotes

A path is put into an address as it is.  A question mark or a number sign ends the path of an
address, and a percent sign before two hexadecimal digits stands for a byte.

* `addressPath` — the path of an address.
* `percentDecode` — the bytes that a path denotes.
* `HasEscape` — whether some of them are written as digits.
* `percentDecode_eq_iff` — when a path denotes what it is written as.
* `Download.denotes_iff` — when the request for a file denotes that file.
-/

open PlainScan.Text (Bytes)

/-! ### Reading an address -/

/-- The bytes of characters. -/
def utf8 (text : List Char) : Bytes := text.flatMap String.utf8EncodeChar

/-- What an address starts with. -/
def scheme : List Char := "https://".toList

/-- Whether a character belongs to the path of an address. -/
def isPathChar (c : Char) : Bool := c != '?' && c != '#'

/-- The path of an address: from the slash behind the host up to a query or a fragment. -/
def addressPath (address : List Char) : List Char :=
  let behindHost := (address.drop scheme.length).dropWhile fun c => c != '/' && isPathChar c
  behindHost.takeWhile isPathChar

/-- The byte that two hexadecimal digits spell. -/
def hexByte? (high low : Char) : Option UInt8 :=
  match Json.hexDigit? high, Json.hexDigit? low with
  | some h, some l => some (UInt8.ofNat (h * 16 + l))
  | _, _ => none

/-- The bytes that a path denotes. -/
def percentDecode : List Char → Bytes
  | '%' :: high :: low :: rest =>
    match hexByte? high low with
    | some byte => byte :: percentDecode rest
    | none => String.utf8EncodeChar '%' ++ percentDecode (high :: low :: rest)
  | c :: rest => String.utf8EncodeChar c ++ percentDecode rest
  | [] => []

/-! ### Escapes -/

/-- Whether a percent sign stands before two hexadecimal digits. -/
def HasEscape (text : List Char) : Prop :=
  ∃ high low, ['%', high, low] <:+: text ∧ (hexByte? high low).isSome = true

/-- An escape is at the front, or in what follows. -/
theorem hasEscape_cons_iff {c : Char} {rest : List Char} :
    HasEscape (c :: rest) ↔
      (∃ high low more, c = '%' ∧ rest = high :: low :: more ∧ (hexByte? high low).isSome = true)
        ∨ HasEscape rest := by
  constructor
  · rintro ⟨high, low, hinfix, hhex⟩
    rcases List.infix_cons_iff.mp hinfix with ⟨more, hmore⟩ | hrest
    · obtain ⟨rfl, htail⟩ := List.cons.inj hmore
      exact .inl ⟨high, low, more, rfl, htail.symm, hhex⟩
    · exact .inr ⟨high, low, hrest, hhex⟩
  · rintro (⟨high, low, more, rfl, rfl, hhex⟩ | ⟨high, low, hinfix, hhex⟩)
    · exact ⟨high, low, (List.prefix_append ['%', high, low] more).isInfix, hhex⟩
    · exact ⟨high, low, hinfix.trans (List.suffix_cons c rest).isInfix, hhex⟩

/-- A text without percent signs adds no escapes in front. -/
theorem hasEscape_append_iff {start : List Char} (h : ∀ c ∈ start, c ≠ '%') (rest : List Char) :
    HasEscape (start ++ rest) ↔ HasEscape rest := by
  induction start with
  | nil => exact Iff.rfl
  | cons c more ih =>
    rw [List.forall_mem_cons] at h
    rw [List.cons_append, hasEscape_cons_iff, ih h.2, or_iff_right]
    rintro ⟨_, _, _, hc, _, _⟩
    exact h.1 hc

/-! ### What a path denotes -/

theorem utf8_cons (c : Char) (rest : List Char) :
    utf8 (c :: rest) = String.utf8EncodeChar c ++ utf8 rest := List.flatMap_cons

theorem utf8_append (a b : List Char) : utf8 (a ++ b) = utf8 a ++ utf8 b := List.flatMap_append

/-- Every character has a byte. -/
theorem length_utf8EncodeChar_pos (c : Char) : 0 < (String.utf8EncodeChar c).length :=
  List.length_pos_iff.mpr String.utf8EncodeChar_ne_nil

/-- Without escapes a path denotes its own characters. -/
theorem percentDecode_of_not_hasEscape {text : List Char} (h : ¬ HasEscape text) :
    percentDecode text = utf8 text := by
  -- Along the reading of the path: no step of it reads digits.
  fun_induction percentDecode text with
  | case1 high low rest byte hbyte _ =>
    refine absurd (hasEscape_cons_iff.mpr (.inl ⟨high, low, rest, rfl, rfl, ?_⟩)) h
    rw [hbyte]
    rfl
  | case2 high low rest _ ih =>
    rw [ih fun hrest => h (hasEscape_cons_iff.mpr (.inr hrest)), utf8_cons '%']
  | case3 c rest _ ih =>
    rw [ih fun hrest => h (hasEscape_cons_iff.mpr (.inr hrest)), utf8_cons]
  | case4 => rfl

/-- A path denotes at most as many bytes as it is written with. -/
theorem length_percentDecode_le (text : List Char) :
    (percentDecode text).length ≤ (utf8 text).length := by
  fun_induction percentDecode text with
  | case1 high low rest byte _ ih =>
    have hpos := length_utf8EncodeChar_pos '%'
    simp only [utf8_cons, List.length_cons, List.length_append]
    omega
  | case2 high low rest _ ih =>
    rw [utf8_cons '%', List.length_append, List.length_append]
    exact Nat.add_le_add_left ih _
  | case3 c rest _ ih =>
    rw [utf8_cons, List.length_append, List.length_append]
    exact Nat.add_le_add_left ih _
  | case4 => exact Nat.le_refl _

/-- With an escape it denotes fewer. -/
theorem length_percentDecode_lt {text : List Char} (h : HasEscape text) :
    (percentDecode text).length < (utf8 text).length := by
  fun_induction percentDecode text with
  | case1 high low rest byte _ _ =>
    -- one byte instead of at least three
    have hle := length_percentDecode_le rest
    have hpercent := length_utf8EncodeChar_pos '%'
    have hhigh := length_utf8EncodeChar_pos high
    simp only [utf8_cons, List.length_cons, List.length_append]
    omega
  | case2 high low rest hbyte ih =>
    rcases hasEscape_cons_iff.mp h with ⟨_, _, _, -, hrest, hhex⟩ | hrest
    · obtain ⟨rfl, hlow⟩ := List.cons.inj hrest
      obtain ⟨rfl, -⟩ := List.cons.inj hlow
      rw [hbyte] at hhex
      cases hhex
    · rw [utf8_cons '%', List.length_append, List.length_append]
      exact Nat.add_lt_add_left (ih hrest) _
  | case3 c rest hother ih =>
    rcases hasEscape_cons_iff.mp h with ⟨high, low, more, hc, hrest, -⟩ | hrest
    · exact absurd hrest (hother high low more hc)
    · rw [utf8_cons, List.length_append, List.length_append]
      exact Nat.add_lt_add_left (ih hrest) _
  | case4 =>
    obtain ⟨high, low, hinfix, -⟩ := h
    cases List.infix_nil.mp hinfix

/-- A path denotes its own characters exactly if it has no escape. -/
theorem percentDecode_eq_utf8_iff {text : List Char} :
    percentDecode text = utf8 text ↔ ¬ HasEscape text := by
  refine ⟨?_, percentDecode_of_not_hasEscape⟩
  intro heq hescape
  have hlt := length_percentDecode_lt hescape
  rw [heq] at hlt
  exact Nat.lt_irrefl _ hlt

instance (text : List Char) : Decidable (HasEscape text) :=
  decidable_of_iff (¬ percentDecode text = utf8 text)
    ((not_congr percentDecode_eq_utf8_iff).trans Classical.not_not)

/-- Every character belongs to the path exactly if there is neither a query nor a fragment. -/
theorem forall_isPathChar_iff {text : List Char} :
    (∀ c ∈ text, isPathChar c = true) ↔ '?' ∉ text ∧ '#' ∉ text := by
  constructor
  · intro h
    constructor
    · intro hmem
      cases h _ hmem
    · intro hmem
      cases h _ hmem
  · rintro ⟨hquery, hfragment⟩ c hc
    rw [isPathChar, Bool.and_eq_true, bne_iff_ne, bne_iff_ne]
    constructor
    · rintro rfl
      exact hquery hc
    · rintro rfl
      exact hfragment hc

/-- What is left of a path up to a query or a fragment denotes less than the whole is written
    with. -/
theorem length_percentDecode_takeWhile_lt {text : List Char}
    (h : ¬ ∀ c ∈ text, isPathChar c = true) :
    (percentDecode (text.takeWhile isPathChar)).length < (utf8 text).length := by
  have hle := length_percentDecode_le (text.takeWhile isPathChar)
  have hsplit : utf8 text
      = utf8 (text.takeWhile isPathChar) ++ utf8 (text.dropWhile isPathChar) := by
    rw [← utf8_append, List.takeWhile_append_dropWhile]
  cases hrest : text.dropWhile isPathChar with
  | nil => exact absurd (List.dropWhile_eq_nil_iff.mp hrest) h
  | cons c rest =>
    -- the character that ends the path has a byte of its own
    have hpos := length_utf8EncodeChar_pos c
    rw [hsplit, hrest, utf8_cons, List.length_append, List.length_append]
    omega

/-- **Paths.** What is left of a path up to a query or a fragment denotes the whole path, as it is
    written, exactly if there is neither of them nor an escape. -/
theorem percentDecode_eq_iff (text : List Char) :
    percentDecode (text.takeWhile isPathChar) = utf8 text ↔
      '?' ∉ text ∧ '#' ∉ text ∧ ¬ HasEscape text := by
  rw [← and_assoc, ← forall_isPathChar_iff]
  by_cases hall : ∀ c ∈ text, isPathChar c = true
  · rw [List.takeWhile_eq_self_iff.mpr hall, and_iff_right hall]
    exact percentDecode_eq_utf8_iff
  · refine iff_of_false ?_ fun h => hall h.1
    intro heq
    have hlt := length_percentDecode_takeWhile_lt hall
    rw [heq] at hlt
    exact Nat.lt_irrefl _ hlt

/-! ### The address of a file -/

/-- The path of a file on the host that serves it. -/
def pathOnHost (url : RepoUrl) (path : String) : List Char :=
  '/' :: (url.owner.toList ++ '/' :: (url.repo.toList ++ ("/HEAD/".toList ++ path.toList)))

/-- No character before the path of a file has a meaning of its own in an address. -/
theorem plain_of_names {url : RepoUrl} (h : url.Names) :
    ∀ c ∈ '/' :: (url.owner.toList ++ '/' :: (url.repo.toList ++ "/HEAD/".toList)),
      c ≠ '?' ∧ c ≠ '#' ∧ c ≠ '%' := by
  have hhead : ∀ c ∈ "/HEAD/".toList, c ≠ '?' ∧ c ≠ '#' ∧ c ≠ '%' := by
    have hall : ("/HEAD/".toList.all fun c => decide (c ≠ '?' ∧ c ≠ '#' ∧ c ≠ '%')) = true := by
      decide +kernel
    intro c hc
    exact of_decide_eq_true (List.all_eq_true.mp hall c hc)
  have howner : ∀ c ∈ url.owner.toList, c ≠ '?' ∧ c ≠ '#' ∧ c ≠ '%' := by
    intro c hc
    have hchar := h.owner_chars c hc
    refine ⟨?_, ?_, ?_⟩ <;> rintro rfl <;> cases hchar
  have hrepo : ∀ c ∈ url.repo.toList, c ≠ '?' ∧ c ≠ '#' ∧ c ≠ '%' := by
    intro c hc
    have hchar := h.repo_chars c hc
    refine ⟨?_, ?_, ?_⟩ <;> rintro rfl <;> cases hchar
  simp only [List.forall_mem_cons, List.forall_mem_append]
  exact ⟨by decide, howner, by decide, hrepo, hhead⟩

/-- The path of the address of a file. -/
theorem addressPath_fileUrl (url : RepoUrl) (path : String) :
    addressPath (fileUrl url path).toList = (pathOnHost url path).takeWhile isPathChar := by
  have hroot : contentRoot = scheme ++ ("raw.githubusercontent.com".toList ++ ['/']) := by
    decide +kernel
  have hhost : ∀ c ∈ "raw.githubusercontent.com".toList, (c != '/' && isPathChar c) = true :=
    List.all_eq_true.mp (by decide +kernel)
  -- behind the scheme, the host goes up to the slash before the owner
  rw [addressPath, toList_fileUrl, hroot, List.append_assoc, List.drop_left, List.append_assoc,
    List.dropWhile_append_of_pos hhost, List.singleton_append,
    List.dropWhile_cons_of_neg (by decide)]
  rfl

namespace Download

/-- **Requests.** A file that is not refused is requested, and the path of the address denotes the
    file in the repository exactly if its own path has no question mark, no number sign and no
    escape. -/
theorem denotes_iff {text : String} {d : Download} (h : RepoUrl.parse text = .ok d.url)
    {path : String} {target : FilePath} (husable : isUsable path = true)
    (htarget : d.target? path = some target) (s : DownloadState) :
    (d.one s path).requests = s.requests ++ [d.request path]
      ∧ (percentDecode (addressPath (d.request path).url.toList) = utf8 (pathOnHost d.url path) ↔
          '?' ∉ path.toList ∧ '#' ∉ path.toList ∧ ¬ HasEscape path.toList) := by
  have hplain := plain_of_names (RepoUrl.names_of_parse h)
  have hpath : pathOnHost d.url path = ('/' :: (d.url.owner.toList
      ++ '/' :: (d.url.repo.toList ++ "/HEAD/".toList))) ++ path.toList := by
    simp only [pathOnHost, List.cons_append, List.append_assoc]
  constructor
  · rw [one, husable, htarget]
    exact requests_store target (d.network.file path) _
  · have hurl : (d.request path).url = fileUrl d.url path := rfl
    rw [hurl, addressPath_fileUrl, percentDecode_eq_iff, hpath,
      hasEscape_append_iff fun c hc => (hplain c hc).2.2]
    simp only [List.mem_append, not_or]
    refine and_congr (and_iff_right ?_) (and_congr_left' (and_iff_right ?_))
    · exact fun hmem => (hplain _ hmem).1 rfl
    · exact fun hmem => (hplain _ hmem).2.1 rfl

/-! ### Two files -/

/-- Downloads into an empty working area, with an empty file for every path. -/
def sample : Download :=
  ⟨.default, ⟨"owner", "repo"⟩, ⟨"/", ["tmp", "lumenclew-0"]⟩,
    { tree := .timedOut, file := fun _ => .answered 200 [] }, []⟩

/-- A percent sign that no digits follow changes nothing. -/
theorem denotes_percent :
    RepoUrl.parse "https://github.com/owner/repo" = .ok sample.url
      ∧ isUsable "src/100%.js" = true
      ∧ sample.target? "src/100%.js" = some ⟨"/", ["tmp", "lumenclew-0", "src", "100%.js"]⟩
      ∧ percentDecode (addressPath (sample.request "src/100%.js").url.toList)
        = utf8 (pathOnHost sample.url "src/100%.js") := by
  have hparse : RepoUrl.parse "https://github.com/owner/repo" = .ok sample.url := by
    decide +kernel
  have husable : isUsable "src/100%.js" = true := by decide +kernel
  have htarget : sample.target? "src/100%.js"
      = some ⟨"/", ["tmp", "lumenclew-0", "src", "100%.js"]⟩ := by decide +kernel
  refine ⟨hparse, husable, htarget, ?_⟩
  refine (denotes_iff hparse husable htarget { host := default }).2.mpr ?_
  decide +kernel

/-- Behind a number sign nothing is asked for: another file is denoted. -/
theorem not_denotes_fragment :
    RepoUrl.parse "https://github.com/owner/repo" = .ok sample.url
      ∧ isUsable "docs/a#b.js" = true
      ∧ sample.target? "docs/a#b.js" = some ⟨"/", ["tmp", "lumenclew-0", "docs", "a#b.js"]⟩
      ∧ (sample.one { host := default } "docs/a#b.js").requests = [sample.request "docs/a#b.js"]
      ∧ percentDecode (addressPath (sample.request "docs/a#b.js").url.toList)
        = utf8 (pathOnHost sample.url "docs/a")
      ∧ percentDecode (addressPath (sample.request "docs/a#b.js").url.toList)
        ≠ utf8 (pathOnHost sample.url "docs/a#b.js") := by
  decide +kernel

end Download

end PlainScan
