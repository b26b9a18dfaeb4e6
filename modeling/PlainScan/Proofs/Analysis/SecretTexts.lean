import PlainScan.Proofs.Analysis.Hits
import PlainScan.Proofs.Pattern.Language
import PlainScan.Proofs.Pattern.Letters

namespace PlainScan.Secrets

/-!
# The texts of secrets

Each kind of secret has a regular language of its own.  A kind is reported in a line exactly if one
of its texts stands somewhere in the line, at the first column at which one does; so nothing that
stands around a secret in its line can hide it.

* `textsOf` — the language of each kind of secret.
* `language_pattern` — the patterns stand for these languages.
* `mem_contentFindings_iff` — the findings in the text of a file.
* `reported_iff` — what is reported in a line.
-/

open Pattern
open scoped Computability

/-! ### Languages -/

/-- The texts of a language, or no text. -/
def optional (L : Language Char) : Language Char := L + 1

/-- At least so many allowed characters. -/
def atLeast (least : Nat) (allowed : Char → Bool) : Language Char :=
  single allowed ^ least * (single allowed)∗

/-- The characters that equal an allowed one if case is ignored. -/
def singleAnyCase (allowed : Char → Bool) : Language Char :=
  {w | ∃ x c, allowed x = true ∧ (x = c ∨ sameLetter x c = true) ∧ w = [c]}

/-- Any number of blanks. -/
def blankTexts : Language Char := (single Text.isBlank)∗

/-- A quotation mark of either kind. -/
def quoteTexts : Language Char := single isQuoteMark

/-- A user name, a colon, a password and the sign before the host. -/
def credentialTexts : Language Char :=
  atLeast 1 (fun c => c != ':' && !Text.isBlank c) * word ":"
    * atLeast 1 (fun c => c != '@' && !Text.isBlank c) * word "@"

/-- A key, perhaps in quotes, a colon or an equals sign, and a value of at least twenty characters
    in quotes; blanks may stand around the sign. -/
def settingTexts (key : Language Char) : Language Char :=
  optional quoteTexts * key * optional quoteTexts * blankTexts * single (oneOf ":=") * blankTexts
    * quoteTexts * (singleAnyCase isTokenChar ^ 20 * (singleAnyCase isTokenChar)∗) * quoteTexts

/-- The texts of each kind of secret. -/
def textsOf : String → Language Char
  | "private_key" =>
    word "-----BEGIN "
      * optional (word "RSA " + word "EC " + word "DSA " + word "OPENSSH " + word "PGP ")
      * word "PRIVATE KEY-----"
  | "aws_key" => word "AKIA" * single (fun c => c.isDigit || c.isUpper) ^ 16
  | "db_connection_mongo" =>
    word "mongodb" * optional (word "+srv") * word "://" * credentialTexts
  | "db_connection_postgres" =>
    word "postgres" * optional (word "ql") * word "://" * credentialTexts
  | "db_connection_mysql" => word "mysql://" * credentialTexts
  | "api_key_generic" =>
    settingTexts (wordAnyCase "api" * optional (single (oneOf "_-")) * wordAnyCase "key")
  | "bearer_token" =>
    optional quoteTexts * word "Bearer" * atLeast 1 Text.isBlank
      * atLeast 20 (fun c => isTokenChar c || c == '.') * optional quoteTexts
  | "token_generic" => settingTexts (wordAnyCase "token")
  | _ => 0

/-! ### Patterns -/

/-- Whether a character equals one of a token if case is ignored. -/
theorem isTokenCharAnyCase_iff {c : Char} :
    isTokenCharAnyCase c = true ↔ ∃ x, isTokenChar x = true ∧ (x = c ∨ sameLetter x c = true) := by
  constructor
  · intro h
    rw [isTokenCharAnyCase, Bool.or_eq_true] at h
    rcases h with h | h
    · exact ⟨c, h, .inl rfl⟩
    · simp only [isLetterAnyCase, Bool.or_eq_true, beq_iff_eq] at h
      -- the four characters outside ASCII have a relative in it
      rcases h with (((h | rfl) | rfl) | rfl) | rfl
      · refine ⟨c, ?_, .inl rfl⟩
        simp [isTokenChar, Char.isAlphanum, h]
      · exact ⟨'i', by decide, .inr (by decide)⟩
      · exact ⟨'i', by decide, .inr (by decide)⟩
      · exact ⟨'s', by decide, .inr (by decide)⟩
      · exact ⟨'k', by decide, .inr (by decide)⟩
  · rintro ⟨x, hx, rfl | h⟩
    · rw [isTokenCharAnyCase, hx, Bool.true_or]
    · rw [isTokenCharAnyCase]
      simp only [sameLetter, Bool.or_eq_true, Bool.and_eq_true, beq_iff_eq] at h
      rcases h with ((h | ⟨-, rfl | rfl⟩) | ⟨-, rfl⟩) | ⟨-, rfl⟩
      · -- a letter in upper case is one of a token, and any other character is its own lower case
        by_cases hupper : c.isUpper = true
        · have halphanum : c.isAlphanum = true := isAlphanum_iff.mpr (.inl (.inl hupper))
          simp [isTokenChar, halphanum]
        · rw [← toLower_of_not_isUpper (Bool.eq_false_iff.mpr hupper), h, hx, Bool.true_or]
      · decide
      · decide
      · decide
      · decide

theorem single_isTokenCharAnyCase :
    single isTokenCharAnyCase = singleAnyCase isTokenChar := by
  refine Language.ext fun w => ?_
  constructor
  · rintro ⟨c, hc, rfl⟩
    obtain ⟨x, hx, hsame⟩ := isTokenCharAnyCase_iff.mp hc
    exact ⟨x, c, hx, hsame, rfl⟩
  · rintro ⟨x, c, hx, hsame, rfl⟩
    exact ⟨c, isTokenCharAnyCase_iff.mpr ⟨x, hx, hsame⟩, rfl⟩

theorem language_credentials : credentials.language = credentialTexts := by
  simp only [credentials, credentialTexts, atLeast, language_all, List.map_cons, List.map_nil,
    List.prod_cons, List.prod_nil, language, language_literal, mul_one, mul_assoc]

theorem language_quotedSetting (key : Pattern) :
    (quotedSetting key).language = settingTexts key.language := by
  simp only [quotedSetting, settingTexts, optional, quoteTexts, blankTexts, blanks, quoteMark,
    language_all, List.map_cons, List.map_nil, List.prod_cons, List.prod_nil, language, pow_zero,
    one_mul, mul_one, mul_assoc, single_isTokenCharAnyCase]

/-- **Languages.** Each pattern stands for the texts of its kind of secret. -/
theorem language_pattern {p : SecretPattern} (hp : p ∈ patterns) :
    p.pattern.language = textsOf p.id := by
  simp only [patterns, List.mem_cons, List.not_mem_nil, or_false] at hp
  rcases hp with rfl | rfl | rfl | rfl | rfl | rfl | rfl | rfl
  all_goals
    simp only [textsOf, privateKey, cloudKey, bearerToken, language_quotedSetting,
      language_credentials, optional, atLeast, quoteTexts, quoteMark, language_all, language_any,
      List.map_cons, List.map_nil, List.prod_cons, List.prod_nil, List.sum_cons, List.sum_nil,
      language, language_literal, language_literalAnyCase, language_exactly, mul_one, mul_assoc,
      add_zero, add_assoc]

/-- Every pattern looks only at the characters it takes. -/
theorem isRegular_pattern {p : SecretPattern} (hp : p ∈ patterns) :
    p.pattern.isRegular = true := by
  have hall : patterns.all (fun p => p.pattern.isRegular) = true := by decide
  exact List.all_eq_true.mp hall p hp

/-- A pattern is found in a line at the least column at which one of its texts stands. -/
theorem column?_iff {p : SecretPattern} (hp : p ∈ patterns) {line : List Char} {column : Nat} :
    p.column? line = some column ↔ IsLeast {n | OccursAt (textsOf p.id) line n} column := by
  rw [SecretPattern.column?, column_find?_iff (isRegular_pattern hp), language_pattern hp]

/-! ### Findings -/

/-- The findings in the text of a file are those for the patterns that are found in its lines. -/
theorem mem_contentFindings_iff {path : FilePath} {text : List Char} {f : RawFinding} :
    f ∈ contentFindings path text ↔ ∃ number line p column,
      (Text.splitLines text)[number]? = some line ∧ p ∈ patterns ∧ p.column? line = some column
        ∧ f = finding path (number + 1) p column := by
  simp only [contentFindings, linesFindings_eq, lineFindings, lineHits, List.mem_flatMap,
    List.mem_map, List.mem_filterMap, Option.map_eq_some_iff]
  constructor
  · rintro ⟨⟨line, number⟩, hline, _, ⟨p, hp, column, hcolumn, rfl⟩, rfl⟩
    obtain ⟨hle, hline⟩ := List.mk_mem_zipIdx_iff_le_and_getElem?_sub.mp hline
    refine ⟨number - 1, line, p, column, hline, hp, hcolumn, ?_⟩
    rw [Nat.sub_add_cancel hle]
  · rintro ⟨number, line, p, column, hline, hp, hcolumn, rfl⟩
    refine ⟨(line, number + 1), List.mk_mem_zipIdx_iff_le_and_getElem?_sub.mpr ⟨?_, hline⟩,
      (p, column), ⟨p, hp, column, hcolumn, rfl⟩, rfl⟩
    exact Nat.le_add_left 1 number

/-- A finding tells the line, the pattern and the column. -/
theorem finding_inj {path : FilePath} {number number' column column' : Nat} {p q : SecretPattern}
    (hp : p ∈ patterns) (hq : q ∈ patterns)
    (h : finding path number p column = finding path number' q column') :
    number = number' ∧ p = q ∧ column = column' := by
  have hline : (number : Int) = number' := Json.int.inj (congrArg RawFinding.line h)
  have hcolumn : (column : Int) = column' := Json.int.inj (congrArg RawFinding.column h)
  have hfields := congrArg RawFinding.metadata h
  simp only [finding, List.cons.injEq, Prod.mk.injEq, Json.str.injEq, true_and] at hfields
  exact ⟨Int.ofNat_inj.mp hline, List.inj_on_of_nodup_map nodup_ids_patterns hp hq hfields.1,
    Int.ofNat_inj.mp hcolumn⟩

variable {path : FilePath} {text line : List Char} {number : Nat} {p : SecretPattern}

/-- A pattern is reported in a line at a column exactly if it is found there. -/
theorem finding_mem_contentFindings_iff (hline : (Text.splitLines text)[number]? = some line)
    (hp : p ∈ patterns) (column : Nat) :
    finding path (number + 1) p column ∈ contentFindings path text
      ↔ p.column? line = some column := by
  rw [mem_contentFindings_iff]
  constructor
  · rintro ⟨number', line', q, column', hline', hq, hcolumn, h⟩
    obtain ⟨hnumber, rfl, rfl⟩ := finding_inj hp hq h
    obtain rfl : number = number' := Nat.succ.inj hnumber
    obtain rfl : line = line' := Option.some.inj (hline.symm.trans hline')
    exact hcolumn
  · intro hcolumn
    exact ⟨number, line, p, column, hline, hp, hcolumn, rfl⟩

/-- A language has a text in a line exactly if one stands at some column of it. -/
theorem exists_infix_iff {L : Language Char} : (∃ w ∈ L, w <:+: line) ↔ ∃ n, OccursAt L line n := by
  constructor
  · rintro ⟨w, hw, front, rest, rfl⟩
    exact ⟨front.length, front, w, rest, rfl, hw, rfl⟩
  · rintro ⟨n, front, w, rest, rfl, hw, -⟩
    exact ⟨w, hw, front, rest, rfl⟩

/-- A kind of secret is reported in a line exactly if one of its texts is a part of the line. -/
theorem exists_finding_iff (hline : (Text.splitLines text)[number]? = some line)
    (hp : p ∈ patterns) :
    (∃ column, finding path (number + 1) p column ∈ contentFindings path text)
      ↔ ∃ w ∈ textsOf p.id, w <:+: line := by
  simp only [finding_mem_contentFindings_iff hline hp, column?_iff hp, exists_infix_iff]
  constructor
  · rintro ⟨column, hleast⟩
    exact ⟨column, hleast.1⟩
  · -- of the columns at which a text stands one is the least
    intro hsome
    classical
    exact ⟨Nat.find hsome, Nat.find_spec hsome, fun n hn => Nat.find_min' hsome hn⟩

/-- **Texts of secrets.** A kind of secret is reported in a line of a file at the least column at
    which one of its texts stands in the line, and it is reported exactly if one of them is a part
    of the line.  So it is still reported where more stands before that part of the line or behind
    it, in the same file or another. -/
theorem reported_iff (hline : (Text.splitLines text)[number]? = some line) (hp : p ∈ patterns) :
    (∀ column, finding path (number + 1) p column ∈ contentFindings path text
      ↔ IsLeast {n | OccursAt (textsOf p.id) line n} column)
    ∧ ((∃ column, finding path (number + 1) p column ∈ contentFindings path text)
      ↔ ∃ w ∈ textsOf p.id, w <:+: line)
    ∧ ∀ (path' : FilePath) (text' : List Char) (number' : Nat) (front back : List Char),
        (Text.splitLines text')[number']? = some (front ++ line ++ back) →
        (∃ column, finding path (number + 1) p column ∈ contentFindings path text) →
        ∃ column, finding path' (number' + 1) p column ∈ contentFindings path' text' := by
  refine ⟨fun column => ?_, exists_finding_iff hline hp, ?_⟩
  · rw [finding_mem_contentFindings_iff hline hp, column?_iff hp]
  · intro path' text' number' front back hline' hreported
    obtain ⟨w, hw, hpart⟩ := (exists_finding_iff hline hp).mp hreported
    exact (exists_finding_iff hline' hp).mpr ⟨w, hw, hpart.trans ⟨front, back, rfl⟩⟩

/-! ### Two addresses -/

namespace Sample

/-- Two addresses in a line: the first has a blank where the user name should end, the second has
    colons in its password. -/
def addresses : List Char := "postgres://u p@postgres://a:b:c@h".toList

/-- The line with another one before it. -/
def note : List Char := "see\n".toList ++ addresses

/-- The second address is reported, where it starts. -/
theorem reported_iff_addresses :
    (Text.splitLines note)[1]? = some addresses
      ∧ ∃ p ∈ patterns, p.id = "db_connection_postgres"
        ∧ finding ⟨"", ["notes"]⟩ 2 p 15 ∈ contentFindings ⟨"", ["notes"]⟩ note
        ∧ IsLeast {n | OccursAt (textsOf "db_connection_postgres") addresses n} 15
        ∧ ∃ w ∈ textsOf "db_connection_postgres", w <:+: addresses := by
  have hline : (Text.splitLines note)[1]? = some addresses := by decide
  have hp : patterns[3] ∈ patterns := List.getElem_mem _
  have hcolumn : patterns[3].column? addresses = some 15 := by decide +kernel
  have hfound : finding ⟨"", ["notes"]⟩ 2 patterns[3] 15 ∈ contentFindings ⟨"", ["notes"]⟩ note :=
    (finding_mem_contentFindings_iff hline hp 15).mpr hcolumn
  obtain ⟨hleast, hpart, -⟩ := @reported_iff ⟨"", ["notes"]⟩ note addresses 1 patterns[3] hline hp
  exact ⟨hline, patterns[3], hp, rfl, hfound, (hleast 15).mp hfound, hpart.mp ⟨15, hfound⟩⟩

end Sample

end PlainScan.Secrets
