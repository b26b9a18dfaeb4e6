import PlainScan.Text.Cells

namespace PlainScan.Text

/-!
# Characters that are shown together

A mark is shown with the character before it, a joiner ties the characters around it into one, and
a selector turns a narrow character into a wide emoji.

* `cells` — how many cells of a terminal line a text takes.
* `Cluster` — characters that are shown together; `clusters` cuts a text into them.
-/

/-! ### Joining characters -/

/-- The character that ties its neighbours together. -/
def joiner : Char := '\u200D'

/-- The character that asks for the emoji form of the one before it. -/
def emojiSelector : Char := '\uFE0F'

/-- Whether a character changes how its neighbours are shown. -/
def isJoining (c : Char) : Bool := c == joiner || c == emojiSelector

/-! ### Widths of texts -/

/-- The cells of the rest of a text, given the last visible character that no selector has
    followed.  What a joiner ties to the characters before it takes no cells. -/
def cellsFrom (last : Option Char) : List Char → Nat
  | [] => 0
  | c :: rest =>
    if c == joiner then
      match rest with
      | [] => 0
      | _ :: others => cellsFrom last others
    else if c == emojiSelector then
      (if last.any canWiden then 1 else 0) + cellsFrom none rest
    else cellsOf c + cellsFrom (if cellsOf c = 0 then last else some c) rest

/-- The cells that a text takes. -/
def cells (text : List Char) : Nat := cellsFrom none text

/-! ### Clusters -/

/-- Characters that are shown together, and their cells. -/
structure Cluster where
  text : List Char
  cells : Nat
  deriving DecidableEq, Repr, Inhabited

/-- The cluster with more characters and more cells. -/
def Cluster.extend (cluster : Cluster) (more : List Char) (wider : Nat) : Cluster :=
  ⟨cluster.text ++ more, cluster.cells + wider⟩

/-- The clusters of the rest of a text, after the one that is growing; `last` is as for
    `cellsFrom`. -/
def clustersFrom (growing : Cluster) (last : Option Char) : List Char → List Cluster
  | [] => [growing]
  | c :: rest =>
    if c == joiner then
      match rest with
      | [] => [growing.extend [c] 0]
      | d :: others => clustersFrom (growing.extend [c, d] 0) last others
    else if c == emojiSelector then
      if last.any canWiden then clustersFrom (growing.extend [c] 1) none rest
      else clustersFrom (growing.extend [c] 0) last rest
    else if cellsOf c = 0 then clustersFrom (growing.extend [c] 0) last rest
    else growing :: clustersFrom ⟨[c], cellsOf c⟩ (some c) rest

/-- A text as its clusters. -/
def clusters : List Char → List Cluster
  | [] => []
  | c :: rest =>
    if isJoining c || cellsOf c = 0 then clustersFrom ⟨[c], 0⟩ none rest
    else clustersFrom ⟨[c], cellsOf c⟩ (some c) rest

theorem clustersFrom_text (growing : Cluster) (last : Option Char) (text : List Char) :
    (clustersFrom growing last text).flatMap Cluster.text = growing.text ++ text := by
  fun_induction clustersFrom growing last text <;>
    simp_all [Cluster.extend, List.append_assoc]

/-- Nothing is lost when a text is cut into clusters. -/
theorem clusters_text (text : List Char) : (clusters text).flatMap Cluster.text = text := by
  cases text with
  | nil => rfl
  | cons c rest =>
    simp only [clusters]
    split <;> simp [clustersFrom_text]

end PlainScan.Text
