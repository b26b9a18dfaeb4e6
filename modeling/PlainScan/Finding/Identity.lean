import PlainScan.Json.Display
import PlainScan.Hash.Sha256

namespace PlainScan

/-!
# Identity of findings

A finding is known by the fields that tell it from others.  Their texts, joined by colons, are
hashed, so the same finding has the same identifier in every run.

* `identityText` — the joined text; an absent field counts as empty.
* `isIdentifiable` — whether that text can be encoded; there is no identifier where it cannot.
* `findingId` — the first sixteen hexadecimal digits of its hash.
-/

/-- The text of one field. -/
def identityPart : Json → String
  | .null => ""
  | value => value.display

/-- The texts of the fields, joined by colons. -/
def identityText (parts : List Json) : String := ":".intercalate (parts.map identityPart)

/-- The number of digits of an identifier. -/
def identityLength : Nat := 16

/-- Whether a finding with the given fields can have an identifier: what is hashed has to be
    encoded first, and half of a surrogate pair cannot be. -/
def isIdentifiable (parts : List Json) : Bool := Text.isEncodable (identityText parts)

/-- The identifier of the finding with the given fields, for fields that are identifiable. -/
def findingId (parts : List Json) : String :=
  String.ofList ((Sha256.hexText (Text.encode (identityText parts))).take identityLength)

end PlainScan
