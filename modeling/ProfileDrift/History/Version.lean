namespace ProfileDrift

/-- The name of a version, such as the checksum of a commit. -/
structure VersionId where
  text : String
  deriving DecidableEq, Repr

/-- The name under which a store keeps a profile. -/
structure ProfileRef where
  text : String
  deriving DecidableEq, Repr

/-- The leading characters that take up exactly so many bytes of UTF-8, if some do. -/
def leadingBytes? : List Char → Nat → Option (List Char)
  | _, 0 => some []
  | [], _ + 1 => none
  | char :: rest, room =>
    if char.utf8Size ≤ room then (leadingBytes? rest (room - char.utf8Size)).map (char :: ·)
    else none

/-- The first six bytes, as shown in reports. A name that is shorter, or in which
a character straddles the sixth byte, is shown whole. -/
def VersionId.short (version : VersionId) : String :=
  match leadingBytes? version.text.toList 6 with
  | some leading => String.ofList leading
  | none => version.text

end ProfileDrift
