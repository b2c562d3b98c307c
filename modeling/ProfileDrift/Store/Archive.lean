import ProfileDrift.Profile.Codec
import ProfileDrift.Store.Basic
import ProfileDrift.Store.Digest

namespace ProfileDrift

/-- The name of a document made from its content: the digest of its compact text. -/
def Document.address (document : Document Float) : ProfileRef :=
  ⟨Digest.hexDigest document.toJson.compact⟩

def Profile.address (profile : Profile Float) : ProfileRef :=
  (Document.ofProfile profile).address

/-- A store held in memory. Profiles are kept under the address of their content,
so storing one twice keeps it once; each version lists references in the order
in which they were first hung on it. -/
structure Archive where
  objects : List (ProfileRef × Profile Float)
  index : List (VersionId × List ProfileRef)

namespace Archive

def empty : Archive := ⟨[], []⟩

def object? (archive : Archive) (reference : ProfileRef) : Option (Profile Float) :=
  archive.objects.lookup reference

/-- The references hung on a version; none if nothing was. -/
def listing (archive : Archive) (version : VersionId) : List ProfileRef :=
  (archive.index.lookup version).getD []

/-- Puts a value under a name, in place of the one that is there if there is one. -/
def put {κ β : Type} [BEq κ] (entries : List (κ × β)) (name : κ) (value : β) : List (κ × β) :=
  match entries with
  | [] => [(name, value)]
  | (key, old) :: rest =>
    if key == name then (key, value) :: rest else (key, old) :: put rest name value

/-- Keeps a profile, hangs it on a version and tells its reference. -/
def insert (archive : Archive) (version : VersionId) (profile : Profile Float) :
    Archive × ProfileRef :=
  let reference := profile.address
  let listed := archive.listing version
  let listed := if listed.contains reference then listed else listed ++ [reference]
  ({ objects := put archive.objects reference profile
     index := put archive.index version listed }, reference)

/-- A version without profiles lists none; a reference never stored is unknown. -/
def store (archive : Archive) : Store Float where
  list version := .ok (archive.listing version)
  load reference :=
    match archive.object? reference with
    | some profile => .ok profile
    | none => .error (.failure (.unknownProfile reference))

end Archive

end ProfileDrift
