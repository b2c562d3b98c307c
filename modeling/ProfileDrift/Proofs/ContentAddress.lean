import ProfileDrift.Proofs.ArchiveState
import ProfileDrift.Proofs.ProfileContent
import ProfileDrift.Proofs.TextBytes

namespace ProfileDrift

namespace Digest

theorem flatMap_injective {ι κ : Type} {shown : ι → List κ} {width : ℕ}
    (even : ∀ item, (shown item).length = width) (tells : Function.Injective shown)
    {items others : List ι} (long : items.length = others.length)
    (same : items.flatMap shown = others.flatMap shown) : items = others := by
  induction items generalizing others with
  | nil => exact (List.length_eq_zero_iff.mp long.symm).symm
  | cons item items ih =>
    rcases others with _ | ⟨other, others⟩
    · cases long
    · rw [List.flatMap_cons, List.flatMap_cons] at same
      obtain ⟨first, rest⟩ := List.append_inj same ((even item).trans (even other).symm)
      rw [tells first, ih (Nat.succ.inj long) rest]

theorem length_bigEndian (width number : ℕ) : (bigEndian width number).length = width := by
  induction width with
  | zero => rfl
  | succ width ih => rw [bigEndian, List.length_cons, ih]

/-- Bytes tell a number up to what they have no room for. -/
theorem mod_eq_of_bigEndian_eq {width number other : ℕ}
    (same : bigEndian width number = bigEndian width other) :
    number % 256 ^ width = other % 256 ^ width := by
  induction width with
  | zero => rw [pow_zero, Nat.mod_one, Nat.mod_one]
  | succ width ih =>
    obtain ⟨first, rest⟩ := List.cons.inj same
    have byte := congrArg UInt8.toNat first
    rw [UInt8.toNat_ofNat', UInt8.toNat_ofNat'] at byte
    rw [Nat.mod_pow_succ, Nat.mod_pow_succ, ih rest]
    exact congrArg (other % 256 ^ width + 256 ^ width * ·) byte

def hexOfByte (byte : UInt8) : List Char :=
  [Nat.digitChar (byte.toNat / 16), Nat.digitChar (byte.toNat % 16)]

theorem hexOfByte_injective : Function.Injective hexOfByte := by
  intro byte other same
  have digit {number another : ℕ} (small : number < 16) (small' : another < 16)
      (shown : Nat.digitChar number = Nat.digitChar another) : number = another := by
    have value := Json.hexValue?_hexDigit number small
    rw [Json.hexDigit, shown] at value
    exact Option.some.inj (value.symm.trans (Json.hexValue?_hexDigit another small'))
  obtain ⟨high, low⟩ := List.cons.inj same
  have bound := byte.toNat_lt
  have bound' := other.toNat_lt
  have highs := digit (by omega) (by omega) high
  have lows := digit (by omega) (by omega) (List.cons.inj low).1
  exact UInt8.toNat_inj.mp (by omega)

theorem length_hexOfByte (byte : UInt8) : (hexOfByte byte).length = 2 := rfl

theorem length_hexOfWord (word : UInt32) : (hexOfWord word).length = 8 := rfl

theorem hexOfWord_injective : Function.Injective hexOfWord := by
  intro word other same
  have bytes : bigEndian 4 word.toNat = bigEndian 4 other.toNat :=
    flatMap_injective length_hexOfByte hexOfByte_injective
      ((length_bigEndian ..).trans (length_bigEndian ..).symm) same
  have numbers := mod_eq_of_bigEndian_eq bytes
  rw [Nat.mod_eq_of_lt (show word.toNat < 256 ^ 4 from word.toNat_lt),
    Nat.mod_eq_of_lt (show other.toNat < 256 ^ 4 from other.toNat_lt)] at numbers
  exact UInt32.toNat_inj.mp numbers

theorem Words.toList_injective : Function.Injective Words.toList := by
  rintro ⟨_, _, _, _, _, _, _, _⟩ ⟨_, _, _, _, _, _, _, _⟩ ⟨⟩
  rfl

/-- Hexadecimal digits tell the whole digest. -/
theorem sha256_eq_of_hexDigest_eq {text other : String} (same : hexDigest text = hexDigest other) :
    sha256 text.toUTF8.toList = sha256 other.toUTF8.toList :=
  Words.toList_injective
    (flatMap_injective length_hexOfWord hexOfWord_injective rfl (String.ofList_injective same))

/-- No two of the messages have one digest. -/
def CollisionFree (messages : List (List UInt8)) : Prop :=
  ∀ message ∈ messages, ∀ other ∈ messages, sha256 message = sha256 other → message = other

end Digest

/-- The bytes of the document of a profile, of which its address is the digest. -/
def Profile.message (profile : Profile Float) : List UInt8 :=
  (Document.ofProfile profile).toJson.compact.toUTF8.toList

theorem Profile.message_eq (profile : Profile Float) : profile.message =
    (Document.ofProfile profile).toJson.chars.flatMap String.utf8EncodeChar :=
  Text.bytes_ofList _

/-- Addresses are told apart by digests of bytes that can be computed. -/
theorem Profile.address_ne_of_sha256_ne {profile other : Profile Float}
    (apart : Digest.sha256
        ((Document.ofProfile profile).toJson.chars.flatMap String.utf8EncodeChar) ≠
      Digest.sha256 ((Document.ofProfile other).toJson.chars.flatMap String.utf8EncodeChar)) :
    profile.address ≠ other.address := by
  intro same
  rw [← message_eq, ← message_eq] at apart
  exact apart (Digest.sha256_eq_of_hexDigest_eq (ProfileRef.mk.inj same))

/-- An address tells the content of a profile as far as its document does. -/
theorem Profile.sameContent_of_address_eq {profiles : List (Profile Float)}
    (collisionFree : Digest.CollisionFree (profiles.map message)) {profile other : Profile Float}
    (member : profile ∈ profiles) (member' : other ∈ profiles)
    (same : profile.address = other.address) : profile.SameContent other := by
  have digests := Digest.sha256_eq_of_hexDigest_eq (ProfileRef.mk.inj same)
  have messages := collisionFree _ (List.mem_map_of_mem member) _ (List.mem_map_of_mem member')
    digests
  exact Document.sameContent_of_plain (Json.Value.plain_eq_of_compact_eq
    (Document.ofProfile_bounded profile) (Document.ofProfile_bounded other)
    (Text.eq_of_bytes_eq messages))

namespace Archive

/-- The archive after profiles were hung on versions one after the other. -/
def insertAll (archive : Archive) (inserts : List (VersionId × Profile Float)) : Archive :=
  inserts.foldl (fun archive (version, profile) => (archive.insert version profile).1) archive

/-- The profile that was inserted last of those with one reference. -/
def lastUnder? (reference : ProfileRef) (inserts : List (VersionId × Profile Float)) :
    Option (Profile Float) :=
  (inserts.map (·.2)).reverse.find? (reference = ·.address)

theorem lastUnder?_cons (reference : ProfileRef) (version : VersionId) (profile : Profile Float)
    (inserts : List (VersionId × Profile Float)) :
    lastUnder? reference ((version, profile) :: inserts) =
      (lastUnder? reference inserts).or
        (if reference = profile.address then some profile else none) := by
  rw [lastUnder?, List.map_cons, List.reverse_cons, List.find?_append, ← lastUnder?,
    List.find?_singleton]
  simp only [decide_eq_true_eq]

theorem object?_insertAll (inserts : List (VersionId × Profile Float)) (archive : Archive)
    (reference : ProfileRef) :
    (archive.insertAll inserts).object? reference =
      (lastUnder? reference inserts).or (archive.object? reference) := by
  induction inserts generalizing archive with
  | nil => rfl
  | cons insert inserts ih =>
    obtain ⟨version, profile⟩ := insert
    have step : archive.insertAll ((version, profile) :: inserts) =
        (archive.insert version profile).1.insertAll inserts := rfl
    rw [step, ih, object?_insert, lastUnder?_cons, Option.or_assoc]
    split
    · rfl
    · rfl

theorem load_of_object? {archive : Archive} {reference : ProfileRef} {profile : Profile Float}
    (found : archive.object? reference = some profile) :
    archive.store.load reference = .ok profile := by
  rw [store]
  simp only [found]

/-- Whatever is inserted later, a reference gives a profile with the content of the one that
it was made for: this one, or one inserted later that has the same reference. It gives the
profile itself if the document tells all of it, that is, if the numbers are finite and no
group is empty. -/
theorem load_insertAll (archive : Archive) (version : VersionId) (profile : Profile Float)
    (later : List (VersionId × Profile Float))
    (collisionFree : Digest.CollisionFree
      ((profile :: later.map (·.2)).map Profile.message)) :
    ∃ kept ∈ profile :: later.map (·.2),
      ((archive.insert version profile).1.insertAll later).store.load
          (archive.insert version profile).2 = .ok kept ∧
        kept.address = (archive.insert version profile).2 ∧
        profile.SameContent kept ∧
        (profile.IsFinite → profile.IsFilled → kept.IsFilled → kept = profile) := by
  obtain ⟨kept, member, found, same⟩ : ∃ kept ∈ profile :: later.map (·.2),
      ((archive.insert version profile).1.insertAll later).object? profile.address = some kept ∧
        profile.address = kept.address := by
    rw [object?_insertAll, object?_insert, if_pos rfl]
    cases last : lastUnder? profile.address later with
    | none => exact ⟨profile, List.mem_cons_self .., rfl, rfl⟩
    | some kept =>
      have inserted := List.mem_reverse.mp (List.mem_of_find?_eq_some last)
      have matched := List.find?_some last
      exact ⟨kept, List.mem_cons_of_mem _ inserted, rfl, of_decide_eq_true matched⟩
  have content :=
    Profile.sameContent_of_address_eq collisionFree (List.mem_cons_self ..) member same
  exact ⟨kept, member, load_of_object? found, same.symm, content,
    fun finite filled filled' => (content.eq finite filled filled').symm⟩

/-- A program that was measured at one size, as often as there are amounts. -/
def sample (workload : String) (amounts : List Float) : Profile Float :=
  (Profile.blank ⟨"time", "./bin", "", workload, []⟩ "time").withResource "main"
    (amounts.map fun amount => ⟨1.0, amount⟩)

theorem get?_sample (workload : String) (amounts : List Float) (uid : String) :
    (sample workload amounts).resources.get? uid =
      if uid = "main" then some (amounts.map fun amount => ⟨1.0, amount⟩) else none := by
  change (Keyed.empty.alter "main" _).get? uid = _
  rw [Keyed.get?_alter]
  rfl

theorem isFinite_sample {workload : String} {amounts : List Float}
    (finite : ∀ amount ∈ amounts, amount.isFinite = true) : (sample workload amounts).IsFinite := by
  refine ⟨fun uid point member => ?_, fun uid model member => absurd member List.not_mem_nil⟩
  rw [Profile.observations, get?_sample] at member
  split at member
  · obtain ⟨amount, inside, rfl⟩ := List.mem_map.mp member
    have one : (1.0 : Float).isFinite = true := by decide +kernel
    exact ⟨one, finite amount inside⟩
  · exact absurd member List.not_mem_nil

theorem isFilled_sample (workload : String) (amount : Float) (amounts : List Float) :
    (sample workload (amount :: amounts)).IsFilled := by
  refine ⟨fun uid none => ?_, fun uid none => by cases none⟩
  rw [get?_sample] at none
  split at none
  · exact List.cons_ne_nil _ _ (Option.some.inj none)
  · cases none

theorem load_insertAll_samples :
    let small := sample "small" [2.0]
    let later := [(⟨"c1"⟩, sample "large" [2.0]), (⟨"c2"⟩, small)]
    Digest.CollisionFree ((small :: later.map (·.2)).map Profile.message) ∧
      ((empty.insert ⟨"c1"⟩ small).1.insertAll later).store.load (empty.insert ⟨"c1"⟩ small).2 =
        .ok small := by
  intro small later
  have apart : Digest.sha256 small.message ≠ Digest.sha256 (sample "large" [2.0]).message := by
    rw [Profile.message_eq, Profile.message_eq]
    decide +kernel
  have collisionFree : Digest.CollisionFree ((small :: later.map (·.2)).map Profile.message) := by
    have either : ∀ message ∈ (small :: later.map (·.2)).map Profile.message,
        message = small.message ∨ message = (sample "large" [2.0]).message := by
      intro message member
      simp only [List.map_cons, List.map_nil, List.mem_cons, List.not_mem_nil, or_false,
        later] at member
      rcases member with first | second | third
      · exact .inl first
      · exact .inr second
      · exact .inl third
    intro message member other member' same
    rcases either message member with rfl | rfl <;> rcases either other member' with rfl | rfl
    · rfl
    · exact absurd same apart
    · exact absurd same.symm apart
    · rfl
  obtain ⟨kept, member, loaded, _, _, whole⟩ := load_insertAll empty ⟨"c1"⟩ small later collisionFree
  have finite : small.IsFinite := isFinite_sample (by decide +kernel)
  have filled : kept.IsFilled := by
    simp only [List.map_cons, List.map_nil, List.mem_cons, List.not_mem_nil, or_false,
      later] at member
    rcases member with rfl | rfl | rfl <;> exact isFilled_sample ..
  rw [whole finite (isFilled_sample ..) filled] at loaded
  exact ⟨collisionFree, loaded⟩

/-- Profiles with one document share a reference, which gives the later one, without any
collision of digests. -/
theorem load_of_compact_eq (archive : Archive) (version another : VersionId)
    {profile other : Profile Float} (apart : other ≠ profile)
    (same : (Document.ofProfile profile).toJson.compact =
      (Document.ofProfile other).toJson.compact) :
    Digest.CollisionFree ([profile, other].map Profile.message) ∧
      ((archive.insert version profile).1.insertAll [(another, other)]).store.load
        (archive.insert version profile).2 ≠ .ok profile := by
  have address : profile.address = other.address :=
    congrArg (fun text => ProfileRef.mk (Digest.hexDigest text)) same
  have message : profile.message = other.message := congrArg (·.toUTF8.toList) same
  have found : ((archive.insert version profile).1.insertAll [(another, other)]).object?
      profile.address = some other := by
    rw [object?_insertAll, lastUnder?_cons, if_pos address]
    rfl
  refine ⟨fun first member second member' _ => ?_, fun unchanged =>
    apart (Except.ok.inj ((load_of_object? found).symm.trans unchanged))⟩
  rw [List.map_cons, List.map_cons, message] at member member'
  have only (bytes : List UInt8) (present : bytes ∈ [other.message, other.message]) :
      bytes = other.message := by
    simpa using present
  rw [only first member, only second member']

/-- Nothing was measured, though there is a group to hold amounts. -/
def hollow : Profile Float := sample "small" []

def bare : Profile Float := .blank ⟨"time", "./bin", "", "small", []⟩ "time"

/-- The only amount is infinite; in the profile below it is not a number. -/
def endless : Profile Float := sample "small" [1.0 / 0.0]

def undefined : Profile Float := sample "small" [0.0 / 0.0]

/-- Documents show neither a group without observations nor which number it is that is not
finite, so that profiles that differ in this alone take the place of each other. -/
theorem load_insertAll_lookalikes :
    (Digest.CollisionFree ([hollow, bare].map Profile.message) ∧
      ((empty.insert ⟨"c1"⟩ hollow).1.insertAll [(⟨"c2"⟩, bare)]).store.load
        (empty.insert ⟨"c1"⟩ hollow).2 ≠ .ok hollow) ∧
    (Digest.CollisionFree ([endless, undefined].map Profile.message) ∧
      ((empty.insert ⟨"c1"⟩ endless).1.insertAll [(⟨"c2"⟩, undefined)]).store.load
        (empty.insert ⟨"c1"⟩ endless).2 ≠ .ok endless) := by
  have groups : bare ≠ hollow := fun same =>
    absurd (congrArg (·.resources.entries.length) same) (by decide)
  have amounts : undefined ≠ endless := fun same =>
    absurd (congrArg (fun profile => (profile.observations "main").map (·.y.isNaN)) same)
      (by decide +kernel)
  exact ⟨load_of_compact_eq empty ⟨"c1"⟩ ⟨"c2"⟩ groups rfl,
    load_of_compact_eq empty ⟨"c1"⟩ ⟨"c2"⟩ amounts
      (congrArg String.ofList (by decide +kernel))⟩

end Archive

end ProfileDrift
