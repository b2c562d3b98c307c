import ProfileDrift.Check.Version

namespace ProfileDrift

/-- A list cut into pieces of one length, the last of them perhaps shorter. -/
def chunks {β : Type} (size : Nat) (positive : 0 < size) (items : List β) : List (List β) :=
  match items with
  | [] => []
  | item :: rest =>
    (item :: rest).take size :: chunks size positive ((item :: rest).drop size)
termination_by items.length
decreasing_by
  simp only [List.length_drop, List.length_cons]
  omega

/-- How many versions each worker gets when so many workers share so many
versions. There is at least one worker and never more than there are versions. -/
def chunkSize (workers count : Nat) : Nat :=
  let workers := max 1 (min workers count)
  (count + workers - 1) / workers

theorem chunkSize_pos {workers count : Nat} (some : 0 < count) : 0 < chunkSize workers count := by
  unfold chunkSize
  apply Nat.div_pos
  · omega
  · omega

namespace Settings

variable {α : Type} [Scalar α] [Tally α] [Hundredths α]

/-- The work of one worker: its versions in turn, all through one cache. An error
is the result of its version and the work goes on; a panic ends it without any
result. -/
def checkInTurn (settings : Settings α) (history : History) (store : Store α) :
    Cache α → List VersionId → Option (List (Except CheckError (VersionCheck α)))
  | _, [] => some []
  | cache, version :: rest =>
    match (settings.checkVersion history store version).run.run cache with
    | (.ok check, cache) =>
      (settings.checkInTurn history store cache rest).map (.ok check :: ·)
    | (.error (.failure error), cache) =>
      (settings.checkInTurn history store cache rest).map (.error error :: ·)
    | (.error .panic, _) => none

/-- The results of one worker, which begins with an empty cache. A panic costs
the results of all its versions. -/
def checkChunk (settings : Settings α) (history : History) (store : Store α)
    (versions : List VersionId) : List (Except CheckError (VersionCheck α)) :=
  match settings.checkInTurn history store .empty versions with
  | some results => results
  | none => versions.map fun version => .error (.workerPanicked version)

/-- Checks versions on so many workers; the results stand in the order of the
versions. -/
def checkVersions (settings : Settings α) (history : History) (store : Store α)
    (versions : List VersionId) (workers : Nat) : List (Except CheckError (VersionCheck α)) :=
  if some : 0 < versions.length then
    (chunks (chunkSize workers versions.length) (chunkSize_pos some) versions).flatMap
      (settings.checkChunk history store)
  else []

end Settings

end ProfileDrift
