import ProfileDrift.History.Basic
import ProfileDrift.Profile.Basic

namespace ProfileDrift

structure Store (α : Type) where
  list : VersionId → Answer (List ProfileRef)
  load : ProfileRef → Answer (Profile α)

end ProfileDrift
