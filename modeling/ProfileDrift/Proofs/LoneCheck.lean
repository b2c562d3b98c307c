import ProfileDrift.Proofs.CacheTransparency

namespace ProfileDrift.Settings

variable {α : Type} [Scalar α] [Tally α] [Hundredths α] (settings : Settings α)
  (history : History) (store : Store α) (version : VersionId)

/-- What a check makes of where the search for a baseline has led. -/
def verdict (reference : ProfileRef) (target : Profile α) :
    Pairing α → Except (Fault CheckError) (Verdict α)
  | .notFound visited => .ok (.notComparable ⟨target.configuration, reference, visited⟩)
  | .found baselineVersion baseline profile _ =>
    match settings.checkPair profile target with
    | .ok reports =>
      .ok (.checked ⟨target.configuration, reference, baselineVersion, baseline, reports⟩)
    | .error error => .error (.failure (.settings error))

theorem alone_checkProfile (reference : ProfileRef) (target : Profile α) :
    (settings.checkProfile history store version reference target).alone =
      (Baseline.find target.configuration history store version).alone.mapError
          (Fault.mapError .store) >>= settings.verdict reference target := by
  have found := (Baseline.find_settled target.configuration history store version).mapError
    CheckError.store
  rw [checkProfile, found.alone_bind, Reading.alone_mapError]
  · congr 1
    funext pairing
    cases pairing with
    | notFound visited => rfl
    | found baselineVersion baseline profile visited =>
      dsimp only [verdict]
      cases settings.checkPair profile target <;> rfl
  · intro pairing _
    cases pairing with
    | notFound visited => exact Reading.settled_pure store _
    | found baselineVersion baseline profile visited =>
      exact ((Reading.settled_ask store _).mapError CheckError.settings).bind fun _ _ =>
        Reading.settled_pure store _

theorem alone_checkProfiles (targets : List (ProfileRef × Profile α)) :
    (settings.checkProfiles history store version targets).alone =
      targets.mapM fun entry =>
        (settings.checkProfile history store version entry.1 entry.2).alone := by
  induction targets with
  | nil => rfl
  | cons first rest ih =>
    have others := settings.checkProfiles_settled history store version rest
    rw [checkProfiles, (settings.checkProfile_settled history store version _ _).alone_bind
      fun _ _ => others.bind fun _ _ => Reading.settled_pure store _, List.mapM_cons, ← ih]
    congr 1
    funext verdict
    rw [others.alone_bind fun _ _ => Reading.settled_pure store _]
    rfl

/-- A check as it reads without a cache: what the version lists is judged in its order,
and the first fault ends it. -/
theorem alone_checkVersion :
    (settings.checkVersion history store version).alone =
      (store.profilesOf version).mapError (Fault.mapError .store) >>= fun targets =>
        (targets.mapM fun entry =>
          (settings.checkProfile history store version entry.1 entry.2).alone) >>= fun verdicts =>
          .ok (.ofVerdicts version verdicts) := by
  rw [checkVersion, ((Cache.profilesOf_settled store version).mapError CheckError.store).alone_bind
    fun targets _ => (settings.checkProfiles_settled history store version targets).bind fun _ _ =>
      Reading.settled_pure store _, Reading.alone_mapError, Cache.alone_profilesOf]
  congr 1
  funext targets
  rw [(settings.checkProfiles_settled history store version targets).alone_bind fun _ _ =>
    Reading.settled_pure store _, alone_checkProfiles]
  rfl

end ProfileDrift.Settings
