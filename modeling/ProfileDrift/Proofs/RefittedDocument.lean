import ProfileDrift.CommandLine.Run
import ProfileDrift.Proofs.DocumentText
import ProfileDrift.Proofs.FittedDocument
import ProfileDrift.Proofs.FittedModel
import ProfileDrift.Scalar.Blocks

namespace ProfileDrift

namespace Model

/-- What is fitted to observations at finite sizes has nothing in it that is not finite,
whatever the amounts are. -/
theorem isFinite_of_fit {family : Family} {observations : List (Observation Float)}
    {model : Model Float} (finite : ∀ point ∈ observations, point.x.isFinite = true)
    (fitted : fit family observations = .ok model) : model.IsFinite := by
  obtain ⟨some, _, _, coefficients, _, definite, explains, rfl⟩ := fit_eq_ok fitted
  obtain ⟨low, high⟩ := (spans_sizeRange some finite).isFinite finite
  exact ⟨definite, explains, low, high⟩

end Model

namespace Document

theorem fitted_of_mem_withFittedModels {α : Type} [Scalar α] {document : Document α}
    {record : ModelRecord α} (member : record ∈ document.withFittedModels.models) :
    ∃ observations, document.observations.get? record.uid = some observations ∧
      record.model ∈ Model.fitAll observations := by
  obtain ⟨⟨uid, group⟩, inside, recorded⟩ := List.mem_flatMap.mp member
  obtain ⟨model, fitted, rfl⟩ := List.mem_map.mp recorded
  obtain ⟨⟨name, observations⟩, present, same⟩ := List.mem_map.mp inside
  cases same
  exact ⟨observations, Keyed.get?_of_mem present, fitted⟩

theorem isFinite_of_observations {document : Document Float}
    (finite : ∀ record ∈ document.resources, record.IsFinite) {uid : String}
    {observations : List (Observation Float)}
    (present : document.observations.get? uid = some observations) :
    ∀ point ∈ observations, point.IsFinite := by
  unfold Document.observations at present
  rw [Keyed.get?_group] at present
  split at present
  · cases present
  · cases present
    intro point member
    obtain ⟨entry, inside, rfl⟩ := List.mem_map.mp member
    obtain ⟨record, kept, rfl⟩ := List.mem_map.mp (List.mem_filter.mp inside).1
    exact finite record kept

/-- Fitting adds nothing to a document that a text could not tell. -/
theorem IsWritable.withFittedModels {document : Document Float} (writable : document.IsWritable) :
    document.withFittedModels.IsWritable where
  collector := writable.collector
  postprocessors := by
    intro step member
    change step ∈ if _ then _ else _ at member
    split at member
    · exact writable.postprocessors step member
    · rcases List.mem_append.mp member with before | added
      · exact writable.postprocessors step before
      · rw [List.mem_singleton.mp added]
        exact fun value inside => absurd inside List.not_mem_nil
  resources := writable.resources
  models := by
    intro record member
    obtain ⟨observations, present, inside⟩ := fitted_of_mem_withFittedModels member
    obtain ⟨family, fitted⟩ := Model.fit_of_mem_fitAll inside
    have finite := isFinite_of_observations writable.resources present
    exact Model.isFinite_of_fit (fun point inside => (finite point inside).1) fitted

/-- Models are fitted to the resources alone, which fitting leaves as they are. -/
theorem withFittedModels_withFittedModels {α : Type} [Scalar α] (document : Document α) :
    document.withFittedModels.withFittedModels = document.withFittedModels := by
  have named : document.withFittedModels.postprocessors.any (·.name == regressionAnalysis) =
      true := by
    unfold withFittedModels
    dsimp only
    split
    · assumption
    · rw [List.any_append, Bool.or_eq_true]
      exact .inr rfl
  exact (Document.mk.injEq ..).mpr ⟨rfl, rfl, if_pos named, rfl, rfl⟩

end Document

namespace Command

theorem fitted_eq_ok [Json.NumberReader] {files : Files} {path text : String} {document : Document Float}
    (held : files.content? path = some text) (read : Document.ofText text = .ok document) :
    documentFrom files path = .ok document ∧
      fitted files path = .ok document.withFittedModels.toJson.pretty := by
  have found : documentFrom files path = .ok document := by
    unfold documentFrom
    rw [held]
    dsimp only
    rw [read]
  refine ⟨found, ?_⟩
  unfold fitted
  rw [found]
  rfl

/-- What fitting a profile writes can be read again. All its numbers are finite, every model
in it has the coefficients of its family, and whoever reads it, from the file or from the
output with its line end, finds the document as it was written: a comparison meets the very
models that were fitted, and fitting once more writes the same text. -/
theorem fit_readable [Json.NumberReader] [Json.LawfulNumberReader] [Tally Float]
    {files : Files} {path text : String} {document : Document Float}
    (held : files.content? path = some text) (read : Document.ofText text = .ok document) :
    let fittedDocument := document.withFittedModels
    let output := fittedDocument.toJson.pretty
    (fittedDocument.IsWritable ∧ ∀ record ∈ fittedDocument.models,
      record.coefficients.length = record.family.coefficientCount) ∧
    ((fit path none).outcome files = .success (output ++ "\n") ∧
      ∀ target, files.isWritable target = true →
        (fit path (some target)).outcome files = ⟨0, "", none, some (target, output)⟩) ∧
    ∀ written ∈ [output, output ++ "\n"],
      Document.ofText written = .ok fittedDocument ∧
      ∀ (later : Files) (place : String), later.content? place = some written →
        documentFrom later place = .ok fittedDocument ∧
        (∀ uid, fittedDocument.profile.modelsOf uid =
          Model.fitAll (document.profile.observations uid)) ∧
        fitted later place = .ok output := by
  intro fittedDocument output
  have writable := (Document.isWritable_of_ofText read).withFittedModels
  have lineEnd : Json.AllBlank ['\n'] := List.forall_mem_singleton.mpr rfl
  obtain ⟨_, printed⟩ := fitted_eq_ok held read
  refine ⟨⟨writable, fun record member => ?_⟩, ⟨?_, fun target open_ => ?_⟩, ?_⟩
  · obtain ⟨observations, _, inside⟩ := Document.fitted_of_mem_withFittedModels member
    exact Model.complete_of_mem_fitAll inside
  · simp only [outcome, printed]
    rfl
  · simp only [outcome, printed, open_, if_true]
    rfl
  · intro written member
    have again : Document.ofText written = .ok fittedDocument := by
      simp only [List.mem_cons, List.not_mem_nil, or_false] at member
      rcases member with rfl | rfl
      · have plain := writable.ofText_pretty Json.AllBlank.nil
        rwa [String.ofList_nil, String.append_empty] at plain
      · exact writable.ofText_pretty lineEnd
    refine ⟨again, fun later place holds => ?_⟩
    obtain ⟨found, once⟩ := fitted_eq_ok holds again
    refine ⟨found, document.modelsOf_withFittedModels, ?_⟩
    rwa [Document.withFittedModels_withFittedModels] at once

/-- Files of which one, a profile, is there. -/
def onlyFile (text : String) : Files :=
  ⟨fun path => if path = "run.json" then some text else none, fun _ => true⟩

open scoped Lanes Json.Nearest in
theorem fit_readable_spelled :
    ∃ document, Document.ofText Document.spelledText = .ok document ∧
      (onlyFile Document.spelledText).content? "run.json" = some Document.spelledText ∧
      let output := document.withFittedModels.toJson.pretty
      (fit "run.json" none).outcome (onlyFile Document.spelledText) = .success (output ++ "\n") ∧
        fitted (onlyFile (output ++ "\n")) "run.json" = .ok output := by
  have readable : (Document.ofText Document.spelledText).toBool = true := by decide +kernel
  cases read : Document.ofText Document.spelledText with
  | error problem => rw [read] at readable; cases readable
  | ok document =>
    have held : (onlyFile Document.spelledText).content? "run.json" =
        some Document.spelledText := rfl
    obtain ⟨_, ⟨printed, _⟩, again⟩ := fit_readable held read
    obtain ⟨_, later⟩ := again _ (List.mem_cons_of_mem _ (List.mem_cons_self ..))
    exact ⟨document, rfl, held, printed, (later (onlyFile _) "run.json" rfl).2.2⟩

end Command

end ProfileDrift
