import ProfileDrift.Proofs.KeptValue
import ProfileDrift.Proofs.ProfileContent

namespace ProfileDrift

open Decode (Form Tree Shape Field ofValue ofMembers)
open Json (Value)

/-- The parameters of a step are values as they are kept, nested no deeper than there is
room inside so many containers of a text. -/
def Step.IsWritable (depth : Nat) (step : Step) : Prop :=
  ∀ value ∈ step.params.values, value.IsKept ∧ value.depth ≤ Json.nestingLimit - (depth + 2)

def ResourceRecord.IsFinite (record : ResourceRecord Float) : Prop := record.observation.IsFinite

def ModelRecord.IsFinite (record : ModelRecord Float) : Prop := record.model.IsFinite

/-- A document that a text can tell: its numbers are finite and its parameters nest within
the limit of texts. -/
structure Document.IsWritable (document : Document Float) : Prop where
  collector : document.collector.IsWritable 1
  postprocessors : ∀ step ∈ document.postprocessors, step.IsWritable 2
  resources : ∀ record ∈ document.resources, record.IsFinite
  models : ∀ record ∈ document.models, record.IsFinite

section Reading

variable {form : Form} {tree : Tree}

theorem isFinite_zero : (0.0 : Float).isFinite = true := by decide +kernel

theorem Step.isWritable_of_decode {depth : Nat} {step : Step} (json : tree.IsJson)
    (read : (Step.shape depth).decode .text tree = .ok step) : step.IsWritable depth := by
  refine Shape.holds_of_decode ?_ ?_ json read
  · exact fun value member => absurd member List.not_mem_nil
  · intro field member tree step next json holds put
    simp only [Step.shape, List.mem_cons, List.not_mem_nil, or_false] at member
    rcases member with rfl | rfl <;> obtain ⟨values, read, rfl⟩ := map_eq_ok put
    · exact holds
    · have each := Decode.forall_of_named (fun _ _ => Json.isKept_of_keep) json read
      intro value member
      obtain ⟨entry, inside, rfl⟩ := List.mem_map.mp member
      exact each entry (Keyed.mem_of_mem_ofList inside)

theorem ResourceRecord.isFinite_of_decode {record : ResourceRecord Float} (json : tree.IsJson)
    (read : ResourceRecord.shape.decode form tree = .ok record) : record.IsFinite := by
  refine Shape.holds_of_decode ?_ ?_ json read
  · exact ⟨isFinite_zero, isFinite_zero⟩
  · intro field member tree record next json holds put
    simp only [ResourceRecord.shape, List.mem_cons, List.not_mem_nil, or_false] at member
    rcases member with rfl | rfl | rfl <;> obtain ⟨value, read, rfl⟩ := map_eq_ok put
    · exact holds
    · exact ⟨Decode.isFinite_of_number json read, holds.2⟩
    · exact ⟨holds.1, Decode.isFinite_of_number json read⟩

theorem ModelRecord.isFinite_of_decode {record : ModelRecord Float} (json : tree.IsJson)
    (read : ModelRecord.shape.decode form tree = .ok record) : record.IsFinite := by
  refine Shape.holds_of_decode ?_ ?_ json read
  · exact ⟨fun value member => absurd member List.not_mem_nil, isFinite_zero, isFinite_zero,
      isFinite_zero⟩
  · intro field member tree record next json holds put
    simp only [ModelRecord.shape, List.mem_cons, List.not_mem_nil, or_false] at member
    obtain ⟨coefficients, rSquare, xStart, xEnd⟩ := holds
    rcases member with rfl | rfl | rfl | rfl | rfl | rfl <;>
      obtain ⟨value, read, rfl⟩ := map_eq_ok put
    · exact ⟨coefficients, rSquare, xStart, xEnd⟩
    · exact ⟨coefficients, rSquare, xStart, xEnd⟩
    · exact ⟨Decode.forall_of_list (fun _ _ => Decode.isFinite_of_number) json read, rSquare,
        xStart, xEnd⟩
    · exact ⟨coefficients, Decode.isFinite_of_number json read, xStart, xEnd⟩
    · exact ⟨coefficients, rSquare, Decode.isFinite_of_number json read, xEnd⟩
    · exact ⟨coefficients, rSquare, xStart, Decode.isFinite_of_number json read⟩

/-- What is read from a text can be told by one. -/
theorem Document.isWritable_of_ofText [Json.NumberReader] {text : String} {document : Document Float}
    (read : ofText text = .ok document) : document.IsWritable := by
  refine Json.holds_of_decodeText (fun tree document json read => ?_) read
  refine Shape.holds_of_decode ?_ ?_ json read
  · exact ⟨fun value member => absurd member List.not_mem_nil,
      fun step member => absurd member List.not_mem_nil,
      fun record member => absurd member List.not_mem_nil,
      fun record member => absurd member List.not_mem_nil⟩
  · intro field member tree document next json holds put
    simp only [Document.shape, List.mem_cons, List.not_mem_nil, or_false] at member
    obtain ⟨collector, postprocessors, resources, models⟩ := holds
    rcases member with rfl | rfl | rfl | rfl | rfl <;> obtain ⟨value, read, rfl⟩ := map_eq_ok put
    · exact ⟨collector, postprocessors, resources, models⟩
    · exact ⟨Step.isWritable_of_decode json read, postprocessors, resources, models⟩
    · exact ⟨collector, Decode.forall_of_list (fun _ _ => Step.isWritable_of_decode) json read,
        resources, models⟩
    · exact ⟨collector, postprocessors,
        Decode.forall_of_list (fun _ _ => ResourceRecord.isFinite_of_decode) json read, models⟩
    · exact ⟨collector, postprocessors, resources,
        Decode.forall_of_list (fun _ _ => ModelRecord.isFinite_of_decode) json read⟩

end Reading

def ModelRecord.FiniteCoefficients (record : ModelRecord Float) : Prop :=
  ∀ value ∈ record.coefficients, value.isFinite = true

/-- Every model of a document has finite coefficients only. -/
def Document.FiniteModels (document : Document Float) : Prop :=
  ∀ record ∈ document.models, record.FiniteCoefficients

/-- The models of a document that is read from a text are finite. -/
theorem Document.finite_of_ofText [Json.NumberReader] {text : String} {document : Document Float}
    (read : Document.ofText text = .ok document) : document.FiniteModels :=
  fun record member => ((isWritable_of_ofText read).models record member).coefficients

section Writing

open Document (headerToJson stepToJson resourceToJson modelToJson mapToJson)

variable {form : Form}

theorem Header.decode_toJson (header : Header) :
    Header.shape.decode form (ofValue (headerToJson header)) = .ok header := by
  have units : Decode.named Decode.text form (ofValue (mapToJson (header.units.map .text))) =
      .ok header.units.entries := Decode.named_ofValue fun entry _ => rfl
  refine Shape.decode_object ?_
  refine Shape.ofEntries_member rfl rfl rfl ?_
  refine Shape.ofEntries_member rfl rfl rfl ?_
  refine Shape.ofEntries_member rfl rfl rfl ?_
  refine Shape.ofEntries_member rfl rfl rfl ?_
  refine Shape.ofEntries_member rfl rfl (Field.put_of _ _ _ _ units) ?_
  rw [Keyed.ofList_entries]
  rfl

/-- The parameters are left out when there are none, and then they are blank. -/
theorem Step.decode_toJson {depth : Nat} {step : Step} (writable : step.IsWritable depth) :
    (Step.shape depth).decode .text (ofValue (stepToJson step)) = .ok step := by
  obtain ⟨name, ⟨entries, ascending⟩⟩ := step
  cases entries with
  | nil => exact Shape.decode_object (Shape.ofEntries_member rfl rfl rfl rfl)
  | cons entry entries =>
    have params : Decode.named (Json.keeper (depth + 2)) .text
        (ofValue (mapToJson ⟨entry :: entries, ascending⟩)) = .ok (entry :: entries) := by
      refine Decode.entriesOf_values fun member inside => ?_
      obtain ⟨kept, shallow⟩ := writable member.2 (List.mem_map_of_mem inside)
      exact kept.keep_ofValue shallow
    refine Shape.decode_object ?_
    refine Shape.ofEntries_member rfl rfl rfl ?_
    refine Shape.ofEntries_member rfl rfl (Field.put_of _ _ _ _ params) ?_
    exact congrArg (fun params => Except.ok (Step.mk name params))
      (Keyed.ofList_entries ⟨entry :: entries, ascending⟩)

theorem ResourceRecord.decode_toJson (record : ResourceRecord Float) :
    ResourceRecord.shape.decode form (ofValue (resourceToJson record)) = .ok record := by
  refine Shape.decode_object ?_
  refine Shape.ofEntries_member rfl rfl rfl ?_
  refine Shape.ofEntries_member rfl rfl rfl ?_
  exact Shape.ofEntries_member rfl rfl rfl rfl

theorem ModelRecord.decode_toJson (record : ModelRecord Float) :
    ModelRecord.shape.decode form (ofValue (modelToJson record)) = .ok record := by
  have family : Family.decoder form (ofValue (.text record.family.name)) = .ok record.family := by
    cases record.family <;> rfl
  have coefficients : Decode.list Decode.number form
      (ofValue (.array (record.coefficients.map .quantity))) = .ok record.coefficients :=
    Decode.list_ofValue fun value _ => rfl
  refine Shape.decode_object ?_
  refine Shape.ofEntries_member rfl rfl rfl ?_
  refine Shape.ofEntries_member rfl rfl (Field.put_of _ _ _ _ family) ?_
  refine Shape.ofEntries_member rfl rfl (Field.put_of _ _ _ _ coefficients) ?_
  refine Shape.ofEntries_member rfl rfl rfl ?_
  refine Shape.ofEntries_member rfl rfl rfl ?_
  exact Shape.ofEntries_member rfl rfl rfl rfl

/-- The models are left out when there are none, and then they are blank. -/
theorem Document.decode_toJson {document : Document Float}
    (collector : document.collector.IsWritable 1)
    (postprocessors : ∀ step ∈ document.postprocessors, step.IsWritable 2) :
    Document.decoder .text (Decode.ofValue document.toJson) = .ok document := by
  obtain ⟨header, step, steps, resources, models⟩ := document
  have others : Decode.list (Step.shape 2).decode .text
      (Decode.ofValue (.array (steps.map stepToJson))) = .ok steps :=
    Decode.list_ofValue fun step member => Step.decode_toJson (postprocessors step member)
  have points : Decode.list ResourceRecord.shape.decode .text
      (Decode.ofValue (.array (resources.map resourceToJson))) = .ok resources :=
    Decode.list_ofValue fun record _ => record.decode_toJson
  have curves : Decode.list ModelRecord.shape.decode .text
      (Decode.ofValue (.array (models.map modelToJson))) = .ok models :=
    Decode.list_ofValue fun record _ => record.decode_toJson
  refine Shape.decode_object ?_
  refine Shape.ofEntries_member rfl rfl (Field.put_of _ _ _ _ header.decode_toJson) ?_
  refine Shape.ofEntries_member rfl rfl (Field.put_of _ _ _ _ (Step.decode_toJson collector)) ?_
  refine Shape.ofEntries_member rfl rfl (Field.put_of _ _ _ _ others) ?_
  refine Shape.ofEntries_member rfl rfl (Field.put_of _ _ _ _ points) ?_
  cases models with
  | nil => rfl
  | cons record records =>
    exact Shape.ofEntries_member rfl rfl (Field.put_of _ _ _ _ curves) rfl

theorem Header.isTold_toJson (header : Header) : (headerToJson header).IsTold := by
  have units : (mapToJson (header.units.map .text)).IsTold := by
    refine Value.isTold_object fun member inside => ?_
    obtain ⟨entry, _, rfl⟩ := List.mem_map.mp inside
    exact Value.isTold_text entry.2
  refine Value.isTold_object ?_
  simp only [List.forall_mem_cons]
  exact ⟨Value.isTold_text _, Value.isTold_text _, Value.isTold_text _, Value.isTold_text _, units,
    List.forall_mem_nil _⟩

theorem Step.isTold_toJson {depth : Nat} {step : Step} (writable : step.IsWritable depth) :
    (stepToJson step).IsTold := by
  have params : (mapToJson step.params).IsTold := Value.isTold_object fun member inside =>
    (writable member.2 (List.mem_map_of_mem inside)).1.isTold
  refine Value.isTold_object (List.forall_mem_cons.mpr ⟨Value.isTold_text _, ?_⟩)
  split
  · exact List.forall_mem_nil _
  · exact List.forall_mem_cons.mpr ⟨params, List.forall_mem_nil _⟩

theorem ResourceRecord.IsFinite.isTold_toJson {record : ResourceRecord Float}
    (finite : record.IsFinite) : (resourceToJson record).IsTold := by
  refine Value.isTold_object ?_
  simp only [List.forall_mem_cons]
  exact ⟨Value.isTold_text _, Value.isTold_quantity finite.1, Value.isTold_quantity finite.2,
    List.forall_mem_nil _⟩

theorem ModelRecord.IsFinite.isTold_toJson {record : ModelRecord Float} (finite : record.IsFinite) :
    (modelToJson record).IsTold := by
  have coefficients : (Value.array (record.coefficients.map .quantity)).IsTold :=
    Value.isTold_array (List.forall_mem_map.mpr fun value member =>
      Value.isTold_quantity (finite.coefficients value member))
  refine Value.isTold_object ?_
  simp only [List.forall_mem_cons]
  exact ⟨Value.isTold_text _, Value.isTold_text _, coefficients,
    Value.isTold_quantity finite.rSquare, Value.isTold_quantity finite.xStart,
    Value.isTold_quantity finite.xEnd, List.forall_mem_nil _⟩

theorem Document.IsWritable.isTold_toJson {document : Document Float}
    (writable : document.IsWritable) : document.toJson.IsTold := by
  have steps : (Value.array (document.postprocessors.map stepToJson)).IsTold :=
    Value.isTold_array (List.forall_mem_map.mpr fun step member =>
      Step.isTold_toJson (writable.postprocessors step member))
  have resources : (Value.array (document.resources.map resourceToJson)).IsTold :=
    Value.isTold_array (List.forall_mem_map.mpr fun record member =>
      (writable.resources record member).isTold_toJson)
  have models : (Value.array (document.models.map modelToJson)).IsTold :=
    Value.isTold_array (List.forall_mem_map.mpr fun record member =>
      (writable.models record member).isTold_toJson)
  refine Value.isTold_object (List.forall_mem_append.mpr ⟨?_, ?_⟩)
  · simp only [List.forall_mem_cons]
    exact ⟨document.header.isTold_toJson, Step.isTold_toJson writable.collector, steps, resources,
      List.forall_mem_nil _⟩
  · split
    · exact List.forall_mem_nil _
    · exact List.forall_mem_cons.mpr ⟨models, List.forall_mem_nil _⟩

end Writing

namespace Document

section Lawful

variable [Json.NumberReader] [Json.LawfulNumberReader]

theorem IsWritable.ofText_toJson {document : Document Float} (writable : document.IsWritable) :
    ofText document.toJson.compact = .ok document :=
  (writable.isTold_toJson.decodeText_compact decoder).trans
    (decode_toJson writable.collector writable.postprocessors)

theorem IsWritable.ofText_pretty {document : Document Float} (writable : document.IsWritable)
    {blanks : List Char} (blank : Json.AllBlank blanks) :
    ofText (document.toJson.pretty ++ String.ofList blanks) = .ok document :=
  (writable.isTold_toJson.decodeText_pretty blank decoder).trans
    (decode_toJson writable.collector writable.postprocessors)

/-- The documents that are read again as they were written are those whose numbers are
finite and whose parameters nest within the limit of texts. Every document that was read is
one of them, whatever the spelling of its text, so writing it and reading it again after it
was read changes nothing. -/
theorem ofText_compact :
    (∀ document : Document Float,
      document.IsWritable ↔ ofText document.toJson.compact = .ok document) ∧
    (∀ text document, ofText text = .ok document → document.IsWritable) ∧
    ∀ text, (ofText text >>= fun document => ofText document.toJson.compact) = ofText text := by
  refine ⟨fun document => ⟨fun writable => writable.ofText_toJson, isWritable_of_ofText⟩,
    fun text document read => isWritable_of_ofText read, fun text => ?_⟩
  cases read : ofText text with
  | error problem => rfl
  | ok document =>
    have again := (isWritable_of_ofText read).ofText_toJson
    exact (pure_bind document _).trans again

end Lawful

/-- A text with names that the writer does not use: for the arguments and for the family of
a model. One parameter is given twice. -/
def spelledText : String :=
  "[\x7b\"type\":\"time\",\"params\":\"-é\"\x7d," ++
    "[\"c\",\x7b\"b\":1e3,\"b\":[1,\x7b\"d\":null\x7d],\"a\":-2.5\x7d],[],[[\"u\",1,2]]," ++
    "[[\"u\",\"exp\",[1,0.5],1,0,1]]]"

open scoped Json.Nearest in
theorem ofText_compact_spelled :
    ∃ document, ofText spelledText = .ok document ∧ document.header.arguments = "-é" ∧
      document.IsWritable ∧ ofText document.toJson.compact = .ok document := by
  have checked : (ofText spelledText).toOption.any (·.header.arguments == "-é") = true := by
    decide +kernel
  cases read : ofText spelledText with
  | error problem =>
    rw [read] at checked
    cases checked
  | ok document =>
    rw [read] at checked
    have writable := ofText_compact.2.1 spelledText document read
    exact ⟨document, rfl, beq_iff_eq.mp checked, writable,
      (ofText_compact.1 document).mp writable⟩

end Document

end ProfileDrift
