import Stepwise.Proofs.Json.Text
import Stepwise.Proofs.Machine.Depth
import Stepwise.Proofs.Machine.Interruption
import Stepwise.Proofs.Machine.Portability

namespace Stepwise

open Document.Node (Follows Fathoms)
open Json (Writes)

section Written

variable {β : Type} {read : Document.Node → Option β} {read' : Json → Option β} {text value : Json}
  {found : β}

theorem Document.readText?_compact (hf : Follows read read') (hw : Writes text value)
    (hr : read' value = some found) (hd : text.depth ≤ maxDepth) :
    readText? read text.compact = some found := by
  have hj : text.document.toJson? maxDepth = some value := by
    rw [Json.toJson?_document _ hd, hw.ordered]
  rw [readText?, parse?_compact hw.legible, Option.bind_some]
  exact hf ⟨maxDepth, text.document⟩ value found ⟨Json.distinct_document hw.legible, hj⟩ hr

theorem Document.readText?_compact_eq_none (hf : Fathoms read text) (hl : text.Legible)
    (hd : maxDepth < text.depth) : readText? read text.compact = none := by
  rw [readText?, parse?_compact hl, Option.bind_some, Option.eq_none_iff_forall_ne_some]
  exact fun found hr => Nat.not_le_of_gt hd (hf maxDepth found hr)

end Written

theorem Workflow.parse_canonicalText {w : Workflow} (hw : w.WellFormed)
    (hv : ∀ v ∈ w.values, v.Portable) (hd : (w.write .obj).depth ≤ Document.maxDepth) :
    parse w.canonicalText = .ok w := by
  rw [parse, canonicalText, Document.readText?_compact Workflow.follows (Workflow.writes hw hv)
    (ofJson?_toJson hw) hd]

namespace Machine

/-- How deep arrays and objects nest in the text of a machine. -/
def depth (m : Machine) : Nat := (m.write .obj).depth

/-- A text that keeps to the bound gives the machine back, and no other text gives any machine. -/
theorem ofText?_text {m : Machine} (hm : m.WellFormed) (hw : Writes (m.write .obj) m.toJson) :
    ofText? m.text = if m.depth ≤ Document.maxDepth then some m else none := by
  split
  next hd => exact Document.readText?_compact Machine.follows hw (ofJson?_toJson hm) hd
  next hd => exact Document.readText?_compact_eq_none m.fathoms hw.legible (Nat.lt_of_not_le hd)

theorem depth_workflow_lt (m : Machine) : (m.workflow.write .obj).depth < m.depth :=
  Nat.lt_succ_of_le (Json.depth_le_depthFields (e := ("workflow", m.workflow.write .obj))
    List.mem_cons_self)

section Runs

variable {w : Workflow} {vars : Vars} {text : String} {operations : List Operation}

theorem ofText?_of_portable (hw : Workflow.parse text = .ok w) (ha : w.Addressable)
    (hv : vars.toJson.Portable) (ho : ∀ value, .resume value ∈ operations → value.Portable) :
    ofText? ((start w vars).after operations).text =
      if ((start w vars).after operations).depth ≤ Document.maxDepth then
        some ((start w vars).after operations)
      else none := by
  have hp := Workflow.portable_of_parse hw
  have hm := wellFormed_after (.inr ⟨text, hw⟩) ha (Json.portable_obj.mp hv).1 operations
  refine ofText?_text hm (Machine.writes hm (portable_after hp hv ho) ?_)
  rw [(placed_after w vars operations).workflow]
  exact hp

/-- At any moment of a run whose workflow, variables and answers were all read from texts, the
machine is restored from its text just when arrays and objects nest there no deeper than a reader
goes. -/
theorem ofText?_after (hw : Workflow.parse text = .ok w) (ha : w.Addressable)
    (hv : ∃ text, Json.parse? text = some vars.toJson)
    (ho : ∀ value, .resume value ∈ operations → ∃ text, Json.parse? text = some value) :
    ofText? ((start w vars).after operations).text =
      if ((start w vars).after operations).depth ≤ Document.maxDepth then
        some ((start w vars).after operations)
      else none := by
  obtain ⟨_, hv⟩ := hv
  refine ofText?_of_portable hw ha (Json.portable_of_parse? hv) fun value hm => ?_
  obtain ⟨_, ht⟩ := ho value hm
  exact Json.portable_of_parse? ht

theorem ofText?_after_letter :
    Workflow.parse letter.canonicalText = .ok letter ∧ letter.Addressable ∧
      Json.parse? "\x7b\x7d" = some Vars.empty.toJson ∧ Json.parse? "[null]" = some (.arr [.null]) ∧
      ofText? ((start letter .empty).after [.run, .resume (.arr [.null]), .step]).text =
        some ((start letter .empty).after [.run, .resume (.arr [.null]), .step]) := by
  have hw : Workflow.parse letter.canonicalText = .ok letter := by
    refine Workflow.parse_canonicalText (wellFormed_of_fromJson (.inl ⟨letter.toJson, rfl⟩)) ?_ ?_
    · simp [letter, Workflow.values, Step.values, Imports.values, ImportOrigin.values,
        Lookup.values, Json.portable_nil]
    · decide
  have ha : letter.Addressable := ⟨by decide, by decide⟩
  have hv : Json.parse? "\x7b\x7d" = some Vars.empty.toJson := by decide +kernel
  have hr : Json.parse? "[null]" = some (.arr [.null]) := by decide +kernel
  refine ⟨hw, ha, hv, hr, (ofText?_after hw ha ⟨_, hv⟩ fun value hm => ?_).trans (if_pos ?_)⟩
  · obtain rfl : value = .arr [.null] := by simpa using hm
    exact ⟨_, hr⟩
  · decide +kernel

end Runs

/-- Arrays within each other. -/
def nested : Nat → Json
  | 0 => .arr []
  | n + 1 => .arr [nested n]

theorem depth_nested (n : Nat) : (nested n).depth = n + 1 := by
  induction n with
  | zero => rfl
  | succ n ih => simp [nested, Json.depth, Json.depthItems, ih]

theorem portable_nested (n : Nat) : (nested n).Portable := by
  induction n with
  | zero => exact Json.portable_arr.mpr (List.forall_mem_nil _)
  | succ n ih => exact Json.portable_arr.mpr (List.forall_mem_singleton.mpr ih)

/-- A workflow whose text nests as deep as a reader goes. -/
def deep : Workflow where
  name := "deep"
  steps := [{ name := "go", output := some "result" }]
  vars := [("x", nested 124)]

theorem depth_deep : (deep.write .obj).depth = Document.maxDepth := by
  simp [deep, Workflow.write, Step.write, Json.depth, Json.depthFields, Json.depthItems,
    Json.whenSet, depth_nested, Document.maxDepth]

theorem ofText?_deep :
    Workflow.parse deep.canonicalText = .ok deep ∧ deep.Addressable ∧
      Json.parse? "\x7b\x7d" = some Vars.empty.toJson ∧
      ((start deep .empty).after [.run]).control = .suspended (.activity ⟨0, "go", []⟩) ∧
      ofText? ((start deep .empty).after [.run]).text = none := by
  have hp : ∀ v ∈ deep.values, v.Portable := by
    simp [deep, Workflow.values, Step.values, Json.portable_obj, portable_nested, Entries.Sorted]
  have hf : deep.WellFormed := by
    refine ⟨List.forall_mem_singleton.mpr ?_, List.pairwise_singleton _ _, by simp [deep]⟩
    exact ⟨by decide, by simp, by simp, by decide, by simp, by simp⟩
  have hw : Workflow.parse deep.canonicalText = .ok deep :=
    Workflow.parse_canonicalText hf hp (Nat.le_of_eq depth_deep)
  have ha : deep.Addressable := ⟨by decide, by decide⟩
  refine ⟨hw, ha, by decide +kernel, by decide +kernel, ?_⟩
  refine (ofText?_of_portable hw ha Json.portable_nil (by simp)).trans (if_neg ?_)
  have hd := depth_workflow_lt ((start deep .empty).after [.run])
  rw [(placed_after deep .empty [.run]).workflow, depth_deep] at hd
  exact Nat.not_le_of_gt hd

end Machine

end Stepwise
