import Stepwise.Proofs.Workflow
import Stepwise.Workflow.Version

namespace Stepwise.Workflow

variable {j : Json} {w v : Workflow}

/-- The value that is written for the workflow that a value is read as. -/
def normalize? (j : Json) : Option Json := (ofJson? j).map toJson

theorem wellFormed_of_ofJson? (h : ofJson? j = some w) : w.WellFormed :=
  wellFormed_of_read? Json.source_lawful h

theorem ofJson?_toJson_of_ofJson? (h : ofJson? j = some w) : ofJson? w.toJson = some w :=
  ofJson?_toJson (wellFormed_of_ofJson? h)

/-- A well-formed workflow is known from what it is written as. -/
theorem eq_of_toJson_eq (hv : v.WellFormed) (hw : w.WellFormed) (h : v.toJson = w.toJson) :
    v = w := by
  have he : some v = some w := by
    rw [← ofJson?_toJson hv, h, ofJson?_toJson hw]
  exact Option.some.inj he

/-- Normal forms are exactly the values that reading and writing leave as they are. -/
theorem normalize?_eq_self_iff :
    normalize? j = some j ↔ ∃ other, normalize? other = some j := by
  constructor
  · intro h
    exact ⟨j, h⟩
  · rintro ⟨other, h⟩
    obtain ⟨w, hw, rfl⟩ := Option.map_eq_some_iff.mp h
    rw [normalize?, ofJson?_toJson_of_ofJson? hw, Option.map_some]

/-- What is written for a workflow that was read is read as the same workflow, with the same
version, and stays as it is when it is read and written again; no other workflow that can be read is
written in the same way. -/
theorem normal_form_of_read (h : ofJson? j = some w) :
    ofJson? w.toJson = some w ∧
      (∀ again, ofJson? w.toJson = some again → again.version = w.version) ∧
      normalize? w.toJson = some w.toJson ∧
      ∀ other v, ofJson? other = some v → v.toJson = w.toJson → v = w := by
  have hr := ofJson?_toJson_of_ofJson? h
  refine ⟨hr, ?_, ?_, ?_⟩
  · intro again ha
    obtain rfl : again = w := Option.some.inj (ha.symm.trans hr)
    rfl
  · exact normalize?_eq_self_iff.mpr ⟨j, by rw [normalize?, h, Option.map_some]⟩
  · intro other v hv he
    exact eq_of_toJson_eq (wellFormed_of_ofJson? hv) (wellFormed_of_ofJson? h) he

/-- Spelt with other names of the fields, whole milliseconds, a whole coefficient, every form of an
import, null for what is not given, and fields that mean nothing. -/
def nightlySource : Json :=
  .obj [
    ("activities", .arr [
      .obj [
        ("color", .str "red"),
        ("fetch", .obj [("doc", .obj [("limit", .null), ("type", .str "document")])]),
        ("import", .obj [
          ("a", .str "x.y"),
          ("b", .obj [("default", .bool true), ("var", .str "z")]),
          ("c", .obj [("var", .str "q")])]),
        ("name", .str "sum")],
      .obj [("import", .arr [.str "a"]), ("name", .str "show"), ("output", .null)]]),
    ("description", .null),
    ("name", .str "nightly"),
    ("options", .obj [
      ("retry", .obj [
        ("backoff_coefficient", .num (.int 2)),
        ("initialinterval", .num (.int 1500)),
        ("maximumAttempts", .num (.int 3))]),
      ("start_to_close_timeout", .str " 2m")])]

def nightly : Workflow where
  name := "nightly"
  steps := [
    { name := "sum"
      imports := some (.mapping [
        ("a", .variable "x.y"),
        ("b", .withDefault "z" (some (.bool true))),
        ("c", .withDefault "q" none)])
      fetch := [("doc", { provider := "document" })] },
    { name := "show", imports := some (.names ["a"]) }]
  options := some {
    startToCloseTimeout := some ⟨120000⟩
    retry := some {
      initialInterval := some ⟨1500⟩
      backoffCoefficient := some (.finite (.ofInt 2))
      maximumAttempts := some 3 } }

theorem normal_form_nightly :
    ofJson? nightlySource = some nightly ∧ ofJson? nightly.toJson = some nightly ∧
      normalize? nightly.toJson = some nightly.toJson := by
  have hr : ofJson? nightlySource = some nightly := by decide +kernel
  obtain ⟨hw, _, hn, _⟩ := normal_form_of_read hr
  exact ⟨hr, hw, hn⟩

end Stepwise.Workflow
