import Lettering.Bundle.Draft
import Lettering.Proofs.Results

/-!
# Building step by step

Building a bundle is adding its layers to an empty draft, flattening the draft where that is asked
for, and putting name and metadata to what came out. Here a build that succeeded is taken apart
into these steps (`Bundle.build_plain_iff`, `Bundle.exists_of_build_flat`,
`Draft.exists_of_flatten`).
-/

namespace Lettering

variable [Regex.Engine]

/-- The bundle that a finished draft of some layers stands for. -/
def Draft.finish (d : Draft) (name : String) (layers : List RuleSet) : Bundle :=
  ⟨name, (layers.getLast?.map (·.metadata)).getD .empty, d.head, d.tail, d.warnings⟩

namespace Bundle

variable {name : String} {layers : List RuleSet} {alternate : Nat} {b : Bundle}

theorem build_plain_of_error {e : RuleError} (h : Draft.addLayers alternate layers = .error e) :
    build name layers ⟨alternate, false⟩ = .error e := by
  unfold build
  rw [h]
  rfl

theorem build_plain_of_ok {d : Draft} (h : Draft.addLayers alternate layers = .ok d) :
    build name layers ⟨alternate, false⟩ = .ok (d.finish name layers) := by
  unfold build
  rw [h]
  rfl

/-- Without flattening a bundle is the finished draft of its layers. -/
theorem build_plain_iff :
    build name layers ⟨alternate, false⟩ = .ok b ↔
      ∃ d, Draft.addLayers alternate layers = .ok d ∧ b = d.finish name layers := by
  cases h : Draft.addLayers alternate layers with
  | error e =>
    rw [build_plain_of_error h]
    constructor
    · intro hb
      cases hb
    · rintro ⟨d, hd, -⟩
      cases hd
  | ok d =>
    rw [build_plain_of_ok h]
    constructor
    · intro hb
      exact ⟨d, rfl, (Except.ok.inj hb).symm⟩
    · rintro ⟨d', hd, rfl⟩
      rw [Except.ok.inj hd]

/-- A flattened bundle comes from a draft that could be flattened. -/
theorem exists_of_build_flat (h : build name layers ⟨alternate, true⟩ = .ok b) :
    ∃ d d', Draft.addLayers alternate layers = .ok d ∧ d.flatten name = .ok d' ∧
      b = d'.finish name layers := by
  unfold build at h
  obtain ⟨d, hd, hrest⟩ := exists_of_bind_ok h
  dsimp only at hrest
  rw [if_pos rfl] at hrest
  split at hrest
  · rename_i d' hf
    exact ⟨d, d', hd, hf, (Except.ok.inj hrest).symm⟩
  · cases hrest

end Bundle

/-- A flattened draft has a folded head and tail. -/
theorem Draft.exists_of_flatten {d d' : Draft} {name : String} (h : d.flatten name = .ok d') :
    ∃ head tail, foldShifts { d.head with named := ∅ } false d.tail = .ok (head, tail) ∧
      d'.head = head ∧ d'.tail = tail ∧ d'.warnings = d.warnings ++ d.longKeyWarnings name := by
  unfold flatten at h
  obtain ⟨out, hf, hd⟩ := exists_of_bind_ok h
  cases hd
  exact ⟨out.1, out.2, hf, rfl, rfl, rfl⟩

end Lettering
