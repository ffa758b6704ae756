import Lettering.Bundle.Basic

/-!
# Chains

Bundles in a row: each works on what the one before it made of the text. A bundle that has nothing
to do with a text is passed over.
-/

namespace Lettering

variable [Regex.Engine]

/-- Bundles to be run one after the other. -/
structure Chain where
  stages : List Bundle

namespace Chain

/-- The number of stages. -/
def size (p : Chain) : Nat := p.stages.length

/-- Whether there is no stage. -/
def isEmpty (p : Chain) : Bool := p.stages.isEmpty

/-- One stage, passed over if it has nothing to do. -/
def runStage (text : String) (b : Bundle) : Except StageError String :=
  if b.concerns text then b.run text else .ok text

/-- The text after all stages; the first failure ends the run. -/
def run (p : Chain) (text : String) : Except StageError String :=
  p.stages.foldlM runStage text

end Chain

end Lettering
