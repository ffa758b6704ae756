import Lettering.Proofs.Failing
import Lettering.Proofs.Operations

/-!
# Orders of bundles

A text can be run through given bundles, or the bundles can be made the operations list before it is
run. Both look the references up and put the bundles in a row.

* `Composer.bundlesOf`: the bundles that references mean, and `runWith_of_resolves`: running a text
  with references that all mean something is running the chain of these bundles.
* `Composer.orders_compose`: given bundles and the operations list agree, and two rows of references
  one after the other are one row.
-/

namespace Lettering

/-! ## 1. References -/

namespace Composer

section AnyEngine

variable [Regex.Engine] {ρ : Type} {c : Composer ρ}

/-- The bundle that a reference means. -/
def bundleOf? (c : Composer ρ) (ref : Reference) : Option Bundle :=
  match c.keyOf ref with
  | .ok key => c.bundle? key
  | .error _ => none

/-- The bundles that references mean, in their order. -/
def bundlesOf (c : Composer ρ) (refs : List Reference) : List Bundle := refs.filterMap c.bundleOf?

theorem bundlesOf_append (first second : List Reference) :
    c.bundlesOf (first ++ second) = c.bundlesOf first ++ c.bundlesOf second :=
  List.filterMap_append

/-- Every reference means a loaded bundle. -/
def Resolves (c : Composer ρ) (refs : List Reference) : Prop :=
  ∀ ref ∈ refs, ∃ key, c.keyOf ref = .ok key

theorem Resolves.exists_keys {refs : List Reference} (h : c.Resolves refs) :
    ∃ keys, refs.mapM c.keyOf = .ok keys ∧ keys.mapM c.stage = .ok (c.bundlesOf refs) := by
  induction refs with
  | nil => exact ⟨[], rfl, rfl⟩
  | cons ref refs ih =>
    obtain ⟨key, href⟩ := h ref List.mem_cons_self
    obtain ⟨keys, hkeys, hstages⟩ := ih fun r hr => h r (List.mem_cons_of_mem _ hr)
    obtain ⟨l, hl⟩ := exists_entry (mem_of_keyOf href)
    have hbundle : c.bundleOf? ref = some l.bundle := by
      simp only [bundleOf?, href, bundle?, hl, Option.map_some]
    have hrow : c.bundlesOf (ref :: refs) = l.bundle :: c.bundlesOf refs :=
      List.filterMap_cons_some hbundle
    refine ⟨key :: keys, ?_, ?_⟩
    · rw [List.mapM_cons, href, hkeys]
      rfl
    · rw [List.mapM_cons, stage_of_entry hl, hstages, hrow]
      rfl

/-- References that all mean something are run as the chain of their bundles. -/
theorem runWith_of_resolves {refs : List Reference} (hne : refs ≠ []) (h : c.Resolves refs)
    (text : String) :
    c.runWith text refs = (Chain.run ⟨c.bundlesOf refs⟩ text).mapError .stage := by
  obtain ⟨keys, hkeys, hstages⟩ := h.exists_keys
  rw [runWith_of_mapM_ok hne hkeys, runKeys, chain, hstages]
  dsimp only [Except.map]
  cases Chain.run ⟨c.bundlesOf refs⟩ text with
  | ok out => rfl
  | error e => rfl

/-! ## 2. Orders -/

/-- A text run through the operations list after it was replaced. -/
def runOrdered (c : Composer ρ) (text : String) (refs : List Reference) :
    Except ComposerError String :=
  match c.setOrder refs with
  | (.error e, _) => .error e
  | (.ok (), c') => c'.run text

/-- Given bundles are run as they would be from the operations list. -/
theorem runWith_eq_runOrdered {refs : List Reference} (hne : refs ≠ []) (text : String) :
    c.runWith text refs = c.runOrdered text refs := by
  rw [runWith_of_ne_nil hne, runOrdered, setOrder]
  cases refs.mapM c.keyOf with
  | error e => rfl
  | ok keys => rfl

/-- Two rows of references are run one after the other. -/
theorem runWith_append {first second : List Reference} (hfirst : first ≠ []) (hsecond : second ≠ [])
    (h : c.Resolves (first ++ second)) (text : String) :
    c.runWith text (first ++ second) =
      match c.runWith text first with
      | .error e => .error e
      | .ok between => c.runWith between second := by
  have hf : c.Resolves first := fun r hr => h r (List.mem_append_left _ hr)
  have hs : c.Resolves second := fun r hr => h r (List.mem_append_right _ hr)
  have hne : first ++ second ≠ [] := List.append_ne_nil_of_left_ne_nil hfirst _
  rw [runWith_of_resolves hne h, bundlesOf_append, Chain.run_append, runWith_of_resolves hfirst hf]
  cases Chain.run ⟨c.bundlesOf first⟩ text with
  | error e => rfl
  | ok between => exact (runWith_of_resolves hsecond hs between).symm

/-- A row of references fails as the first failing bundle does. -/
theorem runWith_eq_error_iff {refs : List Reference} (hne : refs ≠ []) (h : c.Resolves refs)
    {text : String} {e : ComposerError} : c.runWith text refs = .error e ↔
      ∃ source, e = .stage source ∧ Chain.FirstFailure (c.bundlesOf refs) text source := by
  rw [runWith_of_resolves hne h]
  cases hrun : Chain.run ⟨c.bundlesOf refs⟩ text with
  | ok out =>
    constructor
    · intro he
      cases he
    · rintro ⟨source, -, hfails⟩
      rw [Chain.run_eq_error_iff.2 hfails] at hrun
      cases hrun
  | error source =>
    constructor
    · intro he
      cases he
      exact ⟨source, rfl, Chain.run_eq_error_iff.1 hrun⟩
    · rintro ⟨source', rfl, hfails⟩
      rw [Chain.run_eq_error_iff.2 hfails] at hrun
      cases hrun
      rfl

/-- **Given bundles and the operations list agree, and orders compose**, in every composer and so
after every run of operations: without references the operations list is run; with some, the text
or the failure is that of running it after they were made the operations list; and two rows of
references that all mean something are run one after the other, failing as the first bundle of the
two rows that fails. -/
theorem orders_compose (c : Composer ρ) (text : String) :
    c.runWith text [] = c.run text ∧
      (∀ refs, refs ≠ [] → c.runWith text refs = c.runOrdered text refs) ∧
      ∀ first second, first ≠ [] → second ≠ [] → c.Resolves (first ++ second) →
        (c.runWith text (first ++ second) = match c.runWith text first with
          | .error e => .error e
          | .ok between => c.runWith between second) ∧
        ∀ e, c.runWith text (first ++ second) = .error e ↔ ∃ source, e = .stage source ∧
          Chain.FirstFailure (c.bundlesOf first ++ c.bundlesOf second) text source := by
  refine ⟨rfl, fun refs hne => runWith_eq_runOrdered hne text, ?_⟩
  intro first second hfirst hsecond h
  refine ⟨runWith_append hfirst hsecond h text, fun e => ?_⟩
  rw [← bundlesOf_append]
  exact runWith_eq_error_iff (List.append_ne_nil_of_left_ne_nil hfirst _) h

end AnyEngine

/-- A set that makes a `b` of an `a`, and one that fails on `b`. -/
def failingSets : RuleStore :=
  .ofList [(RuleSet.new "turn").addChar "a" "b",
    (RuleSet.new "beyond").addOffset "far" ⟨98, 98, 0x10FFFF⟩]

/-- A composer that has loaded both. -/
def failing : Composer RuleStore :=
  ((ofRepositories false [("mem", failingSets)]).perform (.load "turn" 0)).perform
    (.load "beyond" 0)

/-- What is loaded of the first set. -/
def turnLoaded : Loaded :=
  ⟨⟨"mem", "turn", 0⟩, ⟨"turn", .empty, .ofList [(.codePoint 97, "b")], [], []⟩, []⟩

/-- The offset of the second set. -/
def farShift : Shift := ⟨98, 98, 0x10FFFF, by decide, by decide, by decide⟩

/-- What is loaded of the second set. -/
def beyondLoaded : Loaded :=
  ⟨⟨"mem", "beyond", 0⟩, ⟨"beyond", .empty, .empty, [.shift farShift], []⟩, []⟩

theorem failing_eq :
    failing = ⟨[("mem", failingSets)], [turnLoaded, beyondLoaded], [], false⟩ := by
  have hturn : BuiltFrom false failingSets turnLoaded
      ⟨[(RuleSet.new "turn").addChar "a" "b"], []⟩ :=
    builtFrom_of_no_includes (by decide +kernel) rfl (by decide +kernel) rfl
  have hfirst : (ofRepositories false [("mem", failingSets)]).perform (.load "turn" 0) =
      ⟨[("mem", failingSets)], [turnLoaded], [], false⟩ :=
    congrArg Prod.snd (hturn.load_eq (c := ofRepositories false [("mem", failingSets)])
      (q := "turn") (by decide +kernel) (by decide +kernel) (by decide +kernel))
  have hbeyond : BuiltFrom false failingSets beyondLoaded
      ⟨[(RuleSet.new "beyond").addOffset "far" ⟨98, 98, 0x10FFFF⟩], []⟩ :=
    builtFrom_of_no_includes (by decide +kernel) rfl (by decide +kernel) rfl
  rw [failing, hfirst]
  exact congrArg Prod.snd (hbeyond.load_eq
    (c := ⟨[("mem", failingSets)], [turnLoaded], [], false⟩) (q := "beyond")
    (by decide +kernel) (by decide +kernel) (by decide +kernel))

/-- An `a` fails in the second of two rows, on what the first makes of it; as operations list the
references do the same. -/
theorem orders_compose_failing :
    failing.runWith "a" [.name "turn"] = .ok "b" ∧
      failing.runWith "a" ([.name "turn"] ++ [.index 1]) = failing.runWith "b" [.index 1] ∧
      failing.runWith "a" [.name "turn", .index 1] =
        .error (.stage (.lookup "beyond" (.outOfRange 98))) ∧
      failing.runOrdered "a" [.name "turn", .index 1] =
        failing.runWith "a" [.name "turn", .index 1] := by
  obtain ⟨-, hordered, hrows⟩ := orders_compose failing "a"
  have hturn : failing.runWith "a" [.name "turn"] = .ok "b" := by
    rw [failing_eq]
    decide +kernel
  have hname : failing.keyOf (.name "turn") = .ok ⟨"mem", "turn", 0⟩ := by
    rw [failing_eq]
    decide +kernel
  have hindex : failing.keyOf (.index 1) = .ok ⟨"mem", "beyond", 0⟩ := by
    rw [failing_eq]
    decide +kernel
  have hresolves : failing.Resolves ([.name "turn"] ++ [.index 1]) := by
    intro ref hm
    rcases List.mem_append.1 hm with hm | hm
    · exact ⟨_, List.mem_singleton.1 hm ▸ hname⟩
    · exact ⟨_, List.mem_singleton.1 hm ▸ hindex⟩
  obtain ⟨hrun, -⟩ := hrows _ _ (List.cons_ne_nil _ _) (List.cons_ne_nil _ _) hresolves
  rw [hturn] at hrun
  refine ⟨hturn, hrun, ?_, (hordered _ (List.cons_ne_nil _ _)).symm⟩
  rw [failing_eq]
  decide +kernel

end Composer

end Lettering
