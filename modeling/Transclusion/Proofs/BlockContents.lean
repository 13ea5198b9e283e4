import Transclusion.Proofs.BlockOrigins

/-!
What a lookup gives: the content of the first definition that answers for a single-value
block, and the contents of all that answer, in the order of the text, for a multi-value one.
-/

namespace Transclusion

namespace Definition

instance (grammar : Grammar) (definition : Definition) (name : Text) (multi : Bool) :
    Decidable (definition.Gives grammar name multi) :=
  inferInstanceAs (Decidable (_ ∧ _))

end Definition

namespace Extraction

variable {grammar : Grammar} {name : Text} {multi : Bool}

/-- The contents of the definitions that give the block. -/
def contentsOf (grammar : Grammar) (definitions : List Definition) (name : Text) (multi : Bool) :
    List Text :=
  (definitions.filter fun definition => definition.Gives grammar name multi).map (·.content)

theorem contentsOf_cons (definition : Definition) (definitions : List Definition) :
    contentsOf grammar (definition :: definitions) name multi =
      if definition.Gives grammar name multi then
        definition.content :: contentsOf grammar definitions name multi
      else contentsOf grammar definitions name multi := by
  by_cases gives : definition.Gives grammar name multi
  · simp [contentsOf, gives]
  · simp [contentsOf, gives]

theorem contentsOf_eq (definitions : List Definition) :
    contentsOf grammar definitions name multi =
      BlockMap.contentsGiven (definitions.map (Definition.block grammar)) name multi := by
  have gives : ∀ definition ∈ definitions,
      decide (definition.Gives grammar name multi) =
        (definition.block grammar).answers name multi := by
    intro definition _
    rw [Bool.eq_iff_iff, decide_eq_true_iff, Definition.answers_block_iff]
  rw [contentsOf, List.filter_congr gives, BlockMap.contentsGiven, List.filter_map, List.map_map]
  rfl

theorem lookup_collect_single (definitions : List Definition) :
    (collect grammar definitions).lookup name false =
      (contentsOf grammar definitions name false).head? := by
  rw [collect_eq_addAll, BlockMap.lookup_addAll_single, contentsOf_eq]

theorem lookup_collect_multi (definitions : List Definition) :
    (collect grammar definitions).lookup name true =
      joined? (contentsOf grammar definitions name true) := by
  rw [collect_eq_addAll, BlockMap.lookup_addAll_multi, contentsOf_eq]

end Extraction

end Transclusion
