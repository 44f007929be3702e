import Thytrader.Evaluation.SignalEvaluator

/-!
# Three-valued conditions

`_evaluate_condition` against the classical value of a tree. `conditionReads` lists every value
a tree reads, from the current row or, under a cross, from the previous one. A tree is undefined
exactly when one of its reads is, and has its classical value otherwise
(`evaluateCondition_threeValued`).
-/

namespace Thytrader.Evaluation

open Lib Strategies List

/-- An operand as a tree reads it: in the current row, or in the previous one. -/
structure OperandRead where
  operand : ConditionOperand
  previous : Bool

/-- What the rows hold for a read; a missing previous row holds nothing. -/
def readValue (current : Row) (previous : Option Row) (read : OperandRead) : Option Decimal :=
  if read.previous then previous.bind (operandValue · read.operand)
  else operandValue current read.operand

def comparisonReads (left : ConditionOperand) (operator : ComparisonOperator)
    (right : ConditionOperand) : List OperandRead :=
  [⟨left, false⟩, ⟨right, false⟩] ++
    if operator = .crossesAbove ∨ operator = .crossesBelow then [⟨left, true⟩, ⟨right, true⟩] else []

mutual

/-- Every value a tree reads. -/
def conditionReads : ConditionNode → List OperandRead
  | .comparison left operator right => comparisonReads left operator right
  | .not child => conditionReads child
  | .all children => conditionReadsOf children
  | .any children => conditionReadsOf children

def conditionReadsOf : List ConditionNode → List OperandRead
  | [] => []
  | child :: rest => conditionReads child ++ conditionReadsOf rest

end

/-- A comparison of the values of its reads; a cross compares two bars. -/
def ComparisonHolds (value : OperandRead → Decimal) (left : ConditionOperand)
    (operator : ComparisonOperator) (right : ConditionOperand) : Prop :=
  let now := fun operand => value ⟨operand, false⟩
  let before := fun operand => value ⟨operand, true⟩
  match operator with
  | .greaterThan => now right < now left
  | .greaterThanOrEqual => now right ≤ now left
  | .lessThan => now left < now right
  | .lessThanOrEqual => now left ≤ now right
  | .equals => now left = now right
  | .crossesAbove => before left ≤ before right ∧ now right < now left
  | .crossesBelow => before right ≤ before left ∧ now left < now right

mutual

/-- The classical truth of a tree whose reads have values. -/
def ConditionHolds (value : OperandRead → Decimal) : ConditionNode → Prop
  | .comparison left operator right => ComparisonHolds value left operator right
  | .not child => ¬ ConditionHolds value child
  | .all children => AllHold value children
  | .any children => SomeHolds value children

def AllHold (value : OperandRead → Decimal) : List ConditionNode → Prop
  | [] => True
  | child :: rest => ConditionHolds value child ∧ AllHold value rest

def SomeHolds (value : OperandRead → Decimal) : List ConditionNode → Prop
  | [] => False
  | child :: rest => ConditionHolds value child ∨ SomeHolds value rest

end

variable {current : Row} {previous : Option Row} {value : OperandRead → Decimal}

/-- Some read is undefined. -/
def Misses (current : Row) (previous : Option Row) (reads : List OperandRead) : Prop :=
  ∃ read ∈ reads, readValue current previous read = none

/-- The rows hold the values. -/
def Holding (current : Row) (previous : Option Row) (value : OperandRead → Decimal)
    (reads : List OperandRead) : Prop :=
  ∀ read ∈ reads, readValue current previous read = some (value read)

theorem evaluateComparison_eq (left right : ConditionOperand) (operator : ComparisonOperator) :
    evaluateComparison left operator right current previous =
      match readValue current previous ⟨left, false⟩, readValue current previous ⟨right, false⟩ with
      | some leftValue, some rightValue =>
        compareValues operator leftValue rightValue
          (Option.map₂ Prod.mk (readValue current previous ⟨left, true⟩)
            (readValue current previous ⟨right, true⟩))
      | _, _ => none := by
  cases previous <;> rfl

section

variable {left right : ConditionOperand} {operator : ComparisonOperator}

theorem comparison_undefined (h : Misses current previous (comparisonReads left operator right)) :
    evaluateComparison left operator right current previous = none := by
  rw [evaluateComparison_eq]
  cases operator <;> simp [Misses, comparisonReads, compareValues] at h ⊢ <;> grind

theorem comparison_defined
    (h : Holding current previous value (comparisonReads left operator right)) :
    ∃ outcome, evaluateComparison left operator right current previous = some outcome ∧
      (outcome = true ↔ ComparisonHolds value left operator right) := by
  rw [evaluateComparison_eq]
  cases operator <;> simp [Holding, comparisonReads] at h <;>
    simp [h, compareValues, ComparisonHolds]

end

mutual

theorem evaluateCondition_undefined (condition : ConditionNode)
    (h : Misses current previous (conditionReads condition)) :
    evaluateCondition current previous condition = none := by
  cases condition with
  | comparison left operator right => exact comparison_undefined h
  | not child => rw [evaluateCondition, evaluateCondition_undefined child h, Option.map_none]
  | all children | any children =>
    rw [evaluateCondition, evaluateConditions_undefined children h, Option.map_none]

theorem evaluateConditions_undefined (children : List ConditionNode)
    (h : Misses current previous (conditionReadsOf children)) :
    evaluateConditions current previous children = none := by
  obtain ⟨read, hread, hnone⟩ := h
  cases children with
  | nil => cases hread
  | cons child rest =>
    rw [evaluateConditions, Option.map₂_eq_none_iff]
    obtain hchild | hrest := mem_append.mp hread
    · exact .inl (evaluateCondition_undefined child ⟨read, hchild, hnone⟩)
    · exact .inr (evaluateConditions_undefined rest ⟨read, hrest, hnone⟩)

end

mutual

theorem evaluateCondition_defined (condition : ConditionNode)
    (h : Holding current previous value (conditionReads condition)) :
    ∃ outcome, evaluateCondition current previous condition = some outcome ∧
      (outcome = true ↔ ConditionHolds value condition) := by
  cases condition with
  | comparison left operator right => exact comparison_defined h
  | not child =>
    obtain ⟨outcome, hchild, hholds⟩ := evaluateCondition_defined child h
    refine ⟨!outcome, by rw [evaluateCondition, hchild, Option.map_some], ?_⟩
    rw [ConditionHolds, ← hholds]
    simp
  | all children =>
    obtain ⟨outcomes, hchildren, hall, -⟩ := evaluateConditions_defined children h
    exact ⟨outcomes.all id, by rw [evaluateCondition, hchildren, Option.map_some], hall⟩
  | any children =>
    obtain ⟨outcomes, hchildren, -, hany⟩ := evaluateConditions_defined children h
    exact ⟨outcomes.any id, by rw [evaluateCondition, hchildren, Option.map_some], hany⟩

theorem evaluateConditions_defined (children : List ConditionNode)
    (h : Holding current previous value (conditionReadsOf children)) :
    ∃ outcomes, evaluateConditions current previous children = some outcomes ∧
      (outcomes.all id = true ↔ AllHold value children) ∧
      (outcomes.any id = true ↔ SomeHolds value children) := by
  cases children with
  | nil => exact ⟨[], rfl, by simp [AllHold], by simp [SomeHolds]⟩
  | cons child rest =>
    obtain ⟨hchild, hrest⟩ := forall_mem_append.mp h
    obtain ⟨outcome, houtcome, hholds⟩ := evaluateCondition_defined child hchild
    obtain ⟨outcomes, houtcomes, hall, hany⟩ := evaluateConditions_defined rest hrest
    refine ⟨outcome :: outcomes, ?_, ?_, ?_⟩
    · rw [evaluateConditions, houtcome, houtcomes]
      rfl
    · rw [AllHold, ← hholds, ← hall, all_cons, Bool.and_eq_true]
      rfl
    · rw [SomeHolds, ← hholds, ← hany, any_cons, Bool.or_eq_true]
      rfl

end

theorem evaluateConditions_not (children : List ConditionNode) :
    evaluateConditions current previous (children.map .not) =
      (evaluateConditions current previous children).map (List.map (!·)) := by
  induction children with
  | nil => rfl
  | cons child rest ih =>
    rw [map_cons, evaluateConditions, evaluateConditions, ih, evaluateCondition]
    cases evaluateCondition current previous child <;>
      cases evaluateConditions current previous rest <;> rfl

/-- A tree is undefined exactly when a value it reads is, and has its classical value otherwise;
both sides of De Morgan's laws evaluate alike. -/
theorem evaluateCondition_threeValued (current : Row) (previous : Option Row)
    (condition : ConditionNode) :
    (evaluateCondition current previous condition = none ↔
      Misses current previous (conditionReads condition)) ∧
    (∀ value, Holding current previous value (conditionReads condition) →
      ∃ outcome, evaluateCondition current previous condition = some outcome ∧
        (outcome = true ↔ ConditionHolds value condition)) ∧
    ∀ children,
      evaluateCondition current previous (.not (.all children)) =
        evaluateCondition current previous (.any (children.map .not)) ∧
      evaluateCondition current previous (.not (.any children)) =
        evaluateCondition current previous (.all (children.map .not)) := by
  refine ⟨⟨fun h => ?_, evaluateCondition_undefined condition⟩,
    fun value => evaluateCondition_defined condition, fun children => ?_⟩
  · by_contra hdefined
    have hvalues : Holding current previous (fun read => (readValue current previous read).getD 0)
        (conditionReads condition) := by
      intro read hread
      cases hvalue : readValue current previous read with
      | none => exact absurd ⟨read, hread, hvalue⟩ hdefined
      | some value => simp [hvalue]
    obtain ⟨outcome, hsome, -⟩ := evaluateCondition_defined condition hvalues
    cases h.symm.trans hsome
  · simp only [evaluateCondition, evaluateConditions_not]
    cases evaluateConditions current previous children with
    | none => exact ⟨rfl, rfl⟩
    | some outcomes =>
      simp [all_map, any_map, not_all_eq_any_not, not_any_eq_all_not]

end Thytrader.Evaluation
