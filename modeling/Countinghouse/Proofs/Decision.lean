/-!
# Decisions by the first objection

What makes several checks, one after another, fails at the first that is not passed. Its
objections are a list, in the order of the checks, and each is given by the errors that it makes:
none while it does not stand. `Decided` says that a result is what the first objection that stands
makes of it. Whether there is a value, and whether two results are of one kind, is then a matter
of the objections alone.
-/

namespace Countinghouse

variable {Error α : Type}

/-- A result is decided by objections. The first that stands makes the error, and there is a good
value when none stands. -/
inductive Decided (good : α → Prop) : List (Error → Prop) → Except Error α → Prop where
  | refused {objection : Error → Prop} {rest : List (Error → Prop)} {error : Error}
      (stands : objection error) : Decided good (objection :: rest) (.error error)
  | passed {objection : Error → Prop} {rest : List (Error → Prop)} {result : Except Error α}
      (falls : ∀ error, ¬objection error) (decided : Decided good rest result) :
      Decided good (objection :: rest) result
  | accepted {value : α} (isGood : good value) : Decided good [] (.ok value)

namespace Decided

variable {good : α → Prop} {objections : List (Error → Prop)} {result : Except Error α}

/-- A check that is passed, or makes its only error. -/
theorem check {condition : Prop} {error : Error} {objection : Error → Prop}
    {rest : List (Error → Prop)} [Decidable condition] {otherwise : Except Error α}
    (stands_iff : ∀ other, objection other ↔ condition ∧ other = error)
    (passes : ¬condition → Decided good rest otherwise) :
    Decided good (objection :: rest) (if condition then .error error else otherwise) := by
  by_cases holds : condition
  · rw [if_pos holds]
    exact .refused ((stands_iff error).mpr ⟨holds, rfl⟩)
  · rw [if_neg holds]
    refine .passed ?_ (passes holds)
    intro other stands
    exact holds ((stands_iff other).mp stands).1

/-- What goes on from a decided result is decided as well, if it keeps the errors and makes good
values of good values. -/
theorem goOn {β : Type} {better : β → Prop} {later : Except Error β}
    (decided : Decided good objections result)
    (onError : ∀ error, result = .error error → later = .error error)
    (onOk : ∀ value, result = .ok value → good value → ∃ next, later = .ok next ∧ better next) :
    Decided better objections later := by
  induction decided with
  | refused stands =>
      rw [onError _ rfl]
      exact .refused stands
  | passed falls _ inductionHypothesis => exact .passed falls (inductionHypothesis onError onOk)
  | accepted isGood =>
      obtain ⟨next, rfl, isBetter⟩ := onOk _ rfl isGood
      exact .accepted isBetter

/-- An objection that falls has no say. -/
theorem of_falls {objection : Error → Prop} (decided : Decided good (objection :: objections) result)
    (falls : ∀ error, ¬objection error) : Decided good objections result := by
  cases decided with
  | refused stands => exact absurd stands (falls _)
  | passed _ rest => exact rest

/-- The first objection makes the error if it stands. -/
theorem of_stands {objection : Error → Prop} {error : Error}
    (decided : Decided good (objection :: objections) result) (stands : objection error) :
    ∃ made, objection made ∧ result = .error made := by
  cases decided with
  | refused standsToo => exact ⟨_, standsToo, rfl⟩
  | passed falls _ => exact absurd stands (falls error)

/-- There is a value just when no objection stands. -/
theorem isOk_iff (decided : Decided good objections result) :
    result.isOk ↔ ∀ objection ∈ objections, ∀ error, ¬objection error := by
  induction decided with
  | @refused objection rest error stands =>
      constructor
      · intro isOk
        cases isOk
      · intro noneStands
        exact absurd stands (noneStands objection List.mem_cons_self error)
  | passed falls _ inductionHypothesis =>
      rw [inductionHypothesis, List.forall_mem_cons]
      exact ⟨fun rest => ⟨falls, rest⟩, And.right⟩
  | accepted isGood => simp [Except.isOk, Except.toBool]

theorem good_of_ok {value : α} (decided : Decided good objections (.ok value)) : good value := by
  generalize isResult : (Except.ok value : Except Error α) = result at decided
  induction decided with
  | refused => cases isResult
  | passed _ _ inductionHypothesis => exact inductionHypothesis isResult
  | accepted isGood =>
      cases isResult
      exact isGood

/-- An error is made by one of the objections. -/
theorem exists_of_error {error : Error} (decided : Decided good objections (.error error)) :
    ∃ objection ∈ objections, objection error := by
  generalize isResult : (Except.error error : Except Error α) = result at decided
  induction decided with
  | @refused objection rest other stands =>
      cases isResult
      exact ⟨objection, List.mem_cons_self, stands⟩
  | passed _ _ inductionHypothesis =>
      obtain ⟨objection, member, stands⟩ := inductionHypothesis isResult
      exact ⟨objection, List.mem_cons_of_mem _ member, stands⟩
  | accepted => cases isResult

/-- Two results that the same objections decide are the same, if no objection makes more than one
error and there is no more than one good value. -/
theorem eq_of_single {other : Except Error α} (decided : Decided good objections result)
    (single : ∀ objection ∈ objections, ∀ one another, objection one → objection another →
      one = another)
    (sole : ∀ one another, good one → good another → one = another)
    (otherDecided : Decided good objections other) : result = other := by
  induction decided with
  | @refused objection rest error stands =>
      cases otherDecided with
      | refused otherStands =>
          rw [single objection List.mem_cons_self _ _ stands otherStands]
      | passed falls _ => exact absurd stands (falls error)
  | @passed objection rest result falls _ inductionHypothesis =>
      cases otherDecided with
      | refused stands => exact absurd stands (falls _)
      | passed _ otherRest =>
          apply inductionHypothesis _ otherRest
          intro later member
          exact single later (List.mem_cons_of_mem _ member)
  | accepted isGood =>
      cases otherDecided with
      | accepted otherIsGood => rw [sole _ _ isGood otherIsGood]

/-- What is made of the value of a decided result is decided as well. -/
theorem map {β : Type} {better : β → Prop} (decided : Decided good objections result)
    (change : α → β) (improves : ∀ value, good value → better (change value)) :
    Decided better objections (result.map change) := by
  refine decided.goOn ?_ ?_
  · rintro error rfl
    rfl
  · rintro value rfl isGood
    exact ⟨change value, rfl, improves value isGood⟩

/-- Two results that the same objections decide are values both or the same error, if no objection
makes more than one. -/
theorem map_eq_map {other : Except Error α} (decided : Decided good objections result)
    (single : ∀ objection ∈ objections, ∀ one another, objection one → objection another →
      one = another)
    (otherDecided : Decided good objections other) :
    result.map (fun _ => ()) = other.map fun _ => () := by
  have ofKind {someResult : Except Error α} (isDecided : Decided good objections someResult) :
      Decided (fun _ : Unit => True) objections (someResult.map fun _ => ()) :=
    isDecided.map (fun _ => ()) fun _ _ => trivial
  exact (ofKind decided).eq_of_single single (fun _ _ _ _ => rfl) (ofKind otherDecided)

end Decided

end Countinghouse
