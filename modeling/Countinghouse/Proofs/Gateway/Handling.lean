import Countinghouse.Gateway.Handler
import Countinghouse.Proofs.Operation.Trial

/-!
# How handling is put together

Handling goes from one part to the next. Parts that read a path, a query or a body are settled: they
ask nothing of the surroundings. A part that ends with a reply is the last one, and after any other
the outcome is that of what comes next.
-/

namespace Countinghouse.Handler

variable {α : Type}

/-- A part of the handling asks nothing of the surroundings. -/
def IsSettled (handler : Handler α) : Prop := ∃ result, handler = ExceptT.mk (pure result)

theorem settled_pathId (text : String) : (pathId text).IsSettled := by
  unfold pathId
  split
  · exact ⟨.ok _, rfl⟩
  · exact ⟨.error _, rfl⟩

theorem settled_checked (form : Form α) (content : α) : (checked form content).IsSettled := by
  unfold checked
  split
  · exact ⟨.ok _, rfl⟩
  · exact ⟨.error _, rfl⟩

theorem settled_body (form : Form α) (request : Request) : (body form request).IsSettled := by
  unfold body
  split
  · exact settled_checked form _
  · exact ⟨.error _, rfl⟩

theorem settled_query (form : Form α) (request : Request) : (query form request).IsSettled := by
  unfold query
  split
  · exact settled_checked form _
  · exact ⟨.error _, rfl⟩

variable {course : Course} {trial middle : Trial} {first : Handler α} {next : α → Handler Reply}

/-- What comes after a part of the handling: a part that ends with a reply is the last. -/
def onward (next : α → Handler Reply) : Except Reply α → Operation Reply
  | .ok value => finish (next value)
  | .error reply => .done reply

theorem finish_bind : finish (first >>= next) = first.run.andThen (onward next) := by
  have parts : finish (first >>= next) =
      (first.run.andThen (ExceptT.bindCont next)).andThen (onward pure) := by
    refine congrArg (Operation.andThen _) (funext fun result => ?_)
    cases result <;> rfl
  rw [parts, Operation.andThen_assoc]
  refine congrArg first.run.andThen (funext fun result => ?_)
  cases result with
  | ok value =>
      refine congrArg (Operation.andThen _) (funext fun result => ?_)
      cases result <;> rfl
  | error reply => rfl

theorem tryOut_finish_bind_of_ok {value : α}
    (passes : first.run.tryOut course trial = (.ok value, middle)) :
    (finish (first >>= next)).tryOut course trial = (finish (next value)).tryOut course middle := by
  unfold Operation.tryOut at passes ⊢
  rw [finish_bind, Operation.run_andThen, passes]
  rfl

theorem tryOut_finish_bind_of_error {reply : Reply}
    (fails : first.run.tryOut course trial = (.error reply, middle)) :
    (finish (first >>= next)).tryOut course trial = (reply, middle) := by
  unfold Operation.tryOut at fails ⊢
  rw [finish_bind, Operation.run_andThen, fails]
  rfl

end Countinghouse.Handler
