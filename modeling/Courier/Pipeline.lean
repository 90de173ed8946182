/-!
# Pipelines

Stages around a last action. A stage is given the rest of the pipeline and runs it or not, acting
before and after; the first stage is the outermost.
-/

namespace Courier.Pipeline
set_option autoImplicit false

/-- What goes around an action. -/
abbrev Stage (action : Type) : Type := action → action

/-- The stages with one more, which becomes the innermost. -/
def add {action : Type} (stages : List (Stage action)) (stage : Stage action) :
    List (Stage action) :=
  stages ++ [stage]

/-- The action of a pipeline. -/
def run {action : Type} (stages : List (Stage action)) (last : action) : action :=
  stages.foldr (fun stage rest => stage rest) last

section Acting
variable {ε : Type} {m : Type → Type} [Monad m]

/-- A stage that acts, then lets the rest run. -/
def before (act : ExceptT ε m Unit) : Stage (ExceptT ε m Unit) := fun rest => do
  act
  rest

/-- A stage that acts before the rest and again after it, whatever comes of the rest. -/
def surround (enter leave : ExceptT ε m Unit) : Stage (ExceptT ε m Unit) := fun rest => do
  enter
  let result ← observing rest
  leave
  MonadExcept.ofExcept result

/-- A stage that ends the run with a result of its own. -/
def stop (result : ExceptT ε m Unit) : Stage (ExceptT ε m Unit) := fun _ => result

end Acting

@[simp] theorem run_nil {action : Type} (last : action) : run [] last = last := rfl

@[simp] theorem run_cons {action : Type} (stage : Stage action) (stages : List (Stage action))
    (last : action) : run (stage :: stages) last = stage (run stages last) := rfl

theorem run_append {action : Type} (outer inner : List (Stage action)) (last : action) :
    run (outer ++ inner) last = run outer (run inner last) := by
  simp [run]

/-- Stages that are added one by one stand in the order in which they were added. -/
theorem foldl_add {action : Type} (stages more : List (Stage action)) :
    more.foldl add stages = stages ++ more := by
  induction more generalizing stages with
  | nil => exact (List.append_nil stages).symm
  | cons stage more ih => rw [List.foldl_cons, ih, add, List.append_assoc, List.singleton_append]

end Courier.Pipeline
