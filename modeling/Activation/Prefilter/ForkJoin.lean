import Activation.Prefilter.Mode

/-!
# Working in two halves

Work that answers a list item by item may be cut in the middle: one half is
given to a worker, the other is done at once, and the answers are put together
again in order.  Whether to cut depends on the mode and on the machine.  The
answers do not depend on it.
-/

namespace Activation

/-- What a machine offers for working side by side. -/
structure Machine where
  /-- The number of processors. -/
  processors : Nat := 1
  /-- Whether a worker can be started. -/
  hasWorker : Bool := true

namespace Machine

/-- Whether work is cut in two. -/
def cuts (machine : Machine) : PrefilterMode → Bool
  | .serial => false
  | .parallel => machine.hasWorker
  | .auto => 1 < machine.processors && machine.hasWorker

/-- The answers to a list of items, perhaps worked out in two halves. -/
def workOut {α β : Type} (machine : Machine) (mode : PrefilterMode) (answer : List α → List β)
    (items : List α) : List β :=
  if machine.cuts mode then
    let middle := items.length / 2
    let second := Task.spawn fun _ => answer (items.drop middle)
    answer (items.take middle) ++ second.get
  else answer items

/-- Answers given item by item do not depend on how the work is shared. -/
theorem workOut_map {α β : Type} (machine : Machine) (mode : PrefilterMode) (f : α → β)
    (items : List α) : machine.workOut mode (List.map f) items = items.map f := by
  unfold workOut
  split
  · show List.map f (items.take _) ++ List.map f (items.drop _) = _
    rw [← List.map_append, List.take_append_drop]
  · rfl

end Machine
end Activation
