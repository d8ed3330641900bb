import LadoFlow.Framework.Trace

/-!
# One resource at a time

A party acquires and releases resources and holds at most one of them. The trace is balanced when every
acquired resource was released or is the one that is held.
-/

namespace Framework

inductive LeaseEvent (α : Type) where
  | acquired (resource : α)
  | released (resource : α)
  deriving DecidableEq, Repr

namespace LeaseEvent

variable {α : Type}

def acquisition : LeaseEvent α → Option α
  | acquired resource => some resource
  | released _ => none

def disposal : LeaseEvent α → Option α
  | acquired _ => none
  | released resource => some resource

end LeaseEvent

variable {α : Type} {trace : List (LeaseEvent α)}

def acquisitions (trace : List (LeaseEvent α)) : List α := trace.filterMap (·.acquisition)
def disposals (trace : List (LeaseEvent α)) : List α := trace.filterMap (·.disposal)

/-- The acquired resources are the released ones, in order, and the one that is held. -/
def LeaseBalanced (trace : List (LeaseEvent α)) (held : Option α) : Prop :=
  acquisitions trace = disposals trace ++ held.toList

theorem balanced_nil : LeaseBalanced ([] : List (LeaseEvent α)) none := rfl

@[simp] theorem acquisitions_acquired (trace : List (LeaseEvent α)) (resource : α) :
    acquisitions (trace ++ [.acquired resource]) = acquisitions trace ++ [resource] :=
  filterMap_snoc _ _ _

@[simp] theorem acquisitions_released (trace : List (LeaseEvent α)) (resource : α) :
    acquisitions (trace ++ [.released resource]) = acquisitions trace :=
  (filterMap_snoc _ _ _).trans (List.append_nil _)

@[simp] theorem disposals_acquired (trace : List (LeaseEvent α)) (resource : α) :
    disposals (trace ++ [.acquired resource]) = disposals trace :=
  (filterMap_snoc _ _ _).trans (List.append_nil _)

@[simp] theorem disposals_released (trace : List (LeaseEvent α)) (resource : α) :
    disposals (trace ++ [.released resource]) = disposals trace ++ [resource] :=
  filterMap_snoc _ _ _

theorem LeaseBalanced.acquire (h : LeaseBalanced trace none) (resource : α) :
    LeaseBalanced (trace ++ [.acquired resource]) (some resource) := by
  rw [LeaseBalanced, Option.toList_none, List.append_nil] at h
  rw [LeaseBalanced, acquisitions_acquired, disposals_acquired, h, Option.toList_some]

theorem LeaseBalanced.release {resource : α} (h : LeaseBalanced trace (some resource)) :
    LeaseBalanced (trace ++ [.released resource]) none := by
  rw [LeaseBalanced, Option.toList_some] at h
  rw [LeaseBalanced, acquisitions_released, disposals_released, h, Option.toList_none, List.append_nil]

end Framework
