import DecisionGraph.Mutation

/-!
Changes with their log.
-/

namespace DecisionGraph

/-- A value and the mutations that led to it, in order. -/
structure Logged (α : Type) where
  value : α
  log : List Mutation

namespace Logged

variable {α β : Type}

def unchanged (value : α) : Logged α := ⟨value, []⟩

def map (f : α → β) (logged : Logged α) : Logged β := ⟨f logged.value, logged.log⟩

/-- Goes on with the value; its log follows. -/
def andThen (logged : Logged α) (next : α → Logged β) : Logged β :=
  ⟨(next logged.value).value, logged.log ++ (next logged.value).log⟩

/-- Changes every item; the logs follow each other in the order of the items. -/
def each (change : α → Logged β) (items : List α) : Logged (List β) :=
  ⟨items.map fun item => (change item).value, items.flatMap fun item => (change item).log⟩

end Logged

end DecisionGraph
