import DecisionGraph.Survey

/-!
Factor data: it fits the category that the structure gives, and so does the claimed category.
-/

namespace DecisionGraph.Survey

variable (survey : Survey)

def dataOf (node : Node) (position : Nat) (category : Category) : List Finding :=
  let defects := match Payload.ofData node.factorData? category with
    | .ok _ => []
    | .error defects => defects
  let claims := match node.declaredCategory? with
    | some declared =>
      Finding.unless (declared = category) (.categoryClaim position node.id declared category)
    | none => []
  defects.map (.dataDefect position node.id category) ++ claims

def data : List Finding :=
  survey.graph.live.flatMap fun (node, position) =>
    match survey.category? position with
    | some category => dataOf node position category
    | none => []

end DecisionGraph.Survey
