import DecisionGraph.Graph.Edit

/-!
Graphs to try things with, and a way to put more of them together.
-/

namespace DecisionGraph

namespace Graph

def pushOption (graph : Graph) (id : String) (values : List (String × Float)) : Graph where
  nodes := graph.nodes ++ [.optionSetting id s!"Option {id}" values]
  edges := graph.edges ++ Edge.scaffold "dec_1" id :: values.map fun value => .scaffold id value.1
  notes := graph.notes

end Graph

namespace Sample

def price : Node :=
  ((Node.bareFactor "fac_price" "Unit price").withCategory .controllable).withData
    (.controlled 100.0 .explicit .price ["Competitor response"])

/-- A decision, a price, an outcome and a goal, but no options yet. -/
def scaffold : Graph := .ofLists
  [⟨"dec_1", "Set pricing", .decision⟩, price, ⟨"out_revenue", "Revenue", .outcome⟩,
    ⟨"goal_1", "Grow revenue", .goal⟩]
  [.causal "fac_price" "out_revenue" 0.6 0.15 0.9, .causal "out_revenue" "goal_1" 0.8 0.1 0.95]

/-- The smallest graph without issues. -/
def minimal : Graph := .ofLists
  [⟨"dec_1", "Set pricing", .decision⟩, price, ⟨"out_revenue", "Revenue", .outcome⟩,
    ⟨"goal_1", "Grow revenue", .goal⟩,
    .optionSetting "opt_a" "Premium price" [("fac_price", 120.0)],
    .optionSetting "opt_b" "Hold price" [("fac_price", 100.0)]]
  [.scaffold "dec_1" "opt_a", .scaffold "dec_1" "opt_b", .scaffold "opt_a" "fac_price",
    .scaffold "opt_b" "fac_price",
    .causal "fac_price" "out_revenue" 0.6 0.15 0.9, .causal "out_revenue" "goal_1" 0.8 0.1 0.95]

def identicalOptions : Graph :=
  (scaffold.pushOption "opt_a" [("fac_price", 100.0)]).pushOption "opt_b" [("fac_price", 100.0)]

/-- The price claims to be observable although options set it. -/
def mislabelled : Graph :=
  { minimal with nodes := minimal.nodes.map (·.withCategory .observable) }

def positiveRisk : Graph :=
  ((minimal.pushNode ⟨"risk_1", "Price war", .risk⟩).pushEdge
    (.causal "fac_price" "risk_1" 0.4 0.2 0.7)).pushEdge
      (.causal "risk_1" "goal_1" 0.5 0.2 0.7)

/-- An observable factor and an outcome that share a word. -/
def retention : Graph where
  nodes := minimal.nodes ++ [
    ((Node.bareFactor "fac_retention_rate" "Customer Retention Rate").withCategory
      .observable).withData (.observed 0.82 .explicit),
    ⟨"out_customer_retention", "Customer retention", .outcome⟩]
  edges := minimal.edges ++ [
    .causal "fac_retention_rate" "out_customer_retention" 0.7 0.1 0.85,
    .causal "fac_price" "out_customer_retention" (-0.3) 0.2 0.6,
    .causal "out_customer_retention" "goal_1" 0.5 0.1 0.8]
  notes := minimal.notes

def lever (number : Nat) : List Node := [
  ((Node.bareFactor s!"fac_{number}" s!"Lever {number}").withCategory .controllable).withData
    (.controlled (Float.ofNat number) .inferred .cost ["Supplier pricing"]),
  ⟨s!"out_{number}", s!"Result {number}", .outcome⟩]

def leverEdges (number : Nat) : List Edge := [
  .causal s!"fac_{number}" s!"out_{number}" 0.5 0.1 0.8,
  .causal s!"out_{number}" "goal_1" 0.4 0.1 0.8]

def plan (factors number : Nat) : Node :=
  .optionSetting s!"opt_{number}" s!"Plan {number}"
    ((List.range factors).map fun factor =>
      (s!"fac_{factor}", Float.ofNat (number * 10 + factor)))

/-- From the decision to an option and on to every factor. -/
def planEdges (factors number : Nat) : List Edge :=
  .scaffold "dec_1" s!"opt_{number}"
    :: (List.range factors).map fun factor => .scaffold s!"opt_{number}" s!"fac_{factor}"

/-- Any number of factors, each with an outcome of its own, and any number of options that set all
of them. -/
def wide (factors options : Nat) : Graph := .ofLists
  ([⟨"dec_1", "Decide", .decision⟩, ⟨"goal_1", "Goal", .goal⟩]
    ++ (List.range factors).flatMap lever ++ (List.range options).map (plan factors))
  ((List.range factors).flatMap leverEdges ++ (List.range options).flatMap (planEdges factors))

end Sample

end DecisionGraph
