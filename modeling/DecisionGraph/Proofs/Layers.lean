import DecisionGraph.Proofs.ConnectionReport

/-!
The layers of a graph without misplaced edges. Every walk descends from the decision over options,
factors that options set, other factors, and outcomes or risks to the goal, and lingers only among
the other factors. So cycles stay among them.
-/

namespace DecisionGraph

/-- How far from the decision a role stands. -/
def Role.layer : Role → Nat
  | decision => 0
  | option => 1
  | factor .controllable => 2
  | factor .observable | factor .external => 3
  | outcome | risk => 4
  | goal => 5

/-- A walk may go from the one role down to the other; only in the third layer may it linger. -/
def Role.Precedes (first second : Role) : Prop :=
  first.layer < second.layer ∨ (first.layer = 3 ∧ second.layer = 3)

theorem Role.precedes_of_allows {source target : Role} (allowed : source.allows target = true) :
    source.Precedes target := by
  cases source with
  | factor category =>
      cases target with
      | factor other => cases category <;> cases other <;> simp_all [allows, Precedes, layer]
      | _ => cases category <;> simp_all [allows, Precedes, layer]
  | _ =>
      cases target with
      | factor other => cases other <;> simp_all [allows, Precedes, layer]
      | _ => simp_all [allows, Precedes, layer]

theorem Role.Precedes.trans {first second third : Role} (above : first.Precedes second)
    (below : second.Precedes third) : first.Precedes third := by
  unfold Precedes at *
  omega

namespace Graph

variable {graph : Graph}

/-- The node that an id stands for has the role. -/
def Plays (graph : Graph) (id : String) (role : Role) : Prop :=
  ∃ position, graph.position? id = some position ∧
    (Survey.ofGraph graph).role? position = some role

/-- A factor that no option sets. -/
def IsInfluence (graph : Graph) (id : String) : Prop :=
  graph.Plays id (.factor .observable) ∨ graph.Plays id (.factor .external)

/-- An outcome or a risk. -/
def IsEffect (graph : Graph) (id : String) : Prop :=
  graph.Plays id .outcome ∨ graph.Plays id .risk

theorem Plays.eq {id : String} {role other : Role} (plays : graph.Plays id role)
    (also : graph.Plays id other) : role = other := by
  obtain ⟨position, found, here⟩ := plays
  obtain ⟨place, alsoFound, there⟩ := also
  rw [found, Option.some.injEq] at alsoFound
  rw [← alsoFound, here, Option.some.injEq] at there
  exact there

theorem exists_plays {id : String} (declared : (graph.position? id).isSome = true) :
    ∃ role, graph.Plays id role := by
  obtain ⟨position, found⟩ := Option.isSome_iff_exists.mp declared
  obtain ⟨node, listed, _⟩ := getElem?_of_position? found
  have kind : (Survey.ofGraph graph).graph.kindAt? position = some node.kind := by
    simp [Survey.ofGraph, kindAt?, listed]
  exact ⟨_, position, found, by rw [Survey.role?, kind]; rfl⟩

/-- An edge leads between roles that allow it, unless the pass over the wiring reports it. -/
theorem allows_of_resolved (placed : (Survey.ofGraph graph).misplacedEdges = [])
    {source target : String} (resolved : graph.Resolved source target) :
    ∃ first second, graph.Plays source first ∧ graph.Plays target second ∧
      first.allows second = true := by
  obtain ⟨edge, member, rfl, rfl, sourceDeclared, targetDeclared⟩ := resolved
  obtain ⟨first, start, starts, firstRole⟩ := exists_plays sourceDeclared
  obtain ⟨second, stop, stops, secondRole⟩ := exists_plays targetDeclared
  obtain ⟨position, listed⟩ := List.mem_iff_getElem?.mp member
  have link : ⟨position, start, stop⟩ ∈ graph.links := mem_links_iff.mpr ⟨edge, listed, starts, stops⟩
  refine ⟨first, second, ⟨start, starts, firstRole⟩, ⟨stop, stops, secondRole⟩, ?_⟩
  have silent := List.filterMap_eq_nil_iff.mp placed ⟨position, start, stop⟩ link
  simp only [firstRole, secondRole, ite_eq_left_iff, reduceCtorEq, imp_false,
    Classical.not_not] at silent
  exact silent

/-- The one id stands above the other. -/
def Above (graph : Graph) (first second : String) : Prop :=
  ∃ role other, graph.Plays first role ∧ graph.Plays second other ∧ role.Precedes other

theorem Above.trans {first second third : String} (above : graph.Above first second)
    (below : graph.Above second third) : graph.Above first third := by
  obtain ⟨role, middle, plays, between, precedes⟩ := above
  obtain ⟨same, last, also, ends, follows⟩ := below
  cases also.eq between
  exact ⟨role, last, plays, ends, precedes.trans follows⟩

theorem above_of_resolved (placed : (Survey.ofGraph graph).misplacedEdges = [])
    {source target : String} (resolved : graph.Resolved source target) :
    graph.Above source target := by
  obtain ⟨first, second, starts, stops, allowed⟩ := allows_of_resolved placed resolved
  exact ⟨first, second, starts, stops, Role.precedes_of_allows allowed⟩

theorem isInfluence_of_above_self {id : String} (above : graph.Above id id) :
    graph.IsInfluence id := by
  obtain ⟨role, other, plays, also, precedes⟩ := above
  cases also.eq plays
  have third : role.layer = 3 := by
    rcases precedes with below | ⟨same, _⟩
    · exact absurd below (Nat.lt_irrefl _)
    · exact same
  cases role with
  | factor category =>
      cases category with
      | controllable => cases third
      | observable => exact Or.inl plays
      | external => exact Or.inr plays
  | _ => cases third

/-- A closed walk stays among the factors that no option sets. -/
theorem isInfluence_of_closed (placed : (Survey.ofGraph graph).misplacedEdges = [])
    {first : String} {rest : List String}
    (closed : (first :: rest ++ [first]).IsChain graph.Resolved) :
    ∀ id ∈ first :: rest, graph.IsInfluence id := by
  have transitive : Trans graph.Above graph.Above graph.Above := ⟨Above.trans⟩
  have sorted := (closed.imp fun _ _ => above_of_resolved placed).pairwise
  have back : ∀ id ∈ first :: rest, graph.Above id first := fun id member =>
    (List.pairwise_append.mp sorted).2.2 id member first (List.mem_singleton_self first)
  intro id member
  refine isInfluence_of_above_self ?_
  rcases List.mem_cons.mp member with rfl | later
  · exact back id member
  · exact (back id member).trans ((List.pairwise_cons.mp sorted).1 id (by simp [later]))

/-! A walk, layer by layer. -/

/-- The ids of a walk by layers; a layer without an id is passed over. -/
structure Layers where
  decision : Option String
  option : Option String
  lever : Option String
  influences : List String
  effect : Option String
  goal : Option String

def Layers.ids (layers : Layers) : List String :=
  layers.decision.toList ++ (layers.option.toList ++ (layers.lever.toList ++
    (layers.influences ++ (layers.effect.toList ++ layers.goal.toList))))

/-- Every id has the role of its layer. -/
structure Layers.Fit (layers : Layers) (graph : Graph) : Prop where
  decision : ∀ id ∈ layers.decision, graph.Plays id .decision
  option : ∀ id ∈ layers.option, graph.Plays id .option
  lever : ∀ id ∈ layers.lever, graph.Plays id (.factor .controllable)
  influences : ∀ id ∈ layers.influences, graph.IsInfluence id
  effect : ∀ id ∈ layers.effect, graph.IsEffect id
  goal : ∀ id ∈ layers.goal, graph.Plays id .goal

def Layers.empty : Layers := ⟨none, none, none, [], none, none⟩

theorem Layers.fit_empty : Layers.empty.Fit graph := ⟨nofun, nofun, nofun, nofun, nofun, nofun⟩

/-- The ids are in the order of the layers, in each layer at most one apart from the influences. -/
def Layered (graph : Graph) (ids : List String) : Prop :=
  ∃ layers : Layers, layers.ids = ids ∧ layers.Fit graph

section Descent

variable (placed : (Survey.ofGraph graph).misplacedEdges = []) {id next : String}
  {rest : List String}

include placed in
/-- What follows an id on a walk has a role that the role of the id allows. -/
theorem plays_next {role : Role} (plays : graph.Plays id role)
    (resolved : graph.Resolved id next) : ∃ other, graph.Plays next other ∧
      role.allows other = true := by
  obtain ⟨first, second, starts, stops, allowed⟩ := allows_of_resolved placed resolved
  cases starts.eq plays
  exact ⟨second, stops, allowed⟩

include placed in
theorem not_resolved_goal (plays : graph.Plays id .goal) : ¬ graph.Resolved id next := by
  intro resolved
  obtain ⟨other, _, allowed⟩ := plays_next placed plays resolved
  cases allowed

include placed in
theorem goal_of_effect (effect : graph.IsEffect id) (resolved : graph.Resolved id next) :
    graph.Plays next .goal := by
  rcases effect with plays | plays
  · obtain ⟨other, also, allowed⟩ := plays_next placed plays resolved
    cases other <;> first | exact also | cases allowed
  · obtain ⟨other, also, allowed⟩ := plays_next placed plays resolved
    cases other <;> first | exact also | cases allowed

include placed in
theorem influence_or_effect_of_factor {category : Category}
    (plays : graph.Plays id (.factor category)) (resolved : graph.Resolved id next) :
    graph.IsInfluence next ∨ graph.IsEffect next := by
  obtain ⟨other, also, allowed⟩ := plays_next placed plays resolved
  cases other with
  | factor inferred =>
      cases inferred with
      | controllable => cases allowed
      | observable => exact Or.inl (Or.inl also)
      | external => exact Or.inl (Or.inr also)
  | outcome => exact Or.inr (Or.inl also)
  | risk => exact Or.inr (Or.inr also)
  | _ => cases allowed

include placed in
theorem lever_of_option (plays : graph.Plays id .option) (resolved : graph.Resolved id next) :
    graph.Plays next (.factor .controllable) := by
  obtain ⟨other, also, allowed⟩ := plays_next placed plays resolved
  cases other with
  | factor category => cases category <;> first | exact also | cases allowed
  | _ => cases allowed

include placed in
theorem option_of_decision (plays : graph.Plays id .decision) (resolved : graph.Resolved id next) :
    graph.Plays next .option := by
  obtain ⟨other, also, allowed⟩ := plays_next placed plays resolved
  cases other <;> first | exact also | cases allowed

theorem IsInfluence.factor (influence : graph.IsInfluence id) :
    ∃ category, graph.Plays id (.factor category) := by
  rcases influence with plays | plays
  · exact ⟨_, plays⟩
  · exact ⟨_, plays⟩

include placed in
theorem layers_of_goal (plays : graph.Plays id .goal) (walk : (id :: rest).IsChain graph.Resolved) :
    rest = [] := by
  cases rest with
  | nil => rfl
  | cons next rest => exact absurd walk.rel (not_resolved_goal placed plays)

include placed in
theorem layers_of_effect (effect : graph.IsEffect id)
    (walk : (id :: rest).IsChain graph.Resolved) :
    ∃ goal : Option String, rest = goal.toList ∧ ∀ id ∈ goal, graph.Plays id .goal := by
  cases rest with
  | nil => exact ⟨none, rfl, nofun⟩
  | cons next rest =>
      have plays := goal_of_effect placed effect walk.rel
      cases layers_of_goal placed plays walk.tail
      exact ⟨some next, rfl, by simpa using plays⟩

include placed in
/-- Behind a factor come factors that no option sets, one effect and the goal. -/
theorem layers_of_factor {category : Category} (plays : graph.Plays id (.factor category))
    (walk : (id :: rest).IsChain graph.Resolved) :
    ∃ layers : Layers, layers.ids = rest ∧ layers.Fit graph ∧
      layers.decision = none ∧ layers.option = none ∧ layers.lever = none := by
  induction rest generalizing id category with
  | nil => exact ⟨.empty, rfl, Layers.fit_empty, by simp [Layers.empty]⟩
  | cons next rest ih =>
      rcases influence_or_effect_of_factor placed plays walk.rel with influence | effect
      · obtain ⟨_, also⟩ := influence.factor
        obtain ⟨⟨decision, option, lever, influences, effect, goal⟩, rfl, fit, rfl, rfl, rfl⟩ :=
          ih also walk.tail
        refine ⟨⟨none, none, none, next :: influences, effect, goal⟩, rfl, ?_, by simp⟩
        exact { fit with influences := List.forall_mem_cons.mpr ⟨influence, fit.influences⟩ }
      · obtain ⟨goal, rfl, ends⟩ := layers_of_effect placed effect walk.tail
        refine ⟨⟨none, none, none, [], some next, goal⟩, rfl, ?_, by simp⟩
        exact ⟨nofun, nofun, nofun, nofun, by simpa using effect, ends⟩

include placed in
theorem layers_of_option (plays : graph.Plays id .option)
    (walk : (id :: rest).IsChain graph.Resolved) :
    ∃ layers : Layers, layers.ids = rest ∧ layers.Fit graph ∧
      layers.decision = none ∧ layers.option = none := by
  cases rest with
  | nil => exact ⟨.empty, rfl, Layers.fit_empty, by simp [Layers.empty]⟩
  | cons next rest =>
      have lever := lever_of_option placed plays walk.rel
      obtain ⟨⟨_, _, _, influences, effect, goal⟩, rfl, fit, rfl, rfl, rfl⟩ :=
        layers_of_factor placed lever walk.tail
      refine ⟨⟨none, none, some next, influences, effect, goal⟩, rfl, ?_, by simp⟩
      exact { fit with lever := by simpa using lever }

include placed in
theorem layers_of_decision (plays : graph.Plays id .decision)
    (walk : (id :: rest).IsChain graph.Resolved) :
    ∃ layers : Layers, layers.ids = rest ∧ layers.Fit graph ∧ layers.decision = none := by
  cases rest with
  | nil => exact ⟨.empty, rfl, Layers.fit_empty, by simp [Layers.empty]⟩
  | cons next rest =>
      have option := option_of_decision placed plays walk.rel
      obtain ⟨⟨_, _, lever, influences, effect, goal⟩, rfl, fit, rfl, rfl⟩ :=
        layers_of_option placed option walk.tail
      refine ⟨⟨none, some next, lever, influences, effect, goal⟩, rfl, ?_, by simp⟩
      exact { fit with option := by simpa using option }

end Descent

/-- A walk along edges with declared ends; it may be a single declared id. -/
structure IsWalk (graph : Graph) (ids : List String) : Prop where
  steps : ids.IsChain graph.Resolved
  declared : ∀ id ∈ ids, (graph.position? id).isSome = true

theorem layered_of_isWalk (placed : (Survey.ofGraph graph).misplacedEdges = [])
    {ids : List String} (walk : graph.IsWalk ids) : graph.Layered ids := by
  cases ids with
  | nil => exact ⟨.empty, rfl, Layers.fit_empty⟩
  | cons id rest =>
      obtain ⟨role, plays⟩ := exists_plays (walk.declared id List.mem_cons_self)
      have ofEffect (effect : graph.IsEffect id) : graph.Layered (id :: rest) := by
        obtain ⟨goal, rfl, ends⟩ := layers_of_effect placed effect walk.steps
        exact ⟨⟨none, none, none, [], some id, goal⟩, rfl,
          ⟨nofun, nofun, nofun, nofun, by simpa using effect, ends⟩⟩
      cases role with
      | decision =>
          obtain ⟨⟨_, option, lever, influences, effect, goal⟩, rfl, fit, rfl⟩ :=
            layers_of_decision placed plays walk.steps
          exact ⟨⟨some id, option, lever, influences, effect, goal⟩, rfl,
            { fit with decision := by simpa using plays }⟩
      | option =>
          obtain ⟨⟨_, _, lever, influences, effect, goal⟩, rfl, fit, rfl, rfl⟩ :=
            layers_of_option placed plays walk.steps
          exact ⟨⟨none, some id, lever, influences, effect, goal⟩, rfl,
            { fit with option := by simpa using plays }⟩
      | factor category =>
          obtain ⟨⟨_, _, _, influences, effect, goal⟩, rfl, fit, rfl, rfl, rfl⟩ :=
            layers_of_factor placed plays walk.steps
          have influence (free : graph.IsInfluence id) : graph.Layered (id :: _) :=
            ⟨⟨none, none, none, id :: influences, effect, goal⟩, rfl,
              { fit with influences := List.forall_mem_cons.mpr ⟨free, fit.influences⟩ }⟩
          cases category with
          | controllable =>
              exact ⟨⟨none, none, some id, influences, effect, goal⟩, rfl,
                { fit with lever := by simpa using plays }⟩
          | observable => exact influence (Or.inl plays)
          | external => exact influence (Or.inr plays)
      | outcome => exact ofEffect (Or.inl plays)
      | risk => exact ofEffect (Or.inr plays)
      | goal =>
          cases layers_of_goal placed plays walk.steps
          exact ⟨⟨none, none, none, [], none, some id⟩, rfl,
            ⟨nofun, nofun, nofun, nofun, nofun, by simpa using plays⟩⟩

end Graph

end DecisionGraph
