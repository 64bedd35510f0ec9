import Mathlib.Logic.Relation
import Mathlib.Data.List.Perm.Basic

/-! # Unfolding a graph

A graph whose nodes may be shared, and that may have cycles, is unfolded from some of its nodes into
an ordered forest.  A worklist that keeps no record of the nodes it has seen visits exactly the nodes
of that forest, so a budget that it enforces bounds the forest.
-/

namespace Foundations.Unfolding

/-- A forest: its first tree, and the rest. -/
inductive Forest (Node : Type) where
  | empty
  | grow (label : Node) (cost : Nat) (children rest : Forest Node)

variable {Node : Type}

namespace Forest

def roots : Forest Node → List Node
  | .empty => []
  | .grow label _ _ rest => label :: rest.roots

def size : Forest Node → Nat
  | .empty => 0
  | .grow _ _ children rest => 1 + children.size + rest.size

/-- The number of nodes on the longest path. -/
def height : Forest Node → Nat
  | .empty => 0
  | .grow _ _ children rest => max (1 + children.height) rest.height

def totalCost : Forest Node → Nat
  | .empty => 0
  | .grow _ cost children rest => cost + children.totalCost + rest.totalCost

theorem roots_length_le_size (forest : Forest Node) : forest.roots.length ≤ forest.size := by
  induction forest with
  | empty => exact Nat.le_refl 0
  | grow label cost children rest _ inductionHypothesis =>
    rw [roots, size, List.length_cons]
    omega

end Forest

/-- Which children and which cost a node has; an ill-formed node has none. -/
abbrev Graph (Node : Type) := Node → List Node → Nat → Prop

/-- Every node of the forest is well formed and has the node's children. -/
def Forest.Unfolds (graph : Graph Node) : Forest Node → Prop
  | .empty => True
  | .grow label cost children rest =>
    graph label children.roots cost ∧ children.Unfolds graph ∧ rest.Unfolds graph

/-! ## Worklists

An entry of a worklist is a node and the depth at which it was met.
-/

/-- The forest unfolds the entries in order, and no node of it is met deeper than `deepest`. -/
inductive Serves (graph : Graph Node) (deepest : Nat) : Forest Node → List (Node × Nat) → Prop where
  | empty : Serves graph deepest .empty []
  | grow {label : Node} {cost depth : Nat} {children rest : Forest Node} {entries : List (Node × Nat)}
      (shallow : depth ≤ deepest) (wellFormed : graph label children.roots cost)
      (below : Serves graph deepest children (children.roots.map fun child => (child, depth + 1)))
      (after : Serves graph deepest rest entries) :
      Serves graph deepest (.grow label cost children rest) ((label, depth) :: entries)

section

variable {graph : Graph Node} {deepest : Nat}

theorem Serves.roots {forest : Forest Node} {entries : List (Node × Nat)}
    (serves : Serves graph deepest forest entries) : forest.roots = entries.map Prod.fst := by
  induction serves with
  | empty => rfl
  | grow _ _ _ _ _ inductionHypothesis => rw [Forest.roots, inductionHypothesis, List.map_cons]

theorem Serves.append {first second : Forest Node} {entries others : List (Node × Nat)}
    (left : Serves graph deepest first entries) (right : Serves graph deepest second others) :
    ∃ forest, Serves graph deepest forest (entries ++ others) ∧
      forest.size = first.size + second.size ∧
      forest.totalCost = first.totalCost + second.totalCost := by
  induction left with
  | empty => exact ⟨second, right, by simp [Forest.size], by simp [Forest.totalCost]⟩
  | grow shallow wellFormed below _ _ inductionHypothesis =>
    obtain ⟨forest, serves, size, cost⟩ := inductionHypothesis
    refine ⟨_, .grow shallow wellFormed below serves, ?_, ?_⟩
    · simp only [Forest.size, size]
      omega
    · simp only [Forest.totalCost, cost]
      omega

theorem Serves.split {forest : Forest Node} {entries others : List (Node × Nat)}
    (serves : Serves graph deepest forest (entries ++ others)) :
    ∃ first second, Serves graph deepest first entries ∧ Serves graph deepest second others ∧
      forest.size = first.size + second.size ∧
      forest.totalCost = first.totalCost + second.totalCost := by
  induction entries generalizing forest with
  | nil => exact ⟨.empty, forest, .empty, serves, by simp [Forest.size], by simp [Forest.totalCost]⟩
  | cons entry entries inductionHypothesis =>
    cases serves with
    | grow shallow wellFormed below after =>
      obtain ⟨first, second, left, right, size, cost⟩ := inductionHypothesis after
      refine ⟨_, second, .grow shallow wellFormed below left, right, ?_, ?_⟩
      · simp only [Forest.size, size]
        omega
      · simp only [Forest.totalCost, cost]
        omega

/-- The order of a worklist does not matter. -/
theorem Serves.perm {entries others : List (Node × Nat)} (same : entries.Perm others)
    {forest : Forest Node} (serves : Serves graph deepest forest entries) :
    ∃ arranged, Serves graph deepest arranged others ∧ arranged.size = forest.size ∧
      arranged.totalCost = forest.totalCost := by
  induction same generalizing forest with
  | nil => exact ⟨forest, serves, rfl, rfl⟩
  | cons entry _ inductionHypothesis =>
    cases serves with
    | grow shallow wellFormed below after =>
      obtain ⟨arranged, isServed, size, cost⟩ := inductionHypothesis after
      exact ⟨_, .grow shallow wellFormed below isServed, by simp only [Forest.size, size],
        by simp only [Forest.totalCost, cost]⟩
  | swap first second entries =>
    cases serves with
    | grow shallow wellFormed below after =>
      cases after with
      | grow shallowToo wellFormedToo belowToo rest =>
        refine ⟨_, .grow shallowToo wellFormedToo belowToo (.grow shallow wellFormed below rest), ?_, ?_⟩
        · simp only [Forest.size]
          omega
        · simp only [Forest.totalCost]
          omega
  | trans _ _ firstHypothesis secondHypothesis =>
    obtain ⟨between, serves, size, cost⟩ := firstHypothesis serves
    obtain ⟨arranged, isServed, sizeToo, costToo⟩ := secondHypothesis serves
    exact ⟨arranged, isServed, sizeToo.trans size, costToo.trans cost⟩

/-- Entries of one depth are served by the unfoldings that reach at most down to `deepest`. -/
theorem serves_iff {forest : Forest Node} {nodes : List Node} {depth : Nat}
    (shallow : depth ≤ deepest + 1) :
    Serves graph deepest forest (nodes.map fun node => (node, depth)) ↔
      forest.roots = nodes ∧ forest.Unfolds graph ∧ forest.height + depth ≤ deepest + 1 := by
  induction forest generalizing nodes depth with
  | empty =>
    constructor
    · intro serves
      have roots := serves.roots
      rw [List.map_map] at roots
      exact ⟨roots.trans (List.map_id nodes), trivial, by simpa [Forest.height] using shallow⟩
    · intro unfolding
      have isNil : nodes = [] := unfolding.1.symm
      rw [isNil]
      exact .empty
  | grow label cost children rest childrenHypothesis restHypothesis =>
    cases nodes with
    | nil =>
      constructor
      · intro serves
        cases serves
      · intro unfolding
        cases unfolding.1
    | cons node nodes =>
      simp only [Forest.roots, Forest.Unfolds, Forest.height, List.map_cons, List.cons.injEq]
      constructor
      · intro serves
        cases serves with
        | grow isShallow wellFormed below after =>
          obtain ⟨_, belowUnfolds, belowHeight⟩ :=
            (childrenHypothesis (Nat.succ_le_succ isShallow)).mp below
          obtain ⟨isNodes, restUnfolds, restHeight⟩ := (restHypothesis shallow).mp after
          exact ⟨⟨rfl, isNodes⟩, ⟨wellFormed, belowUnfolds, restUnfolds⟩, by omega⟩
      · intro unfolding
        obtain ⟨⟨isNode, isNodes⟩, ⟨wellFormed, belowUnfolds, restUnfolds⟩, height⟩ := unfolding
        subst isNode
        refine .grow (by omega) wellFormed ?_ ?_
        · exact (childrenHypothesis (by omega)).mpr ⟨rfl, belowUnfolds, by omega⟩
        · exact (restHypothesis shallow).mpr ⟨isNodes, restUnfolds, by omega⟩

end

/-! ## Budgets -/

structure Budget where
  size : Nat
  height : Nat
  cost : Nat

/-- What is still to be visited stays within the budget, of which `size` and `cost` are spent. -/
def Affordable (graph : Graph Node) (budget : Budget) (size cost : Nat)
    (entries : List (Node × Nat)) : Prop :=
  ∃ forest, Serves graph budget.height forest entries ∧ size + forest.size ≤ budget.size ∧
    cost + forest.totalCost ≤ budget.cost

section

variable {graph : Graph Node} {budget : Budget} {size cost : Nat}

theorem affordable_nil :
    Affordable graph budget size cost [] ↔ size ≤ budget.size ∧ cost ≤ budget.cost := by
  constructor
  · intro affordable
    obtain ⟨forest, serves, sizeBound, costBound⟩ := affordable
    exact ⟨Nat.le_of_add_right_le sizeBound, Nat.le_of_add_right_le costBound⟩
  · intro bounds
    exact ⟨.empty, .empty, bounds.1, bounds.2⟩

/-- One step of a worklist: the first entry is replaced by its children. -/
theorem affordable_cons {node : Node} {depth : Nat} {entries : List (Node × Nat)} :
    Affordable graph budget size cost ((node, depth) :: entries) ↔
      depth ≤ budget.height ∧ ∃ children amount, graph node children amount ∧
        Affordable graph budget (size + 1) (cost + amount)
          ((children.map fun child => (child, depth + 1)) ++ entries) := by
  constructor
  · intro affordable
    obtain ⟨forest, serves, sizeBound, costBound⟩ := affordable
    cases serves with
    | @grow _ amount _ children rest _ shallow wellFormed below after =>
      obtain ⟨joined, isServed, joinedSize, joinedCost⟩ := below.append after
      simp only [Forest.size, Forest.totalCost] at sizeBound costBound
      exact ⟨shallow, children.roots, amount, wellFormed, joined, isServed, by omega, by omega⟩
  · intro step
    obtain ⟨shallow, children, amount, wellFormed, joined, serves, sizeBound, costBound⟩ := step
    obtain ⟨below, after, belowServes, afterServes, joinedSize, joinedCost⟩ := serves.split
    have isChildren : below.roots = children := by
      rw [belowServes.roots, List.map_map]
      exact List.map_id children
    subst isChildren
    refine ⟨.grow node amount below after, .grow shallow wellFormed belowServes afterServes, ?_, ?_⟩
    · simp only [Forest.size]
      omega
    · simp only [Forest.totalCost]
      omega

theorem affordable_perm {entries others : List (Node × Nat)} (same : entries.Perm others) :
    Affordable graph budget size cost entries ↔ Affordable graph budget size cost others := by
  have oneWay : ∀ {entries others : List (Node × Nat)}, entries.Perm others →
      Affordable graph budget size cost entries → Affordable graph budget size cost others := by
    intro entries others same affordable
    obtain ⟨forest, serves, sizeBound, costBound⟩ := affordable
    obtain ⟨arranged, isServed, isSize, isCost⟩ := serves.perm same
    exact ⟨arranged, isServed, by rw [isSize]; exact sizeBound, by rw [isCost]; exact costBound⟩
  exact ⟨oneWay same, oneWay same.symm⟩

/-- Every entry that waits will take a node of the budget. -/
theorem Affordable.planned {entries : List (Node × Nat)}
    (affordable : Affordable graph budget size cost entries) : size + entries.length ≤ budget.size := by
  obtain ⟨forest, serves, sizeBound, _⟩ := affordable
  have count := forest.roots_length_le_size
  rw [serves.roots, List.length_map] at count
  omega

theorem Affordable.paid {entries : List (Node × Nat)}
    (affordable : Affordable graph budget size cost entries) : cost ≤ budget.cost := by
  obtain ⟨forest, _, _, costBound⟩ := affordable
  exact Nat.le_of_add_right_le costBound

theorem affordable_root (root : Node) :
    Affordable graph budget 0 0 [(root, 1)] ↔
      ∃ forest : Forest Node, forest.roots = [root] ∧ forest.Unfolds graph ∧ forest.size ≤ budget.size ∧
        forest.height ≤ budget.height ∧ forest.totalCost ≤ budget.cost := by
  have shallow : 1 ≤ budget.height + 1 := Nat.le_add_left _ _
  have isEntry : [(root, 1)] = [root].map fun node => (node, 1) := rfl
  rw [isEntry]
  constructor
  · intro affordable
    obtain ⟨forest, serves, sizeBound, costBound⟩ := affordable
    obtain ⟨roots, unfolds, height⟩ := (serves_iff shallow).mp serves
    exact ⟨forest, roots, unfolds, by omega, by omega, by omega⟩
  · intro unfolding
    obtain ⟨forest, roots, unfolds, sizeBound, height, costBound⟩ := unfolding
    exact ⟨forest, (serves_iff shallow).mpr ⟨roots, unfolds, by omega⟩, by omega,
      by omega⟩

end

/-! ## Cycles -/

/-- A node has at most one list of children and one cost. -/
def Functional (graph : Graph Node) : Prop :=
  ∀ node first second firstCost secondCost, graph node first firstCost →
    graph node second secondCost → first = second ∧ firstCost = secondCost

def Child (graph : Graph Node) (parent child : Node) : Prop :=
  ∃ children cost, graph parent children cost ∧ child ∈ children

section

variable {graph : Graph Node}

theorem Forest.Unfolds.unique (functional : Functional graph) {first second : Forest Node}
    (unfolds : first.Unfolds graph) (unfoldsToo : second.Unfolds graph)
    (roots : first.roots = second.roots) : first = second := by
  induction first generalizing second with
  | empty =>
    cases second with
    | empty => rfl
    | grow => cases roots
  | grow label cost children rest childrenHypothesis restHypothesis =>
    cases second with
    | empty => cases roots
    | grow labelToo costToo childrenToo restToo =>
      obtain ⟨wellFormed, below, after⟩ := unfolds
      obtain ⟨wellFormedToo, belowToo, afterToo⟩ := unfoldsToo
      obtain ⟨isLabel, isRest⟩ := List.cons.inj roots
      subst isLabel
      obtain ⟨isChildren, isCost⟩ := functional _ _ _ _ _ wellFormed wellFormedToo
      rw [childrenHypothesis below belowToo isChildren, restHypothesis after afterToo isRest, isCost]

/-- Each root of an unfolding has an unfolding of its own. -/
theorem Forest.Unfolds.of_mem {forest : Forest Node} (unfolds : forest.Unfolds graph) {node : Node}
    (member : node ∈ forest.roots) :
    ∃ tree : Forest Node, tree.Unfolds graph ∧ tree.roots = [node] ∧ tree.size ≤ forest.size := by
  induction forest with
  | empty => cases member
  | grow label cost children rest _ inductionHypothesis =>
    obtain ⟨wellFormed, below, after⟩ := unfolds
    cases List.mem_cons.mp member with
    | inl isLabel =>
      subst isLabel
      refine ⟨.grow node cost children .empty, ⟨wellFormed, below, trivial⟩, rfl, ?_⟩
      simp only [Forest.size]
      omega
    | inr later =>
      obtain ⟨tree, treeUnfolds, isRoot, size⟩ := inductionHypothesis after later
      refine ⟨tree, treeUnfolds, isRoot, ?_⟩
      simp only [Forest.size]
      omega

theorem Forest.Unfolds.child (functional : Functional graph) {tree : Forest Node} {parent node : Node}
    (unfolds : tree.Unfolds graph) (isRoot : tree.roots = [parent]) (child : Child graph parent node) :
    ∃ branch : Forest Node, branch.Unfolds graph ∧ branch.roots = [node] ∧ branch.size < tree.size := by
  cases tree with
  | empty => cases isRoot
  | grow label cost children rest =>
    obtain ⟨wellFormed, below, _⟩ := unfolds
    obtain ⟨isLabel, _⟩ := List.cons.inj isRoot
    subst isLabel
    obtain ⟨nodes, amount, wellFormedToo, member⟩ := child
    obtain ⟨isNodes, _⟩ := functional _ _ _ _ _ wellFormedToo wellFormed
    rw [isNodes] at member
    obtain ⟨branch, branchUnfolds, isBranch, size⟩ := below.of_mem member
    refine ⟨branch, branchUnfolds, isBranch, ?_⟩
    simp only [Forest.size]
    omega

theorem Forest.Unfolds.descendant (functional : Functional graph) {tree : Forest Node}
    {ancestor node : Node} (unfolds : tree.Unfolds graph) (isRoot : tree.roots = [ancestor])
    (descends : Relation.TransGen (Child graph) ancestor node) :
    ∃ branch : Forest Node, branch.Unfolds graph ∧ branch.roots = [node] ∧ branch.size < tree.size := by
  induction descends with
  | single child => exact unfolds.child functional isRoot child
  | tail _ child inductionHypothesis =>
    obtain ⟨between, betweenUnfolds, isBetween, betweenSize⟩ := inductionHypothesis
    obtain ⟨branch, branchUnfolds, isBranch, size⟩ := betweenUnfolds.child functional isBetween child
    exact ⟨branch, branchUnfolds, isBranch, Nat.lt_trans size betweenSize⟩

/-- A graph that unfolds from a node has no cycle that the node can reach. -/
theorem Forest.Unfolds.acyclic (functional : Functional graph) {tree : Forest Node} {root node : Node}
    (unfolds : tree.Unfolds graph) (isRoot : tree.roots = [root])
    (reached : Relation.ReflTransGen (Child graph) root node) :
    ¬ Relation.TransGen (Child graph) node node := by
  intro cycle
  have found : ∃ branch : Forest Node, branch.Unfolds graph ∧ branch.roots = [node] := by
    cases Relation.reflTransGen_iff_eq_or_transGen.mp reached with
    | inl same => exact ⟨tree, unfolds, same ▸ isRoot⟩
    | inr descends =>
      obtain ⟨branch, branchUnfolds, isBranch, _⟩ := unfolds.descendant functional isRoot descends
      exact ⟨branch, branchUnfolds, isBranch⟩
  obtain ⟨branch, branchUnfolds, isBranch⟩ := found
  obtain ⟨smaller, smallerUnfolds, isSmaller, size⟩ :=
    branchUnfolds.descendant functional isBranch cycle
  have same := smallerUnfolds.unique functional branchUnfolds (isSmaller.trans isBranch.symm)
  rw [same] at size
  exact Nat.lt_irrefl _ size

end

end Foundations.Unfolding
