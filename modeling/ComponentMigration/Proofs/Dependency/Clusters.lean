import Mathlib.Algebra.Field.Rat
import Mathlib.Algebra.Order.Field.Basic
import Mathlib.Algebra.Order.Ring.Rat
import Mathlib.Combinatorics.SimpleGraph.DegreeSum
import Mathlib.Data.Nat.Choose.Cast
import Mathlib.Data.Set.Card
import ComponentMigration.Proofs.Dependency.Groups

/-!
# Clusters are the dense components

The links of the members of a component are counted from either end, so that there are twice as many
ends as edges (`group_ends_eq`), and the density of a component is the share of its pairs that an
edge joins.  The clusters are the components with at least two members whose density is not below
the threshold (`find_clusters_spec`).
-/

namespace ComponentMigration

/-- The number of edges that join two of the members. -/
noncomputable def edgesWithin (G : SimpleGraph String) (members : List String) : Nat :=
  (G.induce {x | x ∈ members}).edgeSet.ncard

/-- The density of so many members with so many edges within them, computed exactly. -/
def exactDensity (edges members : Nat) : Rat := densityOf Rat (2 * edges) members

/-- The density of so many members with so many edges within them, computed with floating-point
numbers. -/
def floatDensity (edges members : Nat) : Float := densityOf Float (2 * edges) members

section Density

variable {G : SimpleGraph String} {links : Adjacency} {members : List String}

/-- Every edge has two ends. -/
theorem group_ends_eq (hlinks : links.IsTableOf G) (hdistinct : members.Nodup)
    (hclosed : ∀ x ∈ members, ∀ y, G.Adj x y → y ∈ members) :
    groupEnds links members = 2 * edgesWithin G members := by
  classical
  let H := G.induce {x | x ∈ members}
  have : Fintype {x | x ∈ members} := (List.finite_toSet members).fintype
  have hdegree : ∀ v : {x | x ∈ members}, H.degree v = ((links.get? v.1).getD []).length := by
    intro v
    have himage : (H.neighborFinset v).map (Function.Embedding.subtype _) =
        ((links.get? v.1).getD []).toFinset := by
      ext y
      simp only [Finset.mem_map, SimpleGraph.mem_neighborFinset, List.mem_toFinset]
      rw [← Adjacency.HasEdge.eq_def, hlinks.edges]
      constructor
      · rintro ⟨u, hadj, rfl⟩
        exact hadj
      · exact fun hadj => ⟨⟨y, hclosed v.1 v.2 y hadj⟩, hadj, rfl⟩
    rw [← SimpleGraph.card_neighborFinset_eq_degree, ← Finset.card_map, himage,
      List.toFinset_card_of_nodup (hlinks.distinct v.1)]
  have hsum : groupEnds links members = ∑ v : {x | x ∈ members}, H.degree v := by
    rw [Finset.sum_congr rfl fun v _ => hdegree v, groupEnds, List.length_flatMap,
      ← List.sum_toFinset _ hdistinct]
    exact Finset.sum_subtype _ (fun x => List.mem_toFinset) _
  rw [hsum, H.sum_degrees_eq_twice_card_edges, edgesWithin, Set.ncard_eq_toFinset_card']
  rfl

/-- There is an edge within a component of at least two members. -/
theorem IsGroup.edges_within_pos (h : IsGroup G members) : 0 < edgesWithin G members := by
  obtain ⟨x, hx, -⟩ := h.exists_other ""
  obtain ⟨y, hy, hne⟩ := h.exists_other x
  have hreach := (h.mem_iff_reachable hy).mp hx
  rw [SimpleGraph.reachable_iff_reflTransGen] at hreach
  cases hreach with
  | refl => exact absurd rfl hne
  | @tail z _ _ hadj =>
      have hz : z ∈ members := (h.mem_iff_reachable hx).mpr hadj.symm.reachable
      have : Finite {x | x ∈ members} := List.finite_toSet members
      refine (Set.ncard_pos (Set.toFinite _)).mpr ⟨s(⟨z, hz⟩, ⟨x, hx⟩), ?_⟩
      exact hadj

/-- No more edges are within members than there are pairs of them. -/
theorem edges_within_le (hdistinct : members.Nodup) :
    edgesWithin G members ≤ members.length.choose 2 := by
  classical
  have : Fintype {x | x ∈ members} := (List.finite_toSet members).fintype
  have hcard : Fintype.card {x | x ∈ members} = members.length := by
    rw [← Nat.card_eq_fintype_card, Nat.card_coe_set_eq, ← List.coe_toFinset,
      Set.ncard_coe_finset, List.toFinset_card_of_nodup hdistinct]
  rw [edgesWithin, Set.ncard_eq_toFinset_card', ← hcard]
  exact (G.induce {x | x ∈ members}).card_edgeFinset_le_card_choose_two

/-- The exact density is the number of edges over the number of pairs. -/
theorem exact_density_eq (edges members : Nat) :
    exactDensity edges members = edges / ((members : Rat) * ((members : Rat) - 1) / 2) := by
  show (((2 * edges : Nat) : Int) : Rat) / ((2 : Int) : Rat) /
    (((members : Int) * ((members : Int) - 1) : Int) / ((2 : Int) : Rat)) = _
  push_cast
  rw [mul_div_cancel_left₀ _ (two_ne_zero : (2 : Rat) ≠ 0)]

/-- The exact density of a component is positive and at most one. -/
theorem IsGroup.exact_density_mem (h : IsGroup G members) :
    exactDensity (edgesWithin G members) members.length ∈ Set.Ioc 0 1 := by
  have hpairs : (0 : Rat) < (members.length.choose 2 : Nat) :=
    Nat.cast_pos.mpr (Nat.choose_pos h.several)
  have hchoose : exactDensity (edgesWithin G members) members.length =
      edgesWithin G members / (members.length.choose 2 : Nat) := by
    rw [exact_density_eq, Nat.cast_choose_two]
  rw [hchoose]
  refine ⟨div_pos (Nat.cast_pos.mpr h.edges_within_pos) hpairs, (div_le_one hpairs).mpr ?_⟩
  exact Nat.cast_le.mpr (edges_within_le (h.sorted.imp ne_of_lt))

end Density

section Adding

variable {links : Adjacency} {threshold together staged : Quantity} {group : List String}

/-- Whether a group is a cluster. -/
def isCluster (links : Adjacency) (threshold : Quantity) (group : List String) : Bool :=
  decide (2 ≤ group.length) && !(Quantity.real (groupDensity links group)).isLess threshold

/-- The cluster of a group that comes after so many others. -/
def clusterOf (links : Adjacency) (together staged : Quantity) (before : Nat)
    (group : List String) : Cluster :=
  { id := "cluster-" ++ toString (before + 1)
    units := Text.sorted group
    cohesion := Number.roundPlaces 3 (groupDensity links group)
    strategy :=
      if together.isAtMost (.real (groupDensity links group)) then "together"
      else if staged.isAtMost (.real (groupDensity links group)) then "staged"
      else "individual" }

theorem add_cluster_eq (group : List String) (clusters : List Cluster) :
    addCluster links ⟨.ok threshold, .ok together, .ok staged⟩ group clusters =
      .ok (if isCluster links threshold group then
        clusters ++ [clusterOf links together staged clusters.length group] else clusters) := by
  have hstrategy : ∀ density, clusterStrategy density (.ok together) (.ok staged) =
      .ok (if together.isAtMost (.real density) then "together"
        else if staged.isAtMost (.real density) then "staged" else "individual") := by
    intro density
    show (if _ then Except.ok _ else if _ then Except.ok _ else Except.ok _) = _
    split
    · rfl
    · split <;> rfl
  rw [addCluster, isCluster]
  split
  · next hfew => rw [decide_eq_false (by omega)]; rfl
  · next hmany =>
      rw [decide_eq_true (by omega), Bool.true_and]
      show (if _ then Except.ok _ else _) = _
      split
      · next hless => rw [hless]; rfl
      · next hdense =>
          rw [Bool.not_eq_true] at hdense
          rw [hdense]
          show clusterStrategy _ _ _ >>= _ = _
          rw [hstrategy]
          rfl

/-- The clusters of groups, in their order. -/
theorem add_clusters_eq (groups : List (List String)) (clusters : List Cluster) :
    groups.foldlM (fun clusters group =>
        addCluster links ⟨.ok threshold, .ok together, .ok staged⟩ group clusters) clusters =
      .ok (clusters ++ (groups.filter (isCluster links threshold)).mapIdx fun i group =>
        clusterOf links together staged (clusters.length + i) group) := by
  induction groups generalizing clusters with
  | nil => simp; rfl
  | cons group rest ih =>
      rw [List.foldlM_cons, add_cluster_eq]
      show List.foldlM _ _ rest = _
      rw [ih]
      split
      · next hdense =>
          rw [List.filter_cons_of_pos hdense, List.mapIdx_cons, List.append_assoc]
          simp [Nat.add_assoc, Nat.add_comm 1]
      · next hsparse => rw [List.filter_cons_of_neg hsparse]

end Adding

/-- What the clusters of a graph are: the components with at least two members whose density is not
below the threshold, numbered in the order of their smallest members.  The density is the number of
edges over the number of pairs, computed with floating-point numbers. -/
structure ReportsGroups (G : SimpleGraph String) (threshold together staged : Quantity)
    (clusters : List Cluster) : Prop where
  disjoint : clusters.Pairwise fun c c' => c.units.Disjoint c'.units
  groups : ∀ c ∈ clusters, IsGroup G c.units
  reported : ∀ members, IsGroup G members → ((∃ c ∈ clusters, c.units = members) ↔
    (Quantity.real (floatDensity (edgesWithin G members) members.length)).isLess threshold = false)
  densities : ∀ members, IsGroup G members →
    exactDensity (edgesWithin G members) members.length = edgesWithin G members /
      ((members.length : Rat) * ((members.length : Rat) - 1) / 2) ∧
    exactDensity (edgesWithin G members) members.length ∈ Set.Ioc 0 1
  numbered : ∀ i (h : i < clusters.length), clusters[i].id = "cluster-" ++ toString (i + 1)
  ordered : clusters.Pairwise fun c c' => ∃ x ∈ c.units, ∀ y ∈ c'.units, x < y
  cohesions : ∀ c ∈ clusters, c.cohesion =
    Number.roundPlaces 3 (floatDensity (edgesWithin G c.units) c.units.length)
  strategies : ∀ c ∈ clusters, c.strategy =
    if together.isAtMost (.real (floatDensity (edgesWithin G c.units) c.units.length)) then
      "together"
    else if staged.isAtMost (.real (floatDensity (edgesWithin G c.units) c.units.length)) then
      "staged"
    else "individual"

section Clusters

variable {G : SimpleGraph String} {links : Adjacency} {threshold together staged : Quantity}
  {units visited : List String} {groups : List (List String)}

/-- The density of a group, told by its sorted members. -/
theorem GroupsFound.group_density_eq (h : GroupsFound G units units (visited, groups))
    (hlinks : links.IsTableOf G) {group : List String} (hgroup : group ∈ groups) :
    groupDensity links group =
      floatDensity (edgesWithin G (Text.sorted group)) (Text.sorted group).length := by
  obtain ⟨start, -, hsame⟩ := h.components group hgroup
  have hclosed : ∀ x ∈ Text.sorted group, ∀ y, G.Adj x y → y ∈ Text.sorted group := by
    intro x hx y hadj
    rw [(sorted_perm group).mem_iff, hsame] at hx ⊢
    exact hx.trans hadj.reachable
  have hends : groupEnds links group = groupEnds links (Text.sorted group) :=
    ((sorted_perm group).symm.flatMap_right _).length_eq
  rw [groupDensity, floatDensity, hends, group_ends_eq hlinks
    ((sorted_perm group).nodup_iff.mpr (h.nodup_of_mem hgroup)) hclosed,
    (sorted_perm group).length_eq]

theorem units_clusters (groups : List (List String)) :
    (groups.mapIdx fun i group => clusterOf links together staged i group).map (·.units) =
      groups.map Text.sorted := by
  refine List.ext_getElem (by simp) fun i _ _ => ?_
  simp [clusterOf]

/-- Of the groups found the dense ones are the clusters. -/
theorem GroupsFound.reports_groups (h : GroupsFound G units units (visited, groups))
    (hlinks : links.IsTableOf G) (hunits : ∀ x y, G.Adj x y → y ∈ units) :
    ReportsGroups G threshold together staged
      ((groups.filter (isCluster links threshold)).mapIdx fun i group =>
        clusterOf links together staged i group) := by
  have hsub : (groups.filter (isCluster links threshold)).Sublist groups := List.filter_sublist
  have hdense : ∀ group, group ∈ groups.filter (isCluster links threshold) ↔
      group ∈ groups ∧ 2 ≤ group.length ∧
        (Quantity.real (groupDensity links group)).isLess threshold = false := by
    simp [isCluster]
  have hmem : ∀ c ∈ (groups.filter (isCluster links threshold)).mapIdx fun i group =>
      clusterOf links together staged i group, ∃ i, ∃ group ∈ groups, 2 ≤ group.length ∧
        clusterOf links together staged i group = c := by
    intro c hc
    obtain ⟨i, hi, rfl⟩ := List.mem_mapIdx.mp hc
    obtain ⟨hgroup, hseveral, -⟩ := (hdense _).mp (List.getElem_mem hi)
    exact ⟨i, _, hgroup, hseveral, rfl⟩
  have hdisjoint : groups.Pairwise List.Disjoint :=
    (List.nodup_flatten.mp (h.visited ▸ h.distinct)).2
  refine ⟨?_, ?_, ?_, ?_, ?_, ?_, ?_, ?_⟩
  · rw [← List.pairwise_map (f := Cluster.units) (R := List.Disjoint), units_clusters,
      List.pairwise_map]
    refine (hdisjoint.sublist hsub).imp fun hgroups x hx hx' => ?_
    exact hgroups ((sorted_perm _).subset hx) ((sorted_perm _).subset hx')
  · intro c hc
    obtain ⟨i, group, hgroup, hseveral, rfl⟩ := hmem c hc
    exact (h.is_group_iff hunits).mpr ⟨group, hgroup, hseveral, rfl⟩
  · intro members hmembers
    obtain ⟨group, hgroup, hseveral, rfl⟩ := (h.is_group_iff hunits).mp hmembers
    rw [← List.mem_map (f := Cluster.units), units_clusters, List.mem_map]
    constructor
    · rintro ⟨other, hother, hsame⟩
      obtain ⟨hother, -, hless⟩ := (hdense other).mp hother
      rwa [h.group_density_eq hlinks hother, hsame] at hless
    · intro hless
      rw [← h.group_density_eq hlinks hgroup] at hless
      exact ⟨group, (hdense group).mpr ⟨hgroup, hseveral, hless⟩, rfl⟩
  · exact fun members hmembers => ⟨exact_density_eq _ _, hmembers.exact_density_mem⟩
  · intro i hi
    rw [List.getElem_mapIdx]
    rfl
  · rw [← List.pairwise_map (f := Cluster.units) (R := fun c c' => ∃ x ∈ c, ∀ y ∈ c', x < y),
      units_clusters, List.pairwise_map]
    refine (h.ordered.sublist hsub).imp ?_
    rintro earlier later ⟨x, hx, hless⟩
    exact ⟨x, (sorted_perm _).mem_iff.mpr hx, fun y hy => hless y ((sorted_perm _).mem_iff.mp hy)⟩
  · intro c hc
    obtain ⟨i, group, hgroup, -, rfl⟩ := hmem c hc
    exact congrArg (Number.roundPlaces 3) (h.group_density_eq hlinks hgroup)
  · intro c hc
    obtain ⟨i, group, hgroup, -, rfl⟩ := hmem c hc
    show (if _ then _ else _) = _
    rw [h.group_density_eq hlinks hgroup]
    rfl

end Clusters

/-- The clusters that are found among units are the dense components of the graph of their links. -/
theorem find_clusters_spec (units : List String) (g : Adjacency)
    (threshold together staged : Quantity) :
    ∃ clusters, findClusters units g ⟨.ok threshold, .ok together, .ok staged⟩ = .ok clusters ∧
      ReportsGroups (unitLinks units g) threshold together staged clusters := by
  have hunits : unitLinks (Text.sorted (Text.unique units)) g = unitLinks units g :=
    unit_links_congr fun x => (sorted_perm _).mem_iff.trans mem_unique
  have hlinks := link_table_is_table_of (Text.sorted (Text.unique units)) g
  obtain ⟨visited, hfound⟩ := unit_groups_spec hlinks (fun _ _ hadj => hadj.2.2.1)
    (pairwise_lt_sorted (nodup_unique units))
  refine ⟨_, ?_, hunits ▸ hfound.reports_groups hlinks fun _ _ hadj => hadj.2.2.1⟩
  rw [findClusters]
  simpa using add_clusters_eq (unitGroups (Text.sorted (Text.unique units))
    (linkTable (Text.sorted (Text.unique units)) g)) []

end ComponentMigration
