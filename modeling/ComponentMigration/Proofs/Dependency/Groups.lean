import Mathlib.Combinatorics.SimpleGraph.Connectivity.Connected
import Mathlib.Data.List.Perm.Subperm
import ComponentMigration.Proofs.Dependency.ClosedWalk
import ComponentMigration.Dependency.Cluster

/-!
# Groups of units

Units that edges of either direction join make a graph without direction, and the groups that the
search finds are its connected components.  A search goes on from its start to the units that no
search has visited; what was visited before is closed under links, so that the search leaves none of
its component out (`GroupSearch.run_spec`).  Every unit is in a group, and the groups come in the
order of their smallest members (`unit_groups_spec`).
-/

namespace ComponentMigration

/-- An edge of the graph: a target in an entry of a node. -/
def Adjacency.Joins (g : Adjacency) (x y : String) : Prop :=
  ∃ targets, (x, targets) ∈ g ∧ y ∈ targets

/-- Units with the edges among them, taken without direction.  Edges from a unit to itself do not
count. -/
def unitLinks (units : List String) (g : Adjacency) : SimpleGraph String where
  Adj x y := x ≠ y ∧ x ∈ units ∧ y ∈ units ∧ (g.Joins x y ∨ g.Joins y x)
  symm := ⟨fun _ _ ⟨hne, hx, hy, hjoins⟩ => ⟨hne.symm, hy, hx, hjoins.symm⟩⟩
  loopless := ⟨fun _ h => h.1 rfl⟩

/-- A table of the links of units: every unit has the units that it is linked to, each once. -/
structure Adjacency.IsTableOf (links : Adjacency) (G : SimpleGraph String) : Prop where
  edges : ∀ x y, links.HasEdge x y ↔ G.Adj x y
  distinct : ∀ x, ((links.get? x).getD []).Nodup

section Table

variable {units : List String} {g : Adjacency} {x y : String}

theorem mem_linked_units (hx : x ∈ units) :
    y ∈ linkedUnits units g x ↔ (unitLinks units g).Adj x y := by
  have hout : y ∈ ((g.filter (·.1 == x)).flatMap (·.2)).filter
      (fun t => units.contains t && t != x) ↔ g.Joins x y ∧ y ∈ units ∧ y ≠ x := by
    simp only [List.mem_filter, List.mem_flatMap, Prod.exists, beq_iff_eq, Bool.and_eq_true,
      List.contains_iff_mem, bne_iff_ne, Adjacency.Joins]
    refine and_congr_left fun _ => ⟨?_, ?_⟩
    · rintro ⟨_, targets, ⟨hentry, rfl⟩, hy⟩
      exact ⟨targets, hentry, hy⟩
    · rintro ⟨targets, hentry, hy⟩
      exact ⟨x, targets, ⟨hentry, rfl⟩, hy⟩
  have hinto : y ∈ (g.filter fun e => units.contains e.1 && e.1 != x && e.2.contains x).map (·.1) ↔
      g.Joins y x ∧ y ∈ units ∧ y ≠ x := by
    simp only [List.mem_map, List.mem_filter, Prod.exists, Bool.and_eq_true,
      List.contains_iff_mem, bne_iff_ne, Adjacency.Joins]
    constructor
    · rintro ⟨_, targets, ⟨hentry, ⟨hy, hne⟩, hx⟩, rfl⟩
      exact ⟨⟨targets, hentry, hx⟩, hy, hne⟩
    · rintro ⟨⟨targets, hentry, hx⟩, hy, hne⟩
      exact ⟨y, targets, ⟨hentry, ⟨hy, hne⟩, hx⟩, rfl⟩
  rw [linkedUnits, (sorted_perm _).mem_iff, mem_unique, List.mem_append, hout, hinto]
  constructor
  · rintro (⟨hjoins, hy, hne⟩ | ⟨hjoins, hy, hne⟩)
    · exact ⟨hne.symm, hx, hy, .inl hjoins⟩
    · exact ⟨hne.symm, hx, hy, .inr hjoins⟩
  · rintro ⟨hne, -, hy, hjoins⟩
    exact hjoins.imp (⟨·, hy, hne.symm⟩) (⟨·, hy, hne.symm⟩)

theorem get?_link_table (units : List String) (g : Adjacency) (ids : List String) (x : String) :
    Assoc.get? (ids.map fun u => (u, linkedUnits units g u)) x =
      if x ∈ ids then some (linkedUnits units g x) else none := by
  induction ids with
  | nil => rfl
  | cons u rest ih =>
      by_cases hu : u = x
      · simp [Assoc.get?, hu]
      · rw [List.map_cons, Assoc.get?, List.find?_cons_of_neg (by simpa using hu), ← Assoc.get?, ih]
        simp [Ne.symm hu]

/-- The table of the links of units tells which units are linked. -/
theorem link_table_is_table_of (units : List String) (g : Adjacency) :
    (linkTable units g).IsTableOf (unitLinks units g) := by
  constructor
  · intro x y
    rw [Adjacency.HasEdge, linkTable, get?_link_table]
    split
    · next hx => exact mem_linked_units hx
    · next hx => exact iff_of_false List.not_mem_nil fun hadj => hx hadj.2.1
  · intro x
    rw [linkTable, get?_link_table]
    split
    · exact (sorted_perm _).nodup_iff.mpr (nodup_unique _)
    · exact List.nodup_nil

/-- Only which units there are matters, not in which order they come. -/
theorem unit_links_congr {ids : List String} (h : ∀ x, x ∈ ids ↔ x ∈ units) :
    unitLinks ids g = unitLinks units g := by
  ext x y
  simp only [unitLinks, h]

end Table

section Search

variable {G : SimpleGraph String} {links : Adjacency} {units before : List String} {start : String}
  {s : GroupSearch}

/-- What holds of a search for the group of a unit at every time: visited are the units from before,
the members and the queue.  All members and units of the queue are linked to the start through
others, and all links of members lead to such units. -/
structure GroupSearch.Invariant (G : SimpleGraph String) (units before : List String)
    (start : String) (s : GroupSearch) : Prop where
  visited : s.visited = before ++ (s.members ++ s.queue)
  distinct : s.visited.Nodup
  known : s.visited ⊆ units
  first : start ∈ s.members ++ s.queue
  reached : ∀ x ∈ s.members ++ s.queue, G.Reachable start x
  settled : ∀ x ∈ s.members, ∀ y, G.Adj x y → y ∈ s.members ++ s.queue

namespace GroupSearch

/-- Going on from the first unit of the queue keeps the invariant. -/
theorem Invariant.step {visited members queue : List String} {unit : String}
    (hlinks : links.IsTableOf G) (hunits : ∀ x y, G.Adj x y → y ∈ units)
    (hclosed : ∀ x ∈ before, ∀ y, G.Adj x y → y ∈ before)
    (h : Invariant G units before start ⟨visited, members, unit :: queue⟩) :
    Invariant G units before start
      ⟨visited ++ ((links.get? unit).getD []).filter (fun t => !visited.contains t),
        members ++ [unit],
        queue ++ ((links.get? unit).getD []).filter (fun t => !visited.contains t)⟩ := by
  obtain ⟨hvisited, hdistinct, hknown, hfirst, hreached, hsettled⟩ := h
  dsimp only at hvisited hdistinct hknown hfirst hreached hsettled
  have hfresh : ∀ y, y ∈ ((links.get? unit).getD []).filter (fun t => !visited.contains t) ↔
      G.Adj unit y ∧ y ∉ visited := by
    intro y
    rw [List.mem_filter, ← hlinks.edges, Adjacency.HasEdge, Bool.not_eq_true', ← Bool.not_eq_true,
      List.contains_iff_mem]
  have hunit : G.Reachable start unit := hreached unit (by simp)
  have hsame : ∀ fresh : List String, members ++ [unit] ++ (queue ++ fresh) =
      members ++ unit :: queue ++ fresh := by simp
  refine ⟨?_, ?_, ?_, ?_, ?_, ?_⟩ <;> dsimp only
  · rw [hsame, ← List.append_assoc, ← hvisited]
  · refine List.nodup_append.mpr ⟨hdistinct, (hlinks.distinct unit).filter _, ?_⟩
    rintro x hx _ hy rfl
    exact ((hfresh x).mp hy).2 hx
  · refine List.append_subset.mpr ⟨hknown, fun y hy => ?_⟩
    exact hunits unit y ((hfresh y).mp hy).1
  · rw [hsame]
    exact List.mem_append_left _ hfirst
  · rw [hsame]
    intro x hx
    rcases List.mem_append.mp hx with hx | hx
    · exact hreached x hx
    · exact hunit.trans ((hfresh x).mp hx).1.reachable
  · rw [hsame]
    intro x hx y hadj
    rcases List.mem_append.mp hx with hx | hx
    · exact List.mem_append_left _ (hsettled x hx y hadj)
    · obtain rfl := List.mem_singleton.mp hx
      by_cases hy : y ∈ visited
      · refine List.mem_append_left _ ((List.mem_append.mp (hvisited ▸ hy)).resolve_left ?_)
        -- What was visited before is closed under links, so the unit would have been visited twice.
        intro hbefore
        rw [hvisited] at hdistinct
        exact (List.nodup_append.mp hdistinct).2.2 x (hclosed y hbefore x hadj.symm) x (by simp) rfl
      · exact List.mem_append_right _ ((hfresh y).mpr ⟨hadj, hy⟩)

/-- A search ends with its queue empty.  The bound is large enough because every member is another
unit. -/
theorem run_spec (hlinks : links.IsTableOf G) (hunits : ∀ x y, G.Adj x y → y ∈ units)
    (hclosed : ∀ x ∈ before, ∀ y, G.Adj x y → y ∈ before) (fuel : Nat)
    (h : s.Invariant G units before start) (hfuel : units.length ≤ fuel + s.members.length) :
    (run links fuel s).Invariant G units before start ∧ (run links fuel s).queue = [] := by
  induction fuel generalizing s with
  | zero =>
      have hlength := (List.subperm_of_subset h.distinct h.known).length_le
      rw [h.visited, List.length_append, List.length_append] at hlength
      exact ⟨h, List.length_eq_zero_iff.mp (show s.queue.length = 0 by omega)⟩
  | succ fuel ih =>
      obtain ⟨visited, members, queue⟩ := s
      cases queue with
      | nil => exact ⟨h, rfl⟩
      | cons unit queue =>
          refine ih (h.step hlinks hunits hclosed) ?_
          rw [List.length_append, List.length_singleton]
          dsimp only at hfuel
          omega

/-- A unit by itself is visited before the search goes on from it. -/
theorem Invariant.single (hdistinct : before.Nodup) (hknown : before ⊆ units)
    (hstart : start ∈ units) (hnew : start ∉ before) :
    Invariant G units before start { visited := before ++ [start], queue := [start] } := by
  refine ⟨rfl, List.concat_eq_append ▸ hdistinct.concat hnew, ?_, List.mem_singleton.mpr rfl,
    ?_, ?_⟩
  · refine List.append_subset.mpr ⟨hknown, fun x hx => ?_⟩
    exact List.mem_singleton.mp hx ▸ hstart
  · exact List.forall_mem_singleton.mpr (.refl start)
  · exact fun x hx => absurd hx List.not_mem_nil

/-- When the queue is empty, the members are all units that are linked to the start through
others. -/
theorem Invariant.mem_members_iff (h : s.Invariant G units before start) (hqueue : s.queue = [])
    {x : String} : x ∈ s.members ↔ G.Reachable start x := by
  have hall : s.members ++ s.queue = s.members := by rw [hqueue, List.append_nil]
  constructor
  · exact fun hx => h.reached x (List.mem_append_left _ hx)
  · intro hreach
    rw [SimpleGraph.reachable_iff_reflTransGen] at hreach
    induction hreach with
    | refl => exact hall ▸ h.first
    | tail _ hadj ih => exact hall ▸ h.settled _ ih _ hadj

/-- The search from a unit that was not visited visits its component, which is the group. -/
theorem group_spec (hlinks : links.IsTableOf G) (hunits : ∀ x y, G.Adj x y → y ∈ units)
    (hclosed : ∀ x ∈ before, ∀ y, G.Adj x y → y ∈ before) (hdistinct : before.Nodup)
    (hknown : before ⊆ units) (hstart : start ∈ units) (hnew : start ∉ before) :
    ∃ s, run links units.length { visited := before ++ [start], queue := [start] } = s ∧
      s.visited = before ++ s.members ∧ s.visited.Nodup ∧ s.visited ⊆ units ∧
        ∀ x, x ∈ s.members ↔ G.Reachable start x := by
  obtain ⟨hinv, hqueue⟩ := run_spec hlinks hunits hclosed units.length
    (.single hdistinct hknown hstart hnew) (Nat.le_add_right _ _)
  refine ⟨_, rfl, ?_, hinv.distinct, hinv.known, fun x => hinv.mem_members_iff hqueue⟩
  rw [hinv.visited, hqueue, List.append_nil]

end GroupSearch

/-- The groups that have been found when the search has come to some units: they are components, in
the order of their smallest members, and have all visited units, each once. -/
structure GroupsFound (G : SimpleGraph String) (units done : List String)
    (found : List String × List (List String)) : Prop where
  visited : found.1 = found.2.flatten
  distinct : found.1.Nodup
  known : found.1 ⊆ units
  covered : done ⊆ found.1
  closed : ∀ x ∈ found.1, ∀ y, G.Adj x y → y ∈ found.1
  components : ∀ members ∈ found.2, ∃ start ∈ done, ∀ x, x ∈ members ↔ G.Reachable start x
  ordered : found.2.Pairwise fun earlier later => ∃ x ∈ earlier, ∀ y ∈ later, x < y

/-- A unit that was visited before is in a group already. -/
theorem GroupsFound.skip {done : List String} {found : List String × List (List String)}
    (h : GroupsFound G units done found) (hold : start ∈ found.1) :
    GroupsFound G units (done ++ [start]) found where
  visited := h.visited
  distinct := h.distinct
  known := h.known
  covered := List.append_subset.mpr
    ⟨h.covered, fun _ hx => List.mem_singleton.mp hx ▸ hold⟩
  closed := h.closed
  components members hmem := by
    obtain ⟨first, hfirst, hsame⟩ := h.components members hmem
    exact ⟨first, List.mem_append_left _ hfirst, hsame⟩
  ordered := h.ordered

/-- The component of a unit that was not visited is another group. -/
theorem GroupsFound.append {done rest visited members : List String}
    {groups : List (List String)} (h : GroupsFound G units done (visited, groups))
    (hsorted : units.Pairwise (· < ·)) (hsplit : units = done ++ start :: rest)
    (hdistinct : (visited ++ members).Nodup) (hknown : visited ++ members ⊆ units)
    (hmembers : ∀ x, x ∈ members ↔ G.Reachable start x) :
    GroupsFound G units (done ++ [start]) (visited ++ members, groups ++ [members]) := by
  have hstart : start ∈ members := (hmembers start).mpr (.refl start)
  -- The units before the start are visited, and the members of its group were not.
  have hlater : ∀ y ∈ members, y ∈ start :: rest := by
    intro y hy
    have hy' : y ∈ done ++ start :: rest := hsplit ▸ hknown (List.mem_append_right _ hy)
    refine (List.mem_append.mp hy').resolve_left fun hbefore => ?_
    exact (List.nodup_append.mp hdistinct).2.2 y (h.covered hbefore) y hy rfl
  refine ⟨?_, hdistinct, hknown, ?_, ?_, ?_, ?_⟩
  · have hvisited : visited = groups.flatten := h.visited
    rw [List.flatten_append, List.flatten_singleton, hvisited]
  · refine List.append_subset.mpr ⟨fun x hx => List.mem_append_left _ (h.covered hx), ?_⟩
    exact fun x hx => List.mem_append_right _ (List.mem_singleton.mp hx ▸ hstart)
  · intro x hx y hadj
    rcases List.mem_append.mp hx with hx | hx
    · exact List.mem_append_left _ (h.closed x hx y hadj)
    · have hreach := ((hmembers x).mp hx).trans hadj.reachable
      exact List.mem_append_right _ ((hmembers y).mpr hreach)
  · intro group hgroup
    rcases List.mem_append.mp hgroup with hgroup | hgroup
    · obtain ⟨first, hfirst, hsame⟩ := h.components group hgroup
      exact ⟨first, List.mem_append_left _ hfirst, hsame⟩
    · rw [List.mem_singleton.mp hgroup]
      exact ⟨start, List.mem_append_right _ (List.mem_singleton.mpr rfl), hmembers⟩
  · refine List.pairwise_append.mpr ⟨h.ordered, List.pairwise_singleton _ _, ?_⟩
    intro earlier hearlier later hlast
    rw [List.mem_singleton.mp hlast]
    obtain ⟨first, hfirst, hsame⟩ := h.components earlier hearlier
    refine ⟨first, (hsame first).mpr (.refl first), fun y hy => ?_⟩
    rw [hsplit] at hsorted
    exact (List.pairwise_append.mp hsorted).2.2 first hfirst y (hlater y hy)

/-- The search comes to the next unit. -/
theorem GroupsFound.add {done rest : List String} {found : List String × List (List String)}
    (hlinks : links.IsTableOf G) (hunits : ∀ x y, G.Adj x y → y ∈ units)
    (hsorted : units.Pairwise (· < ·)) (hsplit : units = done ++ start :: rest)
    (h : GroupsFound G units done found) :
    GroupsFound G units (done ++ [start]) (addGroup links units.length found start) := by
  obtain ⟨visited, groups⟩ := found
  rw [addGroup]
  split
  · next hold => exact h.skip (List.contains_iff_mem.mp hold)
  · next hnew =>
      rw [List.contains_iff_mem] at hnew
      obtain ⟨s, hrun, hvisited, hdistinct, hknown, hmembers⟩ :=
        GroupSearch.group_spec hlinks hunits h.closed h.distinct h.known
          (hsplit ▸ List.mem_append_right _ List.mem_cons_self) hnew
      dsimp only at hrun hnew ⊢
      rw [hrun, hvisited]
      rw [hvisited] at hdistinct hknown
      exact h.append hsorted hsplit hdistinct hknown hmembers

/-- The groups that the search finds: the components of all units, each once, in the order of their
smallest members. -/
theorem unit_groups_spec (hlinks : links.IsTableOf G) (hunits : ∀ x y, G.Adj x y → y ∈ units)
    (hsorted : units.Pairwise (· < ·)) :
    ∃ visited, GroupsFound G units units (visited, unitGroups units links) := by
  have hstart : GroupsFound G units [] ([], []) :=
    ⟨rfl, List.nodup_nil, List.nil_subset _, List.nil_subset _,
      fun _ hx => absurd hx List.not_mem_nil, fun _ hmem => absurd hmem List.not_mem_nil, .nil⟩
  -- The induction is on the units that the search has yet to come to.
  suffices hfold : ∀ rest done found, units = done ++ rest → GroupsFound G units done found →
      GroupsFound G units units (rest.foldl (addGroup links units.length) found) from
    ⟨_, hfold units [] ([], []) rfl hstart⟩
  intro rest
  induction rest with
  | nil =>
      intro done found hsplit h
      rw [List.append_nil] at hsplit
      subst hsplit
      exact h
  | cons start rest ih =>
      intro done found hsplit h
      exact ih (done ++ [start]) _ (by simpa using hsplit) (h.add hlinks hunits hsorted hsplit)

end Search

/-- The sorted members of exactly one connected component with at least two members. -/
structure IsGroup (G : SimpleGraph String) (members : List String) : Prop where
  sorted : members.Pairwise (· < ·)
  several : 2 ≤ members.length
  component : ∃! c : G.ConnectedComponent, ∀ x, x ∈ members ↔ x ∈ c.supp

section Components

variable {G : SimpleGraph String} {units members group visited : List String}
  {groups : List (List String)} {x y : String}

/-- A member of a component with another member is a unit. -/
theorem mem_units_of_reachable (hunits : ∀ x y, G.Adj x y → y ∈ units) (hreach : G.Reachable x y)
    (hne : x ≠ y) : y ∈ units := by
  rw [SimpleGraph.reachable_iff_reflTransGen] at hreach
  cases hreach with
  | refl => exact absurd rfl hne
  | tail _ hadj => exact hunits _ y hadj

theorem IsGroup.mem_iff_reachable (h : IsGroup G members) (hx : x ∈ members) :
    y ∈ members ↔ G.Reachable x y := by
  obtain ⟨c, hc, -⟩ := h.component
  rw [hc, SimpleGraph.ConnectedComponent.mem_supp_iff] at hx ⊢
  rw [← hx, SimpleGraph.ConnectedComponent.eq]
  exact SimpleGraph.reachable_comm

/-- A member is not the only one. -/
theorem IsGroup.exists_other (h : IsGroup G members) (y : String) : ∃ x ∈ members, x ≠ y := by
  obtain ⟨hsorted, hseveral, -⟩ := h
  match members, hsorted, hseveral with
  | first :: second :: rest, hsorted, _ =>
      have hlt : first < second := List.rel_of_pairwise_cons hsorted List.mem_cons_self
      by_cases hfirst : first = y
      · exact ⟨second, by simp, fun hsecond => hlt.ne (hfirst.trans hsecond.symm)⟩
      · exact ⟨first, by simp, hfirst⟩

theorem IsGroup.subset_units (hunits : ∀ x y, G.Adj x y → y ∈ units) (h : IsGroup G members) :
    members ⊆ units := by
  intro y hy
  obtain ⟨x, hx, hne⟩ := h.exists_other y
  exact mem_units_of_reachable hunits ((h.mem_iff_reachable hx).mp hy) hne

theorem GroupsFound.nodup_of_mem (h : GroupsFound G units units (visited, groups))
    (hgroup : group ∈ groups) : group.Nodup :=
  (List.nodup_flatten.mp (h.visited ▸ h.distinct)).1 group hgroup

/-- The components with at least two members are the groups found with at least two members. -/
theorem GroupsFound.is_group_iff (h : GroupsFound G units units (visited, groups))
    (hunits : ∀ x y, G.Adj x y → y ∈ units) :
    IsGroup G members ↔ ∃ group ∈ groups, 2 ≤ group.length ∧ Text.sorted group = members := by
  constructor
  · intro hmembers
    obtain ⟨x, hx⟩ := List.exists_mem_of_length_pos (Nat.lt_of_lt_of_le Nat.zero_lt_two
      hmembers.several)
    have hvisited : x ∈ groups.flatten := h.visited ▸ h.covered (hmembers.subset_units hunits hx)
    obtain ⟨group, hgroup, hmem⟩ := List.mem_flatten.mp hvisited
    obtain ⟨start, -, hsame⟩ := h.components group hgroup
    have hperm : group.Perm members := by
      refine (List.perm_ext_iff_of_nodup (h.nodup_of_mem hgroup)
        (hmembers.sorted.imp ne_of_lt)).mpr fun y => ?_
      rw [hsame, hmembers.mem_iff_reachable hx]
      have hstart := (hsame x).mp hmem
      exact ⟨hstart.symm.trans, hstart.trans⟩
    refine ⟨group, hgroup, hperm.length_eq ▸ hmembers.several, ?_⟩
    rw [sorted_eq_of_perm hperm, sorted_eq_self hmembers.sorted]
  · rintro ⟨group, hgroup, hseveral, rfl⟩
    obtain ⟨start, -, hsame⟩ := h.components group hgroup
    have hmem : ∀ y, y ∈ Text.sorted group ↔ G.Reachable start y := fun y =>
      (sorted_perm group).mem_iff.trans (hsame y)
    refine ⟨pairwise_lt_sorted (h.nodup_of_mem hgroup), (sorted_perm group).length_eq ▸ hseveral,
      G.connectedComponentMk start, fun y => ?_, fun c hc => ?_⟩
    · rw [hmem, SimpleGraph.ConnectedComponent.mem_supp_iff, SimpleGraph.ConnectedComponent.eq]
      exact SimpleGraph.reachable_comm
    · exact ((hc start).mp ((hmem start).mpr (.refl start))).symm

end Components

end ComponentMigration
