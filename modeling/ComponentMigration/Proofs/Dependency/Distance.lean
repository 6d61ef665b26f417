import ComponentMigration.Dependency.Cycle
import ComponentMigration.Proofs.Dependency.ClosedWalk
import ComponentMigration.Proofs.Number.Rounding

/-!
# Distances in a directed graph

The distance from a node to another one is the number of steps of a shortest walk.  The
breadth-first search comes to nodes in the order of their distances: at any time the start and the
nodes found are those that the search has gone on from, followed by its queue, and no node is more
than one step further away than the first of the queue (`ReachSearch.Invariant`).  So every node is
found with its distance, and all nodes before the limit are found (`mem_reachable_before`).
-/

namespace ComponentMigration

section Walks

variable {α : Type} {r q : α → α → Prop} {x y : α} {m n : Nat}

/-- There is a walk along a relation that takes so many steps. -/
inductive Walk (r : α → α → Prop) (x : α) : α → Nat → Prop
  | here : Walk r x x 0
  | step {y z : α} {n : Nat} (before : Walk r x y n) (last : r y z) : Walk r x z (n + 1)

/-- The shortest walks take so many steps. -/
structure Distance (r : α → α → Prop) (x y : α) (n : Nat) : Prop where
  walk : Walk r x y n
  least : ∀ m, Walk r x y m → n ≤ m

theorem Distance.unique (h : Distance r x y m) (h' : Distance r x y n) : m = n :=
  Nat.le_antisymm (h.least n h'.walk) (h'.least m h.walk)

theorem Walk.eq_of_zero (h : Walk r x y 0) : x = y := by
  cases h
  rfl

/-- Only a node itself is no step away. -/
theorem Distance.pos (h : Distance r x y n) (hne : y ≠ x) : 1 ≤ n := by
  rcases Nat.eq_zero_or_pos n with rfl | hpos
  · exact absurd h.walk.eq_of_zero.symm hne
  · exact hpos

/-- One step leads no further than to distance one. -/
theorem Distance.le_one (h : Distance r x y n) (hstep : r x y) : n ≤ 1 :=
  h.least 1 (.step .here hstep)

theorem Distance.of_two_steps {z : α} (hne : x ≠ z) (hdirect : ¬ r x z) (hfirst : r x y)
    (hlast : r y z) : Distance r x z 2 := by
  refine ⟨.step (.step .here hfirst) hlast, fun m hwalk => ?_⟩
  match m, hwalk with
  | 0, hwalk => exact absurd hwalk.eq_of_zero hne
  | 1, .step before last => exact absurd (before.eq_of_zero ▸ last) hdirect
  | m + 2, _ => omega

theorem Walk.mono (h : Walk r x y n) (hsub : ∀ {a b}, r a b → q a b) : Walk q x y n := by
  induction h with
  | here => exact .here
  | step _ last ih => exact .step ih (hsub last)

theorem Distance.congr (h : Distance r x y n) (hsame : ∀ {a b}, r a b ↔ q a b) :
    Distance q x y n :=
  ⟨h.walk.mono hsame.mp, fun m hm => h.least m (hm.mono hsame.mpr)⟩

end Walks

namespace ReachSearch

variable {g : Adjacency} {start node : String} {limit : Quantity} {distance : Nat}
  {done targets : List (String × Nat)} {s : ReachSearch}

/-- The start and the nodes found, in the order in which the search has come to them. -/
def known (start : String) (s : ReachSearch) : Assoc Nat := (start, 0) :: s.found

/-- What holds of a search at every time: the known nodes are those that it has gone on from,
followed by its queue.  They are known with walks to them, and those found were come to before the
limit.  The queue is ordered by distance, and no known node is more than one step further away than
those in the queue. -/
structure Invariant (g : Adjacency) (start : String) (limit : Quantity)
    (done : List (String × Nat)) (s : ReachSearch) : Prop where
  parts : s.known start = done ++ s.queue
  distinct : (s.known start).keys.Nodup
  walks : ∀ e ∈ s.known start, Walk g.HasEdge start e.1 e.2
  before : ∀ e ∈ s.found, ∃ n, e.2 = n + 1 ∧ limit.isAtMost (.whole n) = false
  ordered : s.queue.Pairwise fun e f => e.2 ≤ f.2
  near : ∀ e ∈ s.queue, ∀ f ∈ s.known start, f.2 ≤ e.2 + 1

/-- Of the nodes that the search has gone on from, all targets are known, at most one step further
away, unless the limit was reached. -/
def Settled (g : Adjacency) (start : String) (limit : Quantity) (done : List (String × Nat))
    (s : ReachSearch) : Prop :=
  ∀ e ∈ done, limit.isAtMost (.whole e.2) = false → ∀ target, g.HasEdge e.1 target →
    ∃ n, (target, n) ∈ s.known start ∧ n ≤ e.2 + 1

/-- What holds while the search goes on from a node that is so far away. -/
structure GoingOn (g : Adjacency) (start : String) (limit : Quantity)
    (done : List (String × Nat)) (distance : Nat) (s : ReachSearch) : Prop extends
    Invariant g start limit done s where
  next : ∀ e ∈ s.queue, distance ≤ e.2
  reached : ∀ e ∈ s.known start, e.2 ≤ distance + 1

theorem mem_keys_known :
    (node == start || s.found.has node) = true ↔ node ∈ (s.known start).keys := by
  rw [known, Assoc.keys_cons, List.mem_cons, Bool.or_eq_true, beq_iff_eq, Assoc.has, Assoc.keys,
    List.any_eq_true, List.mem_map]
  simp only [beq_iff_eq]

/-- Coming to a target keeps the invariant and what is known, and the target is known then. -/
theorem GoingOn.come (h : GoingOn g start limit done distance s)
    (hlimit : limit.isAtMost (.whole distance) = false)
    (hwalk : Walk g.HasEdge start node (distance + 1)) :
    GoingOn g start limit done distance (come start (distance + 1) s node) ∧
      s.known start ⊆ (ReachSearch.come start (distance + 1) s node).known start ∧
      node ∈ ((ReachSearch.come start (distance + 1) s node).known start).keys := by
  unfold ReachSearch.come
  split
  · next hold => exact ⟨h, List.Subset.refl _, mem_keys_known.1 hold⟩
  · next hnew =>
      rw [mem_keys_known] at hnew
      have hknown : known start
          ⟨s.found ++ [(node, distance + 1)], s.queue ++ [(node, distance + 1)]⟩ =
            s.known start ++ [(node, distance + 1)] := rfl
      have hqueue : ∀ e ∈ s.queue, e ∈ s.known start := by
        intro e he
        rw [h.parts]
        exact List.mem_append_right _ he
      have hnext : ∀ e ∈ s.queue ++ [(node, distance + 1)], distance ≤ e.2 := by
        rw [List.forall_mem_append]
        exact ⟨h.next, List.forall_mem_singleton.mpr (Nat.le_succ _)⟩
      have hreached : ∀ e ∈ s.known start ++ [(node, distance + 1)], e.2 ≤ distance + 1 := by
        rw [List.forall_mem_append]
        exact ⟨h.reached, List.forall_mem_singleton.mpr (Nat.le_refl _)⟩
      rw [hknown]
      refine ⟨⟨⟨?_, ?_, ?_, ?_, ?_, ?_⟩, hnext, hreached⟩, List.subset_append_left _ _, ?_⟩
      · rw [hknown, h.parts, List.append_assoc]
      · rw [hknown, Assoc.keys, List.map_append]
        exact List.concat_eq_append ▸ h.distinct.concat hnew
      · rw [hknown, List.forall_mem_append]
        exact ⟨h.walks, List.forall_mem_singleton.mpr hwalk⟩
      · rw [List.forall_mem_append]
        exact ⟨h.before, List.forall_mem_singleton.mpr ⟨distance, rfl, hlimit⟩⟩
      · rw [List.pairwise_append]
        refine ⟨h.ordered, List.pairwise_singleton _ _, fun e he f hf => ?_⟩
        rw [List.mem_singleton.mp hf]
        exact h.reached e (hqueue e he)
      · intro e he f hf
        exact (hreached f hf).trans (Nat.succ_le_succ (hnext e he))
      · rw [Assoc.keys, List.map_append]
        exact List.mem_append_right _ (List.mem_singleton.mpr rfl)

/-- Coming to all targets of a node keeps the invariant and what is known, and they are known
then. -/
theorem GoingOn.come_all {targets : List String} (h : GoingOn g start limit done distance s)
    (hlimit : limit.isAtMost (.whole distance) = false)
    (hwalks : ∀ target ∈ targets, Walk g.HasEdge start target (distance + 1)) :
    GoingOn g start limit done distance
        (targets.foldl (ReachSearch.come start (distance + 1)) s) ∧
      s.known start ⊆ (targets.foldl (ReachSearch.come start (distance + 1)) s).known start ∧
      ∀ target ∈ targets, target ∈
        ((targets.foldl (ReachSearch.come start (distance + 1)) s).known start).keys := by
  induction targets generalizing s with
  | nil => exact ⟨h, List.Subset.refl _, fun _ hmem => absurd hmem List.not_mem_nil⟩
  | cons target rest ih =>
      obtain ⟨hfirst, hkept, hmem⟩ := h.come hlimit (hwalks target List.mem_cons_self)
      obtain ⟨hlast, hmore, hall⟩ := ih hfirst fun target hmem =>
        hwalks target (List.mem_cons_of_mem _ hmem)
      refine ⟨hlast, List.Subset.trans hkept hmore, fun t ht => ?_⟩
      rcases List.mem_cons.mp ht with rfl | ht
      · exact List.map_subset _ hmore hmem
      · exact hall t ht

/-- Going on from the first node of the queue keeps the invariant and settles the node. -/
theorem Invariant.go_on {found : Assoc Nat} {queue : List (String × Nat)}
    (h : Invariant g start limit done ⟨found, (node, distance) :: queue⟩)
    (hsettled : Settled g start limit done ⟨found, (node, distance) :: queue⟩) :
    Invariant g start limit (done ++ [(node, distance)])
        (goOn g start limit ⟨found, queue⟩ node distance) ∧
      Settled g start limit (done ++ [(node, distance)])
        (goOn g start limit ⟨found, queue⟩ node distance) := by
  have hknown : known start ⟨found, queue⟩ = done ++ [(node, distance)] ++ queue := by
    rw [List.append_assoc]
    exact h.parts
  obtain ⟨hfirst, hordered⟩ := List.pairwise_cons.mp h.ordered
  have hgoing : GoingOn g start limit (done ++ [(node, distance)]) distance ⟨found, queue⟩ :=
    ⟨⟨hknown, h.distinct, h.walks, h.before, hordered,
      fun e he => h.near e (List.mem_cons_of_mem _ he)⟩, hfirst, h.near _ List.mem_cons_self⟩
  unfold goOn
  split
  · next hlimit =>
      refine ⟨hgoing.toInvariant, ?_⟩
      intro e he hbefore
      rcases List.mem_append.mp he with he | he
      · exact hsettled e he hbefore
      · rw [List.mem_singleton.mp he, hlimit] at hbefore
        cases hbefore
  · next hlimit =>
      have hmem : (node, distance) ∈ known start ⟨found, queue⟩ := by
        rw [hknown]
        simp
      have hwalks : ∀ target ∈ g.targets node, Walk g.HasEdge start target (distance + 1) :=
        fun target ht => .step (h.walks _ hmem) (Adjacency.mem_targets.mp ht)
      obtain ⟨hlast, hkept, hall⟩ := hgoing.come_all (Bool.eq_false_iff.mpr hlimit) hwalks
      refine ⟨hlast.toInvariant, ?_⟩
      intro e he hbefore target hedge
      rcases List.mem_append.mp he with he | he
      · obtain ⟨n, hn, hle⟩ := hsettled e he hbefore target hedge
        exact ⟨n, hkept hn, hle⟩
      · rw [List.mem_singleton.mp he] at hedge ⊢
        obtain ⟨⟨_, n⟩, hn, rfl⟩ :=
          List.mem_map.mp (hall target (Adjacency.mem_targets.mpr hedge))
        exact ⟨n, hn, hlast.reached _ hn⟩

/-- No more nodes are found than there are edges. -/
theorem Invariant.length_le (h : Invariant g start limit done s) :
    s.found.length ≤ g.edgeCount := by
  have hdistinct : s.found.keys.Nodup := (List.nodup_cons.mp h.distinct).2
  have hedges : s.found.keys ⊆ g.flatMap (·.2) := by
    intro target htarget
    obtain ⟨e, he, rfl⟩ := List.mem_map.mp htarget
    obtain ⟨n, hn, -⟩ := h.before e he
    have hwalk := h.walks e (List.mem_cons_of_mem _ he)
    rw [hn] at hwalk
    cases hwalk with
    | step _ last =>
        obtain ⟨targets, hentry, hmem⟩ := last.exists_entry
        exact List.mem_flatMap.mpr ⟨_, hentry, hmem⟩
  have hlength := (List.subperm_of_subset hdistinct hedges).length_le
  rwa [Assoc.keys, List.length_map] at hlength

/-- When the search ends, it has gone on from all known nodes.  The bound is large enough because
every node is found by an edge of its own. -/
theorem run_spec (fuel : Nat) (h : Invariant g start limit done s)
    (hsettled : Settled g start limit done s) (hfuel : g.edgeCount + 1 ≤ fuel + done.length) :
    ∃ final : ReachSearch, run g start limit fuel s = final.found ∧ final.queue = [] ∧
      ∃ done, Invariant g start limit done final ∧ Settled g start limit done final := by
  induction fuel generalizing done s with
  | zero =>
      have hlength := congrArg List.length h.parts
      rw [known, List.length_cons, List.length_append] at hlength
      have hbound := h.length_le
      exact ⟨s, rfl, List.length_eq_zero_iff.mp (by omega), done, h, hsettled⟩
  | succ fuel ih =>
      obtain ⟨found, queue⟩ := s
      cases queue with
      | nil => exact ⟨_, rfl, rfl, done, h, hsettled⟩
      | cons first queue =>
          obtain ⟨node, distance⟩ := first
          obtain ⟨hnext, hnextSettled⟩ := h.go_on hsettled
          exact ih hnext hnextSettled (by rw [List.length_append, List.length_singleton]; omega)

/-- A search that has ended knows every node within the limit, at most as far away as it is. -/
theorem Settled.exists_known (hsettled : Settled g start limit done s)
    (hdone : s.known start = done) {n : Nat} (hwalk : Walk g.HasEdge start node n)
    (hlimit : ∀ m < n, limit.isAtMost (.whole m) = false) :
    ∃ m ≤ n, (node, m) ∈ s.known start := by
  induction hwalk with
  | here => exact ⟨0, Nat.le_refl _, List.mem_cons_self⟩
  | @step y z n before last ih =>
      obtain ⟨m, hle, hmem⟩ := ih fun k hk => hlimit k (Nat.lt_succ_of_lt hk)
      obtain ⟨k, hk, hnear⟩ :=
        hsettled (y, m) (hdone ▸ hmem) (hlimit m (Nat.lt_succ_of_le hle)) z last
      exact ⟨k, hnear.trans (Nat.succ_le_succ hle), hk⟩

/-- A search that has ended knows a node with its distance. -/
theorem Settled.distance_of_known (hsettled : Settled g start limit done s)
    (h : Invariant g start limit done s) (hdone : s.known start = done) {n : Nat}
    (hmem : (node, n) ∈ s.known start) (hlimit : ∀ m < n, limit.isAtMost (.whole m) = false) :
    Distance g.HasEdge start node n := by
  refine ⟨h.walks _ hmem, fun m hwalk => ?_⟩
  by_contra hless
  obtain ⟨k, hk, hother⟩ := hsettled.exists_known hdone hwalk fun j hj => hlimit j (by omega)
  -- A node is known with one distance only.
  have hsame := (Assoc.get?_eq_some_iff h.distinct).mpr hmem
  rw [(Assoc.get?_eq_some_iff h.distinct).mpr hother] at hsame
  cases hsame
  omega

end ReachSearch

section Reach

variable {g : Adjacency} {start t : String} {limit : Quantity} {d : Nat}

/-- The search finds the nodes other than the start whose distance is come to before the limit, each
once and with its distance. -/
theorem reachable_before_spec (g : Adjacency) (start : String) (limit : Quantity) :
    (reachableBefore g start limit).keys.Nodup ∧
      ∀ t d, (t, d) ∈ reachableBefore g start limit ↔ t ≠ start ∧ Distance g.HasEdge start t d ∧
        ∀ m < d, limit.isAtMost (.whole m) = false := by
  have hstart : ReachSearch.Invariant g start limit [] { queue := [(start, 0)] } :=
    ⟨rfl, List.nodup_singleton _, List.forall_mem_singleton.mpr .here,
      fun e he => absurd he List.not_mem_nil, List.pairwise_singleton _ _,
      List.forall_mem_singleton.mpr (List.forall_mem_singleton.mpr (Nat.zero_le _))⟩
  obtain ⟨final, hrun, hqueue, done, h, hsettled⟩ :=
    ReachSearch.run_spec (g.edgeCount + 1) hstart (fun e he => absurd he List.not_mem_nil)
      (Nat.le_add_right _ _)
  have hdone : final.known start = done := by
    rw [h.parts, hqueue, List.append_nil]
  obtain ⟨hnew, hdistinct⟩ := List.nodup_cons.mp h.distinct
  rw [reachableBefore, hrun]
  refine ⟨hdistinct, fun t d => ?_⟩
  constructor
  · intro hmem
    obtain ⟨n, hn, hlimit⟩ := h.before _ hmem
    have hwithin : ∀ m < d, limit.isAtMost (.whole m) = false := by
      intro m hm
      refine Bool.eq_false_iff.mpr fun hreached => ?_
      rw [Quantity.is_at_most_whole_mono hreached (by simp only at hn; omega)] at hlimit
      cases hlimit
    have hknown : (t, d) ∈ final.known start := List.mem_cons_of_mem _ hmem
    refine ⟨?_, hsettled.distance_of_known h hdone hknown hwithin, hwithin⟩
    rintro rfl
    exact hnew (List.mem_map.mpr ⟨_, hmem, rfl⟩)
  · rintro ⟨hne, hdistance, hlimit⟩
    obtain ⟨m, hm, hmem⟩ := hsettled.exists_known hdone hdistance.walk hlimit
    rcases List.mem_cons.mp hmem with heq | hmem
    · cases heq
      exact absurd rfl hne
    · have hleast := hdistance.least m (h.walks _ (List.mem_cons_of_mem _ hmem))
      rwa [Nat.le_antisymm hleast hm]

/-- A whole number limits distances to itself. -/
theorem mem_reachable_before {n : Int} (hn : limit.int? = some n) :
    (t, d) ∈ reachableBefore g start limit ↔
      t ≠ start ∧ Distance g.HasEdge start t d ∧ 1 ≤ d ∧ d ≤ n := by
  have hwithin : 1 ≤ d → ((∀ m < d, limit.isAtMost (.whole m) = false) ↔ (d : Int) ≤ n) := by
    intro hpos
    have hfalse : ∀ m : Nat, limit.isAtMost (.whole m) = false ↔ (m : Int) < n := by
      intro m
      rw [← Bool.not_eq_true, Quantity.is_at_most_whole_of_int hn, Int.not_le]
    simp only [hfalse]
    refine ⟨fun h => ?_, fun h m hm => by omega⟩
    have := h (d - 1) (by omega)
    omega
  rw [(reachable_before_spec g start limit).2]
  constructor
  · rintro ⟨hne, hdistance, hlimit⟩
    exact ⟨hne, hdistance, hdistance.pos hne, (hwithin (hdistance.pos hne)).mp hlimit⟩
  · rintro ⟨hne, hdistance, hpos, hle⟩
    exact ⟨hne, hdistance, (hwithin hpos).mpr hle⟩

end Reach

end ComponentMigration
