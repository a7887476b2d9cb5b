import FastSocket.Lpm.Linear
import FastSocket.Xdp.Route

/-!
# The route index finds the first matching route

The route table is ordered from long prefixes to short ones.  A prefix length
above 32 counts as 32 for matching but keeps its place in the order, so the order
agrees with the lengths that are matched.  The poptrie built from the table then
finds the position that a linear scan finds.
-/

namespace FastSocket.Xdp

open Packet Poptrie Lpm

/-- The prefix of a route, with its length capped at 32, covers a destination. -/
def Ipv4Route.Covers (route : Ipv4Route) (dst : Ipv4Addr) : Prop :=
  dst &&& prefixMask 32 (min route.prefixLen 32) =
    route.destination &&& prefixMask 32 (min route.prefixLen 32)

instance (route : Ipv4Route) (dst : Ipv4Addr) : Decidable (route.Covers dst) :=
  inferInstanceAs (Decidable (_ = _))

/-- The order in which a route table is kept. -/
def RoutesOrdered (routes : List Ipv4Route) : Prop :=
  routes.Pairwise fun left right => right.prefixLen < left.prefixLen ∨
    right.prefixLen = left.prefixLen ∧ left.priority ≤ right.priority

theorem routeLe_iff (left right : Ipv4Route) :
    routeLe left right = true ↔ right.prefixLen < left.prefixLen ∨
      right.prefixLen = left.prefixLen ∧ left.priority ≤ right.priority := by
  simp [routeLe]

theorem routesOrdered_sort (routes : List Ipv4Route) : RoutesOrdered (sortRoutesV4 routes) := by
  have sorted : (sortRoutesV4 routes).Pairwise fun left right => routeLe left right = true := by
    apply List.pairwise_mergeSort
    · intro first second third
      rw [routeLe_iff, routeLe_iff, routeLe_iff]
      omega
    · intro first second
      rw [Bool.or_eq_true, routeLe_iff, routeLe_iff]
      omega
  exact sorted.imp fun {left right} => (routeLe_iff left right).mp

/-- The words of the routes with their positions, in table order. -/
def routeWords (routes : List Ipv4Route) : List (List Bool × Nat) :=
  routes.zipIdx.map fun entry => ((entry.1.insertion entry.2).path, entry.2)

theorem Ipv4Route.insertion_prefixLen_le (route : Ipv4Route) (index : Nat) :
    (route.insertion index).prefixLen ≤ 32 :=
  Nat.min_le_right _ _

theorem Ipv4Route.path_prefix_iff (route : Ipv4Route) (index : Nat) (dst : Ipv4Addr) :
    (route.insertion index).path <+: IpKey.bits dst ↔ route.Covers dst :=
  (Insertion.matches_iff_path_prefix (route.insertion_prefixLen_le index) dst).symm

variable {routes : List Ipv4Route}

theorem routeWords_ordered (ordered : RoutesOrdered routes) :
    (routeWords routes).Pairwise fun first second => second.1.length ≤ first.1.length := by
  have positions : routes.zipIdx.Pairwise fun first second =>
      second.1.prefixLen ≤ first.1.prefixLen := by
    rw [← List.pairwise_map (f := Prod.fst) (R := fun left right : Ipv4Route =>
      right.prefixLen ≤ left.prefixLen), List.zipIdx_map_fst]
    exact ordered.imp fun {left right} earlier => by omega
  rw [routeWords, List.pairwise_map]
  apply positions.imp
  intro first second longer
  rw [Insertion.length_path (first.1.insertion_prefixLen_le _),
    Insertion.length_path (second.1.insertion_prefixLen_le _)]
  exact min_le_min_right 32 longer

/-- A linear scan over the words finds the position of the first covering route. -/
theorem firstMatch_routeWords (routes : List Ipv4Route) (dst : Ipv4Addr) :
    firstMatch (routeWords routes) (IpKey.bits dst) = routes.findIdx? (·.Covers dst) := by
  rw [firstMatch, routeWords, List.find?_map, Option.map_map, List.findIdx?_eq_fst_find?_zipIdx]
  have same : ((fun entry : List Bool × Nat => decide (entry.1 <+: IpKey.bits dst)) ∘
      fun entry : Ipv4Route × Nat => ((entry.1.insertion entry.2).path, entry.2)) =
        fun entry => decide (entry.1.Covers dst) := by
    funext entry
    exact decide_eq_decide.mpr (entry.1.path_prefix_iff entry.2 dst)
  rw [same]
  rfl

theorem insertions_prefixLen_le (entries : List (Ipv4Route × Nat)) :
    ∀ insertion ∈ entries.map fun entry => entry.1.insertion entry.2,
      insertion.prefixLen ≤ 32 := by
  intro insertion member
  obtain ⟨entry, _, rfl⟩ := List.mem_map.mp member
  exact entry.1.insertion_prefixLen_le entry.2

/-- Rebuilding the route index stops only at the size assertions of the poptrie. -/
theorem rebuildRouteIndexV4_error {error : BuildError}
    (failed : rebuildRouteIndexV4 routes = .error error) : error.IsSizeLimit := by
  rw [rebuildRouteIndexV4] at failed
  split at failed
  · cases failed
  · cases built : buildTable 14
        (routes.zipIdx.reverse.map fun entry => entry.1.insertion entry.2) with
    | ok table =>
      rw [built] at failed
      cases failed
    | error other =>
      rw [built] at failed
      cases failed
      exact buildTable_error (insertions_prefixLen_le _) ⟨by decide, by decide, by decide⟩
        (by decide) built

/-- The position found by a rebuilt route index is the one a linear scan finds. -/
theorem lookup_rebuildRouteIndexV4 {index : Option (Ipv4Poptrie Nat)}
    (ordered : RoutesOrdered routes) (rebuilt : rebuildRouteIndexV4 routes = .ok index)
    (dst : Ipv4Addr) :
    (index.bind fun table => (table.lookup dst).join) = routes.findIdx? (·.Covers dst) := by
  rw [rebuildRouteIndexV4] at rebuilt
  split at rebuilt
  case isTrue empty =>
    cases rebuilt
    rw [List.isEmpty_iff.mp empty]
    rfl
  case isFalse nonempty =>
    cases built : buildTable 14
        (routes.zipIdx.reverse.map fun entry => entry.1.insertion entry.2) with
    | error error =>
      rw [built] at rebuilt
      cases rebuilt
    | ok table =>
      rw [built] at rebuilt
      cases rebuilt
      obtain ⟨accepted, bin, labels, encodes, represents⟩ :=
        buildTable_spec (insertions_prefixLen_le _) (by decide) built
      have words : PoptrieBuilder.entries
          (routes.zipIdx.reverse.map fun entry => entry.1.insertion entry.2) =
            (routeWords routes).reverse := by
        rw [PoptrieBuilder.entries, routeWords, List.map_map, List.map_reverse]
        rfl
      change (table.lookup dst).join = _
      rw [lookup_eq_longestMatch encodes represents accepted (by decide) dst, words,
        longestMatch_latest_reverse (routeWords_ordered ordered), firstMatch_routeWords]
      rfl

end FastSocket.Xdp
