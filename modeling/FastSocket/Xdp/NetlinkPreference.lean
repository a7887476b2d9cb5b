import FastSocket.Xdp.NetlinkRoutes
import Mathlib.Data.List.Find

/-!
# Kernel metrics in snapshots

Of two routes for one prefix the kernel prefers the one with the smaller metric, and it
leaves out the attribute of a metric that is zero.  The snapshot takes a missing attribute
for the largest number, so that the route which the kernel prefers to all others is the
last one it takes itself; and a route replaces an earlier one that differs in its metric
only.
-/

namespace FastSocket.Xdp

open Packet Poptrie Sorting

/-- The metric of a route in the kernel. -/
def RouteEntry.metric (entry : RouteEntry) : Nat :=
  entry.priority.getD 0

/-- The route that is selected is an entry of the dump with the longest matching prefix
and, among those, with the smallest metric. -/
def FollowsMetrics (entries : List RouteEntry) (dst : Ipv4Addr) : Option Ipv4Route → Prop
  | none => ∀ entry ∈ entries, ¬ entry.CoversV4 dst
  | some route =>
    ∃ entry, RouteEntry.Longest entries dst entry ∧ entry.toIpv4Route = some route ∧
      ∀ other, RouteEntry.Longest entries dst other → entry.metric ≤ other.metric

/-- The longest prefix has a route that states a metric, which is the smallest one in the
kernel, and that is not replaced. -/
def StatesLeastMetric (entries : List RouteEntry) (dst : Ipv4Addr) : Prop :=
  ∃ entry stated route, RouteEntry.Longest entries dst entry ∧ entry.priority = some stated ∧
    stated < 2 ^ 32 - 1 ∧ entry.toIpv4Route = some route ∧
    LastLoaded (usableRoutes entries) route ∧
    ∀ other, RouteEntry.Longest entries dst other → stated ≤ other.metric

/-- The routes of the longest prefix that are not replaced state no metric, or the largest
number; and for the next hop that comes first, one of them has the smallest metric in the
kernel. -/
def FirstHasLeastMetric (entries : List RouteEntry) (dst : Ipv4Addr) : Prop :=
  (∀ entry route, RouteEntry.Longest entries dst entry → entry.toIpv4Route = some route →
    LastLoaded (usableRoutes entries) route → route.priority = 2 ^ 32 - 1) ∧
  ∃ entry route, RouteEntry.Longest entries dst entry ∧ entry.toIpv4Route = some route ∧
    route.priority = 2 ^ 32 - 1 ∧
    ((usableRoutes entries).find? fun other =>
      other.Covers dst ∧ other.prefixLen = route.prefixLen).map Ipv4Route.key = some route.key ∧
    ∀ other, RouteEntry.Longest entries dst other → entry.metric ≤ other.metric

/-! ## The selected route -/

variable {routes : List Ipv4Route} {route other : Ipv4Route}

theorem exists_lastLoaded (member : route ∈ routes) :
    ∃ last, LastLoaded routes last ∧ last.key = route.key := by
  induction routes using List.reverseRecOn with
  | nil => cases member
  | append_singleton routes added ih =>
    by_cases same : route.key = added.key
    · exact ⟨added, lastLoaded_concat.mpr (.inr rfl), same.symm⟩
    · rcases List.mem_append.mp member with earlier | isAdded
      · obtain ⟨last, isLast, sameKey⟩ := ih earlier
        refine ⟨last, lastLoaded_concat.mpr (.inl ⟨isLast, ?_⟩), sameKey⟩
        rwa [sameKey]
      · rw [List.mem_singleton.mp isAdded] at same
        exact absurd rfl same

theorem LastLoaded.mem (last : LastLoaded routes route) : route ∈ routes := by
  obtain ⟨before, after, rfl, _⟩ := last
  exact List.mem_append_right _ List.mem_cons_self

/-- A key with a prefix length whose prefix covers a destination. -/
def keyCovers (dst : Ipv4Addr) (prefixLen : Nat)
    (key : (Ipv4Addr × Nat) × IfIndex × Option Ipv4Addr) : Bool :=
  dst &&& prefixMask 32 (min key.1.2 32) = key.1.1 &&& prefixMask 32 (min key.1.2 32) ∧
    key.1.2 = prefixLen

theorem keyCovers_key (dst : Ipv4Addr) (prefixLen : Nat) (route : Ipv4Route) :
    keyCovers dst prefixLen route.key = decide (route.Covers dst ∧ route.prefixLen = prefixLen) :=
  rfl

theorem covers_of_key_eq (same : route.key = other.key) (dst : Ipv4Addr) :
    route.Covers dst ↔ other.Covers dst := by
  obtain ⟨⟨destination, prefixLen⟩, _⟩ := Prod.mk.inj same |>.imp Prod.mk.inj id
  rw [Ipv4Route.Covers, Ipv4Route.Covers, destination, prefixLen]

theorem eq_of_key_eq (same : route.key = other.key) (samePriority : route.priority = other.priority)
    (sameMtu : route.mtu = other.mtu) : route = other := by
  cases route
  cases other
  cases same
  cases samePriority
  cases sameMtu
  rfl

section Selected

variable {dst : Ipv4Addr}

/-- What is selected from the table of a load. -/
structure Selected (routes : List Ipv4Route) (dst : Ipv4Addr) (route : Ipv4Route) : Prop where
  last : LastLoaded routes route
  covers : route.Covers dst
  least : ∀ other, LastLoaded routes other → other.Covers dst →
    other.prefixLen < route.prefixLen ∨
      other.prefixLen = route.prefixLen ∧ route.priority ≤ other.priority
  first : (∀ other, LastLoaded routes other → other.Covers dst →
      other.prefixLen = route.prefixLen → other.priority = route.priority) →
    (routes.find? fun other => other.Covers dst ∧ other.prefixLen = route.prefixLen).map
      Ipv4Route.key = some route.key

theorem selected_of_find?
    (found : (sortRoutesV4 (routes.foldl upsertRouteV4NoSort [])).find? (·.Covers dst) =
      some route) : Selected routes dst route := by
  have ordered := RouteSnapshot.routesOrdered_pairwise (routesOrdered_sort (routes.foldl upsertRouteV4NoSort []))
  obtain ⟨member, covers, least⟩ :=
    (least_of_find? routeLe_total ordered found).perm (sortRoutesV4_perm _)
  constructor
  · exact mem_foldl_upsert_iff.mp member
  · exact of_decide_eq_true covers
  · intro other isLast otherCovers
    exact (routeLe_iff route other).mp
      (least other (mem_foldl_upsert_iff.mpr isLast) (decide_eq_true otherCovers))
  · intro allTied
    have stable := find?_of_find?_mergeSort routeLe_trans routeLe_total found
    have same : ∀ other ∈ routes.foldl upsertRouteV4NoSort [],
        (keyCovers dst route.prefixLen ∘ Ipv4Route.key) other =
          decide (tied routeLe route other = true ∧ decide (other.Covers dst) = true) := by
      intro other isOther
      have isTied := allTied other (mem_foldl_upsert_iff.mp isOther)
      rw [Function.comp_apply, keyCovers_key, decide_eq_decide, tied, Bool.and_eq_true, routeLe_iff, routeLe_iff,
        decide_eq_true_eq]
      constructor
      · rintro ⟨otherCovers, sameLen⟩
        have samePriority := isTied otherCovers sameLen
        exact ⟨⟨.inr ⟨sameLen, samePriority.ge⟩, .inr ⟨sameLen.symm, samePriority.le⟩⟩, otherCovers⟩
      · rintro ⟨⟨before, after⟩, otherCovers⟩
        exact ⟨otherCovers, by omega⟩
    have keys := find?_key_foldl_upsert routes (keyCovers dst route.prefixLen)
    rw [List.find?_map, List.find?_map, List.find?_congr same, stable] at keys
    exact keys.symm

end Selected

/-! ## Dumps -/

section Dumps

variable {entries : List RouteEntry} {dst : Ipv4Addr}

theorem mem_usableRoutes : route ∈ usableRoutes entries ↔
    ∃ entry ∈ entries, entry.toIpv4Route = some route :=
  List.mem_filterMap

variable {entry : RouteEntry}

/-- If nothing is selected, no usable entry covers the destination. -/
theorem not_coversV4_of_find?_eq_none
    (notFound : (sortRoutesV4 ((usableRoutes entries).foldl upsertRouteV4NoSort [])).find?
      (·.Covers dst) = none) (member : entry ∈ entries) (isRoute : entry.toIpv4Route = some route) :
    ¬ entry.CoversV4 dst := by
  intro covers
  obtain ⟨last, isLast, sameKey⟩ := exists_lastLoaded (mem_usableRoutes.mpr ⟨entry, member, isRoute⟩)
  have inTable := (sortRoutesV4_perm _).mem_iff.mpr (mem_foldl_upsert_iff.mpr isLast)
  apply List.find?_eq_none.mp notFound last inTable
  exact decide_eq_true ((covers_of_key_eq sameKey dst).mpr
    ((RouteEntry.covers_iff isRoute dst).mpr covers))

/-- The selected route has the longest prefix of all usable entries. -/
theorem Selected.prefixLenV4_le (selected : Selected (usableRoutes entries) dst route)
    (member : entry ∈ entries) (isRoute : entry.toIpv4Route = some other)
    (covers : entry.CoversV4 dst) : entry.prefixLenV4 ≤ route.prefixLen := by
  obtain ⟨last, isLast, sameKey⟩ := exists_lastLoaded (mem_usableRoutes.mpr ⟨entry, member, isRoute⟩)
  have lastCovers := (covers_of_key_eq sameKey dst).mpr
    ((RouteEntry.covers_iff isRoute dst).mpr covers)
  have sameLen : last.prefixLen = other.prefixLen := congrArg (·.1.2) sameKey
  rw [← (RouteEntry.toIpv4Route_eq_some isRoute).2.2.1, ← sameLen]
  rcases selected.least last isLast lastCovers with shorter | ⟨same, _⟩
  · exact Nat.le_of_lt shorter
  · exact same.le

variable (usable : ∀ entry ∈ entries, ∃ route, entry.toIpv4Route = some route)

include usable

theorem Selected.exists_longest (selected : Selected (usableRoutes entries) dst route) :
    ∃ entry, RouteEntry.Longest entries dst entry ∧ entry.toIpv4Route = some route := by
  obtain ⟨entry, member, isRoute⟩ := mem_usableRoutes.mp selected.last.mem
  refine ⟨entry, ⟨member, (RouteEntry.covers_iff isRoute dst).mp selected.covers, ?_⟩, isRoute⟩
  intro other isOther covers
  obtain ⟨otherRoute, isOtherRoute⟩ := usable other isOther
  rw [← (RouteEntry.toIpv4Route_eq_some isRoute).2.2.1]
  exact selected.prefixLenV4_le isOther isOtherRoute covers

/-- The routes of the longest prefix have the prefix length of the selected one. -/
theorem Selected.prefixLen_eq (selected : Selected (usableRoutes entries) dst route)
    (longest : RouteEntry.Longest entries dst entry) (isRoute : entry.toIpv4Route = some other) :
    other.Covers dst ∧ other.prefixLen = route.prefixLen := by
  obtain ⟨found, foundLongest, isFound⟩ := selected.exists_longest usable
  refine ⟨(RouteEntry.covers_iff isRoute dst).mpr longest.2.1, ?_⟩
  rw [(RouteEntry.toIpv4Route_eq_some isRoute).2.2.1,
    (RouteEntry.toIpv4Route_eq_some isFound).2.2.1]
  exact Nat.le_antisymm (foundLongest.2.2 entry longest.1 longest.2.1)
    (longest.2.2 found foundLongest.1 foundLongest.2.1)

theorem Selected.exists_longest_of_last (selected : Selected (usableRoutes entries) dst route)
    (last : LastLoaded (usableRoutes entries) other) (covers : other.Covers dst)
    (sameLen : other.prefixLen = route.prefixLen) :
    ∃ entry, RouteEntry.Longest entries dst entry ∧ entry.toIpv4Route = some other := by
  obtain ⟨entry, member, isRoute⟩ := mem_usableRoutes.mp last.mem
  refine ⟨entry, ⟨member, (RouteEntry.covers_iff isRoute dst).mp covers, ?_⟩, isRoute⟩
  intro third isThird thirdCovers
  obtain ⟨thirdRoute, isThirdRoute⟩ := usable third isThird
  rw [← (RouteEntry.toIpv4Route_eq_some isRoute).2.2.1, sameLen]
  exact selected.prefixLenV4_le isThird isThirdRoute thirdCovers

variable (bounded : ∀ entry ∈ entries, entry.priority.getD (2 ^ 32 - 1) ≤ 2 ^ 32 - 1)

include bounded

/-- A selected route with the largest number is tied with all others of its prefix. -/
theorem Selected.allTied (selected : Selected (usableRoutes entries) dst route)
    (largest : route.priority = 2 ^ 32 - 1) (last : LastLoaded (usableRoutes entries) other)
    (covers : other.Covers dst) (sameLen : other.prefixLen = route.prefixLen) :
    other.priority = route.priority := by
  obtain ⟨entry, longest, isRoute⟩ := selected.exists_longest_of_last usable last covers sameLen
  have atMost := bounded entry longest.1
  rw [← (RouteEntry.toIpv4Route_eq_some isRoute).2.2.2.1] at atMost
  rcases selected.least other last covers with shorter | ⟨_, atLeast⟩
  · exact absurd sameLen shorter.ne
  · omega

theorem Selected.followsMetrics_iff (selected : Selected (usableRoutes entries) dst route) :
    FollowsMetrics entries dst (some route) ↔
      StatesLeastMetric entries dst ∨ FirstHasLeastMetric entries dst := by
  constructor
  · rintro ⟨entry, longest, isRoute, least⟩
    have isPriority := (RouteEntry.toIpv4Route_eq_some isRoute).2.2.2.1
    have atMost := bounded entry longest.1
    rw [← isPriority] at atMost
    rcases Nat.lt_or_eq_of_le atMost with small | largest
    · cases stated : entry.priority with
      | none =>
        rw [isPriority, stated, Option.getD_none] at small
        exact absurd small (Nat.lt_irrefl _)
      | some value =>
        rw [isPriority, stated, Option.getD_some] at small
        refine .inl ⟨entry, value, route, longest, stated, small, isRoute, selected.last, ?_⟩
        intro other isOther
        have smallest := least other isOther
        rwa [RouteEntry.metric, stated, Option.getD_some] at smallest
    · refine .inr ⟨?_, entry, route, longest, isRoute, largest, selected.first ?_, least⟩
      · intro other otherRoute otherLongest isOther last
        obtain ⟨covers, sameLen⟩ := selected.prefixLen_eq usable otherLongest isOther
        rw [selected.allTied usable bounded largest last covers sameLen, largest]
      · exact fun other last covers sameLen =>
          selected.allTied usable bounded largest last covers sameLen
  · obtain ⟨found, foundLongest, isFound⟩ := selected.exists_longest usable
    have isPriority := (RouteEntry.toIpv4Route_eq_some isFound).2.2.2.1
    rintro (⟨entry, stated, other, longest, isStated, small, isRoute, last, least⟩ |
      ⟨largest, entry, other, longest, isRoute, isLargest, isFirst, least⟩)
    · obtain ⟨covers, sameLen⟩ := selected.prefixLen_eq usable longest isRoute
      have otherPriority := (RouteEntry.toIpv4Route_eq_some isRoute).2.2.2.1
      rw [isStated, Option.getD_some] at otherPriority
      have atMost : route.priority ≤ stated := by
        rcases selected.least other last covers with shorter | ⟨_, atMost⟩
        · exact absurd sameLen shorter.ne
        · rwa [otherPriority] at atMost
      refine ⟨found, foundLongest, isFound, fun third isThird => ?_⟩
      refine Nat.le_trans ?_ (least third isThird)
      cases isNone : found.priority with
      | none =>
        rw [isNone, Option.getD_none] at isPriority
        omega
      | some value =>
        rw [isNone, Option.getD_some] at isPriority
        rwa [RouteEntry.metric, isNone, Option.getD_some, ← isPriority]
    · have routeLargest := largest found route foundLongest isFound selected.last
      obtain ⟨covers, sameLen⟩ := selected.prefixLen_eq usable longest isRoute
      have selectedFirst := selected.first fun third last covers sameLen =>
        selected.allTied usable bounded routeLargest last covers sameLen
      rw [sameLen, selectedFirst, Option.some.injEq] at isFirst
      have sameMtu : other.mtu = route.mtu :=
        (RouteEntry.toIpv4Route_eq_some isRoute).2.2.2.2.trans
          (RouteEntry.toIpv4Route_eq_some isFound).2.2.2.2.symm
      have same := eq_of_key_eq isFirst.symm (isLargest.trans routeLargest.symm) sameMtu
      exact ⟨entry, longest, same ▸ isRoute, least⟩

end Dumps

/-- A snapshot from netlink selects what the kernel prefers exactly if the kernel's choice
states a metric that the snapshot can compare, or comes first where nothing is stated. -/
theorem netlink_followsMetrics_iff {messages : List NetlinkMessage} {table : Nat}
    {queue : QueueId} {links : List LinkEntry} {neighbors : List NeighborEntry}
    {snapshot : RouteSnapshot}
    (ipv4 : ∀ entry ∈ netlinkGetRoutes messages table,
      entry.family = afInet ∧ entry.outIfindex ≠ none)
    (built : RouteSnapshot.buildNetlinkSnapshot queue links (netlinkGetRoutes messages table)
      neighbors = .ok snapshot) (dst : Ipv4Addr) :
    FollowsMetrics (netlinkGetRoutes messages table) dst (snapshot.lookupRouteV4 dst) ↔
      (∀ entry ∈ netlinkGetRoutes messages table, ¬ entry.CoversV4 dst) ∨
        StatesLeastMetric (netlinkGetRoutes messages table) dst ∨
        FirstHasLeastMetric (netlinkGetRoutes messages table) dst := by
  have usable : ∀ entry ∈ netlinkGetRoutes messages table,
      ∃ route, entry.toIpv4Route = some route := fun entry member =>
    (exists_toIpv4Route member (ipv4 entry member).1).mpr (ipv4 entry member).2
  rw [RouteSnapshot.lookupRouteV4_netlink built]
  cases found : (sortRoutesV4 ((usableRoutes (netlinkGetRoutes messages table)).foldl
      upsertRouteV4NoSort [])).find? (·.Covers dst) with
  | none =>
    have uncovered : ∀ entry ∈ netlinkGetRoutes messages table, ¬ entry.CoversV4 dst := by
      intro entry member
      obtain ⟨route, isRoute⟩ := usable entry member
      exact not_coversV4_of_find?_eq_none found member isRoute
    exact iff_of_true uncovered (.inl uncovered)
  | some route =>
    have selected := selected_of_find? found
    obtain ⟨entry, longest, _⟩ := selected.exists_longest usable
    refine (selected.followsMetrics_iff usable fun entry member => priority_le member).trans
      (or_iff_right ?_).symm
    exact fun uncovered => uncovered entry longest.1 longest.2.1

/-- A default route through 192.0.2.1 that states no metric. -/
def unstatedMessage : NetlinkMessage :=
  { messageType := rtmNewRoute
    data := [2, 0, 0, 0, 254, 3, 0, 1, 0, 0, 0, 0, 8, 0, 5, 0, 192, 0, 2, 1, 8, 0, 4, 0, 2, 0, 0, 0] }

/-- A default route through 192.0.2.2 with metric 100. -/
def statedMessage : NetlinkMessage :=
  { messageType := rtmNewRoute
    data := [2, 0, 0, 0, 254, 3, 0, 1, 0, 0, 0, 0, 8, 0, 5, 0, 192, 0, 2, 2, 8, 0, 4, 0, 2, 0, 0, 0,
      8, 0, 6, 0, 100, 0, 0, 0] }

def unstatedEntry : RouteEntry :=
  { destination := none, gateway := some (.v4 0xc0000201#32), outIfindex := some 2,
    priority := none, table := some 254, family := afInet, dstLen := 0 }

def statedEntry : RouteEntry :=
  { destination := none, gateway := some (.v4 0xc0000202#32), outIfindex := some 2,
    priority := some 100, table := some 254, family := afInet, dstLen := 0 }

def unstatedRoute : Ipv4Route :=
  { destination := 0#32, prefixLen := 0, ifindex := 2, gateway := some 0xc0000201#32,
    priority := 2 ^ 32 - 1, mtu := 2 ^ 32 - 1 }

def statedRoute : Ipv4Route :=
  { destination := 0#32, prefixLen := 0, ifindex := 2, gateway := some 0xc0000202#32,
    priority := 100, mtu := 2 ^ 32 - 1 }

theorem netlinkGetRoutes_metrics :
    netlinkGetRoutes [unstatedMessage, statedMessage] 254 = [unstatedEntry, statedEntry] := by
  decide +kernel

theorem sort_metrics :
    sortRoutesV4 [unstatedRoute, statedRoute] = [statedRoute, unstatedRoute] := by
  simp [sortRoutesV4, List.mergeSort, routeLe, unstatedRoute, statedRoute]

theorem exists_netlinkSnapshot_metrics :
    ∃ snapshot, RouteSnapshot.buildNetlinkSnapshot 0 [] [unstatedEntry, statedEntry] [] =
      .ok snapshot := by
  obtain ⟨index, rebuilt⟩ := RouteSnapshot.rebuild_defaultRoutes 0#32 0#32 0 0
  obtain ⟨snapshot, loaded, _⟩ := RouteSnapshot.new.withRoutes_of_sorted sort_metrics rebuilt
  exact ⟨snapshot, Transition.bind_eq_ok_iff.mpr ⟨snapshot, loaded, rfl⟩⟩

/-- The route without a metric is the one that the kernel prefers; the snapshot selects the
other. -/
theorem netlink_selects_larger_metric :
    ∃ snapshot, RouteSnapshot.buildNetlinkSnapshot 0 []
        (netlinkGetRoutes [unstatedMessage, statedMessage] 254) [] = .ok snapshot ∧
      snapshot.lookupRouteV4 0x08080808#32 = some statedRoute ∧
      statedEntry.metric = 100 ∧ unstatedEntry.metric = 0 ∧
      ¬ FollowsMetrics (netlinkGetRoutes [unstatedMessage, statedMessage] 254) 0x08080808#32
        (snapshot.lookupRouteV4 0x08080808#32) := by
  obtain ⟨snapshot, built⟩ := exists_netlinkSnapshot_metrics
  have sorted : sortRoutesV4 ((usableRoutes [unstatedEntry, statedEntry]).foldl
      upsertRouteV4NoSort []) = [statedRoute, unstatedRoute] := sort_metrics
  have selects : snapshot.lookupRouteV4 0x08080808#32 = some statedRoute := by
    rw [RouteSnapshot.lookupRouteV4_netlink built, sorted]
    decide
  rw [netlinkGetRoutes_metrics]
  refine ⟨snapshot, built, selects, rfl, rfl, ?_⟩
  rw [selects]
  rintro ⟨entry, ⟨member, _⟩, isRoute, least⟩
  have atMost := least unstatedEntry (by decide)
  rcases List.mem_cons.mp member with rfl | later
  · cases isRoute
  · rw [List.mem_singleton.mp later] at atMost
    exact absurd atMost (by decide)

/-- With one route that states its metric. -/
theorem netlink_followsMetrics_stated :
    netlinkGetRoutes [statedMessage] 254 = [statedEntry] ∧
      ∃ snapshot, RouteSnapshot.buildNetlinkSnapshot 0 [] (netlinkGetRoutes [statedMessage] 254) [] =
          .ok snapshot ∧
        FollowsMetrics [statedEntry] 0x08080808#32 (snapshot.lookupRouteV4 0x08080808#32) := by
  have parsed : netlinkGetRoutes [statedMessage] 254 = [statedEntry] := by decide +kernel
  obtain ⟨index, rebuilt⟩ := RouteSnapshot.rebuild_defaultRoute 0#32 0
  obtain ⟨snapshot, loaded, _⟩ := RouteSnapshot.new.withRoutes_of_sorted
    (List.mergeSort_singleton statedRoute) rebuilt
  have built : RouteSnapshot.buildNetlinkSnapshot 0 [] (netlinkGetRoutes [statedMessage] 254) [] =
      .ok snapshot := by
    rw [parsed]
    exact Transition.bind_eq_ok_iff.mpr ⟨snapshot, loaded, rfl⟩
  refine ⟨parsed, snapshot, built, ?_⟩
  have follows := netlink_followsMetrics_iff (by rw [parsed]; decide) built 0x08080808#32
  rw [parsed] at follows
  refine follows.mpr (.inr (.inl ⟨statedEntry, 100, statedRoute, by decide, rfl, by decide, rfl,
    ⟨[], [], rfl, nofun⟩, ?_⟩))
  rintro other ⟨member, _⟩
  rw [List.mem_singleton.mp member]
  decide

end FastSocket.Xdp
