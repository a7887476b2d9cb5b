import FastSocket.Sorting.Stable
import FastSocket.Xdp.RouteIndex

/-!
# Loading routes into a table

A bulk load sorts the route table once, loading one by one after every route.  A
route is identified by its prefix, interface and gateway, and a route that is
loaded again keeps its place until the next sort.  Both ways end with the same
routes, ordered alike up to ties; a priority that changes on the way can leave
tied routes in a different order.
-/

namespace FastSocket.Xdp

open Packet Poptrie Sorting

/-- What identifies a route in the table. -/
def Ipv4Route.key (route : Ipv4Route) : (Ipv4Addr × Nat) × IfIndex × Option Ipv4Addr :=
  ((route.destination, route.prefixLen), route.ifindex, route.gateway)

theorem sameRoute_iff (existing route : Ipv4Route) :
    sameRoute existing route = true ↔ existing.key = route.key := by
  simp only [sameRoute, Ipv4Route.key, Bool.and_eq_true, beq_iff_eq, Prod.mk.injEq, and_assoc]

/-- No route is in the table twice. -/
def KeysDistinct (routes : List Ipv4Route) : Prop :=
  (routes.map Ipv4Route.key).Nodup

/-- Routes of the table that are loaded again keep their priority. -/
def KeepsPriorities (table routes : List Ipv4Route) : Prop :=
  ∀ left ∈ table ++ routes, ∀ right ∈ table ++ routes,
    left.key = right.key → left.priority = right.priority

instance (table routes : List Ipv4Route) : Decidable (KeepsPriorities table routes) :=
  inferInstanceAs (Decidable (∀ left ∈ table ++ routes, ∀ right ∈ table ++ routes, _))

/-- A covering route with the longest prefix and the lowest priority. -/
def BestRoute (routes : List Ipv4Route) (dst : Ipv4Addr) (route : Ipv4Route) : Prop :=
  Least routeLe (fun route => decide (route.Covers dst)) routes route

/-! ## One route -/

/-- The table with a route in the place of the one with its key. -/
def replaceRoute (route existing : Ipv4Route) : Ipv4Route :=
  if existing.key = route.key then route else existing

theorem key_replaceRoute (route existing : Ipv4Route) :
    (replaceRoute route existing).key = existing.key := by
  rw [replaceRoute]
  split
  case isTrue same => exact same.symm
  case isFalse => rfl

variable {routes others table : List Ipv4Route} {route existing : Ipv4Route}

theorem map_replaceRoute_of_absent (absent : route.key ∉ routes.map Ipv4Route.key) :
    routes.map (replaceRoute route) = routes := by
  have unchanged : ∀ existing ∈ routes, replaceRoute route existing = id existing := by
    intro existing member
    apply if_neg
    intro same
    exact absent (List.mem_map.mpr ⟨existing, member, same⟩)
  rw [List.map_congr_left unchanged, List.map_id]

theorem upsertRouteV4NoSort_cons_of_ne (differs : existing.key ≠ route.key)
    (rest : List Ipv4Route) :
    upsertRouteV4NoSort (existing :: rest) route =
      existing :: upsertRouteV4NoSort rest route := by
  have other : ¬ sameRoute existing route = true := by rwa [sameRoute_iff]
  rw [upsertRouteV4NoSort, upsertRouteV4NoSort, List.findIdx?_cons, if_neg other]
  cases rest.findIdx? (sameRoute · route) <;> rfl

/-- Loading a route that is in the table replaces it. -/
theorem upsertRouteV4NoSort_of_mem (distinct : KeysDistinct routes)
    (present : route.key ∈ routes.map Ipv4Route.key) :
    upsertRouteV4NoSort routes route = routes.map (replaceRoute route) := by
  induction routes with
  | nil => cases present
  | cons existing rest ih =>
    rw [KeysDistinct, List.map_cons, List.nodup_cons] at distinct
    rcases eq_or_ne existing.key route.key with same | differs
    · have absent : route.key ∉ rest.map Ipv4Route.key := same ▸ distinct.1
      rw [upsertRouteV4NoSort, List.findIdx?_cons, if_pos ((sameRoute_iff _ _).mpr same),
        List.map_cons, map_replaceRoute_of_absent absent, replaceRoute, if_pos same]
      rfl
    · rw [List.map_cons, List.mem_cons] at present
      rw [upsertRouteV4NoSort_cons_of_ne differs,
        ih distinct.2 (present.resolve_left differs.symm), List.map_cons, replaceRoute,
        if_neg differs]

/-- Loading a route that is not in the table appends it. -/
theorem upsertRouteV4NoSort_of_not_mem (absent : route.key ∉ routes.map Ipv4Route.key) :
    upsertRouteV4NoSort routes route = routes ++ [route] := by
  have notFound : routes.findIdx? (sameRoute · route) = none := by
    rw [List.findIdx?_eq_none_iff]
    intro existing member
    rw [← Bool.not_eq_true, sameRoute_iff]
    intro same
    exact absent (List.mem_map.mpr ⟨existing, member, same⟩)
  rw [upsertRouteV4NoSort, notFound]

theorem KeysDistinct.upsert (distinct : KeysDistinct routes) (route : Ipv4Route) :
    KeysDistinct (upsertRouteV4NoSort routes route) := by
  by_cases present : route.key ∈ routes.map Ipv4Route.key
  · rw [upsertRouteV4NoSort_of_mem distinct present, KeysDistinct, List.map_map]
    have keys : Ipv4Route.key ∘ replaceRoute route = Ipv4Route.key :=
      funext (key_replaceRoute route)
    rwa [keys]
  · rw [upsertRouteV4NoSort_of_not_mem present, KeysDistinct, List.map_append,
      List.nodup_append]
    refine ⟨distinct, List.nodup_singleton _, ?_⟩
    rintro key isKey _ (_ | ⟨_, ⟨⟩⟩) rfl
    exact present isKey

theorem KeysDistinct.perm (distinct : KeysDistinct routes) (same : routes.Perm others) :
    KeysDistinct others :=
  (same.map Ipv4Route.key).nodup_iff.mp distinct

theorem KeysDistinct.foldl_upsert (distinct : KeysDistinct table) (routes : List Ipv4Route) :
    KeysDistinct (routes.foldl upsertRouteV4NoSort table) := by
  induction routes generalizing table with
  | nil => exact distinct
  | cons route rest ih => exact ih (distinct.upsert route)

theorem sortRoutesV4_perm (routes : List Ipv4Route) : (sortRoutesV4 routes).Perm routes :=
  List.mergeSort_perm routes routeLe

/-- Loading a route into tables of the same routes gives tables of the same routes. -/
theorem upsertRouteV4NoSort_perm (distinct : KeysDistinct routes) (same : routes.Perm others)
    (route : Ipv4Route) :
    (upsertRouteV4NoSort routes route).Perm (upsertRouteV4NoSort others route) := by
  have keys := same.map Ipv4Route.key
  by_cases present : route.key ∈ routes.map Ipv4Route.key
  · rw [upsertRouteV4NoSort_of_mem distinct present,
      upsertRouteV4NoSort_of_mem (distinct.perm same) (keys.mem_iff.mp present)]
    exact same.map _
  · rw [upsertRouteV4NoSort_of_not_mem present,
      upsertRouteV4NoSort_of_not_mem (mt keys.mem_iff.mpr present)]
    exact same.append_right _

/-! ## Many routes -/

/-- The table after loading routes one by one. -/
def loadSingly (table routes : List Ipv4Route) : List Ipv4Route :=
  routes.foldl (fun table route => sortRoutesV4 (upsertRouteV4NoSort table route)) table

theorem loadSingly_perm {other : List Ipv4Route} (distinct : KeysDistinct table)
    (same : table.Perm other) (routes : List Ipv4Route) :
    (loadSingly table routes).Perm (routes.foldl upsertRouteV4NoSort other) := by
  induction routes generalizing table other with
  | nil => exact same
  | cons route rest ih =>
    have sorted := sortRoutesV4_perm (upsertRouteV4NoSort table route)
    exact ih ((distinct.upsert route).perm sorted.symm)
      (sorted.trans (upsertRouteV4NoSort_perm distinct same route))

theorem routeLe_trans (first second third : Ipv4Route)
    (firstLe : routeLe first second = true) (secondLe : routeLe second third = true) :
    routeLe first third = true := by
  rw [routeLe_iff] at firstLe secondLe ⊢
  omega

theorem routeLe_total (first second : Ipv4Route) :
    (routeLe first second || routeLe second first) = true := by
  rw [Bool.or_eq_true, routeLe_iff, routeLe_iff]
  omega

/-- A route that keeps its priority can be loaded into the sorted table or into the
unsorted one. -/
theorem sort_upsert_sort (distinct : KeysDistinct table)
    (keeps : ∀ existing ∈ table, existing.key = route.key → existing.priority = route.priority) :
    sortRoutesV4 (upsertRouteV4NoSort (sortRoutesV4 table) route) =
      sortRoutesV4 (upsertRouteV4NoSort table route) := by
  have sorted := sortRoutesV4_perm table
  have keys := sorted.map Ipv4Route.key
  by_cases present : route.key ∈ table.map Ipv4Route.key
  · rw [upsertRouteV4NoSort_of_mem distinct present,
      upsertRouteV4NoSort_of_mem (distinct.perm sorted.symm) (keys.mem_iff.mpr present)]
    have rank : ∀ existing ∈ table,
        (replaceRoute route existing).prefixLen = existing.prefixLen ∧
          (replaceRoute route existing).priority = existing.priority := by
      intro existing member
      have sameKey := key_replaceRoute route existing
      refine ⟨congrArg (·.1.2) sameKey, ?_⟩
      rw [replaceRoute]
      split
      case isTrue same => exact (keeps existing member same).symm
      case isFalse => rfl
    have mapped : (sortRoutesV4 table).map (replaceRoute route) =
        sortRoutesV4 (table.map (replaceRoute route)) := by
      apply List.map_mergeSort
      intro left isLeft right isRight
      obtain ⟨leftLen, leftPriority⟩ := rank left isLeft
      obtain ⟨rightLen, rightPriority⟩ := rank right isRight
      rw [routeLe, routeLe, leftLen, leftPriority, rightLen, rightPriority]
    rw [mapped]
    exact mergeSort_mergeSort routeLe_trans routeLe_total _
  · rw [upsertRouteV4NoSort_of_not_mem present,
      upsertRouteV4NoSort_of_not_mem (mt keys.mem_iff.mp present)]
    exact mergeSort_mergeSort_append routeLe_trans routeLe_total table [route]

theorem mem_upsertRouteV4NoSort (member : existing ∈ upsertRouteV4NoSort table route) :
    existing ∈ table ∨ existing = route := by
  rw [upsertRouteV4NoSort] at member
  split at member
  · exact List.mem_or_eq_of_mem_set member
  · rcases List.mem_append.mp member with inTable | added
    · exact .inl inTable
    · exact .inr (List.mem_singleton.mp added)

theorem KeepsPriorities.upsert {rest : List Ipv4Route}
    (keeps : KeepsPriorities table (route :: rest)) :
    KeepsPriorities (upsertRouteV4NoSort table route) rest := by
  have known : ∀ existing ∈ upsertRouteV4NoSort table route ++ rest,
      existing ∈ table ++ route :: rest := by
    intro existing member
    rw [List.mem_append, List.mem_cons]
    rcases List.mem_append.mp member with upserted | later
    · rcases mem_upsertRouteV4NoSort upserted with inTable | rfl
      · exact .inl inTable
      · exact .inr (.inl rfl)
    · exact .inr (.inr later)
  intro left isLeft right isRight
  exact keeps left (known left isLeft) right (known right isRight)

/-- When no priority changes, both ways of loading give the same table. -/
theorem loadSingly_sort (distinct : KeysDistinct table) (keeps : KeepsPriorities table routes) :
    loadSingly (sortRoutesV4 table) routes =
      sortRoutesV4 (routes.foldl upsertRouteV4NoSort table) := by
  induction routes generalizing table with
  | nil => rfl
  | cons route rest ih =>
    have loaded : route ∈ table ++ route :: rest :=
      List.mem_append_right table List.mem_cons_self
    rw [loadSingly, List.foldl_cons, sort_upsert_sort distinct fun existing member =>
      keeps existing (List.mem_append_left _ member) route loaded]
    exact ih (distinct.upsert route) keeps.upsert

/-! ## What a load leaves -/

/-- A route that is loaded and not replaced by a later one. -/
def LastLoaded (routes : List Ipv4Route) (route : Ipv4Route) : Prop :=
  ∃ before after, routes = before ++ route :: after ∧ ∀ later ∈ after, later.key ≠ route.key

theorem lastLoaded_concat {added : Ipv4Route} :
    LastLoaded (routes ++ [added]) route ↔
      LastLoaded routes route ∧ route.key ≠ added.key ∨ route = added := by
  constructor
  · rintro ⟨before, after, split, kept⟩
    rcases List.eq_nil_or_concat' after with rfl | ⟨after, last, rfl⟩
    · exact .inr (List.singleton_inj.mp (List.append_inj' split rfl).2.symm)
    · rw [← List.cons_append, ← List.append_assoc] at split
      obtain ⟨rfl, isLast⟩ := List.append_inj' split rfl
      cases isLast
      have differs := kept added (List.mem_append_right _ List.mem_cons_self)
      exact .inl ⟨⟨before, after, rfl, fun later isLater =>
        kept later (List.mem_append_left _ isLater)⟩, differs.symm⟩
  · rintro (⟨⟨before, after, rfl, kept⟩, differs⟩ | rfl)
    · refine ⟨before, after ++ [added], by rw [List.append_assoc]; rfl, ?_⟩
      intro later isLater
      rcases List.mem_append.mp isLater with inAfter | isAdded
      · exact kept later inAfter
      · rw [List.mem_singleton.mp isAdded]
        exact differs.symm
    · exact ⟨routes, [], rfl, nofun⟩

theorem mem_upsertRouteV4NoSort_iff (distinct : KeysDistinct table) :
    existing ∈ upsertRouteV4NoSort table route ↔
      existing ∈ table ∧ existing.key ≠ route.key ∨ existing = route := by
  by_cases present : route.key ∈ table.map Ipv4Route.key
  · rw [upsertRouteV4NoSort_of_mem distinct present, List.mem_map]
    constructor
    · rintro ⟨old, isOld, rfl⟩
      rw [replaceRoute]
      split
      case isTrue => exact .inr rfl
      case isFalse differs => exact .inl ⟨isOld, differs⟩
    · rintro (⟨isOld, differs⟩ | rfl)
      · exact ⟨existing, isOld, if_neg differs⟩
      · obtain ⟨old, isOld, same⟩ := List.mem_map.mp present
        exact ⟨old, isOld, if_pos same⟩
  · rw [upsertRouteV4NoSort_of_not_mem present, List.mem_append, List.mem_singleton]
    have differs : existing ∈ table → existing.key ≠ route.key := fun isOld same =>
      present (List.mem_map.mpr ⟨existing, isOld, same⟩)
    rw [and_iff_left_of_imp differs]

theorem keysDistinct_loaded (routes : List Ipv4Route) :
    KeysDistinct (routes.foldl upsertRouteV4NoSort []) :=
  @KeysDistinct.foldl_upsert [] List.nodup_nil routes

/-- A load leaves the routes that are not replaced. -/
theorem mem_foldl_upsert_iff :
    route ∈ routes.foldl upsertRouteV4NoSort [] ↔ LastLoaded routes route := by
  induction routes using List.reverseRecOn generalizing route with
  | nil => exact iff_of_false List.not_mem_nil (by rintro ⟨before, after, split, _⟩; simp at split)
  | append_singleton routes added ih =>
    have distinct := keysDistinct_loaded routes
    rw [List.foldl_append, List.foldl_cons, List.foldl_nil, mem_upsertRouteV4NoSort_iff distinct,
      ih, lastLoaded_concat]

/-- The keys of the table are in the order in which they are first loaded. -/
theorem find?_key_foldl_upsert (routes : List Ipv4Route)
    (property : (Ipv4Addr × Nat) × IfIndex × Option Ipv4Addr → Bool) :
    ((routes.foldl upsertRouteV4NoSort []).map Ipv4Route.key).find? property =
      (routes.map Ipv4Route.key).find? property := by
  induction routes using List.reverseRecOn with
  | nil => rfl
  | append_singleton routes added ih =>
    have distinct := keysDistinct_loaded routes
    rw [List.foldl_append, List.foldl_cons, List.foldl_nil, List.map_append, List.find?_append,
      ← ih]
    by_cases present : added.key ∈ (routes.foldl upsertRouteV4NoSort []).map Ipv4Route.key
    · have keys : Ipv4Route.key ∘ replaceRoute added = Ipv4Route.key :=
        funext (key_replaceRoute added)
      rw [upsertRouteV4NoSort_of_mem distinct present, List.map_map, keys]
      cases found : ((routes.foldl upsertRouteV4NoSort []).map Ipv4Route.key).find? property with
      | some key => rfl
      | none =>
        have fails := List.find?_eq_none.mp found added.key present
        rw [Option.none_or, List.map_singleton, List.find?_singleton, if_neg fails]
    · rw [upsertRouteV4NoSort_of_not_mem present, List.map_append, List.find?_append]

end FastSocket.Xdp
