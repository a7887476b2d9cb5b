import FastSocket.Xdp.Route

/-!
# Route monitor

One monitor hands route snapshots to many queue owners through a shared slot.  A
publisher takes a generation and later stores its stamped snapshot; an owner compares
the generation in the slot with the one it has seen last.  Stores can overtake each
other, so that generations in the slot do not have to rise.
-/

namespace FastSocket.Xdp

/-! ## Queue-local routes -/

/-- Queue-local route state; `generation` is a 64-bit counter. -/
structure XdpLocalRoutes where
  snapshot : RouteSnapshot
  pending : List RouteSnapshot
  generation : Nat

namespace XdpLocalRoutes

def new (snapshot : RouteSnapshot) : XdpLocalRoutes :=
  { snapshot := snapshot, pending := [], generation := 0 }

variable (routes : XdpLocalRoutes)

def pushUpdate (snapshot : RouteSnapshot) : XdpLocalRoutes :=
  { routes with pending := routes.pending ++ [snapshot] }

/-- The loop over the queued updates: the snapshot that it leaves and the number of
updates that it has popped. -/
def popUpdates : RouteSnapshot → (applied : Nat) → List RouteSnapshot → RouteSnapshot × Nat
  | snapshot, applied, [] => (snapshot, applied)
  | _, applied, next :: rest => popUpdates next (applied + 1) rest

/-- Applies the queued updates and returns their number. -/
def applyUpdates : Nat × XdpLocalRoutes :=
  let (snapshot, applied) := popUpdates routes.snapshot 0 routes.pending
  let generation :=
    if applied ≠ 0 then (routes.generation + applied) % 2 ^ 64 else routes.generation
  (applied, { snapshot := snapshot, pending := [], generation := generation })

theorem popUpdates_eq (snapshot : RouteSnapshot) (applied : Nat) (pending : List RouteSnapshot) :
    popUpdates snapshot applied pending =
      (pending.getLastD snapshot, applied + pending.length) := by
  induction pending generalizing snapshot applied with
  | nil => rfl
  | cons next rest ih =>
    rw [popUpdates, ih, List.getLastD_cons, List.length_cons, Nat.add_right_comm, Nat.add_assoc]

theorem applyUpdates_of_pending_eq_nil (empty : routes.pending = []) :
    routes.applyUpdates = (0, routes) := by
  obtain ⟨snapshot, pending, generation⟩ := routes
  cases empty
  rfl

/-- Queued updates are all adopted, the last one stays. -/
theorem applyUpdates_of_pending_ne_nil (queued : routes.pending ≠ []) :
    routes.applyUpdates =
      (routes.pending.length,
        { snapshot := routes.pending.getLast queued, pending := []
          generation := (routes.generation + routes.pending.length) % 2 ^ 64 }) := by
  have some : routes.pending.length ≠ 0 := fun empty => queued (List.length_eq_zero_iff.mp empty)
  rw [applyUpdates, popUpdates_eq]
  simp only [Nat.zero_add, if_pos some, List.getLastD_eq_getLast?,
    List.getLast?_eq_some_getLast queued, Option.getD_some]

end XdpLocalRoutes

/-! ## Handles -/

/-- A published snapshot stamped with its generation. -/
structure VersionedSnapshot where
  generation : Nat
  snapshot : RouteSnapshot

/-- The handle of a queue owner, without the slot that all handles share. -/
structure XdpRouteMonitorHandle where
  lastSeenGeneration : Nat
deriving DecidableEq, Repr

namespace XdpRouteMonitorHandle

/-- Installs the snapshot in the slot into the routes of the owner, unless the handle
has seen its generation last. -/
def applyUpdates (handle : XdpRouteMonitorHandle) (shared : Option VersionedSnapshot)
    (routes : XdpLocalRoutes) : Nat × XdpRouteMonitorHandle × XdpLocalRoutes :=
  match shared with
  | none => (0, handle, routes)
  | some versioned =>
    if handle.lastSeenGeneration = versioned.generation then
      (0, handle, routes)
    else
      let (applied, routes) := (routes.pushUpdate versioned.snapshot).applyUpdates
      (applied, { lastSeenGeneration := versioned.generation }, routes)

variable {handle : XdpRouteMonitorHandle} {versioned : VersionedSnapshot}
  {routes : XdpLocalRoutes}

theorem applyUpdates_of_seen (seen : handle.lastSeenGeneration = versioned.generation) :
    handle.applyUpdates (some versioned) routes = (0, handle, routes) :=
  if_pos seen

theorem applyUpdates_of_unseen (unseen : handle.lastSeenGeneration ≠ versioned.generation) :
    handle.applyUpdates (some versioned) routes =
      (routes.pending.length + 1, { lastSeenGeneration := versioned.generation },
        { snapshot := versioned.snapshot, pending := []
          generation := (routes.generation + (routes.pending.length + 1)) % 2 ^ 64 }) := by
  have queued : (routes.pushUpdate versioned.snapshot).pending ≠ [] :=
    List.append_ne_nil_of_right_ne_nil _ (List.cons_ne_nil _ _)
  rw [applyUpdates, if_neg unseen, XdpLocalRoutes.applyUpdates_of_pending_ne_nil _ queued]
  simp only [XdpLocalRoutes.pushUpdate, List.getLast_append_singleton, List.length_append,
    List.length_singleton]

end XdpRouteMonitorHandle

/-! ## Publishers and owners -/

/-- A publication: the snapshot that it stores, and its number among all of them. -/
structure Publication where
  number : Nat
  versioned : VersionedSnapshot

/-- A queue owner with its handle and its own routes, and the publication that it has
adopted last. -/
structure QueueOwner where
  handle : XdpRouteMonitorHandle
  routes : XdpLocalRoutes
  adopted : Option Publication

/-- The owner's call of its handle. -/
def QueueOwner.applyUpdates (owner : QueueOwner) (shared : Option Publication) :
    Nat × QueueOwner :=
  let (applied, handle, routes) :=
    owner.handle.applyUpdates (shared.map Publication.versioned) owner.routes
  (applied,
    { handle := handle, routes := routes
      adopted := if applied = 0 then owner.adopted else shared })

/-- The monitor with its queue owners and its publishers.  A publisher in `storing` has
taken its generation and has not stored yet; `published` are the publications in the
order of their generations. -/
structure Fanout where
  nextGeneration : Nat
  shared : Option Publication
  storing : List Publication
  published : List Publication
  owners : List QueueOwner

inductive FanoutAction where
  /-- The first half of a publish. -/
  | fetchGeneration (snapshot : RouteSnapshot)
  /-- The second half, of any publisher that has made the first. -/
  | store (publisher : Nat)
  | registerQueue (routes : XdpLocalRoutes)
  | applyUpdates (owner : Nat)

namespace Fanout

def new : Fanout :=
  { nextGeneration := 0, shared := none, storing := [], published := [], owners := [] }

variable (fanout : Fanout)

/-- The publication of the next publisher. -/
def nextPublication (snapshot : RouteSnapshot) : Publication :=
  { number := fanout.published.length
    versioned := { generation := (fanout.nextGeneration + 1) % 2 ^ 64, snapshot := snapshot } }

def fetchGeneration (snapshot : RouteSnapshot) : Fanout :=
  { fanout with
    nextGeneration := (fanout.nextGeneration + 1) % 2 ^ 64
    storing := fanout.storing ++ [fanout.nextPublication snapshot]
    published := fanout.published ++ [fanout.nextPublication snapshot] }

/-- The routes of a new owner may hold updates already, as many as a queue can. -/
def step : FanoutAction → Option Fanout
  | .fetchGeneration snapshot => some (fanout.fetchGeneration snapshot)
  | .store publisher => do
      let publication ← fanout.storing[publisher]?
      return { fanout with
        shared := some publication
        storing := fanout.storing.eraseIdx publisher }
  | .registerQueue routes =>
    if routes.pending.length + 1 < 2 ^ 64 then
      some { fanout with
        owners := fanout.owners ++
          [{ handle := { lastSeenGeneration := 0 }, routes := routes, adopted := none }] }
    else
      none
  | .applyUpdates index => do
      let owner ← fanout.owners[index]?
      return { fanout with
        owners := fanout.owners.set index (owner.applyUpdates fanout.shared).2 }

end Fanout

end FastSocket.Xdp
