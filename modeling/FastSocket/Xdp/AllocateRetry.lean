import FastSocket.Xdp.LiveCalls

/-!
# Retrying allocation after a drain

The transmit allocation loop pops frames until the pool is empty, drains completions once
and tries again.  It needs no more than two iterations per buffer, whatever the drains
give, and stops short only when the last drain brought no transmit frame.
-/

namespace FastSocket.Xdp

open Packet Spsc Transition

/-! ## The loop -/

/-- What an allocation returns, the frames in its vector and the state behind it. -/
structure Allocated (σ : Type) where
  result : Except Error Nat
  out : List Addr
  state : σ

variable {rounds : Nat} {out : List Addr} {drainedAfterEmpty : Bool}

section Loop

variable {σ : Type} (allocateMany : Nat → σ → List Addr × σ)
  (drain : σ → Except Error Nat × σ) (max startLen : Nat)

/-- The loop of `allocate_tx_batch_inner`, with `none` when it takes more than the given
number of iterations. -/
def allocateLoop :
    (rounds : Nat) → (out : List Addr) → (drainedAfterEmpty : Bool) → σ → Option (Allocated σ)
  | 0, out, _, state =>
    if out.length - startLen < max then none else some ⟨.ok (out.length - startLen), out, state⟩
  | rounds + 1, out, drainedAfterEmpty, state =>
    if out.length - startLen < max then
      let allocated := allocateMany (max - (out.length - startLen)) state
      if allocated.1.length > 0 then
        allocateLoop rounds (out ++ allocated.1) false allocated.2
      else if drainedAfterEmpty then
        some ⟨.ok (out.length - startLen), out, allocated.2⟩
      else
        match drain allocated.2 with
        | (.error kind, state) => some ⟨.error kind, out, state⟩
        | (.ok 0, state) => some ⟨.ok (out.length - startLen), out, state⟩
        | (.ok (_ + 1), state) => allocateLoop rounds out true state
    else
      some ⟨.ok (out.length - startLen), out, state⟩

variable {allocateMany drain max startLen}

/-- Every second iteration allocates a buffer. -/
theorem isSome_allocateLoop (state : σ) (start : startLen ≤ out.length)
    (enough : 2 * (max - (out.length - startLen)) + (!drainedAfterEmpty).toNat ≤ rounds) :
    (allocateLoop allocateMany drain max startLen rounds out drainedAfterEmpty state).isSome := by
  induction rounds generalizing out drainedAfterEmpty state with
  | zero =>
    rw [allocateLoop, if_neg (by omega)]
    rfl
  | succ rounds ih =>
    rw [allocateLoop]
    split
    case isTrue more =>
      dsimp only
      split
      case isTrue some =>
        apply ih
        · rw [List.length_append]
          omega
        · rw [List.length_append, Bool.not_false, Bool.toNat_true]
          omega
      case isFalse =>
        cases drainedAfterEmpty with
        | true => rfl
        | false =>
          rw [if_neg Bool.false_ne_true]
          split
          · rfl
          · rfl
          · apply ih _ start
            rw [Bool.not_false, Bool.toNat_true] at enough
            rw [Bool.not_true, Bool.toNat_false]
            omega
    case isFalse => rfl

variable (allocateMany drain max)

/-- Two iterations per buffer and two more are enough. -/
theorem isSome_allocateLoop_start (out : List Addr) (state : σ) :
    (allocateLoop allocateMany drain max out.length (2 * max + 2) out false state).isSome := by
  apply isSome_allocateLoop state (Nat.le_refl _)
  rw [Nat.sub_self, Nat.sub_zero, Bool.not_false, Bool.toNat_true]
  omega

end Loop

/-- Pops transmit frames into application buffers and names them. -/
def XdpSocket.allocateFrames (socket : XdpSocket) (max : Nat) : List Addr × XdpSocket :=
  ((socket.txReclaim.popManyWith max).2, (socket.allocateMany max).2)

/-- A socket's loop is this one, with the environment's turns before each attempt and each
drain. -/
theorem run_allocateTxLoop_of_some {max fuel : Nat} {socket : XdpSocket}
    {ended : Allocated XdpSocket}
    (returned : allocateLoop (fun max socket => socket.takeTurn.2.allocateFrames max)
      drainTxCompletionsInner.run max 0 fuel out drainedAfterEmpty socket = some ended) :
    (allocateTxLoop max fuel out.length drainedAfterEmpty).run socket =
      (ended.result, ended.state) := by
  induction fuel generalizing out drainedAfterEmpty socket with
  | zero =>
    rw [allocateLoop] at returned
    split at returned
    · cases returned
    · cases returned
      rfl
  | succ fuel ih =>
    rw [allocateLoop, Nat.sub_zero] at returned
    rw [allocateTxLoop]
    by_cases more : out.length < max
    · rw [if_pos more] at returned ⊢
      have isTurn : (interleave.run socket).2 = socket.takeTurn.2 := rfl
      rw [run_bind, run_bind, run_modifyGet, isTurn]
      generalize socket.takeTurn.2 = turned at returned
      obtain ⟨frames, allocated, isFrames, isCount⟩ : ∃ frames allocated,
          turned.allocateFrames (max - out.length) = (frames, allocated) ∧
            turned.allocateMany (max - out.length) = (frames.length, allocated) :=
        ⟨_, _, rfl, rfl⟩
      rw [isFrames] at returned
      rw [isCount]
      dsimp only at returned ⊢
      by_cases some : frames.length > 0
      · rw [if_pos some] at returned ⊢
        rw [← List.length_append]
        exact ih returned
      · rw [if_neg some] at returned ⊢
        by_cases drained : drainedAfterEmpty = true
        · rw [if_pos drained] at returned ⊢
          cases returned
          rfl
        · rw [if_neg drained] at returned ⊢
          rw [run_bind]
          generalize drainTxCompletionsInner.run allocated = drain at returned ⊢
          obtain ⟨_ | _ | count, target⟩ := drain
          · cases returned
            rfl
          · cases returned
            rfl
          · exact ih returned
    · rw [if_neg more] at returned ⊢
      cases returned
      rfl

/-- The bound on the iterations of a socket's loop is not reached. -/
theorem allocateTxLoop_terminates (max : Nat) (socket : XdpSocket) :
    ∃ ended, allocateLoop (fun max socket => socket.takeTurn.2.allocateFrames max)
        drainTxCompletionsInner.run max 0 (2 * max + 2) [] false socket = some ended ∧
      (allocateTxLoop max (2 * max + 2) 0 false).run socket = (ended.result, ended.state) := by
  obtain ⟨ended, returned⟩ := Option.isSome_iff_exists.mp
    (isSome_allocateLoop_start (fun max socket => socket.takeTurn.2.allocateFrames max)
      drainTxCompletionsInner.run max [] socket)
  exact ⟨ended, returned, run_allocateTxLoop_of_some returned⟩

/-! ## Sequences of drains -/

/-- What a drain of the COMPLETION ring returns, and the drained frames that land in the
transmit pool. -/
structure DrainOutcome where
  result : Except Error Nat
  landed : List Addr
  landed_le : ∀ count, result = .ok count → landed.length ≤ count

/-- A transmit pool and the drains that are made one after the other.  A frame has one
owner: it is free, or it is in flight until one of the drains takes it. -/
structure DrainedPool where
  pool : FrameReclaim
  drains : Nat → DrainOutcome
  distinct : ∀ count, (pool.frames +
    ((List.range count).map fun index => (↑(drains index).landed : Multiset Addr)).sum).Nodup

namespace DrainedPool

variable (given : DrainedPool)

/-- The frames that the first drains bring. -/
def landedFrames (count : Nat) : Multiset Addr :=
  ((List.range count).map fun index => (↑(given.drains index).landed : Multiset Addr)).sum

theorem landedFrames_succ (count : Nat) :
    given.landedFrames (count + 1) =
      given.landedFrames count + ↑(given.drains count).landed := by
  rw [landedFrames, List.range_succ, List.map_append, List.sum_append, List.map_singleton,
    List.sum_singleton, landedFrames]

/-- The pool, and the number of drains made so far. -/
structure State where
  pool : FrameReclaim
  drained : Nat

/-- `XdpTxPool::allocate_many`, with the frames of the appended buffers. -/
def allocateMany (max : Nat) (state : State) : List Addr × State :=
  let popped := state.pool.popManyWith max
  (popped.2, { state with pool := popped.1 })

def drainTxCompletions (state : State) : Except Error Nat × State :=
  let outcome := given.drains state.drained
  (outcome.result,
    { pool := state.pool.reclaimAll outcome.landed, drained := state.drained + 1 })

/-- Drains before the allocation, when there is pressure. -/
def drainCompletionsIfTxPressure (pressure : Bool) : Except Error Nat × State :=
  if pressure then given.drainTxCompletions ⟨given.pool, 0⟩ else (.ok 0, ⟨given.pool, 0⟩)

/-- `allocate_tx_batch_inner`. -/
def allocateTxBatch (pressure : Bool) (max rounds : Nat) (out : List Addr) :
    Option (Allocated State) :=
  if max = 0 then
    some ⟨.ok 0, out, ⟨given.pool, 0⟩⟩
  else
    match given.drainCompletionsIfTxPressure pressure with
    | (.error kind, state) => some ⟨.error kind, out, state⟩
    | (.ok _, state) =>
      allocateLoop allocateMany given.drainTxCompletions max out.length rounds out false state

/-- The frames appended so far come from the pool and from the drains.  After a drain the
pool has the frames which that drain brought. -/
structure Holds (max : Nat) (start out : List Addr) (drainedAfterEmpty : Bool) (state : State) :
    Prop where
  appended : ∃ frames, out = start ++ frames ∧ frames.length ≤ max ∧
    state.pool.frames + ↑frames = given.pool.frames + given.landedFrames state.drained
  afterDrain : drainedAfterEmpty = true → ∃ last, state.drained = last + 1 ∧
    state.pool.frames = ↑(given.drains last).landed

/-- An allocation that succeeds has appended as many buffers as it says, with distinct
frames.  It has fewer than it should only when the pool is empty and the last drain brought
no frame to it. -/
def Exact (max : Nat) (start : List Addr) (ended : Allocated State) : Prop :=
  ∀ count, ended.result = .ok count → ∃ frames, ended.out = start ++ frames ∧
    frames.length = count ∧ frames.Nodup ∧ count ≤ max ∧
    (count < max → ended.state.pool.frames = 0 ∧
      ∃ last, ended.state.drained = last + 1 ∧ (given.drains last).landed = [])

variable {given} {max : Nat} {start : List Addr} {state : State}

theorem Holds.initial (pressure : Bool) :
    given.Holds max start start false (given.drainCompletionsIfTxPressure pressure).2 := by
  have frames : (given.drainCompletionsIfTxPressure pressure).2.pool.frames =
      given.pool.frames +
        given.landedFrames (given.drainCompletionsIfTxPressure pressure).2.drained := by
    cases pressure with
    | true =>
      change (given.pool.reclaimAll _).frames = _ + given.landedFrames (0 + 1)
      rw [FrameReclaim.frames_reclaimAll, landedFrames_succ, landedFrames, List.range_zero,
        List.map_nil, List.sum_nil, zero_add]
    | false => exact (add_zero _).symm
  constructor
  · refine ⟨[], (List.append_nil _).symm, Nat.zero_le _, ?_⟩
    rw [Multiset.coe_nil, add_zero, frames]
  · intro impossible
    cases impossible

theorem Holds.allocate (holds : given.Holds max start out drainedAfterEmpty state) :
    given.Holds max start
      (out ++ (allocateMany (max - (out.length - start.length)) state).1) false
      (allocateMany (max - (out.length - start.length)) state).2 := by
  obtain ⟨frames, rfl, le, total⟩ := holds.appended
  constructor
  · refine ⟨_, List.append_assoc _ _ _, ?_, ?_⟩
    · have few := state.pool.length_popManyWith_le
        (max - ((start ++ frames).length - start.length))
      rw [List.length_append] at few ⊢
      rw [List.length_append, allocateMany]
      dsimp only
      omega
    · rw [← Multiset.coe_add, ← add_assoc, add_right_comm]
      have popped := state.pool.frames_popManyWith
        (max - ((start ++ frames).length - start.length))
      exact (congrArg (· + (↑frames : Multiset Addr)) popped).trans total
  · intro impossible
    cases impossible

/-- An attempt that pops nothing finds the pool empty and leaves it so. -/
theorem Holds.allocate_nil (holds : given.Holds max start out drainedAfterEmpty state)
    {wanted : Nat} (some : 0 < wanted) (none : (allocateMany wanted state).1 = []) :
    given.Holds max start out drainedAfterEmpty (allocateMany wanted state).2 ∧
      (allocateMany wanted state).2.pool.frames = 0 := by
  have empty := state.pool.frames_eq_zero_of_popManyWith some none
  have popped := state.pool.frames_popManyWith wanted
  have same : (allocateMany wanted state).2.pool.frames = state.pool.frames := by
    rw [← popped]
    change (state.pool.popManyWith wanted).2 = [] at none
    rw [none, Multiset.coe_nil, add_zero]
    rfl
  refine ⟨⟨?_, ?_⟩, same.trans empty⟩
  · rw [same]
    exact holds.appended
  · rw [same]
    exact holds.afterDrain

theorem Holds.drain (holds : given.Holds max start out drainedAfterEmpty state)
    (empty : state.pool.frames = 0) :
    given.Holds max start out true (given.drainTxCompletions state).2 := by
  obtain ⟨frames, isOut, le, total⟩ := holds.appended
  constructor
  · refine ⟨frames, isOut, le, ?_⟩
    change (state.pool.reclaimAll _).frames + _ = _ + given.landedFrames (state.drained + 1)
    rw [FrameReclaim.frames_reclaimAll, landedFrames_succ, add_right_comm, total, add_assoc]
  · intro _
    refine ⟨state.drained, rfl, ?_⟩
    change (state.pool.reclaimAll _).frames = _
    rw [FrameReclaim.frames_reclaimAll, empty, zero_add]

/-- A drain of nothing brings no frame. -/
theorem drain_of_zero (empty : state.pool.frames = 0)
    (nothing : (given.drainTxCompletions state).1 = .ok 0) :
    (given.drainTxCompletions state).2.pool.frames = 0 ∧
      ∃ last, (given.drainTxCompletions state).2.drained = last + 1 ∧
        (given.drains last).landed = [] := by
  have landed : (given.drains state.drained).landed = [] :=
    List.eq_nil_of_length_eq_zero
      (Nat.le_zero.mp ((given.drains state.drained).landed_le 0 nothing))
  refine ⟨?_, state.drained, rfl, landed⟩
  change (state.pool.reclaimAll _).frames = 0
  rw [FrameReclaim.frames_reclaimAll, empty, zero_add, landed, Multiset.coe_nil]

/-- What is appended has distinct frames, as its frames had one owner each before. -/
theorem Holds.exact (holds : given.Holds max start out drainedAfterEmpty state)
    (short : out.length - start.length < max → state.pool.frames = 0 ∧
      ∃ last, state.drained = last + 1 ∧ (given.drains last).landed = []) :
    given.Exact max start ⟨.ok (out.length - start.length), out, state⟩ := by
  obtain ⟨frames, rfl, le, total⟩ := holds.appended
  have distinct : (state.pool.frames + (↑frames : Multiset Addr)).Nodup := by
    rw [total]
    exact given.distinct state.drained
  intro count isCount
  obtain rfl := Except.ok.inj isCount
  rw [List.length_append, Nat.add_sub_cancel_left] at short ⊢
  exact ⟨frames, rfl, rfl, Multiset.coe_nodup.mp (Multiset.nodup_add.mp distinct).2.1, le, short⟩

variable {ended : Allocated State}

theorem exact_of_error {kind : Error} (failed : ended.result = .error kind) :
    given.Exact max start ended := by
  intro count succeeded
  rw [failed] at succeeded
  cases succeeded

/-- The loop ends exactly, from every state that it can be in. -/
theorem Holds.allocateLoop (holds : given.Holds max start out drainedAfterEmpty state)
    (returned : allocateLoop allocateMany given.drainTxCompletions max start.length rounds out
      drainedAfterEmpty state = some ended) : given.Exact max start ended := by
  induction rounds generalizing out drainedAfterEmpty state with
  | zero =>
    rw [Xdp.allocateLoop] at returned
    split at returned
    · cases returned
    case isFalse full =>
      cases returned
      exact holds.exact fun short => absurd short full
  | succ rounds ih =>
    rw [Xdp.allocateLoop] at returned
    split at returned
    case isTrue more =>
      dsimp only at returned
      split at returned
      case isTrue => exact ih holds.allocate returned
      case isFalse none =>
        have isNil := List.eq_nil_of_length_eq_zero (Nat.eq_zero_of_not_pos none)
        obtain ⟨holds, empty⟩ := holds.allocate_nil (by omega) isNil
        have drained := holds.drain empty
        split at returned
        case isTrue after =>
          cases returned
          obtain ⟨last, isLast, landed⟩ := holds.afterDrain after
          rw [empty] at landed
          exact holds.exact fun _ => ⟨empty, last, isLast, (Multiset.coe_eq_zero _).mp landed.symm⟩
        case isFalse =>
          split at returned
          case h_1 kind target isDrain =>
            cases returned
            exact exact_of_error rfl
          case h_2 target isDrain =>
            cases returned
            have short := drain_of_zero empty (congrArg Prod.fst isDrain)
            rw [isDrain] at drained short
            exact drained.exact fun _ => short
          case h_3 count target isDrain =>
            rw [isDrain] at drained
            exact ih drained returned
    case isFalse full =>
      cases returned
      exact holds.exact fun short => absurd short full

end DrainedPool

end FastSocket.Xdp
