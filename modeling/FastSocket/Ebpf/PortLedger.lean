import FastSocket.Ebpf.BoundPorts

/-!
# Port references

The entries of the port array are exactly those of the ports in use, as long as the
write succeeds that takes back a failed bind.  The count of users of a port is the
number of binds that have succeeded less the number of unbinds that have taken effect,
whatever other map write fails.
-/

namespace FastSocket.Ebpf

open Packet Transition

namespace XdpProgram

variable (program : XdpProgram)

/-- The users of a port. -/
def refcount (port : Word) : Nat :=
  (program.boundPorts.lookup port).getD 0

/-- The program redirects UDP packets to a port. -/
def RedirectsPort (port : Word) : Prop :=
  program.maps.hasBoundPorts = true ∧ program.maps.isBoundPort port = true

/-- A bind succeeds if the port is in use already or its writes succeed. -/
def BindsPort (port : Word) (writes : PortWrites) : Prop :=
  0 < program.refcount port ∨ writes.port = true ∧ writes.count = true

/-- An unbind takes effect unless the port is not in use, or its entry had to be cleared
and could not be. -/
def UnbindsPort (port : Word) (writes : PortWrites) : Prop :=
  1 < program.refcount port ∨ program.refcount port = 1 ∧ writes.port = true

instance (port : Word) (writes : PortWrites) : Decidable (program.UnbindsPort port writes) :=
  inferInstanceAs (Decidable (_ ∨ _))

end XdpProgram

/-- A call of a user of the program, with the fate of its map writes. -/
inductive PortCall where
  | bindPort (port : Word) (writes : PortWrites)
  | unbindPort (port : Word) (writes : PortWrites)
deriving DecidableEq, Repr

def PortCall.writes : PortCall → PortWrites
  | .bindPort _ writes => writes
  | .unbindPort _ writes => writes

/-- A program with the numbers of calls for each port: binds that returned without an
error, and unbinds that took effect. -/
structure PortLedger where
  program : XdpProgram
  bound : Word → Nat
  unbound : Word → Nat

namespace PortLedger

def new (program : XdpProgram) : PortLedger :=
  { program := program, bound := fun _ => 0, unbound := fun _ => 0 }

/-- Counts one more call for a port. -/
def countCall (counts : Word → Nat) (port : Word) : Word → Nat :=
  Function.update counts port (counts port + 1)

def step (ledger : PortLedger) : PortCall → Option PortLedger
  | .bindPort port writes =>
    let called := ledger.program.bindPort port writes
    some { ledger with
      program := called.2
      bound := if called.1.toBool then countCall ledger.bound port else ledger.bound }
  | .unbindPort port writes =>
    some { ledger with
      program := (ledger.program.unbindPort port writes).2
      unbound := if ledger.program.UnbindsPort port writes then
        countCall ledger.unbound port else ledger.unbound }

end PortLedger

/-! ## The ways a call can go -/

namespace XdpProgram

variable {program : XdpProgram}

theorem bindPort_cases (isBoundPorts : program.config = .boundPorts) (port : Word)
    (writes : PortWrites) :
    let bound := program.boundPorts.insert port (program.refcount port + 1)
    (0 < program.refcount port ∧
      program.bindPort port writes = (.ok (), { program with boundPorts := bound })) ∨
    (program.refcount port = 0 ∧
      program.bindPort port writes =
        (.ok (), { program with
          maps := (program.maps.setBoundPort port 1).setBoundPortCount
            (BitVec.ofNat 32 (program.boundPorts.keys.length + 1))
          boundPorts := bound })) ∨
    program.refcount port = 0 ∧
      (program.bindPort port writes = (.error .mapWrite, program) ∨
        program.bindPort port writes =
          (.error .mapWrite, { program with
            maps := if writes.undo then (program.maps.setBoundPort port 1).setBoundPort port 0
              else program.maps.setBoundPort port 1 })) := by
  fun_cases bindPort program port writes with
  | case1 other => exact absurd isBoundPorts other
  | case2 _ refcount bound unused => exact .inr (.inl ⟨unused, rfl⟩)
  | case3 _ refcount unused => exact .inr (.inr ⟨unused, .inr rfl⟩)
  | case4 _ refcount unused => exact .inr (.inr ⟨unused, .inl rfl⟩)
  | case5 _ refcount bound used => exact .inl ⟨Nat.pos_of_ne_zero used, rfl⟩

theorem unbindPort_cases (isBoundPorts : program.config = .boundPorts)
    (used : ∀ port refcount, program.boundPorts.lookup port = some refcount → 0 < refcount)
    (port : Word) (writes : PortWrites) :
    let target := (program.unbindPort port writes).2
    (1 < program.refcount port ∧
      target = { program with
        boundPorts := program.boundPorts.insert port (program.refcount port - 1) }) ∨
    (program.refcount port = 1 ∧ writes.port = true ∧ target.config = program.config ∧
      target.maps.boundPorts = (program.maps.setBoundPort port 0).boundPorts ∧
      target.boundPorts = program.boundPorts.erase port) ∨
    ¬ program.UnbindsPort port writes ∧ target = program := by
  have last : ∀ refcount, program.boundPorts.lookup port = some refcount → ¬ refcount > 1 →
      program.refcount port = 1 := by
    intro refcount found single
    have positive := used port refcount found
    rw [XdpProgram.refcount, found, Option.getD_some]
    omega
  fun_cases unbindPort program port writes with
  | case1 other => exact absurd isBoundPorts other
  | case2 _ absent =>
    refine .inr (.inr ⟨?_, rfl⟩)
    rw [UnbindsPort, refcount, absent]
    simp
  | case3 _ refcount found several =>
    left
    rw [XdpProgram.refcount, found]
    exact ⟨several, rfl⟩
  | case4 _ refcount found single cleared =>
    exact .inr (.inl ⟨last refcount found single, cleared, rfl, rfl, rfl⟩)
  | case5 _ refcount found single cleared =>
    exact .inr (.inl ⟨last refcount found single, cleared, rfl, rfl, rfl⟩)
  | case6 _ refcount found single kept =>
    refine .inr (.inr ⟨?_, rfl⟩)
    rw [UnbindsPort, last refcount found single]
    simp [kept]

end XdpProgram

/-! ## What calls keep -/

namespace XdpProgram

variable {program : XdpProgram}

theorem refcount_pos_iff (wellFormed : program.WellFormed) (port : Word) :
    0 < program.refcount port ↔ port ∈ program.boundPorts := by
  constructor
  · intro positive
    by_contra absent
    rw [refcount, AList.lookup_eq_none.mpr absent] at positive
    exact Nat.lt_irrefl 0 positive
  · intro member
    by_contra unused
    exact wellFormed.not_mem_of_refcount (Nat.eq_zero_of_not_pos unused) member

/-- The users of the ports after a port has got a count. -/
theorem lookup_insert_eq_update (bound : AList fun _ : Word => Nat) (port : Word) (count : Nat) :
    (fun other => ((bound.insert port count).lookup other).getD 0) =
      Function.update (fun other => (bound.lookup other).getD 0) port count := by
  funext other
  by_cases same : other = port
  · subst same
    rw [AList.lookup_insert, Function.update_self]
    rfl
  · rw [AList.lookup_insert_ne same, Function.update_of_ne same]

theorem lookup_erase_eq_update (bound : AList fun _ : Word => Nat) (port : Word) :
    (fun other => ((bound.erase port).lookup other).getD 0) =
      Function.update (fun other => (bound.lookup other).getD 0) port 0 := by
  funext other
  by_cases same : other = port
  · subst same
    rw [AList.lookup_erase, Function.update_self]
    rfl
  · rw [AList.lookup_erase_ne same, Function.update_of_ne same]

/-- A bind adds a user to its port exactly when it succeeds. -/
theorem refcount_bindPort (isBoundPorts : program.config = .boundPorts) (port : Word)
    (writes : PortWrites) :
    (program.bindPort port writes).2.refcount =
      if (program.bindPort port writes).1.toBool then
        PortLedger.countCall program.refcount port
      else
        program.refcount := by
  rcases bindPort_cases isBoundPorts port writes with
    ⟨_, bound⟩ | ⟨_, bound⟩ | ⟨_, refused | refused⟩
  · rw [bound]
    exact lookup_insert_eq_update _ _ _
  · rw [bound]
    exact lookup_insert_eq_update _ _ _
  · rw [refused]
    rfl
  · rw [refused]
    rfl

/-- A bind succeeds exactly if the port is in use or its writes succeed. -/
theorem bindPort_eq_ok_iff (isBoundPorts : program.config = .boundPorts) (port : Word)
    (writes : PortWrites) :
    (program.bindPort port writes).1 = .ok () ↔ program.BindsPort port writes := by
  fun_cases bindPort program port writes with
  | case1 other => exact absurd isBoundPorts other
  | case2 _ refcount bound unused wrotePort maps wroteCount =>
    exact iff_of_true rfl (.inr ⟨wrotePort, wroteCount⟩)
  | case3 _ refcount unused wrotePort maps failed =>
    exact iff_of_false nofun (·.elim (·.ne' unused) (failed ·.2))
  | case4 _ refcount unused failed =>
    exact iff_of_false nofun (·.elim (·.ne' unused) (failed ·.1))
  | case5 _ refcount bound used => exact iff_of_true rfl (.inl (Nat.pos_of_ne_zero used))

/-- A bind keeps the configuration, and one that fails keeps the ports in use. -/
theorem bindPort_keeps (program : XdpProgram) (port : Word) (writes : PortWrites) :
    (program.bindPort port writes).2.config = program.config ∧
      ((program.bindPort port writes).1 ≠ .ok () →
        (program.bindPort port writes).2.boundPorts = program.boundPorts) := by
  fun_cases bindPort program port writes with
  | case1 => exact ⟨rfl, fun _ => rfl⟩
  | case2 => exact ⟨rfl, fun fails => absurd rfl fails⟩
  | case3 => exact ⟨rfl, fun _ => rfl⟩
  | case4 => exact ⟨rfl, fun _ => rfl⟩
  | case5 => exact ⟨rfl, fun fails => absurd rfl fails⟩

/-- An unbind removes a user from its port exactly when it takes effect. -/
theorem refcount_unbindPort (isBoundPorts : program.config = .boundPorts)
    (used : ∀ port refcount, program.boundPorts.lookup port = some refcount → 0 < refcount)
    (port : Word) (writes : PortWrites) :
    program.refcount =
      if program.UnbindsPort port writes then
        PortLedger.countCall (program.unbindPort port writes).2.refcount port
      else
        (program.unbindPort port writes).2.refcount := by
  rcases unbindPort_cases isBoundPorts used port writes with
    ⟨several, target⟩ | ⟨single, cleared, _, _, bound⟩ | ⟨noEffect, target⟩
  · have reduced : (program.unbindPort port writes).2.refcount =
        Function.update program.refcount port (program.refcount port - 1) := by
      rw [target]
      exact lookup_insert_eq_update _ _ _
    rw [if_pos (.inl several), PortLedger.countCall, reduced, Function.update_idem,
      Function.update_self, Nat.sub_add_cancel (Nat.le_of_lt several), Function.update_eq_self]
  · have reduced : (program.unbindPort port writes).2.refcount =
        Function.update program.refcount port 0 := by
      refine Eq.trans ?_ (lookup_erase_eq_update program.boundPorts port)
      rw [← bound]
      rfl
    rw [if_pos (.inr ⟨single, cleared⟩), PortLedger.countCall, reduced, Function.update_idem,
      Function.update_self, Nat.zero_add, ← single, Function.update_eq_self]
  · rw [if_neg noEffect, target]

/-- The program has the port array, and its entries are set for the ports in use only. -/
structure Exact (program : XdpProgram) : Prop where
  config : program.config = .boundPorts
  wellFormed : program.WellFormed
  only : ∀ port, program.maps.isBoundPort port = true → port ∈ program.boundPorts

theorem Exact.redirectsPort_iff (exact : program.Exact) (port : Word) :
    program.RedirectsPort port ↔ 0 < program.refcount port := by
  rw [refcount_pos_iff exact.wellFormed]
  constructor
  · exact fun redirects => exact.only port redirects.2
  · exact fun member => (exact.wellFormed.bound port member).symm

variable {maps : Maps} {bound : AList fun _ : Word => Nat}

/-- Setting the entry of a port that is then in use. -/
theorem only_setBoundPort (only : ∀ port, maps.isBoundPort port = true → port ∈ bound) (port : Word)
    (enabled : Byte) (count : Nat) (other : Word)
    (set : (maps.setBoundPort port enabled).isBoundPort other = true) :
    other ∈ bound.insert port count := by
  rw [AList.mem_insert]
  by_cases same : other = port
  · exact .inl same
  · rw [Maps.isBoundPort_setBoundPort_ne same] at set
    exact .inr (only other set)

/-- Clearing the entry of a port. -/
theorem only_clearBoundPort (length : maps.boundPorts.length = boundPortsLen) {port other : Word}
    (only : other ≠ port → maps.isBoundPort other = true → other ∈ bound)
    (set : (maps.setBoundPort port 0).isBoundPort other = true) : other ≠ port ∧ other ∈ bound := by
  by_cases same : other = port
  · rw [same, Maps.isBoundPort_setBoundPort_self length] at set
    cases set
  · rw [Maps.isBoundPort_setBoundPort_ne same] at set
    exact ⟨same, only same set⟩

theorem Exact.bindPort (exact : program.Exact) (port : Word) {writes : PortWrites}
    (undone : writes.undo = true) : (program.bindPort port writes).2.Exact := by
  have wellFormed := exact.wellFormed.bindPort port writes
  rcases bindPort_cases exact.config port writes with
    ⟨_, bound⟩ | ⟨_, bound⟩ | ⟨_, refused | refused⟩
  · rw [bound] at wellFormed ⊢
    refine ⟨exact.config, wellFormed, ?_⟩
    exact fun other set => (AList.mem_insert _).mpr (.inr (exact.only other set))
  · rw [bound] at wellFormed ⊢
    exact ⟨exact.config, wellFormed, only_setBoundPort exact.only port 1 _⟩
  · rw [refused]
    exact exact
  · rw [refused, undone, if_pos rfl] at wellFormed ⊢
    refine ⟨exact.config, wellFormed, ?_⟩
    intro other set
    refine (only_clearBoundPort (List.length_set.trans exact.wellFormed.ports) ?_ set).2
    intro differs set
    rw [Maps.isBoundPort_setBoundPort_ne differs] at set
    exact exact.only other set

theorem Exact.unbindPort (exact : program.Exact) (port : Word) (writes : PortWrites) :
    (program.unbindPort port writes).2.Exact := by
  have wellFormed := exact.wellFormed.unbindPort port writes
  rcases unbindPort_cases exact.config exact.wellFormed.used port writes with
    ⟨_, target⟩ | ⟨_, _, config, entries, bound⟩ | ⟨_, target⟩
  · rw [target] at wellFormed ⊢
    refine ⟨exact.config, wellFormed, ?_⟩
    exact fun other set => (AList.mem_insert _).mpr (.inr (exact.only other set))
  · refine ⟨config.trans exact.config, wellFormed, ?_⟩
    intro other set
    rw [Maps.isBoundPort, entries] at set
    rw [bound, AList.mem_erase]
    exact only_clearBoundPort exact.wellFormed.ports (fun _ => exact.only other) set
  · rw [target]
    exact exact

end XdpProgram

/-- The entries are exact, and the users of each port are balanced by the calls. -/
structure PortLedger.Balanced (ledger : PortLedger) : Prop where
  exact : ledger.program.Exact
  balance : ∀ port, ledger.program.refcount port + ledger.unbound port = ledger.bound port

namespace PortLedger

theorem countCall_apply (counts : Word → Nat) (port other : Word) :
    countCall counts port other = counts other + if other = port then 1 else 0 := by
  by_cases same : other = port
  · subst same
    rw [countCall, Function.update_self, if_pos rfl]
  · rw [countCall, Function.update_of_ne same, if_neg same, Nat.add_zero]

variable {ledger target : PortLedger}

theorem Balanced.new {program : XdpProgram}
    (loaded : XdpProgram.loadAndAttach .boundPorts = .ok program) :
    (PortLedger.new program).Balanced := by
  have wellFormed := XdpProgram.wellFormed_loadAndAttach loaded
  cases loaded
  refine ⟨⟨rfl, wellFormed, ?_⟩, fun _ => rfl⟩
  intro port set
  have inside : port.toNat < boundPortsLen := port.isLt
  have clear : Maps.zeroed.isBoundPort port = false := by
    simp only [Maps.isBoundPort, Maps.zeroed, List.getElem?_replicate, if_pos inside]
    rfl
  cases clear.symm.trans set

theorem Balanced.step (balanced : ledger.Balanced) {call : PortCall}
    (undone : call.writes.undo = true) (taken : ledger.step call = some target) :
    target.Balanced := by
  cases call with
  | bindPort port writes =>
    simp only [PortLedger.step, Option.some.injEq] at taken
    subst taken
    refine ⟨balanced.exact.bindPort port undone, ?_⟩
    intro other
    have balance := balanced.balance other
    dsimp only
    rw [XdpProgram.refcount_bindPort balanced.exact.config port writes]
    split
    · rw [countCall_apply, countCall_apply]
      omega
    · exact balance
  | unbindPort port writes =>
    simp only [PortLedger.step, Option.some.injEq] at taken
    subst taken
    refine ⟨balanced.exact.unbindPort port writes, ?_⟩
    intro other
    have balance := balanced.balance other
    rw [XdpProgram.refcount_unbindPort balanced.exact.config balanced.exact.wellFormed.used port
      writes] at balance
    dsimp only
    split at balance
    case isTrue effect =>
      rw [countCall_apply] at balance
      rw [if_pos effect, countCall_apply]
      omega
    case isFalse noEffect =>
      rw [if_neg noEffect]
      exact balance

end PortLedger

/-- After every sequence of binds and unbinds, whatever map write fails but the one that
takes back a bind, the program redirects exactly the ports in use, and the users of a
port are the successful binds less the unbinds that took effect. -/
theorem redirects_iff_bound {program : XdpProgram} {calls : List PortCall} {ledger : PortLedger}
    (loaded : XdpProgram.loadAndAttach .boundPorts = .ok program)
    (undone : ∀ call ∈ calls, call.writes.undo = true)
    (reached : run PortLedger.step (.new program) calls = some ledger) (port : Word) :
    (ledger.program.RedirectsPort port ↔ 0 < ledger.program.refcount port) ∧
      ledger.program.refcount port + ledger.unbound port = ledger.bound port := by
  have meets : StepsMeet PortLedger.step (fun _ call => call.writes.undo = true) (.new program)
      calls := .of_forall fun call member _ => undone call member
  have balanced : ledger.Balanced := run_invariant
    (fun _ _ _ before undone taken => before.step undone taken) (.new loaded) reached meets
  exact ⟨balanced.exact.redirectsPort_iff port, balanced.balance port⟩

/-- A bind whose count cannot be written is taken back, and an unbind whose count cannot
be written takes effect. -/
def failingCounts : List PortCall :=
  [.bindPort 53#16 ⟨true, false, true⟩, .bindPort 80#16 ⟨true, true, true⟩,
    .bindPort 53#16 ⟨true, true, true⟩, .unbindPort 80#16 ⟨true, false, true⟩]

theorem redirects_iff_bound_failingCounts :
    ∃ ledger, run PortLedger.step (.new ⟨.boundPorts, .zeroed, ∅⟩) failingCounts = some ledger ∧
      (ledger.program.RedirectsPort 80#16 ↔ 0 < ledger.program.refcount 80#16) ∧
      ledger.program.refcount 80#16 + ledger.unbound 80#16 = ledger.bound 80#16 := by
  have undone : ∀ call ∈ failingCounts, call.writes.undo = true := by decide
  exact ⟨_, rfl, redirects_iff_bound rfl undone rfl 80#16⟩

end FastSocket.Ebpf
