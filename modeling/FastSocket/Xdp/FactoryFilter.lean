import FastSocket.Ebpf.PortLedger
import FastSocket.Xdp.Factory

/-!
# Handles and filters of a factory

What each phase of a build does to the program of an interface: the first takes a
handle, the second binds ports one program after the other, and an error drops the
handles again.
-/

namespace FastSocket.Xdp

open Ebpf Packet Sorting Transition

/-! ## Binding one program -/

/-- Every port of a list can be bound: it is in use, it has been bound just before, or its
writes succeed. -/
def BindsPorts (counts : Word → Nat) (writes : Nat → PortWrites) (ports : List Word) : Prop :=
  ∀ position port, ports[position]? = some port →
    0 < counts port ∨ port ∈ ports.take position ∨
      (writes position).port = true ∧ (writes position).count = true

variable {port : Word}

theorem bindsPorts_cons {counts : Word → Nat} {writes : Nat → PortWrites} {rest : List Word} :
    BindsPorts counts writes (port :: rest) ↔
      (0 < counts port ∨ (writes 0).port = true ∧ (writes 0).count = true) ∧
      BindsPorts (PortLedger.countCall counts port) (fun position => writes (position + 1)) rest := by
  have counted : ∀ other, 0 < PortLedger.countCall counts port other ↔
      other = port ∨ 0 < counts other := by
    intro other
    rw [PortLedger.countCall, Function.update_apply]
    split
    case isTrue same => exact iff_of_true (Nat.succ_pos _) (.inl same)
    case isFalse differs => rw [or_iff_right differs]
  constructor
  · intro binds
    constructor
    · exact (binds 0 port rfl).imp_right (·.resolve_left List.not_mem_nil)
    · intro position other isOther
      rw [counted, or_right_comm, or_assoc]
      have later := binds (position + 1) other isOther
      rw [List.take_succ_cons, List.mem_cons] at later
      tauto
  · rintro ⟨first, others⟩ position other isOther
    cases position with
    | zero =>
      cases isOther
      exact first.imp_right .inr
    | succ position =>
      have later := others position other isOther
      rw [counted] at later
      rw [List.take_succ_cons, List.mem_cons]
      tauto

namespace XdpFactoryBuilder

section Program

variable {program : XdpProgram} {writes : Nat → PortWrites}

/-- The ways the first bind can go. -/
theorem bindPorts_cons (isBoundPorts : program.config = .boundPorts) (port : Word)
    (rest : List Word) :
    (∃ next, program.BindsPort port (writes 0) ∧ next.config = .boundPorts ∧
      next.refcount = PortLedger.countCall program.refcount port ∧
      bindPorts writes (port :: rest) program =
        bindPorts (fun position => writes (position + 1)) rest next) ∨
    ∃ next error, ¬ program.BindsPort port (writes 0) ∧ next.config = .boundPorts ∧
      next.boundPorts = program.boundPorts ∧
      bindPorts writes (port :: rest) program = (.error error, next) := by
  obtain ⟨config, kept⟩ := program.bindPort_keeps port (writes 0)
  have bound := program.bindPort_eq_ok_iff isBoundPorts port (writes 0)
  have counted := program.refcount_bindPort isBoundPorts port (writes 0)
  rw [bindPorts]
  generalize program.bindPort port (writes 0) = called at config kept bound counted ⊢
  obtain ⟨error | _, next⟩ := called
  · exact .inr ⟨next, error, mt bound.mpr nofun, config.trans isBoundPorts, kept nofun, rfl⟩
  · exact .inl ⟨next, bound.mp rfl, config.trans isBoundPorts, counted, rfl⟩

theorem bindPorts_eq_ok_iff (isBoundPorts : program.config = .boundPorts) (ports : List Word) :
    (bindPorts writes ports program).1 = .ok () ↔ BindsPorts program.refcount writes ports := by
  induction ports generalizing writes program with
  | nil => exact iff_of_true rfl nofun
  | cons port rest ih =>
    rw [bindsPorts_cons]
    rcases bindPorts_cons isBoundPorts port rest with
      ⟨next, binds, config, counted, isNext⟩ | ⟨next, error, refused, _, _, isNext⟩
    · rw [isNext, ih config, counted]
      exact (and_iff_right binds).symm
    · rw [isNext]
      exact iff_of_false nofun fun binds => refused binds.1

/-- Binds only add users. -/
theorem refcount_le_bindPorts (isBoundPorts : program.config = .boundPorts) (ports : List Word)
    (port : Word) :
    program.refcount port ≤ (bindPorts writes ports program).2.refcount port := by
  induction ports generalizing writes program with
  | nil => exact Nat.le_refl _
  | cons first rest ih =>
    rcases bindPorts_cons isBoundPorts first rest with
      ⟨next, _, config, counted, isNext⟩ | ⟨next, error, _, _, kept, isNext⟩
    · rw [isNext]
      refine Nat.le_trans ?_ (ih config)
      rw [counted, PortLedger.countCall_apply]
      exact Nat.le_add_right _ _
    · rw [isNext, XdpProgram.refcount, XdpProgram.refcount, kept]

/-- A first port that is bound has one more user at the end. -/
theorem refcount_lt_bindPorts (isBoundPorts : program.config = .boundPorts) (rest : List Word)
    (binds : program.BindsPort port (writes 0)) :
    program.refcount port < (bindPorts writes (port :: rest) program).2.refcount port := by
  rcases bindPorts_cons isBoundPorts port rest with
    ⟨next, _, config, counted, isNext⟩ | ⟨_, _, refused, _⟩
  · have added : next.refcount port = program.refcount port + 1 := by
      rw [counted, PortLedger.countCall, Function.update_self]
    rw [isNext, Nat.lt_iff_add_one_le, ← added]
    exact refcount_le_bindPorts config rest port
  · exact absurd binds refused

/-- If the first bind fails, the ports in use stay as they were. -/
theorem boundPorts_bindPorts (isBoundPorts : program.config = .boundPorts) (rest : List Word)
    (refused : ¬ program.BindsPort port (writes 0)) :
    (bindPorts writes (port :: rest) program).2.config = .boundPorts ∧
      (bindPorts writes (port :: rest) program).2.boundPorts = program.boundPorts := by
  rcases bindPorts_cons isBoundPorts port rest with
    ⟨_, binds, _⟩ | ⟨next, _, _, config, kept, isNext⟩
  · exact absurd binds refused
  · rw [isNext]
    exact ⟨config, kept⟩

end Program

/-! ## Binding all programs -/

section Programs

variable {host : FactoryHost} {ports : List Word} {programs : List IfIndex} {registry : Registry}

/-- The program of an interface after the ports of the filter. -/
def bindAttached (host : FactoryHost) (ports : List Word) (ifindex : IfIndex)
    (attached : AttachedProgram) : AttachedProgram :=
  { attached with program := (bindPorts (host.portWrites ifindex) ports attached.program).2 }

/-- The ports of the filter can all be bound in the program of an interface. -/
def BindsAt (host : FactoryHost) (ports : List Word) (registry : Registry)
    (ifindex : IfIndex) : Prop :=
  ∀ attached, registry.lookup ifindex = some attached →
    (bindPorts (host.portWrites ifindex) ports attached.program).1 = .ok ()

/-- What the second phase does to the program of each interface, with the interfaces in
order: it reaches a program exactly when all programs before it take all ports. -/
structure BindsInOrder (host : FactoryHost) (ports : List Word) (programs : List IfIndex)
    (registry : Registry) (result : Except FactoryError Unit × Registry) : Prop where
  succeeds : result.1 = .ok () ↔ ∀ ifindex ∈ programs, BindsAt host ports registry ifindex
  others : ∀ ifindex, ifindex ∉ programs → result.2.lookup ifindex = registry.lookup ifindex
  reached : ∀ ifindex ∈ programs,
    (∀ earlier ∈ programs, earlier < ifindex → BindsAt host ports registry earlier) →
    result.2.lookup ifindex = (registry.lookup ifindex).map (bindAttached host ports ifindex)
  unreached : ∀ ifindex, (∃ earlier ∈ programs, earlier < ifindex ∧
    ¬ BindsAt host ports registry earlier) → result.2.lookup ifindex = registry.lookup ifindex

section Cons

variable {first : IfIndex} {rest : List IfIndex} {next : Registry}
  {result : Except FactoryError Unit × Registry}

/-- The first program takes all ports. -/
theorem BindsInOrder.cons (before : ∀ later ∈ rest, first < later)
    (agrees : ∀ ifindex, ifindex ≠ first → next.lookup ifindex = registry.lookup ifindex)
    (bound : next.lookup first = (registry.lookup first).map (bindAttached host ports first))
    (binds : BindsAt host ports registry first)
    (later : BindsInOrder host ports rest next result) :
    BindsInOrder host ports (first :: rest) registry result := by
  have bindsAt : ∀ ifindex ∈ rest,
      BindsAt host ports next ifindex ↔ BindsAt host ports registry ifindex := by
    intro ifindex isLater
    rw [BindsAt, BindsAt, agrees ifindex (before ifindex isLater).ne']
  constructor
  · rw [later.succeeds, List.forall_mem_cons, and_iff_right binds]
    exact forall₂_congr bindsAt
  · intro ifindex outside
    rw [List.mem_cons, not_or] at outside
    exact (later.others ifindex outside.2).trans (agrees ifindex outside.1)
  · intro ifindex member earlierBind
    rcases List.mem_cons.mp member with rfl | isLater
    · exact (later.others ifindex fun isLater => (before ifindex isLater).false).trans bound
    · rw [later.reached ifindex isLater, agrees ifindex (before ifindex isLater).ne']
      intro earlier isEarlier less
      exact (bindsAt earlier isEarlier).mpr
        (earlierBind earlier (List.mem_cons_of_mem _ isEarlier) less)
  · rintro ifindex ⟨earlier, member, less, refused⟩
    rcases List.mem_cons.mp member with rfl | isLater
    · exact absurd binds refused
    · rw [later.unreached ifindex ⟨earlier, isLater, less, mt (bindsAt earlier isLater).mp refused⟩]
      exact agrees ifindex ((before earlier isLater).trans less).ne'

/-- The first program refuses a port. -/
theorem BindsInOrder.stop (before : ∀ later ∈ rest, first < later)
    (agrees : ∀ ifindex, ifindex ≠ first → next.lookup ifindex = registry.lookup ifindex)
    (bound : next.lookup first = (registry.lookup first).map (bindAttached host ports first))
    (refused : ¬ BindsAt host ports registry first) (error : FactoryError) :
    BindsInOrder host ports (first :: rest) registry (.error error, next) := by
  constructor
  · exact iff_of_false nofun fun binds => refused (binds first List.mem_cons_self)
  · exact fun ifindex outside => agrees ifindex (List.ne_of_not_mem_cons outside)
  · intro ifindex member earlierBind
    rcases List.mem_cons.mp member with rfl | isLater
    · exact bound
    · exact absurd (earlierBind first List.mem_cons_self (before ifindex isLater)) refused
  · rintro ifindex ⟨earlier, member, less, _⟩
    rcases List.mem_cons.mp member with rfl | isLater
    · exact agrees ifindex less.ne'
    · exact agrees ifindex ((before earlier isLater).trans less).ne'

end Cons

theorem bindsInOrder_bindPrograms (ordered : programs.Pairwise (· < ·)) :
    BindsInOrder host ports programs registry (bindPrograms host ports programs registry) := by
  induction programs generalizing registry with
  | nil => exact ⟨iff_of_true rfl nofun, fun _ _ => rfl, nofun, fun _ _ => rfl⟩
  | cons first rest ih =>
    obtain ⟨before, restOrdered⟩ := List.pairwise_cons.mp ordered
    rw [bindPrograms]
    cases found : registry.lookup first with
    | none =>
      refine .cons before (fun _ _ => rfl) ?_ ?_ (ih restOrdered)
      · rw [found]
        rfl
      · intro attached isAttached
        cases found.symm.trans isAttached
    | some attached =>
      have agrees : ∀ ifindex, ifindex ≠ first →
          (registry.insert first (bindAttached host ports first attached)).lookup ifindex =
            registry.lookup ifindex := fun ifindex differs => AList.lookup_insert_ne differs
      have bound : (registry.insert first (bindAttached host ports first attached)).lookup first =
          (registry.lookup first).map (bindAttached host ports first) := by
        rw [AList.lookup_insert, found]
        rfl
      have bindsAt : BindsAt host ports registry first ↔
          (bindPorts (host.portWrites first) ports attached.program).1 = .ok () := by
        rw [BindsAt, found]
        exact ⟨fun binds => binds attached rfl, by rintro binds _ ⟨⟩; exact binds⟩
      dsimp only
      split
      case h_1 error isError =>
        exact .stop before agrees bound (mt bindsAt.mp (isError ▸ nofun)) _
      case h_2 isOk => exact .cons before agrees bound (bindsAt.mpr isOk) (ih restOrdered)

end Programs

/-! ## Handles -/

section Handles

variable {host : FactoryHost} {builder : XdpFactoryBuilder} {config : XdpProgramConfig}
  {programs : List IfIndex} {registry loaded : Registry}

/-- The program of the factory can be taken on an interface. -/
def LoadsAt (host : FactoryHost) (builder : XdpFactoryBuilder) (registry : Registry)
    (ifindex : IfIndex) : Prop :=
  Registry.Loads (registry.lookup ifindex) builder.attachMode builder.portFilter.programConfig
    host.programHash (host.attaches ifindex)

/-- The factory holds one more handle of the program of each interface in a list. -/
structure Holds (registry : Registry) (config : XdpProgramConfig) (programs : List IfIndex)
    (loaded : Registry) : Prop where
  ordered : programs.Pairwise (· < ·)
  others : ∀ ifindex, ifindex ∉ programs → loaded.lookup ifindex = registry.lookup ifindex
  handles : ∀ ifindex ∈ programs, ∃ handle, loaded.lookup ifindex = some handle ∧
    Registry.IsHandle (registry.lookup ifindex) config handle

theorem Holds.nil (registry : Registry) (config : XdpProgramConfig) :
    Holds registry config [] registry :=
  ⟨.nil, fun _ _ => rfl, nofun⟩

variable {ifindex : IfIndex}

theorem Holds.insert (holds : Holds registry config programs loaded) (absent : ifindex ∉ programs)
    {handle : AttachedProgram}
    (isHandle : Registry.IsHandle (loaded.lookup ifindex) config handle) :
    Holds registry config (programs.orderedInsert (· ≤ ·) ifindex)
      (loaded.insert ifindex handle) := by
  constructor
  · have sorted := List.Pairwise.orderedInsert ifindex programs (holds.ordered.imp Nat.le_of_lt)
    have distinct : (programs.orderedInsert (· ≤ ·) ifindex).Nodup :=
      (List.perm_orderedInsert _ ifindex programs).nodup_iff.mpr
        (List.nodup_cons.mpr ⟨absent, holds.ordered.imp fun less => less.ne⟩)
    exact (sorted.and distinct).imp fun ⟨le, ne⟩ => Nat.lt_of_le_of_ne le ne
  · intro other outside
    rw [List.mem_orderedInsert, not_or] at outside
    rw [AList.lookup_insert_ne outside.1, holds.others other outside.2]
  · intro other member
    rcases (List.mem_orderedInsert _).mp member with rfl | earlier
    · rw [holds.others other absent] at isHandle
      exact ⟨handle, AList.lookup_insert loaded, isHandle⟩
    · rw [AList.lookup_insert_ne (ne_of_mem_of_not_mem earlier absent)]
      exact holds.handles other earlier

/-- The first phase succeeds exactly if each claimed interface can take the program, and
it then holds handles of these interfaces. -/
theorem Holds.loadPrograms (valid : builder.portFilter.programConfig.validate =
      .ok builder.portFilter.programConfig)
    {claimed : List XdpQueueSlot} {result : Except FactoryError Unit} {held : List IfIndex}
    {target : Registry} (holds : Holds registry builder.portFilter.programConfig programs loaded)
    (done : builder.loadPrograms host claimed programs loaded = (result, held, target)) :
    Holds registry builder.portFilter.programConfig held target ∧
      (result = .ok () → ∀ ifindex, ifindex ∈ held ↔
        ifindex ∈ programs ∨ ∃ slot ∈ claimed, slot.ifindex = ifindex) ∧
      (result = .ok () ↔ ∀ slot ∈ claimed, slot.ifindex ∈ programs ∨
        builder.LoadsAt host registry slot.ifindex) := by
  induction claimed generalizing programs loaded with
  | nil =>
    cases done
    exact ⟨holds, fun _ ifindex => by simp, iff_of_true rfl nofun⟩
  | cons slot rest ih =>
    rw [XdpFactoryBuilder.loadPrograms] at done
    split at done
    case isTrue already =>
      obtain ⟨held, members, succeeds⟩ := ih holds done
      refine ⟨held, fun isOk ifindex => ?_, ?_⟩
      · rw [members isOk, List.exists_mem_cons_iff, ← or_assoc]
        have same : slot.ifindex = ifindex → ifindex ∈ programs := fun same => same ▸ already
        rw [or_iff_left_of_imp same]
      · rw [succeeds, List.forall_mem_cons, and_iff_right (.inl already)]
    case isFalse absent =>
      have loadsAt : builder.LoadsAt host loaded slot.ifindex ↔
          builder.LoadsAt host registry slot.ifindex := by
        rw [LoadsAt, LoadsAt, holds.others _ absent]
      rcases loaded.getOrLoadWithConfig_cases valid slot.ifindex builder.attachMode
          host.programHash (host.attaches slot.ifindex) with
        ⟨refused, error, isLoad⟩ | ⟨loads, handle, isHandle, isLoad⟩
      · rw [isLoad] at done
        cases done
        refine ⟨holds, nofun, iff_of_false nofun fun all => ?_⟩
        exact refused (loadsAt.mpr ((all slot List.mem_cons_self).resolve_left absent))
      · rw [isLoad] at done
        obtain ⟨held, members, succeeds⟩ := ih (holds.insert absent isHandle) done
        refine ⟨held, fun isOk ifindex => ?_, ?_⟩
        · rw [members isOk, List.mem_orderedInsert, List.exists_mem_cons_iff, or_assoc,
            or_left_comm, @eq_comm _ ifindex]
        · rw [succeeds, List.forall_mem_cons, and_iff_right (.inr (loadsAt.mp loads))]
          refine forall₂_congr fun other _ => ?_
          rw [List.mem_orderedInsert, or_assoc, or_iff_right_of_imp]
          exact fun same => .inr (same ▸ loadsAt.mp loads)

theorem lookup_releaseAll_of_not_mem (outside : ifindex ∉ programs) :
    (releaseAll programs loaded).lookup ifindex = loaded.lookup ifindex := by
  induction programs generalizing loaded with
  | nil => rfl
  | cons first rest ih =>
    rw [List.mem_cons, not_or] at outside
    exact (ih outside.2).trans (loaded.lookup_release_ne outside.1)

/-- Dropping a handle leaves the program with its other users. -/
theorem lookup_releaseAll_of_mem (ordered : programs.Pairwise (· < ·)) (member : ifindex ∈ programs)
    {attached : AttachedProgram} (found : loaded.lookup ifindex = some attached.acquire) :
    (releaseAll programs loaded).lookup ifindex = some attached := by
  induction programs generalizing loaded with
  | nil => cases member
  | cons first rest ih =>
    obtain ⟨before, restOrdered⟩ := List.pairwise_cons.mp ordered
    rcases List.mem_cons.mp member with rfl | later
    · have outside : ifindex ∉ rest := fun again => (before ifindex again).false
      exact (lookup_releaseAll_of_not_mem outside).trans (loaded.lookup_release found)
    · apply ih restOrdered later
      rw [loaded.lookup_release_ne (before ifindex later).ne', found]

end Handles

end XdpFactoryBuilder

end FastSocket.Xdp
