import FastSocket.Ebpf.Program

/-!
# Attached programs

A process keeps one program for each interface in a registry.  Users of an interface
share its program; the last one to release it detaches it.
-/

namespace FastSocket.Ebpf

inductive AttachMode where
  | default
  | skb
  | drv
  | hw
deriving DecidableEq, Repr

/-- A program in the registry with the number of its users, of which there is one at
least. -/
structure AttachedProgram where
  program : XdpProgram
  mode : AttachMode
  programHash : BitVec 64
  users : Nat
  users_pos : 0 < users

/-- The programs by interface index. -/
abbrev Registry :=
  AList fun _ : Nat => AttachedProgram

inductive LoadError where
  | program (error : ProgramError)
  /-- Another program, mode or configuration is attached to the interface. -/
  | mismatch (ifindex : Nat)
  /-- The object could not be loaded or attached. -/
  | attach (ifindex : Nat)
deriving DecidableEq, Repr

namespace AttachedProgram

variable (attached : AttachedProgram)

/-- Another handle of the program. -/
def acquire : AttachedProgram :=
  { attached with users := attached.users + 1, users_pos := Nat.succ_pos _ }

/-- What the release of a handle leaves of the program. -/
def release : Option AttachedProgram :=
  if single : attached.users = 1 then
    none
  else
    some { attached with
      users := attached.users - 1
      users_pos := by
        have := attached.users_pos
        omega }

theorem release_acquire : attached.acquire.release = some attached :=
  dif_neg (Nat.succ_ne_succ_iff.mpr attached.users_pos.ne')

end AttachedProgram

namespace Registry

variable (registry : Registry)

/-- A handle of the program of an interface, which is loaded unless it is attached
already; `attaches` is what the kernel answers then. -/
def getOrLoadWithConfig (ifindex : Nat) (mode : AttachMode) (config : XdpProgramConfig)
    (programHash : BitVec 64) (attaches : Bool) : Except LoadError Unit × Registry :=
  match config.validate with
  | .error error => (.error (.program error), registry)
  | .ok config =>
    match registry.lookup ifindex with
    | some existing =>
      if existing.programHash ≠ programHash ∨ existing.mode ≠ mode ∨
          existing.program.config ≠ config then
        (.error (.mismatch ifindex), registry)
      else
        (.ok (), registry.insert ifindex existing.acquire)
    | none =>
      match XdpProgram.loadAndAttach config with
      | .error error => (.error (.program error), registry)
      | .ok program =>
        if attaches then
          (.ok (), registry.insert ifindex
            { program := program, mode := mode, programHash := programHash, users := 1
              users_pos := Nat.one_pos })
        else
          (.error (.attach ifindex), registry)

/-- Drops a handle of the program of an interface. -/
def release (ifindex : Nat) : Registry :=
  match registry.lookup ifindex with
  | none => registry
  | some attached =>
    match attached.release with
    | none => registry.erase ifindex
    | some left => registry.insert ifindex left

/-! ## Handles -/

/-- A program can be taken on an interface: the one that is attached is the same in all
respects, or none is and the kernel accepts it. -/
def Loads (existing : Option AttachedProgram) (mode : AttachMode) (config : XdpProgramConfig)
    (programHash : BitVec 64) (attaches : Bool) : Prop :=
  match existing with
  | some existing =>
    existing.programHash = programHash ∧ existing.mode = mode ∧ existing.program.config = config
  | none => attaches = true

/-- The handle of a program: another one of the program that is attached, or the first
one of a program without ports. -/
def IsHandle (existing : Option AttachedProgram) (config : XdpProgramConfig)
    (handle : AttachedProgram) : Prop :=
  match existing with
  | some existing => handle = existing.acquire
  | none => handle.program.config = config ∧ handle.program.boundPorts = ∅

variable {config : XdpProgramConfig} {ifindex : Nat}

theorem exists_loadAndAttach (valid : config.validate = .ok config) :
    ∃ program, XdpProgram.loadAndAttach config = .ok program ∧ program.config = config ∧
      program.boundPorts = ∅ := by
  rw [XdpProgram.loadAndAttach, valid]
  cases config with
  | boundPorts => exact ⟨_, rfl, rfl, rfl⟩
  | portRange start stop => exact ⟨_, rfl, rfl, rfl⟩

/-- The ways a load can go. -/
theorem getOrLoadWithConfig_cases (valid : config.validate = .ok config) (ifindex : Nat)
    (mode : AttachMode) (programHash : BitVec 64) (attaches : Bool) :
    (¬ Loads (registry.lookup ifindex) mode config programHash attaches ∧
      ∃ error, registry.getOrLoadWithConfig ifindex mode config programHash attaches =
        (.error error, registry)) ∨
    Loads (registry.lookup ifindex) mode config programHash attaches ∧
      ∃ handle, IsHandle (registry.lookup ifindex) config handle ∧
        registry.getOrLoadWithConfig ifindex mode config programHash attaches =
          (.ok (), registry.insert ifindex handle) := by
  rw [getOrLoadWithConfig, valid]
  dsimp only
  cases registry.lookup ifindex with
  | some existing =>
    dsimp only
    split
    case isTrue differs =>
      refine .inl ⟨?_, _, rfl⟩
      rintro ⟨sameHash, sameMode, sameConfig⟩
      exact differs.elim (· sameHash) (·.elim (· sameMode) (· sameConfig))
    case isFalse same =>
      rw [not_or, not_or, not_not, not_not, not_not] at same
      exact .inr ⟨same, _, rfl, rfl⟩
  | none =>
    obtain ⟨program, isProgram, isConfig, unbound⟩ := exists_loadAndAttach valid
    dsimp only
    rw [isProgram]
    cases attaches with
    | true => exact .inr ⟨rfl, _, ⟨isConfig, unbound⟩, rfl⟩
    | false => exact .inl ⟨nofun, _, rfl⟩

theorem lookup_release_ne {other : Nat} (differs : other ≠ ifindex) :
    (registry.release ifindex).lookup other = registry.lookup other := by
  rw [release]
  split
  · rfl
  · split
    · exact AList.lookup_erase_ne differs
    · exact AList.lookup_insert_ne differs

theorem lookup_release {attached : AttachedProgram}
    (found : registry.lookup ifindex = some attached.acquire) :
    (registry.release ifindex).lookup ifindex = some attached := by
  rw [release, found]
  dsimp only
  rw [attached.release_acquire]
  exact AList.lookup_insert registry

end Registry

end FastSocket.Ebpf
