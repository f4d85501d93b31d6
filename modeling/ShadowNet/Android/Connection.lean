import ShadowNet.Android.AgentService

/-! # Connecting and disconnecting

Whether the user wants to be connected is kept in the preferences, which reach the disk some time after
they are set. The main activity, the boot receiver and the system send commands to the VPN service and the
agent service, which look at the preference when they come to them and start what they have to afterwards.
The loop of the agent service looks at it when a turn begins, and finishes a turn that has begun. The
activity, the receiver and the commands share the main thread; the loop and a revocation have threads of
their own.
-/

namespace ShadowNet.Android

open Go

/-- `ShadowNetVpnService.State`. -/
inductive VpnState where
  | idle
  | starting
  | running
  | error
  | stopped
deriving DecidableEq

inductive VpnCommand where
  | start
  | stop
deriving DecidableEq

inductive AgentCommand where
  | start
  | stop
  | importBundle (path : String)
deriving DecidableEq

/-- What a command has begun on the main thread, after a look at the preference. -/
inductive Handling where
  | startVpn
  | startAgent
deriving DecidableEq

/-- The application on a device. A service that the system starts again gets the command `none`. -/
structure Device where
  desired : Bool := false
  /-- The preference on the disk. -/
  onDisk : Bool := false
  handling : Option Handling := none
  vpnInterface : Option ℕ := none
  state : VpnState := .idle
  /-- How many tunnels have been established. -/
  established : ℕ := 0
  /-- The agent has been started over the bridge. -/
  bridge : Bool := false
  /-- `monitorJob` is active. -/
  monitoring : Bool := false
  /-- The turns of the loop that are under way. -/
  turns : ℕ := 0
  agentStarts : ℕ := 0
  vpnCommands : List (Option VpnCommand) := []
  agentCommands : List (Option AgentCommand) := []
  saved : UiState := {}

namespace Device

/-! ## The VPN service -/

/-- `startVpn` up to the tunnel. -/
def startVpn (d : Device) : Device :=
  if d.vpnInterface.isSome then d
  else if !d.desired then d
  else
    { d with
      state := .starting
      saved :=
        { status := "Connecting", currentProfile := d.saved.currentProfile, lastAction := "vpn starting" }
      handling := some .startVpn }

/-- The end of `startVpn`, from `builder.establish()` on. -/
def establish (d : Device) (establishes : Bool) : Device :=
  let d := { d with handling := none }
  if !establishes then
    { d with
      vpnInterface := none
      state := .error
      saved := { status := "Error", lastError := "VPN failed to establish" } }
  else
    { d with
      state := .running
      vpnInterface := some d.established
      established := d.established + 1 }

def stopVpn (d : Device) : Device := { d with vpnInterface := none, state := .stopped }

/-- `ShadowNetVpnService.onStartCommand`. -/
def vpnCommand (d : Device) (command : Option VpnCommand) : Device :=
  match command with
  | some .start => d.startVpn
  | some .stop => d.stopVpn
  | none => if d.desired then d.startVpn else d

def onRevoke (d : Device) : Device := ({ d with desired := false } : Device).stopVpn

/-! ## The agent service -/

def stopAgent (d : Device) : Device :=
  { d with
    monitoring := false
    bridge := false
    saved := { status := "Disconnected", currentProfile := "-", lastAction := "stopped" } }

/-- An agent that does not start gives a message; what is saved of it does not stay. -/
def startAgent (letters : Letters) (d : Device) (failure : Option String) : Device :=
  let d := { d with handling := none }
  match failure with
  | some msg =>
      let mapped := mapBridgeErrorToUi letters msg
      ({ d with saved :=
        { status := "Error", lastError := mapped.1, lastErrorDetails := mapped.2 } } : Device).stopAgent
  | none => { d with bridge := true, agentStarts := d.agentStarts + 1, monitoring := true }

def importBundle (letters : Letters) (d : Device) (path : String) (failure : Option String) : Device :=
  if isNullOrBlank (some path) then d
  else match failure with
    | some msg =>
        let mapped := mapBridgeErrorToUi letters msg
        { d with saved :=
          { status := "Error", currentProfile := "-", lastAction := "Import failed",
            lastError := mapped.1, lastErrorDetails := mapped.2 } }
    | none =>
        { d with saved :=
          { status := "Disconnected", currentProfile := "-", lastAction := "Ready to connect" } }

/-- `AgentService.onStartCommand`. -/
def agentCommand (letters : Letters) (d : Device) (command : Option AgentCommand)
    (failure : Option String) : Device :=
  match command with
  | some .stop => d.stopAgent
  | some (.importBundle path) => d.importBundle letters path failure
  | some .start | none => if d.desired then { d with handling := some .startAgent } else d

/-- A turn begins, or the loop ends. -/
def beginTurn (d : Device) : Device :=
  if !d.desired then d.stopAgent else { d with turns := d.turns + 1 }

/-- What a turn that recovers does to the bridge. -/
def recoverBridge (d : Device) (failure : Option String) : Device :=
  if failure.isSome then { d with bridge := false }
  else { d with bridge := true, agentStarts := d.agentStarts + 1 }

/-! ## The main activity and the boot receiver -/

def startRuntime (d : Device) : Device :=
  { d with
    desired := true
    saved := { status := "Connecting", currentProfile := "-", lastAction := "Connecting…" }
    vpnCommands := d.vpnCommands ++ [some .start]
    agentCommands := d.agentCommands ++ [some .start] }

def disconnect (d : Device) : Device :=
  { d with
    desired := false
    saved := { status := "Disconnected", currentProfile := "-", lastAction := "manual stop" }
    agentCommands := d.agentCommands ++ [some .stop]
    vpnCommands := d.vpnCommands ++ [some .stop] }

/-- `BootReceiver.onReceive`; the system may refuse to start a service. -/
def onBoot (d : Device) (vpn agent : Bool) : Device :=
  if !d.desired then d
  else if !vpn then d
  else
    { d with
      vpnCommands := d.vpnCommands ++ [some .start]
      agentCommands := if agent then d.agentCommands ++ [some .start] else d.agentCommands }

end Device

inductive DeviceEvent where
  | connect
  | disconnect
  | importBundle (path : String)
  | boot (vpn agent : Bool)
  | restartVpn
  | restartAgent
  | vpnCommand
  | establish (establishes : Bool)
  | agentCommand (failure : Option String)
  | startAgent (failure : Option String)
  | revoke
  | destroyVpn
  | destroyAgent
  | beginTurn
  | recoverBridge (failure : Option String)
  | save (state : UiState)
  | endTurn
  | writePreferences
  | kill (vpnCommands : List (Option VpnCommand)) (agentCommands : List (Option AgentCommand))
deriving DecidableEq

/-- The user, the system, the services and the turns of the loop take steps in any order, but what is on
the main thread waits for what a command has begun there. -/
inductive DeviceStep (letters : Letters) (d : Device) : DeviceEvent → Device → Prop
  | connect (free : d.handling = none) : DeviceStep letters d .connect d.startRuntime
  | disconnect (free : d.handling = none) : DeviceStep letters d .disconnect d.disconnect
  | importBundle {path : String} (free : d.handling = none) :
      DeviceStep letters d (.importBundle path)
        { d with agentCommands := d.agentCommands ++ [some (.importBundle path)] }
  | boot {vpn agent : Bool} (free : d.handling = none) :
      DeviceStep letters d (.boot vpn agent) (d.onBoot vpn agent)
  | restartVpn :
      DeviceStep letters d .restartVpn { d with vpnCommands := d.vpnCommands ++ [none] }
  | restartAgent :
      DeviceStep letters d .restartAgent { d with agentCommands := d.agentCommands ++ [none] }
  | vpnCommand {command : Option VpnCommand} {rest : List (Option VpnCommand)}
      (free : d.handling = none) (next : d.vpnCommands = command :: rest) :
      DeviceStep letters d .vpnCommand (({ d with vpnCommands := rest } : Device).vpnCommand command)
  | establish {establishes : Bool} (begun : d.handling = some .startVpn) :
      DeviceStep letters d (.establish establishes) (d.establish establishes)
  | agentCommand {failure : Option String} {command : Option AgentCommand}
      {rest : List (Option AgentCommand)} (free : d.handling = none)
      (next : d.agentCommands = command :: rest) :
      DeviceStep letters d (.agentCommand failure)
        (({ d with agentCommands := rest } : Device).agentCommand letters command failure)
  | startAgent {failure : Option String} (begun : d.handling = some .startAgent) :
      DeviceStep letters d (.startAgent failure) (d.startAgent letters failure)
  | revoke : DeviceStep letters d .revoke d.onRevoke
  | destroyVpn (free : d.handling = none) :
      DeviceStep letters d .destroyVpn { d.stopVpn with state := .idle }
  | destroyAgent (free : d.handling = none) : DeviceStep letters d .destroyAgent d.stopAgent
  | beginTurn (active : d.monitoring = true) : DeviceStep letters d .beginTurn d.beginTurn
  | recoverBridge {failure : Option String} (underWay : 0 < d.turns) :
      DeviceStep letters d (.recoverBridge failure) (d.recoverBridge failure)
  | save {state : UiState} (underWay : 0 < d.turns) :
      DeviceStep letters d (.save state) { d with saved := state }
  | endTurn (underWay : 0 < d.turns) : DeviceStep letters d .endTurn { d with turns := d.turns - 1 }
  | writePreferences : DeviceStep letters d .writePreferences { d with onDisk := d.desired }
  | kill {vpnCommands : List (Option VpnCommand)} {agentCommands : List (Option AgentCommand)}
      (vpn : vpnCommands.Sublist d.vpnCommands) (agent : agentCommands.Sublist d.agentCommands) :
      DeviceStep letters d (.kill vpnCommands agentCommands)
        { d with
          desired := d.onDisk, handling := none
          vpnInterface := none, state := .idle, bridge := false, monitoring := false, turns := 0
          vpnCommands, agentCommands }

/-- The process is not killed before the preference is on the disk. -/
def KilledWritten (d : Device) (event : DeviceEvent) (_next : Device) : Prop :=
  ∀ vpnCommands agentCommands, event = .kill vpnCommands agentCommands → d.onDisk = d.desired

/-! ## After the user has disconnected -/

section

variable {letters : Letters} {d next : Device} {event : DeviceEvent}

/-- Nothing has been started since, and nothing is about to be. -/
structure Device.Off (since d : Device) : Prop where
  undesired : d.desired = false
  free : d.handling = none
  idle : d.turns = 0
  established : d.established = since.established
  agentStarts : d.agentStarts = since.agentStarts

/-- Where the user does not want to be connected, commands to start do nothing. -/
theorem vpnCommand_off (undesired : d.desired = false) (command : Option VpnCommand) :
    d.vpnCommand command = if command = some .stop then d.stopVpn else d := by
  cases command with
  | none => simp [Device.vpnCommand, undesired]
  | some command =>
    cases command with
    | start => simp [Device.vpnCommand, Device.startVpn, undesired]
    | stop => rfl

/-- An import tells the user about itself and does nothing else. -/
theorem importBundle_saves (letters : Letters) (d : Device) (path : String) (failure : Option String) :
    ∃ saved, d.importBundle letters path failure = { d with saved } := by
  cases failure with
  | none =>
    simp only [Device.importBundle]
    split_ifs
    · exact ⟨_, rfl⟩
    · exact ⟨_, rfl⟩
  | some msg =>
    simp only [Device.importBundle]
    split_ifs
    · exact ⟨_, rfl⟩
    · exact ⟨_, rfl⟩

/-- A command to the agent service where the user wants no connection. -/
theorem agentCommand_off (letters : Letters) (undesired : d.desired = false)
    (command : Option AgentCommand) (failure : Option String) :
    ∃ saved, d.agentCommand letters command failure =
      if command = some .stop then d.stopAgent else { d with saved } := by
  have not : ¬ d.desired = true := by simp [undesired]
  cases command with
  | none => exact ⟨d.saved, by rw [Device.agentCommand, if_neg not, if_neg (by simp)]⟩
  | some command =>
    cases command with
    | start => exact ⟨d.saved, by rw [Device.agentCommand, if_neg not, if_neg (by simp)]⟩
    | stop => exact ⟨d.saved, rfl⟩
    | importBundle path =>
      obtain ⟨saved, shown⟩ := importBundle_saves letters d path failure
      exact ⟨saved, by simpa [Device.agentCommand] using shown⟩

/-- Nothing but the user makes the device start again what it has been told to stop. -/
theorem DeviceStep.off {since : Device} (step : DeviceStep letters d event next)
    (other : event ≠ .connect) (written : KilledWritten d event next) (off : since.Off d) :
    since.Off next := by
  obtain ⟨undesired, free, idle, established, agentStarts⟩ := off
  cases step with
  | connect => exact absurd rfl other
  | disconnect => exact ⟨rfl, free, idle, established, agentStarts⟩
  | importBundle | restartVpn | restartAgent | destroyVpn | destroyAgent | writePreferences =>
    exact ⟨undesired, free, idle, established, agentStarts⟩
  | revoke => exact ⟨rfl, free, idle, established, agentStarts⟩
  | boot =>
    rw [Device.onBoot, undesired]
    exact ⟨undesired, free, idle, established, agentStarts⟩
  | @vpnCommand command rest _ first =>
    have left : Device.desired { d with vpnCommands := rest } = false := undesired
    rw [vpnCommand_off left]
    split_ifs
    · exact ⟨undesired, free, idle, established, agentStarts⟩
    · exact ⟨undesired, free, idle, established, agentStarts⟩
  | @agentCommand failure command rest _ first =>
    have left : Device.desired { d with agentCommands := rest } = false := undesired
    obtain ⟨saved, handled⟩ := agentCommand_off letters left command failure
    rw [handled]
    split_ifs
    · exact ⟨undesired, free, idle, established, agentStarts⟩
    · exact ⟨undesired, free, idle, established, agentStarts⟩
  | establish begun | startAgent begun =>
    rw [free] at begun
    cases begun
  | beginTurn active =>
    rw [Device.beginTurn, undesired]
    exact ⟨undesired, free, idle, established, agentStarts⟩
  | recoverBridge underWay | save underWay | endTurn underWay =>
    rw [idle] at underWay
    cases underWay
  | kill => exact ⟨(written _ _ rfl).trans undesired, rfl, rfl, established, agentStarts⟩

/-! ## The tunnel and the agent -/

def Device.Down (d : Device) : Prop := d.vpnInterface = none ∧ d.state ≠ .running

/-- A tunnel that is down stays down. -/
theorem DeviceStep.stays_down {since : Device} (step : DeviceStep letters d event next)
    (other : event ≠ .connect) (off : since.Off d) (down : d.Down) : next.Down := by
  cases step with
  | connect => exact absurd rfl other
  | boot =>
    rw [Device.onBoot, off.undesired]
    exact down
  | @vpnCommand command rest _ first =>
    have left : Device.desired { d with vpnCommands := rest } = false := off.undesired
    rw [vpnCommand_off left]
    split_ifs
    · exact ⟨rfl, by simp [Device.stopVpn]⟩
    · exact down
  | @agentCommand failure command rest _ first =>
    have left : Device.desired { d with agentCommands := rest } = false := off.undesired
    obtain ⟨saved, handled⟩ := agentCommand_off letters left command failure
    rw [handled]
    split_ifs
    · exact down
    · exact down
  | establish begun | startAgent begun =>
    rw [off.free] at begun
    cases begun
  | beginTurn active =>
    rw [Device.beginTurn, off.undesired]
    exact down
  | recoverBridge underWay =>
    rw [off.idle] at underWay
    cases underWay
  | revoke => exact ⟨rfl, by simp [Device.onRevoke, Device.stopVpn]⟩
  | destroyVpn | kill => exact ⟨rfl, by simp⟩
  | disconnect | importBundle | restartVpn | restartAgent | destroyAgent | save | endTurn
    | writePreferences => exact down

/-- The tunnel is down, or a command to stop is on the way. -/
def Device.TunnelStops (d : Device) : Prop := some .stop ∈ d.vpnCommands ∨ d.Down

/-- Other commands leave the command to stop behind them. -/
theorem DeviceStep.tunnel_stops {since : Device} (step : DeviceStep letters d event next)
    (other : event ≠ .connect) (off : since.Off d) (stops : d.TunnelStops) : next.TunnelStops := by
  obtain pending | down := stops
  · cases step with
    | connect => exact absurd rfl other
    | boot =>
      rw [Device.onBoot, off.undesired]
      exact .inl pending
    | disconnect | restartVpn => exact .inl (List.mem_append_left _ pending)
    | @vpnCommand command rest _ first =>
      have left : Device.desired { d with vpnCommands := rest } = false := off.undesired
      rw [vpnCommand_off left]
      split_ifs with stop
      · exact .inr ⟨rfl, by simp [Device.stopVpn]⟩
      · rw [first, List.mem_cons] at pending
        obtain same | behind := pending
        · exact absurd same.symm stop
        · exact .inl behind
    | @agentCommand failure command rest _ first =>
      have left : Device.desired { d with agentCommands := rest } = false := off.undesired
      obtain ⟨saved, handled⟩ := agentCommand_off letters left command failure
      rw [handled]
      split_ifs
      · exact .inl pending
      · exact .inl pending
    | establish begun | startAgent begun =>
      rw [off.free] at begun
      cases begun
    | beginTurn active =>
      rw [Device.beginTurn, off.undesired]
      exact .inl pending
    | recoverBridge underWay =>
      rw [off.idle] at underWay
      cases underWay
    | destroyVpn | kill => exact .inr ⟨rfl, by simp⟩
    | revoke | importBundle | restartAgent | destroyAgent | save | endTurn | writePreferences =>
      exact .inl pending
  · exact .inr (step.stays_down other off down)

/-- The agent has been stopped, or a command to stop is on the way. -/
def Device.AgentStops (d : Device) : Prop := some .stop ∈ d.agentCommands ∨ d.bridge = false

/-- The command that stops the agent stays on its way until it is carried out. -/
theorem DeviceStep.agent_stops {since : Device} (step : DeviceStep letters d event next)
    (other : event ≠ .connect) (off : since.Off d) (stops : d.AgentStops) : next.AgentStops := by
  cases step with
  | connect => exact absurd rfl other
  | boot =>
    rw [Device.onBoot, off.undesired]
    exact stops
  | disconnect => exact .inl (by simp [Device.disconnect])
  | importBundle | restartAgent => exact stops.imp_left fun pending => List.mem_append_left _ pending
  | @vpnCommand command rest _ first =>
    have left : Device.desired { d with vpnCommands := rest } = false := off.undesired
    rw [vpnCommand_off left]
    split_ifs
    · exact stops
    · exact stops
  | @agentCommand failure command rest _ first =>
    have left : Device.desired { d with agentCommands := rest } = false := off.undesired
    obtain ⟨saved, handled⟩ := agentCommand_off letters left command failure
    rw [handled]
    split_ifs with stop
    · exact .inr rfl
    · obtain pending | stopped := stops
      · rw [first, List.mem_cons] at pending
        obtain same | behind := pending
        · exact absurd same.symm stop
        · exact .inl behind
      · exact .inr stopped
  | establish begun | startAgent begun =>
    rw [off.free] at begun
    cases begun
  | beginTurn active =>
    rw [Device.beginTurn, off.undesired]
    exact .inr rfl
  | recoverBridge underWay =>
    rw [off.idle] at underWay
    cases underWay
  | destroyAgent | kill => exact .inr rfl
  | restartVpn | revoke | destroyVpn | save | endTurn | writePreferences => exact stops

/-- After the user disconnects or the system revokes the VPN, while neither a command is being carried
out nor a turn of the loop under way, nothing is started until the user connects again, unless the process
is killed before the preference is on the disk: no command that is still on the way, no restart of the
device, a service or the process does it. The tunnel is down once the commands have been handled, or at
once where it was revoked, and the agent is down once its commands have been. -/
theorem off_until_connect {later : List DeviceEvent} {start last : Device} (free : d.handling = none)
    (idle : d.turns = 0) (leaves : event = .disconnect ∨ event = .revoke)
    (step : DeviceStep letters d event start) (run : Run (DeviceStep letters) start later last)
    (alone : .connect ∉ later) (written : Always (DeviceStep letters) KilledWritten start later) :
    last.desired = false ∧ last.established = d.established ∧ last.agentStarts = d.agentStarts ∧
      (event = .revoke ∨ last.vpnCommands = [] →
        last.vpnInterface = none ∧ last.state ≠ .running) ∧
      (event = .disconnect → last.agentCommands = [] → last.bridge = false) := by
  have other : ∀ event ∈ later, event ≠ .connect := fun event member same => alone (same ▸ member)
  have off : d.Off start := by
    obtain rfl | rfl := leaves
    · cases step
      exact ⟨rfl, free, idle, rfl, rfl⟩
    · cases step
      exact ⟨rfl, free, idle, rfl, rfl⟩
  -- What holds besides, and is kept wherever nothing is started, holds in the end.
  have ends {motive : Device → Prop} (initial : motive start)
      (keeps : ∀ before after, ∀ event ∈ later, d.Off before → motive before →
        DeviceStep letters before event after → motive after) : d.Off last ∧ motive last :=
    written.invariant (motive := fun reached => d.Off reached ∧ motive reached) run ⟨off, initial⟩
      fun before after event member held step met =>
        ⟨step.off (other event member) met held.1, keeps before after event member held.1 held.2 step⟩
  obtain ⟨lastOff, -⟩ := ends (motive := fun _ => True) trivial fun _ _ _ _ _ _ _ => trivial
  refine ⟨lastOff.undesired, lastOff.established, lastOff.agentStarts, fun settled => ?_, ?_⟩
  · obtain rfl | rfl := leaves
    · have handled := settled.resolve_left (by simp)
      cases step
      obtain ⟨-, pending | down⟩ := ends (motive := Device.TunnelStops)
        (.inl (by simp [Device.disconnect])) fun _ _ event member held stops step =>
          step.tunnel_stops (other event member) held stops
      · rw [handled] at pending
        cases pending
      · exact down
    · cases step
      have down : Device.Down d.onRevoke := ⟨rfl, by simp [Device.onRevoke, Device.stopVpn]⟩
      exact (ends down fun _ _ event member held down step =>
        step.stays_down (other event member) held down).2
  · rintro rfl handled
    cases step
    obtain ⟨-, pending | stopped⟩ := ends (motive := Device.AgentStops)
      (.inl (by simp [Device.disconnect])) fun _ _ event member held stops step =>
        step.agent_stops (other event member) held stops
    · rw [handled] at pending
      cases pending
    · exact stopped

end

/-- The user connects, and the services start what they have to. -/
def connecting : List DeviceEvent :=
  [.connect, .writePreferences, .vpnCommand, .establish true, .agentCommand none, .startAgent none]

/-- The device is started, the process is killed before it comes to the command for the agent, and the
VPN service is started again. -/
def restarting : List DeviceEvent :=
  [.boot true true, .writePreferences, .kill [some .stop] [], .restartVpn, .vpnCommand, .vpnCommand]

def connected : Device :=
  { desired := true
    onDisk := true
    vpnInterface := some 0
    state := .running
    established := 1
    bridge := true
    monitoring := true
    agentStarts := 1
    saved := { status := "Connecting", currentProfile := "-", lastAction := "vpn starting" } }

/-- The user connects, and the commands are carried out. -/
theorem connected_run : Run (DeviceStep asciiLetters) {} connecting connected := by
  apply Run.cons (.connect rfl)
  apply Run.cons .writePreferences
  apply Run.cons (.vpnCommand rfl rfl)
  apply Run.cons (.establish rfl)
  apply Run.cons (.agentCommand rfl rfl)
  apply Run.cons (.startAgent rfl)
  apply Run.nil

/-- The process is killed after the preference has been written. -/
theorem restarting_written :
    Always (DeviceStep asciiLetters) KilledWritten connected.disconnect restarting := by
  have alive {d next : Device} {event : DeviceEvent} (other : ∀ vpn agent, event ≠ .kill vpn agent) :
      KilledWritten d event next := fun _ _ same => absurd same (other _ _)
  rintro _ (_ | _)
  refine ⟨alive (by simp), ?_⟩
  rintro _ (_ | _)
  refine ⟨alive (by simp), ?_⟩
  rintro _ (_ | _)
  refine ⟨fun _ _ _ => rfl, ?_⟩
  exact always_of_invariant (motive := fun _ => True) trivial fun _ _ event member _ _ =>
    ⟨trivial, alive fun _ _ same => by simp [same] at member⟩

/-- A connected device is disconnected, killed and started again, and stays off. -/
theorem connected_off : ∃ last,
    Run (DeviceStep asciiLetters) {} (connecting ++ .disconnect :: restarting) last ∧
      connected.vpnInterface = some 0 ∧ connected.bridge = true ∧
      last.established = connected.established ∧ last.vpnInterface = none ∧ last.bridge = false := by
  have leaves : DeviceStep asciiLetters connected .disconnect connected.disconnect := .disconnect rfl
  have run : Run (DeviceStep asciiLetters) connected.disconnect restarting
      { connected.disconnect with
        onDisk := false, vpnInterface := none, state := .stopped, bridge := false, monitoring := false
        vpnCommands := [], agentCommands := [] } := by
    apply Run.cons (.boot rfl)
    apply Run.cons .writePreferences
    apply Run.cons (.kill (by decide) (by decide))
    apply Run.cons .restartVpn
    apply Run.cons (.vpnCommand rfl rfl)
    apply Run.cons (.vpnCommand rfl rfl)
    apply Run.nil
  obtain ⟨-, tunnels, -, tunnel, agent⟩ := off_until_connect rfl rfl (.inl rfl) leaves run (by decide)
    restarting_written
  exact ⟨_, connected_run.append (.cons leaves run), rfl, rfl, tunnels, (tunnel (.inr rfl)).1,
    agent rfl rfl⟩

end ShadowNet.Android
