import Mathlib.Data.List.Induction
import TraceLink.Proofs.Bridge.Mirror
import TraceLink.Proofs.Files.Sockets
import TraceLink.Proofs.Life
import TraceLink.Proofs.Teardown

/-!
# How long a channel is open

An agent has at most one return channel. It is open from when an attempt to open it succeeds until
the channel is closed or the agent is torn down, whether or not its path can be removed then. A
failed attempt to open one leaves everything as it is.

* `OpenCourse` — how an attempt to open a channel ends, and what it leaves;
* `ReturnChannel.Closing` — how closing a channel ends, and what it leaves of the files;
* `Scene.Closed` — the channel is gone, and with it at most what its path leads to;
* `Life.channel_lifespan` — in every life, which channel is open, and how it comes and goes.
-/

namespace TraceLink

variable {σ κ : Type}

/-! ### Removing a path -/

namespace FileSystem

/-- The place that a path leads to, if the path ends in a name. -/
def placeOf? (files : FileSystem) (path : Bytes) : Option FilePlace :=
  match files.locate path with
  | .ok (place, some name) => some (place ++ [name])
  | _ => none

/-- What is removed is what stands at the place of the path, and no directory. -/
theorem unlink_eq_setNode {files left : FileSystem} {path : Bytes}
    (unlinked : files.unlink path = .ok left) :
    ∃ place node, files.placeOf? path = some place ∧ files.node? place = some node ∧
      node ≠ .directory ∧ left = files.setNode place none := by
  rw [unlink] at unlinked
  cases located : files.locate path with
  | error errno =>
    rw [located] at unlinked
    cases unlinked
  | ok found =>
    -- A path that ends in no name is refused; so are a missing name and a directory.
    rw [located] at unlinked
    obtain ⟨place, _ | name⟩ := found
    · cases unlinked
    · have leads : files.placeOf? path = some (place ++ [name]) := by rw [placeOf?, located]
      change Except.bind (files.entry? place name) _ = _ at unlinked
      cases standing : files.entry? place name with
      | error errno =>
        rw [standing] at unlinked
        cases unlinked
      | ok node =>
        rw [standing] at unlinked
        have found : files.node? (place ++ [name]) = node := by
          unfold entry? at standing
          split at standing
          · cases standing
          · exact Except.ok.inj standing
        dsimp only [Except.bind] at unlinked
        split at unlinked
        · cases unlinked
        · cases unlinked
        next node other =>
          split at unlinked
          · cases unlinked
          · cases unlinked
            exact ⟨_, node, leads, found, other, rfl⟩

end FileSystem

namespace ReturnChannel

/-- How closing a channel ends: what its path leads to is removed, or all files stay. Either way the
refusal to close its socket is reported before anything else. -/
inductive Closing (channel : ReturnChannel) (files : FileSystem) :
    Except Failure Unit → FileSystem → Prop
  | removed {place : FilePlace} {node : FileNode}
      (leads : files.placeOf? channel.path = some place)
      (there : files.node? place = some node) (plain : node ≠ .directory)
      (gone : channel.removal files = .ok ((channel.abandon files).setNode place none)) :
    Closing channel files (reportOf (releaseFailure files))
      ((channel.abandon files).setNode place none)
  | stuck {errno : Errno} (refused : channel.removal files = .error errno) :
    Closing channel files
      (reportOf (releaseFailure files <|>
        some (.transport "unlink" errno.code errno.describe)))
      (channel.abandon files)

theorem close_closing (channel : ReturnChannel) (files : FileSystem) :
    channel.Closing files (channel.close files).1 (channel.close files).2 := by
  rw [close_eq, filesClosed]
  cases tried : channel.removal files with
  | error errno =>
    rw [removalFailure_of_error tried]
    exact .stuck tried
  | ok left =>
    rw [removalFailure_of_ok tried, Option.orElse_eq_orElse, Option.orElse_eq_or, Option.or_none]
    have unlinked : (channel.abandon files).unlink channel.path = .ok left := by
      rw [removal] at tried
      split at tried
      · cases tried
      · exact tried
    obtain ⟨place, node, leads, there, plain, rfl⟩ := FileSystem.unlink_eq_setNode unlinked
    exact .removed leads there plain tried

variable {channel : ReturnChannel} {files left : FileSystem} {result : Except Failure Unit}

/-- Every place is as it was, except that the place of the path may be empty now. -/
theorem Closing.node?_or (closing : channel.Closing files result left) (place : FilePlace) :
    left.node? place = files.node? place ∨
      left.node? place = none ∧ files.placeOf? channel.path = some place := by
  cases closing with
  | stuck refused => exact .inl rfl
  | @removed place' node leads there plain gone =>
    by_cases same : place = place'
    · subst same
      exact .inr ⟨if_pos rfl, leads⟩
    · exact .inl (if_neg same)

theorem Closing.node?_of_stuck (closing : channel.Closing files result left)
    (stuck : channel.removalFailure files ≠ none) : left.node? = files.node? := by
  cases closing with
  | stuck refused => rfl
  | removed leads there plain gone => exact absurd (removalFailure_of_ok gone) stuck

theorem Closing.queue?_of_ne (closing : channel.Closing files result left) {id : SocketId}
    (other : channel.socket ≠ id) : left.queue? id = files.queue? id := by
  have kept := FileSystem.queue?_setQueue_of_ne files none other.symm
  cases closing with
  | stuck refused => exact kept
  | removed leads there plain gone => exact kept

theorem Closing.frame (closing : channel.Closing files result left) :
    left.next = files.next ∧ left.workingDirectory = files.workingDirectory ∧
      left.refusal? = files.refusal? ∧ left.reads = files.reads := by
  cases closing with
  | stuck refused => exact ⟨rfl, rfl, rfl, rfl⟩
  | removed leads there plain gone => exact ⟨rfl, rfl, rfl, rfl⟩

end ReturnChannel

/-! ### Opening -/

/-- How an attempt to open a channel ends, and the scene that it leaves. -/
inductive OpenCourse (path : Bytes) (scene : Scene σ κ) : Except Failure Unit → Scene σ κ → Prop
  /-- One channel is enough. -/
  | busy (opened : scene.agent.channelPath ≠ none) :
    OpenCourse path scene (.error (.invalidState "the return channel is already open")) scene
  /-- No socket could be made ready. -/
  | unready (closed : scene.agent.channelPath = none) {call : SystemCall} {errno : Errno}
      (first : ReturnChannel.setUpFailure scene.files =
        some (.transport call.name errno.code errno.description)) :
    OpenCourse path scene (.error (.transport call.name errno.code errno.description)) scene
  | refused (closed : scene.agent.channelPath = none)
      (ready : ReturnChannel.setUpFailure scene.files = none) {errno : Errno}
      (unbound : scene.files.bindSocket path = .error errno) :
    OpenCourse path scene (.error (.transport "bind" errno.code errno.description)) scene
  | opened (closed : scene.agent.channelPath = none)
      (ready : ReturnChannel.setUpFailure scene.files = none) {socket : SocketId}
      {files : FileSystem} (bound : scene.files.bindSocket path = .ok (socket, files)) :
    OpenCourse path scene (.ok ())
      { scene with
        agent := { scene.agent with
          state := { scene.agent.state with channel := some ⟨socket, path⟩ } }
        files := files }

theorem Agent.openChannel_course (path : Bytes) (scene : Scene σ κ) :
    OpenCourse path scene ((openChannel path).runFrom scene).1
      ((openChannel path).runFrom scene).2 := by
  rw [runFrom_openChannel]
  cases channel : scene.agent.state.channel with
  | some channel =>
    apply OpenCourse.busy
    rw [channelPath, channel]
    nofun
  | none =>
    have closed : scene.agent.channelPath = none := by rw [channelPath, channel]; rfl
    rw [ReturnChannel.open_eq]
    cases ready : ReturnChannel.setUpFailure scene.files with
    | some failure =>
      obtain ⟨call, errno, -, -, rfl⟩ := ReturnChannel.exists_of_setUpFailure ready
      exact .unready closed ready
    | none =>
      simp only [Step.runFrom_apply, ReturnChannel.bind]
      cases bound : scene.files.bindSocket path with
      | error errno => exact .refused closed ready bound
      | ok made => exact .opened closed ready bound

/-! ### Closing -/

/-- The channel is gone, and with it at most what its path leads to. -/
structure Scene.Closed (scene reached : Scene σ κ) : Prop where
  channel : reached.agent.channelPath = none
  closing : ∀ channel, scene.agent.state.channel = some channel →
    ∃ result, channel.Closing scene.files result reached.files
  /-- A place is as it was, or it is the one of the path, and empty. -/
  places : ∀ place, reached.files.node? place = scene.files.node? place ∨
    reached.files.node? place = none ∧
      ∃ path, scene.agent.channelPath = some path ∧ scene.files.placeOf? path = some place
  /-- At every other socket there waits what waited before. -/
  queues : ∀ id, (∀ channel, scene.agent.state.channel = some channel → channel.socket ≠ id) →
    reached.files.queue? id = scene.files.queue? id
  next : reached.files.next = scene.files.next
  workingDirectory : reached.files.workingDirectory = scene.files.workingDirectory
  refusals : reached.files.refusal? = scene.files.refusal?
  reads : reached.files.reads = scene.files.reads

theorem Scene.closed_of_none {scene reached : Scene σ κ}
    (before : scene.agent.state.channel = none) (missing : reached.agent.state.channel = none)
    (files : reached.files = scene.files) : scene.Closed reached where
  channel := by rw [Agent.channelPath, missing]; rfl
  closing channel opened := by
    rw [before] at opened
    cases opened
  places place := .inl (by rw [files])
  queues id apart := by rw [files]
  next := by rw [files]
  workingDirectory := by rw [files]
  refusals := by rw [files]
  reads := by rw [files]

theorem Scene.closed_of_closing {scene reached : Scene σ κ} {channel : ReturnChannel}
    {result : Except Failure Unit} (opened : scene.agent.state.channel = some channel)
    (closing : channel.Closing scene.files result reached.files)
    (missing : reached.agent.state.channel = none) : scene.Closed reached where
  channel := by rw [Agent.channelPath, missing]; rfl
  closing channel' opened' := by
    rw [opened] at opened'
    cases opened'
    exact ⟨result, closing⟩
  places place := by
    have path : scene.agent.channelPath = some channel.path := by
      rw [Agent.channelPath, opened]
      rfl
    exact (closing.node?_or place).imp_right fun ⟨empty, leads⟩ => ⟨empty, _, path, leads⟩
  queues id apart := closing.queue?_of_ne (apart channel opened)
  next := closing.frame.1
  workingDirectory := closing.frame.2.1
  refusals := closing.frame.2.2.1
  reads := closing.frame.2.2.2

/-- How closing the channel of a scene ends, and the scene that it leaves. -/
inductive CloseCourse (scene : Scene σ κ) : Except Failure Unit → Scene σ κ → Prop
  | missing (closed : scene.agent.state.channel = none) :
    CloseCourse scene (.error (.invalidState "the return channel is not open")) scene
  | closed {channel : ReturnChannel} (opened : scene.agent.state.channel = some channel)
      {result : Except Failure Unit} {files : FileSystem}
      (closing : channel.Closing scene.files result files) :
    CloseCourse scene result
      { scene with
        agent := { scene.agent with state := { scene.agent.state with channel := none } }
        files := files }

theorem Agent.closeChannel_course (scene : Scene σ κ) :
    CloseCourse scene (closeChannel.runFrom scene).1 (closeChannel.runFrom scene).2 := by
  rw [runFrom_closeChannel]
  cases opened : scene.agent.state.channel with
  | none => exact .missing opened
  | some channel => exact .closed opened (channel.close_closing scene.files)

theorem CloseCourse.leaves_closed {scene reached : Scene σ κ} {result : Except Failure Unit}
    (course : CloseCourse scene result reached) : scene.Closed reached := by
  cases course with
  | missing closed => exact Scene.closed_of_none closed closed rfl
  | closed opened closing => exact Scene.closed_of_closing opened closing rfl

/-- Where the path cannot be removed, every place is as it was. -/
theorem CloseCourse.node?_of_stuck {scene reached : Scene σ κ} {result : Except Failure Unit}
    (course : CloseCourse scene result reached)
    (stuck : ∀ channel, scene.agent.state.channel = some channel →
      channel.removalFailure scene.files ≠ none) :
    reached.files.node? = scene.files.node? := by
  cases course with
  | missing closed => rfl
  | closed opened closing => exact closing.node?_of_stuck (stuck _ opened)

/-! ### Tearing down -/

/-- A teardown of an agent that holds an environment closes the channel. -/
theorem Agent.destroy_closed (host : Host σ κ) {scene : Scene σ κ}
    (initialized : scene.agent.isInitialized = true) :
    (destroy host scene).1 ≠ .error .notInitialized ∧ scene.Closed (destroy host scene).2 := by
  obtain ⟨environment, held⟩ := Option.isSome_iff_exists.mp initialized
  refine ⟨destroy_ne_notInitialized host held, ?_⟩
  obtain ⟨-, -, -, -, -, left, files⟩ := destroy_held host held
  rw [withdraw_eq] at files
  have missing : (destroy host scene).2.agent.state.channel = none := by rw [left]
  cases opened : scene.agent.state.channel with
  | none =>
    rw [opened] at files
    exact Scene.closed_of_none opened missing files
  | some channel =>
    have closing := channel.close_closing scene.files
    rw [opened] at files
    have left : (channel.close scene.files).2 = (destroy host scene).2.files := by
      rw [channel.close_eq]
      exact files.symm
    rw [left] at closing
    exact Scene.closed_of_closing opened closing missing

theorem Agent.destroy_refused (host : Host σ κ) {scene : Scene σ κ}
    (uninitialized : scene.agent.isInitialized = false) :
    destroy host scene = (.error .notInitialized, scene) := by
  have missing : scene.agent.state.environment = none :=
    Option.isNone_iff_eq_none.mp (Option.isSome_eq_false_iff.mp uninitialized)
  rw [destroy, missing]

/-! ### A life -/

/-- Whether an operation can open or close the channel. -/
def Operation.movesChannel : Operation σ κ → Bool
  | openChannel _ | closeChannel | destroy => true
  | _ => false

namespace Report

/-- A channel was opened at a path. -/
inductive Opens (path : Bytes) : Report σ κ → Prop
  | opened (exchanges : List (Exchange κ)) : Opens path ⟨.openChannel path, .ok (), exchanges⟩

/-- The channel was closed, with whatever result, or the agent was torn down: it was initialised, so
this was not refused. -/
inductive Closes : Report σ κ → Prop
  | closed (result : Except Failure Unit) (exchanges : List (Exchange κ)) :
    Closes ⟨.closeChannel, result, exchanges⟩
  | tornDown {result : Except Failure Unit} (accepted : result ≠ .error .notInitialized)
      (exchanges : List (Exchange κ)) : Closes ⟨.destroy, result, exchanges⟩

/-- Another channel was opened, or the one that there was is closed. -/
def Supersedes (report : Report σ κ) : Prop := report.Closes ∨ ∃ path, report.Opens path

theorem Opens.operation_eq {report : Report σ κ} {path : Bytes} (opens : report.Opens path) :
    report.operation = .openChannel path := by
  cases opens
  rfl

theorem Supersedes.movesChannel {report : Report σ κ} (supersedes : report.Supersedes) :
    report.operation.movesChannel = true := by
  rcases supersedes with closes | ⟨path, opens⟩
  · cases closes <;> rfl
  · rw [opens.operation_eq]
    rfl

theorem opens_openChannel_iff {path tried : Bytes} {result : Except Failure Unit}
    {exchanges : List (Exchange κ)} :
    (⟨.openChannel tried, result, exchanges⟩ : Report σ κ).Opens path ↔
      tried = path ∧ result = .ok () := by
  constructor
  · rintro ⟨-⟩
    exact ⟨rfl, rfl⟩
  · rintro ⟨rfl, rfl⟩
    exact .opened exchanges

theorem supersedes_openChannel_iff {tried : Bytes} {result : Except Failure Unit}
    {exchanges : List (Exchange κ)} :
    (⟨.openChannel tried, result, exchanges⟩ : Report σ κ).Supersedes ↔ result = .ok () := by
  constructor
  · intro supersedes
    cases supersedes with
    | inl closes => cases closes
    | inr opened =>
      obtain ⟨path, opens⟩ := opened
      exact (opens_openChannel_iff.mp opens).2
  · rintro rfl
    exact .inr ⟨tried, .opened exchanges⟩

theorem closes_destroy_iff {result : Except Failure Unit} {exchanges : List (Exchange κ)} :
    (⟨.destroy, result, exchanges⟩ : Report σ κ).Closes ↔ result ≠ .error .notInitialized := by
  constructor
  · rintro ⟨⟩
    assumption
  · exact fun accepted => .tornDown accepted exchanges

end Report

namespace Operation

variable (host : Host σ κ)

theorem perform_channel_of_still {operation : Operation σ κ}
    (still : operation.movesChannel = false) (scene : Scene σ κ) :
    (operation.perform host scene).2.agent.state.channel = scene.agent.state.channel := by
  have spared (operation : Operation σ κ) (about : operation.side? = some .machine) :
      (operation.perform host scene).2.agent.state.channel = scene.agent.state.channel :=
    congrArg Shared.channel ((operation.perform_about host about).shared_eq scene)
  cases operation with
  | openChannel path => cases still
  | closeChannel => cases still
  | destroy => cases still
  | send datagram =>
    exact congrArg (fun agent : Agent κ => agent.state.channel) (Agent.send_agent datagram scene)
  | receive buffer size =>
    exact congrArg (fun agent : Agent κ => agent.state.channel)
      (Agent.receive_agent size buffer scene)
  | setRegion _ | aliasRegion _ | channelPath | transitionCallback _ | allocationCallback => rfl
  -- What is left is about the machine.
  | init => exact spared .init rfl
  | capture request buffer words => exact spared (.capture request buffer words) rfl
  | declaringClass word => exact spared (.declaringClass word) rfl
  | methodName word withSignature => exact spared (.methodName word withSignature) rfl
  | isSamplingSupported => exact spared .isSamplingSupported rfl
  | setSampling enable interval => exact spared (.setSampling enable interval) rfl
  | setRate interval => exact spared (.setRate interval) rfl
  | setHandling enable => exact spared (.setHandling enable) rfl
  | checkHandling => exact spared .checkHandling rfl

/-- What an operation makes of the path of the channel can be told from its report. -/
theorem perform_channelPath (operation : Operation σ κ) (scene : Scene σ κ)
    (exchanges : List (Exchange κ)) (path : Bytes) :
    let report : Report σ κ := ⟨operation, (operation.perform host scene).1, exchanges⟩
    (operation.perform host scene).2.agent.channelPath = some path ↔
      report.Opens path ∨ scene.agent.channelPath = some path ∧ ¬ report.Supersedes := by
  intro report
  cases moves : operation.movesChannel with
  | false =>
    -- The report of any other operation neither opens nor supersedes, and the path stays.
    have supersedesNone : ¬ report.Supersedes := fun supersedes =>
      Bool.false_ne_true (moves.symm.trans supersedes.movesChannel)
    have opensNone : ¬ report.Opens path := fun opens => supersedesNone (.inr ⟨path, opens⟩)
    rw [Agent.channelPath, perform_channel_of_still host moves]
    simp only [opensNone, supersedesNone, false_or, not_false_eq_true, and_true]
    exact Iff.rfl
  | true =>
    cases operation with
    | openChannel tried =>
      have course : OpenCourse tried scene ((openChannel tried).perform host scene).1
        ((openChannel tried).perform host scene).2 := Agent.openChannel_course tried scene
      rw [Report.opens_openChannel_iff, Report.supersedes_openChannel_iff]
      generalize (openChannel tried).perform host scene = performed at course ⊢
      obtain ⟨result, reached⟩ := performed
      cases course with
      | busy opened => simp
      | unready closed first => simp
      | refused closed ready unbound => simp
      | opened closed ready bound => simp [Agent.channelPath]
    | closeChannel =>
      have closed : scene.Closed (closeChannel.perform host scene).2 :=
        (Agent.closeChannel_course scene).leaves_closed
      have closes : report.Supersedes := .inl (.closed _ _)
      have opensNone : ¬ report.Opens path := fun opens => nomatch opens.operation_eq
      simp [closed.channel, closes, opensNone]
    | destroy =>
      have opensNone (path : Bytes) : ¬ report.Opens path := fun opens =>
        nomatch opens.operation_eq
      cases initialized : scene.agent.isInitialized with
      | true =>
        obtain ⟨accepted, closed⟩ := Agent.destroy_closed host initialized
        have closes : report.Supersedes := .inl (Report.closes_destroy_iff.mpr accepted)
        have missing : (destroy.perform host scene).2.agent.channelPath = none := closed.channel
        simp [missing, closes, opensNone]
      | false =>
        have refused : destroy.perform host scene = (.error .notInitialized, scene) :=
          Agent.destroy_refused host initialized
        have supersedesNone : ¬ report.Supersedes := by
          rintro (closes | ⟨path, opens⟩)
          · exact Report.closes_destroy_iff.mp closes (congrArg Prod.fst refused)
          · exact opensNone path opens
        rw [refused]
        simp [supersedesNone, opensNone]
    | _ => cases moves

end Operation

namespace Life

variable (host : Host σ κ)

/-- The channel that is open is the one that was opened last, unless it was closed since. -/
theorem channelPath_iff (config : Config) (state : σ) (files : FileSystem)
    (moves : List (Move σ κ)) (path : Bytes) :
    (after host (.born config state files) moves).scene.agent.channelPath = some path ↔
      Outstanding (Report.Opens path) Report.Supersedes
        (after host (.born config state files) moves).reports := by
  -- By induction on the moves: what each operation does to the path can be told from its report.
  induction moves using List.reverseRecOn with
  | nil => exact ⟨nofun, fun outstanding => absurd outstanding not_outstanding_nil⟩
  | append_singleton moves move ih =>
    rw [after_snoc]
    generalize after host (.born config state files) moves = life at ih ⊢
    cases move with
    | elsewhere state files => exact ih
    | perform operation =>
      obtain ⟨trace, reports, -⟩ := next_perform host life operation
      rw [reports, outstanding_snoc, ← ih]
      exact operation.perform_channelPath host life.scene trace path

/-- In every life, the open channel is the one that was opened last and neither closed since nor
given up by a teardown of an initialised agent. An attempt to open one that is refused leaves
everything as it is. Closing and teardown leave no channel, and of the files only what the path
leads to can be gone; it is not if removing it fails. -/
theorem channel_lifespan (config : Config) (state : σ) (files : FileSystem)
    (moves : List (Move σ κ)) :
    let life := after host (.born config state files) moves
    let closing := Operation.closeChannel.perform host life.scene
    let torn := Operation.destroy.perform host life.scene
    (∀ path, life.scene.agent.channelPath = some path ↔
      Outstanding (Report.Opens path) Report.Supersedes life.reports) ∧
    (∀ path, OpenCourse path life.scene ((Operation.openChannel path).perform host life.scene).1
      ((Operation.openChannel path).perform host life.scene).2) ∧
    (CloseCourse life.scene closing.1 closing.2 ∧ life.scene.Closed closing.2 ∧
      ((∀ channel, life.scene.agent.state.channel = some channel →
          channel.removalFailure life.scene.files ≠ none) →
        closing.2.files.node? = life.scene.files.node?)) ∧
    (life.scene.agent.isInitialized = true →
      torn.1 ≠ .error .notInitialized ∧ life.scene.Closed torn.2) ∧
    (life.scene.agent.isInitialized = false → torn = (.error .notInitialized, life.scene)) := by
  intro life closing torn
  have closes : CloseCourse life.scene closing.1 closing.2 :=
    Agent.closeChannel_course life.scene
  exact ⟨channelPath_iff host config state files moves,
    fun path => Agent.openChannel_course path life.scene,
    ⟨closes, closes.leaves_closed, closes.node?_of_stuck⟩, Agent.destroy_closed host,
    Agent.destroy_refused host⟩

/-- A second channel is refused while the first is open, also before the agent is initialised. The
first is closed although its path is gone by then, while a teardown is refused. -/
theorem channel_lifespan_unlinked :
    let moves : List (Move Stage StageCallback) :=
      [.perform (.openChannel [0x61]), .perform (.openChannel [0x62]),
       .elsewhere { script := {} } .fresh]
    let life := after Stage.host (.born {} { script := {} } .fresh) moves
    let closing := Operation.closeChannel.perform Stage.host life.scene
    life.reports.map Report.failure? =
        [none, some (.invalidState "the return channel is already open")] ∧
      Outstanding (Report.Opens [0x61]) Report.Supersedes life.reports ∧
      closing.1 =
        .error (.transport "unlink" 2 "No such file or directory (os error 2)") ∧
      life.scene.Closed closing.2 ∧ closing.2.files.node? = life.scene.files.node? ∧
      Operation.destroy.perform Stage.host life.scene = (.error .notInitialized, life.scene) := by
  intro moves life closing
  obtain ⟨opened, -, ⟨-, closed, kept⟩, -, refused⟩ :=
    channel_lifespan Stage.host {} { script := {} } .fresh moves
  have path : life.scene.agent.channelPath = some [0x61] := by decide +kernel
  have stuck : closing.1 =
      .error (.transport "unlink" 2 "No such file or directory (os error 2)") := by rfl
  have stays : ∀ channel, life.scene.agent.state.channel = some channel →
      channel.removalFailure life.scene.files ≠ none := by
    have there : life.scene.agent.state.channel = some ⟨0, [0x61]⟩ := by decide +kernel
    intro channel opened
    rw [there] at opened
    cases opened
    decide +kernel
  have uninitialized : life.scene.agent.isInitialized = false := by decide +kernel
  exact ⟨by decide +kernel, (opened _).mp path, stuck, closed, kept stays, refused uninitialized⟩

end Life

end TraceLink
