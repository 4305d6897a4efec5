import TraceLink.Proofs.Bridge.Idle
import TraceLink.Proofs.Bridge.Scene
import TraceLink.Proofs.Course.Operation
import TraceLink.Proofs.Text.Encoding

/-!
# The configuration of a process

The agent of a process is created once, and its configuration stays what it was created with. An
entry that would create it offers a configuration: a load that of its options, if they are
acceptable, and any other entry that needs the agent that of the environment. So the first offer
decides, and a load that is refused leaves the decision to a later entry.

* `Entry.offer?` — the configuration that an entry offers;
* `Library.offers` — all that was offered in a process, in order;
* `Library.Consults` — an action consults the agent, or leaves its configuration alone;
* `Library.config_after` — in every process, the first offer is the configuration for good.
-/

namespace TraceLink

/-! ### Texts that are empty -/

namespace Utf8

theorem isSome_first {b : UInt8} (silent : (first b).1 = []) : (first b).2.isSome = true := by
  unfold first at silent ⊢
  by_cases short : b < 0x80
  · rw [if_pos short] at silent
    cases silent
  · rw [if_neg short] at silent ⊢
    cases lead : Pending.ofLead? b with
    | some p => rfl
    | none =>
      rw [lead] at silent
      cases silent

/-- A byte that yields no character leaves one unfinished. -/
theorem isSome_step {p : Option Pending} {b : UInt8} (silent : (step p b).1 = []) :
    (step p b).2.isSome = true := by
  cases p with
  | none => exact isSome_first silent
  | some p =>
    simp only [step] at silent ⊢
    by_cases within : p.low ≤ b ∧ b ≤ p.high
    · rw [if_pos within] at silent ⊢
      by_cases last : p.owed ≤ 1
      · rw [if_pos last] at silent
        cases silent
      · rw [if_neg last]
        rfl
    · rw [if_neg within] at silent
      cases silent

/-- What a byte begins is text, whatever follows it. -/
theorem decodeFrom_ne_nil {p : Option Pending} {bytes : Bytes} (h : p ≠ none ∨ bytes ≠ []) :
    decodeFrom p bytes ≠ [] := by
  induction bytes generalizing p with
  | nil =>
    cases p with
    | none => exact absurd rfl (h.resolve_right fun some => some rfl)
    | some p => nofun
  | cons b rest ih =>
    rw [decodeFrom_cons]
    intro empty
    obtain ⟨silent, left⟩ := List.append_eq_nil_iff.mp empty
    exact ih (.inl (Option.isSome_iff_ne_none.mp (isSome_step silent))) left

/-- Only no bytes read as no text. -/
theorem isEmpty_decode (bytes : Bytes) : (decode bytes).isEmpty = bytes.isEmpty := by
  cases bytes with
  | nil => rfl
  | cons b rest =>
    have text : decodeFrom none (b :: rest) ≠ [] := decodeFrom_ne_nil (.inr (List.cons_ne_nil _ _))
    rw [List.isEmpty_cons, Bool.eq_false_iff, Ne, String.isEmpty_iff]
    intro empty
    exact text (String.ofList_injective empty)

end Utf8

/-! ### What is offered -/

namespace Config

/-- The configuration of the environment, the usual one if its options are not acceptable. -/
def ofEnvironment (environmentOptions : Option Bytes) : Config :=
  (ofVariable environmentOptions).toOption.getD {}

/-- What the options of a load come to. They end at their first zero byte; those of the environment
stand in for options that are null or empty. -/
def ofLoad (environmentOptions : Option Bytes) : Option Bytes → Except OptionFault Config
  | none => ofVariable environmentOptions
  | some bytes =>
    let text := bytes.takeWhile (· != 0)
    if text = [] then ofVariable environmentOptions else parse (Utf8.decode text)

end Config

/-- Whether a native consults the agent. One whose arguments are refused before does not, and the
region of a thread is no concern of the agent. -/
def NativeCall.consults : NativeCall → Bool
  | setThreadCorrelationStorage _ | aliasThreadCorrelationStorage _ => false
  | aliasProcessCorrelationStorage capacity => decide (0 ≤ capacity)
  | sendToReturnChannel message => message.isSome
  | readReturnChannel buffer size => (buffer.bind (·.region?)).isSome && decide (0 ≤ size)
  | _ => true

/-- The status that a machine will report when it is asked for the environment of native code. -/
def Machine.nativeEnvironmentStatus (machine : Machine) : Int :=
  (machine.script machine.tick).nativeEnvironmentStatus

/-- The configuration that an entry offers to a process without an agent. Events offer none: they
leave a process as it is that has no agent yet. -/
def Entry.offer? (environmentOptions : Option Bytes) (machine : Machine) : Entry → Option Config
  | loadAgent options => (Config.ofLoad environmentOptions options).toOption
  | load =>
    if machine.nativeEnvironmentStatus = 0 then some (.ofEnvironment environmentOptions) else none
  | native call => if call.consults then some (.ofEnvironment environmentOptions) else none
  | transition .. | allocation .. => none

namespace Library

variable {α β : Type}

/-- The configuration of the agent, if there is one. -/
def config? (library : Library) : Option Config := library.agent.map (·.config)

/-- The configuration that is offered by what happens next. -/
def offer? (environmentOptions : Option Bytes) (library : Library) : Happening → Option Config
  | .visit visit => visit.entry.offer? environmentOptions library.machine
  | .elsewhere .. => none

/-- What is offered in the course of a process whose environment holds options, in order. -/
def offers (environmentOptions : Option Bytes) (library : Library) : List Happening → List Config
  | [] => []
  | happening :: later => (library.offer? environmentOptions happening).toList ++
    offers environmentOptions (library.next happening) later

/-! ### How an action settles the configuration -/

/-- The configuration that there was is left, or else the one that is offered. -/
structure Configured (offer : Option Config) (library reached : Library) : Prop where
  environment : reached.environmentOptions = library.environmentOptions
  config : reached.config? = library.config?.or offer

theorem Configured.refl (library : Library) : Configured none library library :=
  ⟨rfl, Option.or_none.symm⟩

theorem Configured.trans {offer other : Option Config} {library middle reached : Library}
    (first : Configured offer library middle) (second : Configured other middle reached) :
    Configured (offer.or other) library reached := by
  constructor
  · exact second.environment.trans first.environment
  · rw [second.config, first.config, Option.or_assoc]

/-- Where nothing is offered, options and configuration are as they were. -/
theorem Configured.of_eq {library reached : Library}
    (environment : reached.environmentOptions = library.environmentOptions)
    (config : reached.config? = library.config?) : Configured none library reached :=
  ⟨environment, by rw [config, Option.or_none]⟩

/-- An action consults the agent, and so offers the configuration of the environment, or else offers
none. -/
def Consults (consults : Bool) (action : StateM Library α) : Prop :=
  ∀ library : Library,
    Configured (if consults then some (.ofEnvironment library.environmentOptions) else none) library
      (action library).2

theorem Consults.pure (a : α) : Consults false (Pure.pure a) := fun library => .refl library

/-- What is done first decides whether the agent is consulted. -/
theorem Consults.asking {consults : β → Bool} {action : StateM Library β}
    {next : β → StateM Library α} (asking : Consults false action)
    (then' : ∀ b, Consults (consults b) (next b)) (library : Library) :
    Configured (if consults (action library).1 then some (.ofEnvironment library.environmentOptions)
      else none) library ((action >>= next) library).2 := by
  have first := asking library
  have second := then' (action library).1 (action library).2
  rw [first.environment] at second
  exact first.trans second

/-- What is done before the agent is consulted offers nothing. -/
theorem Consults.after {consults : Bool} {action : StateM Library β} {next : β → StateM Library α}
    (before : Consults false action) (then' : ∀ b, Consults consults (next b)) :
    Consults consults (action >>= next) :=
  Consults.asking before then'

/-- What is done after the agent was consulted offers nothing. -/
theorem Consults.before {consults : Bool} {action : StateM Library β} {next : β → StateM Library α}
    (first : Consults consults action) (later : ∀ b, Consults false (next b)) :
    Consults consults (action >>= next) := by
  intro library
  have both := (first library).trans (later (action library).1 (action library).2)
  rw [if_neg Bool.false_ne_true, Option.or_none] at both
  exact both

theorem Consults.of_idles {action : StateM Library α} (idles : Idles action) :
    Consults false action := by
  intro library
  obtain ⟨session, clock, reached⟩ := idles library
  rw [reached]
  exact .of_eq rfl rfl

/-- A step that fails does not come to what follows it. -/
theorem Consults.step {consults : Bool} {step : Step Library β} {next : β → Step Library α}
    (first : Consults consults step.run) (later : ∀ b, Consults false (next b).run) :
    Consults consults (step >>= next).run := by
  intro library
  have settled : Configured _ library (step.runFrom library).2 := first library
  show Configured _ library ((step >>= next).runFrom library).2
  rw [Step.runFrom_bind]
  rcases hstep : step.runFrom library with ⟨e | b, reached⟩
  · rw [hstep] at settled
    exact settled
  · rw [hstep] at settled
    have both := settled.trans (later b reached)
    rw [if_neg Bool.false_ne_true, Option.or_none] at both
    exact both

/-- What never fails may be done before the agent is consulted. -/
theorem Consults.lift {consults : Bool} {action : StateM Library β} {next : β → Step Library α}
    (before : Consults false action) (then' : ∀ b, Consults consults (next b).run) :
    Consults consults ((liftM action : Step Library β) >>= next).run :=
  @Consults.after _ _ _ action _ before then'

/-- An argument that is refused is the end of a native. -/
theorem Consults.refused {result : Except Failure β} {e : Failure} (h : result = .error e)
    (next : β → Step Library α) : Consults false (Step.ofExcept result >>= next).run := by
  subst h
  exact .pure _

theorem Consults.accepted {consults : Bool} {result : Except Failure β} {b : β}
    (h : result = .ok b) {next : β → Step Library α} (then' : Consults consults (next b).run) :
    Consults consults (Step.ofExcept result >>= next).run := by
  subst h
  exact then'

/-! ### Consulting the agent -/

theorem fallbackConfig_fst (library : Library) :
    (fallbackConfig library).1 = .ofEnvironment library.environmentOptions := by
  simp only [fallbackConfig, bind, StateT.bind, get, getThe, MonadStateOf.get, StateT.get, pure,
    Config.ofEnvironment]
  cases Config.ofVariable library.environmentOptions with
  | ok config => rfl
  | error fault => rfl

/-- The agent acts by the configuration that it was created with, or is created with now. -/
theorem scene_config (library : Library) :
    some library.scene.agent.config =
      library.config?.or (some (.ofEnvironment library.environmentOptions)) := by
  cases held : library.agent with
  | some agent =>
    rcases library.scene_agent with same | ⟨missing, -⟩
    · rw [config?, same]
      rfl
    · rw [held] at missing
      cases missing
  | none =>
    rw [scene, obtainAgent_of_none held, config?, held]
    exact congrArg some library.fallbackConfig_fst

/-- A library whose agent acted as it is configured. -/
theorem configured_withScene (library : Library) {scene : Scene Machine MachineCallback}
    (config : scene.agent.config = library.scene.agent.config) :
    Configured (some (.ofEnvironment library.environmentOptions)) library
      (library.withScene scene) := by
  refine ⟨rfl, ?_⟩
  rw [← scene_config, ← config]
  rfl

theorem consults_obtainAgent : Consults true obtainAgent := by
  intro library
  rw [obtainAgent_eq]
  exact library.configured_withScene rfl

theorem consults_onAgent {step : Step (Scene Machine MachineCallback) α}
    (h : ∀ scene, (step scene).2.agent.config = scene.agent.config) :
    Consults true (onAgent step).run := by
  intro library
  show Configured _ library (onAgent step library).2
  rw [onAgent_eq]
  exact library.configured_withScene (h _)

/-- A step that keeps to one side of the agent leaves the configuration. -/
theorem consults_about {step : Step (Scene Machine MachineCallback) α} {side : Side}
    (h : step.About side) : Consults true (onAgent step).run :=
  consults_onAgent h.config_eq

theorem consults_captureInto (request : WalkRequest) (out : Option (Machine.JavaArray Word)) :
    Consults true (captureInto request out).run := by
  intro library
  show Configured _ library (captureInto request out library).2
  rw [captureInto_eq]
  have settled := library.configured_withScene (Operation.perform_config Machine.host
    (.capture request (arrayBuffer out) ((out.map (·.elements)).getD [])) library.scene)
  exact ⟨settled.environment, settled.config⟩

theorem consults_receiveInto (region : Region) (size : Nat) :
    Consults true (receiveInto region size).run := by
  intro library
  show Configured _ library (receiveInto region size library).2
  rw [receiveInto_eq]
  have settled := library.configured_withScene (Operation.perform_config Machine.host
    (.receive ((library.memory.bytes region.block).take region.length) size) library.scene)
  exact ⟨settled.environment, settled.config⟩

theorem Consults.publishing {consults : Bool} {step : Step Library α}
    (h : Consults consults step.run) : Consults consults (publishing step).run :=
  fun library => ⟨(h library).environment, (h library).config⟩

/-! ### Natives -/

theorem consults_publishBuffer (buffer : Option Machine.JavaBuffer) :
    Consults true (publishBuffer buffer).run := by
  intro library
  show Configured _ library ((publishBuffer buffer).runFrom library).2
  rw [publishBuffer, Step.runFrom_bind, Step.runFrom_liftM, obtainAgent_eq]
  dsimp only
  rw [Step.runFrom_bind, Step.runFrom_ofExcept]
  cases regionOf buffer with
  | error e => exact library.configured_withScene rfl
  | ok region => exact library.configured_withScene rfl

theorem consults_perform (call : NativeCall) : Consults call.consults (perform call).run := by
  cases call with
  | initAgent => exact .step (consults_about (Agent.init_about _)) fun _ => .pure _
  | destroyAgent =>
    refine .step (.publishing (consults_onAgent ?_)) fun _ => .pure _
    exact Operation.perform_config Machine.host .destroy
  | captureStackTrace request out =>
    exact .step (consults_captureInto request out) fun _ => .pure _
  | getDeclaringClass method =>
    exact .step (consults_about (Agent.declaringClass_about _ _)) fun _ => .pure _
  | getMethodName method withSignature =>
    exact .step (consults_about (Agent.useMethodText_about _ _ _ _)) fun _ => .pure _
  | isAllocationSamplingSupported =>
    exact .step (consults_about (Agent.isSamplingSupported_about _)) fun _ => .pure _
  | setAllocationSamplingEnabled enable interval =>
    exact .step (consults_about (Agent.setSampling_about _ _ _)) fun _ => .pure _
  | setAllocationSamplingRate interval =>
    exact .step (consults_about (Agent.setRate_about _ _)) fun _ => .pure _
  | setVirtualThreadCallbacksEnabled enable =>
    exact .step (consults_about (Agent.setHandling_about _ _)) fun _ => .pure _
  | checkVirtualThreadMountSupport =>
    refine .step (consults_about (.lift (Agent.checkHandling_about _))) fun reason => ?_
    exact .lift (.of_idles (idles_newString reason)) fun _ => .pure _
  | setProcessCorrelationStorage buffer =>
    exact .step (.publishing (consults_publishBuffer buffer)) fun _ => .pure _
  | getReturnChannelPath =>
    refine .step consults_obtainAgent fun agent => ?_
    exact .lift (.of_idles (idles_newString _)) fun _ => .pure _
  | closeReturnChannel => exact .step (consults_about Agent.closeChannel_about) fun _ => .pure _
  | openReturnChannel path =>
    refine .lift (.of_idles (idles_pathOf path)) fun path => ?_
    exact .step (consults_about (Agent.openChannel_about _)) fun _ => .pure _
  | setThreadCorrelationStorage buffer =>
    exact .step (.pure _) fun region => fun _ => .of_eq rfl rfl
  | aliasThreadCorrelationStorage requested =>
    refine .step (.pure _) fun capacity => .step (fun library => .refl library) fun library => ?_
    exact .lift (.of_idles (idles_newBuffer _)) fun _ => .pure _
  -- Whether these come to consult the agent depends on their arguments.
  | aliasProcessCorrelationStorage requested =>
    by_cases negative : requested < 0
    · have spares : (NativeCall.aliasProcessCorrelationStorage requested).consults = false :=
        decide_eq_false (by omega)
      rw [spares]
      exact .refused (if_pos negative) _
    · have consults : (NativeCall.aliasProcessCorrelationStorage requested).consults = true :=
        decide_eq_true (by omega)
      rw [consults]
      refine .accepted (if_neg negative) (.step consults_obtainAgent fun agent => ?_)
      exact .lift (.of_idles (idles_newBuffer _)) fun _ => .pure _
  | sendToReturnChannel message =>
    cases message with
    | none => exact .pure _
    | some array => exact .step (consults_about (Agent.send_about _)) fun _ => .pure _
  | readReturnChannel buffer size =>
    cases buffer with
    | none => exact .pure _
    | some buffer =>
      cases direct : buffer.region? with
      | none =>
        have spares : (NativeCall.readReturnChannel (some buffer) size).consults = false := by
          simp [NativeCall.consults, direct]
        rw [spares]
        exact .refused (by rw [regionOf, direct]) _
      | some region =>
        have consults : (NativeCall.readReturnChannel (some buffer) size).consults =
            decide (0 ≤ size) := by
          simp [NativeCall.consults, direct]
        rw [consults]
        refine .accepted (b := some region) (by rw [regionOf, direct]) ?_
        dsimp only
        by_cases negative : size < 0
        · rw [decide_eq_false (by omega), if_pos negative]
          exact .pure _
        · rw [decide_eq_true (by omega), if_neg negative]
          exact .step (consults_receiveInto region _) fun _ => .pure _

/-! ### Entries -/

theorem consults_call (call : NativeCall) : Consults call.consults (Library.call call) := by
  refine .before (consults_perform call) fun result => ?_
  cases result with
  | ok result => exact .pure _
  | error e => exact .before (.of_idles (idles_raise e)) fun _ => .pure _

/-- A link comes to the agent only if the machine has an environment for it. -/
theorem configured_load (library : Library) :
    Configured (if library.machine.nativeEnvironmentStatus = 0
      then some (.ofEnvironment library.environmentOptions) else none) library
      (load library).2 := by
  have settled : Configured (if decide (library.machine.nativeEnvironmentStatus = 0) = true
      then some (.ofEnvironment library.environmentOptions) else none) library
      (load library).2 := by
    have asking : Consults false (onMachine (Machine.getNativeEnvironment nativeVersion)) :=
      .of_idles (idles_onMachine _)
    refine @Consults.asking _ _ (fun status : Int => decide (status = 0)) _ _ asking
      (fun status => ?_) library
    dsimp only
    by_cases usable : status = 0
    · rw [decide_eq_true usable, if_neg (not_not_intro usable)]
      refine .before consults_obtainAgent fun agent => ?_
      refine .after (.of_idles (idles_registerNatives _)) fun registered => ?_
      cases registered with
      | ok _ => exact .pure _
      | error e => exact .after (.of_idles (idles_note _ _)) fun _ => .pure _
    · rw [decide_eq_false usable, if_pos usable]
      exact .pure _
  simpa only [decide_eq_true_eq] using settled

/-- The options of a load are read as bytes of the machine. -/
theorem requestedConfig_eq (library : Library) (options : Option Bytes) :
    library.requestedConfig (optionsText options) =
      Config.ofLoad library.environmentOptions options := by
  cases options with
  | none => rfl
  | some bytes =>
    simp only [requestedConfig, optionsText, Config.ofLoad, Utf8.isEmpty_decode, List.isEmpty_iff]

/-- Only a load with acceptable options changes the agent, and only if there is none. -/
theorem loadAgent_agent (library : Library) (options : Option Bytes) :
    (loadAgent options library).2.agent = library.agent.or
      ((Config.ofLoad library.environmentOptions options).toOption.map Agent.new) := by
  rw [loadAgent_eq, requestedConfig_eq]
  cases Config.ofLoad library.environmentOptions options with
  | error fault => exact Option.or_none.symm
  | ok config =>
    cases held : library.agent with
    | some agent => exact held
    | none => rfl

theorem configured_loadAgent (library : Library) (options : Option Bytes) :
    Configured (Config.ofLoad library.environmentOptions options).toOption library
      (loadAgent options library).2 := by
  constructor
  · rw [loadAgent_eq]
    split <;> rfl
  · rw [config?, config?, loadAgent_agent]
    cases library.agent with
    | some agent => rfl
    | none => cases Config.ofLoad library.environmentOptions options <;> rfl

/-! ### A process -/

/-- What happens next settles the configuration by what it offers. -/
theorem configured_next (library : Library) (happening : Happening) :
    Configured (library.offer? library.environmentOptions happening) library
      (library.next happening) := by
  obtain ⟨entry, pending⟩ | ⟨thread, clock, files, memory⟩ := happening
  · -- Entering changes neither the options nor the machine that will be asked, nor the agent.
    have entered (offer : Option Config) (reached : Library)
        (settled : Configured offer (library.enter pending) reached) :
        Configured offer library reached := ⟨settled.environment, settled.config⟩
    apply entered
    cases entry with
    | loadAgent options => exact configured_loadAgent (library.enter pending) options
    | load => exact configured_load (library.enter pending)
    | native call => exact consults_call call (library.enter pending)
    | transition which hasEnvironment thread => exact Consults.of_idles (idles_onTransition _ _ _) _
    | allocation hasEnvironment object size => exact Consults.of_idles (idles_onAllocation _ _ _) _
  · exact .of_eq rfl rfl

/-- After any course of a process, its first offer has settled the configuration. -/
theorem configured_after (library : Library) (happenings : List Happening) :
    Configured (library.offers library.environmentOptions happenings).head? library
      (library.after happenings) := by
  induction happenings generalizing library with
  | nil => exact .refl library
  | cons happening later ih =>
    have first := library.configured_next happening
    have rest := ih (library.next happening)
    rw [first.environment] at rest
    have offered : (library.offers library.environmentOptions (happening :: later)).head? =
        (library.offer? library.environmentOptions happening).or
          ((library.next happening).offers library.environmentOptions later).head? := by
      rw [offers, List.head?_append, Option.head?_toList]
    rw [offered]
    exact first.trans rest

/-- A load reports failure exactly when its options are not acceptable, and success otherwise. -/
theorem loadAgent_fst (library : Library) (options : Option Bytes) :
    (loadAgent options library).1 =
      if (Config.ofLoad library.environmentOptions options).isOk then loaded else refused := by
  rw [← requestedConfig_eq]
  simp only [loadAgent, bind, StateT.bind, get, getThe, MonadStateOf.get, StateT.get, pure]
  cases library.requestedConfig (optionsText options) with
  | error fault => rfl
  | ok config =>
    cases library.agent with
    | some agent => rfl
    | none => rfl

/-- In every process, whatever its environment holds and whatever happens, the agent has the
configuration that was offered first, and keeps it; without an offer there is no agent. A load is
refused exactly when the options that it reads are not acceptable, and leaves the agent as it is, or
missing; any other load succeeds, and leaves an agent that is there as it is. -/
theorem config_after (script : Nat → Script) (environmentOptions : Option Bytes)
    (temporaryDirectory : String) (happenings : List Happening) :
    let begun := started script environmentOptions temporaryDirectory
    let library := begun.after happenings
    library.config? = (begun.offers environmentOptions happenings).head? ∧
      (∀ config later, library.config? = some config →
        (begun.after (happenings ++ later)).config? = some config) ∧
      ∀ options pending,
        let load := loadAgent options (library.enter pending)
        (load.1 = refused ↔ ∃ fault, Config.ofLoad environmentOptions options = .error fault) ∧
          (load.1 = refused → load.2.agent = library.agent) ∧
          (load.1 ≠ refused → load.1 = loaded ∧
            ∀ agent, library.agent = some agent → load.2.agent = some agent) := by
  intro begun library
  have settled := begun.configured_after happenings
  have environment : library.environmentOptions = environmentOptions := settled.environment
  refine ⟨settled.config, fun config later held => ?_, fun options pending => ?_⟩
  · -- What is offered later does not count once there is a configuration.
    have reached := (library.configured_after later).config
    rw [held] at reached
    rw [after, List.foldl_append]
    exact reached
  · have told := loadAgent_fst (library.enter pending) options
    have left := loadAgent_agent (library.enter pending) options
    have read : Config.ofLoad (library.enter pending).environmentOptions options =
        Config.ofLoad environmentOptions options := congrArg (Config.ofLoad · options) environment
    rw [read] at told left
    dsimp only
    rw [told, left]
    cases Config.ofLoad environmentOptions options with
    | error fault =>
      refine ⟨⟨fun _ => ⟨fault, rfl⟩, fun _ => rfl⟩, fun _ => Option.or_none, ?_⟩
      exact fun accepted => absurd rfl accepted
    | ok config =>
      refine ⟨⟨nofun, nofun⟩, nofun, fun _ => ⟨rfl, fun agent held => ?_⟩⟩
      have there : (library.enter pending).agent = some agent := held
      rw [there]
      rfl

/-- Options that are no setting are refused, and leave it to the link to create the agent; as those
of the environment are none either, it has the usual configuration. Later options change nothing. -/
theorem config_after_refused :
    let environmentOptions : Option Bytes := some [0x78]
    let load (options : Bytes) : Happening := .visit { entry := .loadAgent (some options) }
    let happenings := [load [0x79], .visit { entry := .load }, load [0x2C]]
    let begun := started (fun _ => {}) environmentOptions "."
    let library := begun.after happenings
    library.config? = some {} ∧
      (begun.after (happenings ++ [.visit { entry := .native .initAgent }])).config? = some {} ∧
      (loadAgent (some [0x79]) (library.enter none)).1 = refused ∧
      (loadAgent (some [0x79]) (library.enter none)).2.agent = library.agent := by
  intro environmentOptions load happenings begun library
  obtain ⟨first, kept, loading⟩ := config_after (fun _ => {}) environmentOptions "." happenings
  have offered : (begun.offers environmentOptions happenings).head? = some {} := by decide +kernel
  have settled : library.config? = some {} := first.trans offered
  obtain ⟨refused_iff, unchanged, -⟩ := loading (some [0x79]) none
  have invalid : Config.ofLoad environmentOptions (some [0x79]) = .error (.notKeyValue "y") := rfl
  have rejected := refused_iff.mpr ⟨_, invalid⟩
  exact ⟨settled, kept {} _ settled, rejected, unchanged rejected⟩

end Library

end TraceLink
