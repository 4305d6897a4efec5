import TraceLink.Proofs.Channel.FrameCodec
import TraceLink.Proofs.Overlay
import TraceLink.Storage.Record

/-!
# What readers of a region see

The writers of a region and its readers share nothing but the places of the fields. A reader cuts the
fields out of a view at these places, which stand here once more in numbers, and takes each number
with its lowest byte first. Whatever was written before, granted or refused, it sees what the last
granted call meant.

* `Region.WritesAll` — a call writes all its fields if the region has room for them, and otherwise
  nothing;
* `WriterLog` — calls on a region one after another, and which of them were granted;
* `ThreadRecord.read?`, `ProcessRecord.readName?` — what a reader makes of the bytes of a view;
* `Region.reads_back` — after any calls, a view that is long enough shows the last granted ones.
-/

namespace TraceLink

/-! ### Calls that write fields -/

@[simp] theorem Memory.bytes_write (memory : Memory) (block : Block) (offset : Nat)
    (bytes : Bytes) :
    (memory.write block offset bytes).bytes block = (memory.bytes block).overlay offset bytes := by
  simp [write, put, Memory.bytes]

namespace Region

variable {region : Region}

/-- All bytes of a region are there. -/
def LiesIn (region : Region) (memory : Memory) : Prop :=
  region.length ≤ (memory.bytes region.block).length

theorem writeAll_fitting {fields : List (Nat × Bytes)}
    (fit : ∀ field ∈ fields, field.1 + field.2.length ≤ region.length) (memory : Memory) :
    ∃ after, region.writeAll fields memory = (true, after) ∧
      after.bytes region.block = (memory.bytes region.block).overlayAll fields := by
  induction fields generalizing memory with
  | nil => exact ⟨memory, rfl, rfl⟩
  | cons field fields ih =>
    have written : region.writeAt field.1 field.2 memory =
        (true, memory.write region.block field.1 field.2) := if_pos (fit field List.mem_cons_self)
    obtain ⟨after, wrote, left⟩ :=
      ih (fun other member => fit other (List.mem_cons_of_mem _ member))
        (memory.write region.block field.1 field.2)
    refine ⟨after, ?_, ?_⟩
    · show (region.writeAt field.1 field.2 >>= fun granted =>
        if granted then region.writeAll fields else pure false) memory = _
      simp only [bind, StateT.bind]
      rw [written]
      exact wrote
    · rw [left, Memory.bytes_write]
      rfl

/-- A call writes fields, if a region has as much room as it asks for, and otherwise nothing. -/
structure WritesAll (region : Region) (call : StateM Memory Bool) (room : Nat)
    (fields : List (Nat × Bytes)) : Prop where
  within : ∀ field ∈ fields, field.1 + field.2.length ≤ room
  granted : room ≤ region.length → ∀ memory, ∃ after, call memory = (true, after) ∧
    after.bytes region.block = (memory.bytes region.block).overlayAll fields
  refused : region.length < room → ∀ memory, call memory = (false, memory)

/-- A call that looks at the length before it writes. -/
theorem writesAll_of_guard {call : StateM Memory Bool} {room : Nat} {fields : List (Nat × Bytes)}
    (within : ∀ field ∈ fields, field.1 + field.2.length ≤ room)
    (guarded : call = if region.length < room then pure false else region.writeAll fields) :
    region.WritesAll call room fields := by
  refine ⟨within, ?_, ?_⟩
  · intro enough memory
    rw [guarded, if_neg (by omega)]
    exact writeAll_fitting (fun field member => Nat.le_trans (within field member) enough) memory
  · intro short memory
    rw [guarded, if_pos short]
    rfl

end Region

/-! ### Calls one after another -/

/-- What calls on a region leave, and those of them that were granted, in order. -/
structure WriterLog (Call : Type) where
  memory : Memory
  granted : List Call

namespace WriterLog

variable {Call : Type} (run : Call → StateM Memory Bool)

/-- What one more call makes of a log. -/
def step (log : WriterLog Call) (call : Call) : WriterLog Call :=
  let (granted, memory) := run call log.memory
  ⟨memory, if granted then log.granted ++ [call] else log.granted⟩

/-- The log of some calls. -/
def after (memory : Memory) (calls : List Call) : WriterLog Call :=
  calls.foldl (step run) ⟨memory, []⟩

variable {run} {region : Region} {room : Call → Nat} {fields : Call → List (Nat × Bytes)}

/-- A call changes the bytes and joins the granted ones, or does neither. -/
theorem step_cases (writes : ∀ call, region.WritesAll (run call) (room call) (fields call))
    (log : WriterLog Call) (call : Call) :
    (room call ≤ region.length ∧ (step run log call).granted = log.granted ++ [call] ∧
      (step run log call).memory.bytes region.block =
        (log.memory.bytes region.block).overlayAll (fields call)) ∨
    step run log call = log := by
  by_cases enough : room call ≤ region.length
  · obtain ⟨after, wrote, left⟩ := (writes call).granted enough log.memory
    have stepped : step run log call = ⟨after, log.granted ++ [call]⟩ := by
      rw [step, wrote]
      rfl
    rw [stepped]
    exact .inl ⟨enough, rfl, left⟩
  · have nothing := (writes call).refused (by omega) log.memory
    right
    rw [step, nothing]
    rfl

/-- What holds before all calls, and after each that is granted if it held before it, holds after any
calls: of those that were granted and of the bytes. -/
theorem after_holds (writes : ∀ call, region.WritesAll (run call) (room call) (fields call))
    {memory : Memory} (lies : region.LiesIn memory) {Shown : List Call → Bytes → Prop}
    (initial : Shown [] (memory.bytes region.block))
    (preserved : ∀ granted bytes call, room call ≤ region.length → region.length ≤ bytes.length →
      Shown granted bytes → Shown (granted ++ [call]) (bytes.overlayAll (fields call)))
    (calls : List Call) :
    region.LiesIn (after run memory calls).memory ∧
      Shown (after run memory calls).granted
        ((after run memory calls).memory.bytes region.block) := by
  -- The induction is on the calls, from any log of which both hold.
  suffices run_from : ∀ log : WriterLog Call, region.LiesIn log.memory →
      Shown log.granted (log.memory.bytes region.block) →
      region.LiesIn (calls.foldl (step run) log).memory ∧
        Shown (calls.foldl (step run) log).granted
          ((calls.foldl (step run) log).memory.bytes region.block) from
    run_from ⟨memory, []⟩ lies initial
  induction calls with
  | nil =>
    intro log lies shown
    exact ⟨lies, shown⟩
  | cons call calls ih =>
    intro log lies shown
    rw [List.foldl_cons]
    apply ih
    all_goals obtain ⟨enough, joined, left⟩ | nothing := step_cases writes log call
    · have kept : ((log.memory.bytes region.block).overlayAll (fields call)).length =
          (log.memory.bytes region.block).length :=
        Bytes.length_overlayAll fun field member =>
          Nat.le_trans ((writes call).within field member) (Nat.le_trans enough lies)
      rw [Region.LiesIn, left, kept]
      exact lies
    · rw [nothing]
      exact lies
    · rw [joined, left]
      exact preserved _ _ call enough lies shown
    · rw [nothing]
      exact shown

end WriterLog

/-! ### The record of a thread -/

/-- A call on the region of a thread. -/
inductive ThreadWrite where
  | activate (record : ThreadRecord)
  | deactivate

namespace ThreadWrite

def run (region : Region) : ThreadWrite → StateM Memory Bool
  | activate record => record.activate region
  | deactivate => ThreadRecord.deactivate region

/-- The record that a call writes, if it writes one. -/
def record? : ThreadWrite → Option ThreadRecord
  | activate record => some record
  | deactivate => none

/-- The flags that a call leaves. -/
def flags : ThreadWrite → Nat
  | activate _ => 256
  | deactivate => 0

/-- The length that a region needs for a call. -/
def room : ThreadWrite → Nat
  | activate _ => 40
  | deactivate => 28

/-- The fields that a call writes. -/
def fields : ThreadWrite → List (Nat × Bytes)
  | activate record =>
    [(0, record.traceId.toList), (16, record.spanId.toList), (32, record.transactionId.toList),
      (24, Bytes.ofNat 4 256)]
  | deactivate => [(24, Bytes.ofNat 4 0)]

theorem fields_within (call : ThreadWrite) :
    ∀ field ∈ call.fields, field.1 + field.2.length ≤ call.room := by
  cases call <;> simp [fields, room]

theorem fields_apart (call : ThreadWrite) : call.fields.Pairwise Bytes.Apart := by
  cases call <;> simp [fields, Bytes.Apart]

theorem writesAll (region : Region) (call : ThreadWrite) :
    region.WritesAll (call.run region) call.room call.fields := by
  cases call with
  | activate record => exact Region.writesAll_of_guard (fields_within _) rfl
  | deactivate =>
    refine ⟨fields_within _, ?_, ?_⟩
    · intro enough memory
      exact ⟨_, if_pos enough, Memory.bytes_write _ _ _ _⟩
    · intro short memory
      have reaches_past : ¬ 28 ≤ region.length := Nat.not_le.mpr short
      exact if_neg reaches_past

end ThreadWrite

namespace ThreadRecord

/-- The record that bytes show. -/
def read? (bytes : Bytes) : Option ThreadRecord := do
  let traceId ← bytes.slice? 0 16
  let spanId ← bytes.slice? 16 8
  let transactionId ← bytes.slice? 32 8
  return ⟨Bytes.field 16 traceId, Bytes.field 8 spanId, Bytes.field 8 transactionId⟩

/-- The flags that bytes show. -/
def readFlags? (bytes : Bytes) : Option Nat := (bytes.slice? 24 4).map Bytes.toNat

/-- The last record and the last flags of granted calls stand in bytes. -/
structure Shown (granted : List ThreadWrite) (bytes : Bytes) : Prop where
  record : ∀ record, (granted.filterMap ThreadWrite.record?).getLast? = some record →
    read? bytes = some record
  flags : ∀ last, granted.getLast? = some last → readFlags? bytes = some last.flags

/-- What a field holds that a call has just written. -/
theorem slice?_written (call : ThreadWrite) {bytes : Bytes} (enough : call.room ≤ bytes.length)
    {offset width : Nat} {content : Bytes} (member : (offset, content) ∈ call.fields)
    (long : content.length = width) :
    (bytes.overlayAll call.fields).slice? offset width = some content := by
  rw [← long]
  exact Bytes.slice?_overlayAll call.fields_apart
    (fun other inside => Nat.le_trans (call.fields_within other inside) enough) member

theorem read?_activated (record : ThreadRecord) {bytes : Bytes} (enough : 40 ≤ bytes.length) :
    read? (bytes.overlayAll (ThreadWrite.activate record).fields) = some record := by
  have written {offset width : Nat} {content : Vector UInt8 width}
      (member : (offset, content.toList) ∈ (ThreadWrite.activate record).fields) :
      (bytes.overlayAll (ThreadWrite.activate record).fields).slice? offset width =
        some content.toList :=
    slice?_written (.activate record) enough member content.length_toList
  have traceId : (0, record.traceId.toList) ∈ (ThreadWrite.activate record).fields := by
    simp [ThreadWrite.fields]
  have spanId : (16, record.spanId.toList) ∈ (ThreadWrite.activate record).fields := by
    simp [ThreadWrite.fields]
  have transactionId : (32, record.transactionId.toList) ∈
      (ThreadWrite.activate record).fields := by
    simp [ThreadWrite.fields]
  have back {n : Nat} (content : Vector UInt8 n) : Bytes.field n content.toList = content := by
    have padded := Bytes.field_append content []
    rwa [List.append_nil] at padded
  rw [read?, written traceId, written spanId, written transactionId]
  simp only [Option.bind_eq_bind, Option.bind_some, back]
  rfl

/-- Whoever clears the flags leaves the record. -/
theorem read?_deactivated {bytes : Bytes} (enough : 28 ≤ bytes.length) :
    read? (bytes.overlayAll ThreadWrite.deactivate.fields) = read? bytes := by
  have fit : ∀ field ∈ ThreadWrite.deactivate.fields, field.1 + field.2.length ≤ bytes.length :=
    fun field member => Nat.le_trans (ThreadWrite.deactivate.fields_within field member) enough
  have elsewhere {offset width : Nat} (apart : offset + width ≤ 24 ∨ 28 ≤ offset) :
      (bytes.overlayAll ThreadWrite.deactivate.fields).slice? offset width =
        bytes.slice? offset width := by
    apply Bytes.slice?_congr (Bytes.length_overlayAll fit)
    intro i from_start to_end
    apply Bytes.getElem?_overlayAll_outside fit
    intro field member
    have flags : field = (24, Bytes.ofNat 4 0) := List.mem_singleton.mp member
    rw [flags]
    show i < 24 ∨ 24 + 4 ≤ i
    omega
  rw [read?, read?, elsewhere (by decide), elsewhere (by decide), elsewhere (by decide)]

theorem readFlags?_written (call : ThreadWrite) {bytes : Bytes}
    (enough : call.room ≤ bytes.length) :
    readFlags? (bytes.overlayAll call.fields) = some call.flags := by
  have flags : (24, Bytes.ofNat 4 call.flags) ∈ call.fields := by
    cases call <;> simp [ThreadWrite.fields, ThreadWrite.flags]
  have word := slice?_written call enough flags (Bytes.length_ofNat 4 _)
  have read_back : Bytes.toNat (Bytes.ofNat 4 call.flags) = call.flags := by
    rw [Bytes.toNat_ofNat]
    cases call <;> rfl
  rw [readFlags?, word, Option.map_some, read_back]

theorem Shown.written {granted : List ThreadWrite} {bytes : Bytes} (shown : Shown granted bytes)
    {call : ThreadWrite} (enough : call.room ≤ bytes.length) :
    Shown (granted ++ [call]) (bytes.overlayAll call.fields) := by
  constructor
  · intro record latest
    rw [List.filterMap_append] at latest
    cases call with
    | activate written =>
      have same : written = record := by
        have concat : (granted.filterMap ThreadWrite.record? ++ [written]).getLast? = some written :=
          List.getLast?_concat
        exact Option.some.inj (concat.symm.trans latest)
      rw [← same]
      exact read?_activated written enough
    | deactivate =>
      have before : (granted.filterMap ThreadWrite.record?).getLast? = some record := by
        rw [← latest]
        exact congrArg List.getLast? (List.append_nil _).symm
      rw [read?_deactivated enough]
      exact shown.record record before
  · intro last latest
    rw [List.getLast?_concat] at latest
    rw [← Option.some.inj latest]
    exact readFlags?_written call enough

theorem shown_after {region : Region} {memory : Memory} (lies : region.LiesIn memory)
    (calls : List ThreadWrite) :
    let log := WriterLog.after (ThreadWrite.run region) memory calls
    region.LiesIn log.memory ∧ Shown log.granted (log.memory.bytes region.block) := by
  apply WriterLog.after_holds (ThreadWrite.writesAll region) lies
  · exact ⟨nofun, nofun⟩
  · intro granted bytes call enough available shown
    exact shown.written (Nat.le_trans enough available)

/-- A view that reaches the end of the record shows it. -/
theorem read?_take {bytes : Bytes} {capacity : Nat} (enough : 40 ≤ capacity)
    (available : capacity ≤ bytes.length) : read? (bytes.take capacity) = read? bytes := by
  rw [read?, read?, Bytes.slice?_take (by omega) available, Bytes.slice?_take (by omega) available,
    Bytes.slice?_take (by omega) available]

theorem readFlags?_take {bytes : Bytes} {capacity : Nat} (enough : 28 ≤ capacity)
    (available : capacity ≤ bytes.length) :
    readFlags? (bytes.take capacity) = readFlags? bytes := by
  rw [readFlags?, readFlags?, Bytes.slice?_take (by omega) available]

end ThreadRecord

/-! ### The record of the process -/

namespace ProcessRecord

/-- The version that bytes show. -/
def readVersion? (bytes : Bytes) : Option Nat := (bytes.slice? 0 8).map Bytes.toNat

/-- The length of the name that bytes show. -/
def readNameLength? (bytes : Bytes) : Option Nat := (bytes.slice? 8 8).map Bytes.toNat

/-- The name that bytes show, as long as they say. -/
def readName? (bytes : Bytes) : Option Bytes := do bytes.slice? 16 (← readNameLength? bytes)

/-- The length that a region needs for a name. -/
def room (name : String) : Nat := 16 + (Utf8.encode name).length

/-- The fields of a record. -/
def fields (name : String) : List (Nat × Bytes) :=
  [(0, Bytes.ofNat 8 1), (8, Bytes.ofNat 8 (Utf8.encode name).length), (16, Utf8.encode name)]

theorem fields_within (name : String) :
    ∀ field ∈ fields name, field.1 + field.2.length ≤ room name := by
  intro field member
  simp only [fields, List.mem_cons, List.not_mem_nil, or_false] at member
  rcases member with rfl | rfl | rfl
  all_goals simp only [Bytes.length_ofNat, room]
  all_goals omega

theorem fields_apart (name : String) : (fields name).Pairwise Bytes.Apart := by
  simp [fields, Bytes.Apart]

theorem writesAll (region : Region) (name : String) :
    region.WritesAll (write region name) (room name) (fields name) :=
  Region.writesAll_of_guard (fields_within name) rfl

/-- The last name of granted calls stands in bytes, with its length and the version before it. -/
structure Shown (granted : List String) (bytes : Bytes) : Prop where
  version : ∀ name, granted.getLast? = some name → readVersion? bytes = some 1
  length : ∀ name, granted.getLast? = some name →
    readNameLength? bytes = some (Utf8.encode name).length
  name : ∀ name, granted.getLast? = some name →
    bytes.slice? 16 (Utf8.encode name).length = some (Utf8.encode name)

/-- A record is written whole, so nothing of what stood there before is in it. -/
theorem shown_written (granted : List String) {bytes : Bytes} {name : String}
    (enough : room name ≤ bytes.length) (countable : (Utf8.encode name).length < 256 ^ 8) :
    Shown (granted ++ [name]) (bytes.overlayAll (fields name)) := by
  have written (field : Nat × Bytes) (member : field ∈ fields name) :
      (bytes.overlayAll (fields name)).slice? field.1 field.2.length = some field.2 :=
    Bytes.slice?_overlayAll (fields_apart name)
      (fun other inside => Nat.le_trans (fields_within name other inside) enough) member
  have version := written (0, Bytes.ofNat 8 1) (by simp [fields])
  have length := written (8, Bytes.ofNat 8 (Utf8.encode name).length) (by simp [fields])
  have content := written (16, Utf8.encode name) (by simp [fields])
  rw [Bytes.length_ofNat] at version length
  have latest {last : String} (h : (granted ++ [name]).getLast? = some last) : name = last := by
    rw [List.getLast?_concat] at h
    exact Option.some.inj h
  refine ⟨?_, ?_, ?_⟩
  · intro last h
    rw [readVersion?, version]
    rfl
  · intro last h
    rw [← latest h, readNameLength?, length, Option.map_some, Bytes.toNat_ofNat,
      Nat.mod_eq_of_lt countable]
  · intro last h
    rw [← latest h]
    exact content

theorem shown_after {region : Region} {memory : Memory} (lies : region.LiesIn memory)
    (addressable : region.length < 2 ^ 64) (names : List String) :
    let log := WriterLog.after (write region) memory names
    region.LiesIn log.memory ∧ Shown log.granted (log.memory.bytes region.block) := by
  apply WriterLog.after_holds (writesAll region) lies
  · exact ⟨nofun, nofun, nofun⟩
  · intro granted bytes name enough available _
    have countable : (Utf8.encode name).length < 256 ^ 8 := by
      have same : (2 : Nat) ^ 64 = 256 ^ 8 := by decide
      rw [room] at enough
      rw [← same]
      omega
    exact shown_written granted (Nat.le_trans enough available) countable

end ProcessRecord

/-! ### Whoever reads what was written -/

namespace Region

variable {region : Region} {memory : Memory}

/-- A view shows the front of its region. -/
theorem read_view {capacity : Nat} {view : View} (opened : region.view capacity = some view)
    (lies : region.LiesIn memory) :
    view.read memory = (memory.bytes region.block).take capacity ∧
      capacity ≤ (memory.bytes region.block).length := by
  rw [Region.view] at opened
  split at opened
  · next within =>
    cases opened
    exact ⟨rfl, Nat.le_trans within lies⟩
  · cases opened

/-- After any calls on a region, whoever reads it through a view that is long enough sees what the
last granted calls meant: of activations and deactivations, the last record, and flags that are up
exactly if the last call was an activation; of names, the version, and the last one that fitted with
its length. -/
theorem reads_back (region : Region) (memory : Memory) (lies : region.LiesIn memory)
    (addressable : region.length < 2 ^ 64) :
    (∀ calls : List ThreadWrite,
      let log := WriterLog.after (ThreadWrite.run region) memory calls
      ∀ capacity view, region.view capacity = some view →
        (40 ≤ capacity → ∀ record,
          (log.granted.filterMap ThreadWrite.record?).getLast? = some record →
            ThreadRecord.read? (view.read log.memory) = some record) ∧
        (28 ≤ capacity → ∀ last, log.granted.getLast? = some last →
          ThreadRecord.readFlags? (view.read log.memory) =
            some (if last.record?.isSome then 256 else 0))) ∧
    (∀ names : List String,
      let log := WriterLog.after (ProcessRecord.write region) memory names
      ∀ capacity view, region.view capacity = some view →
        ∀ name, log.granted.getLast? = some name →
          (8 ≤ capacity → ProcessRecord.readVersion? (view.read log.memory) = some 1) ∧
          (16 ≤ capacity →
            ProcessRecord.readNameLength? (view.read log.memory) =
              some (Utf8.encode name).length) ∧
          (16 + (Utf8.encode name).length ≤ capacity →
            ProcessRecord.readName? (view.read log.memory) = some (Utf8.encode name))) := by
  constructor
  · intro calls log capacity view opened
    obtain ⟨still, shown⟩ := ThreadRecord.shown_after lies calls
    obtain ⟨front, available⟩ := read_view opened still
    rw [front]
    constructor
    · intro enough record latest
      rw [ThreadRecord.read?_take enough available]
      exact shown.record record latest
    · intro enough last latest
      rw [ThreadRecord.readFlags?_take enough available, shown.flags last latest]
      cases last <;> rfl
  · intro names log capacity view opened name latest
    obtain ⟨still, shown⟩ := ProcessRecord.shown_after lies addressable names
    obtain ⟨front, available⟩ := read_view opened still
    have length : 16 ≤ capacity → ProcessRecord.readNameLength? (view.read log.memory) =
        some (Utf8.encode name).length := by
      intro enough
      rw [front, ProcessRecord.readNameLength?, Bytes.slice?_take enough available]
      exact shown.length name latest
    refine ⟨?_, length, ?_⟩
    · intro enough
      rw [front, ProcessRecord.readVersion?, Bytes.slice?_take enough available]
      exact shown.version name latest
    · intro enough
      rw [ProcessRecord.readName?, length (by omega), front]
      exact (Bytes.slice?_take enough available).trans (shown.name name latest)

/-- A region of 48 bytes that held something else before. -/
def used : Region × Memory := (⟨⟨0⟩, 48⟩, Memory.empty.put ⟨0⟩ (.replicate 48 0xAA))

/-- A record that is told from others by its bytes. -/
def recordOf (byte : UInt8) : ThreadRecord where
  traceId := .replicate 16 byte
  spanId := .replicate 8 byte
  transactionId := .replicate 8 byte

/-- A name that does not fit leaves the shorter one that replaced a longer one, and clearing the flags
leaves the record. -/
theorem reads_back_through_whole_view :
    used.1.LiesIn used.2 ∧ used.1.length < 2 ^ 64 ∧
      (let log := WriterLog.after (ProcessRecord.write used.1) used.2
        ["checkout-service", "billing", "a name that is too long for such a region"]
      ProcessRecord.readName? ((⟨⟨0⟩, 48⟩ : View).read log.memory) = some (Utf8.encode "billing")) ∧
      (let log := WriterLog.after (ThreadWrite.run used.1) used.2
        [.activate (recordOf 7), .activate (recordOf 9), .deactivate]
      ThreadRecord.read? ((⟨⟨0⟩, 48⟩ : View).read log.memory) = some (recordOf 9) ∧
        ThreadRecord.readFlags? ((⟨⟨0⟩, 48⟩ : View).read log.memory) = some 0) := by
  have lies : used.1.LiesIn used.2 := by
    unfold Region.LiesIn
    decide +kernel
  obtain ⟨threads, process⟩ := reads_back used.1 used.2 lies (by decide)
  refine ⟨lies, by decide, ?_, ?_⟩
  · have granted : (WriterLog.after (ProcessRecord.write used.1) used.2
        ["checkout-service", "billing", "a name that is too long for such a region"]).granted.getLast? =
        some "billing" := by decide +kernel
    exact (process _ 48 _ rfl _ granted).2.2 (by decide +kernel)
  · obtain ⟨records, flags⟩ := threads [.activate (recordOf 7), .activate (recordOf 9), .deactivate]
      48 _ rfl
    have granted : (WriterLog.after (ThreadWrite.run used.1) used.2
        [.activate (recordOf 7), .activate (recordOf 9), .deactivate]).granted =
        [.activate (recordOf 7), .activate (recordOf 9), .deactivate] := rfl
    have last := congrArg List.getLast? granted
    have latest := congrArg (fun calls => (calls.filterMap ThreadWrite.record?).getLast?) granted
    exact ⟨records (by decide) _ latest, flags (by decide) .deactivate last⟩

end Region

end TraceLink
