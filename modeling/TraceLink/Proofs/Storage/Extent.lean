import TraceLink.Proofs.Storage.ReadBack

/-!
# How far a write reaches

Everything that writes to a region asks for some length of it. If the region has less, the memory
stays as it is to the last byte; otherwise the bytes of the fields are replaced and no others, inside
the region or outside. The length that is asked for is a number and no word, so it does not wrap; a
machine that adds in words and looks for the overflow comes to the same.

* `RegionWrite` — the calls that write to a region, with the length each asks for and the bytes it
  covers;
* `Memory.DiffersAt` — one memory differs from another at a single block;
* `RegionWrite.Done` — what a write that is granted makes of a memory;
* `RegionWrite.done_or_untouched` — a write is granted exactly if the region is long enough, and is
  done whole or not at all.
-/

namespace TraceLink

/-! ### A single block -/

/-- A memory is another one up to what stands at a block. -/
structure Memory.DiffersAt (block : Block) (memory after : Memory) : Prop where
  elsewhere : ∀ other, other ≠ block → after.bytes? other = memory.bytes? other
  next : after.next = memory.next

namespace Memory.DiffersAt

variable {block : Block} {memory between after : Memory}

theorem refl (memory : Memory) : DiffersAt block memory memory := ⟨fun _ _ => rfl, rfl⟩

theorem trans (first : DiffersAt block memory between) (second : DiffersAt block between after) :
    DiffersAt block memory after := by
  refine ⟨?_, second.next.trans first.next⟩
  intro other different
  rw [second.elsewhere other different, first.elsewhere other different]

theorem write (memory : Memory) (block : Block) (offset : Nat) (bytes : Bytes) :
    DiffersAt block memory (memory.write block offset bytes) :=
  ⟨fun _ different => if_neg different, rfl⟩

end Memory.DiffersAt

namespace Region

variable (region : Region)

theorem writeAt_differs (offset : Nat) (bytes : Bytes) (memory : Memory) :
    Memory.DiffersAt region.block memory (region.writeAt offset bytes memory).2 := by
  unfold writeAt
  split
  · exact .write memory region.block offset bytes
  · exact .refl memory

/-- However far a list of fields is written, only the block of the region is touched. -/
theorem writeAll_differs (fields : List (Nat × Bytes)) (memory : Memory) :
    Memory.DiffersAt region.block memory (region.writeAll fields memory).2 := by
  induction fields generalizing memory with
  | nil => exact .refl memory
  | cons field fields ih =>
    have first := region.writeAt_differs field.1 field.2 memory
    show Memory.DiffersAt region.block memory ((region.writeAt field.1 field.2 >>= fun granted =>
      if granted then region.writeAll fields else pure false) memory).2
    simp only [bind, StateT.bind]
    rcases written : region.writeAt field.1 field.2 memory with ⟨granted, reached⟩
    rw [written] at first
    cases granted with
    | false => exact first
    | true => exact first.trans (ih reached)

/-! ### Ends in words of 64 bits -/

/-- Where a stretch ends, as a word, unless the sum has wrapped around. -/
def checkedEnd? (offset length : UInt64) : Option UInt64 :=
  if offset + length < offset then none else some (offset + length)

/-- A sum of words that has not wrapped stays below a word exactly if the sum of the numbers does. -/
theorem checkedEnd?_le_iff (offset length limit : UInt64) :
    (∃ last, checkedEnd? offset length = some last ∧ last ≤ limit) ↔
      offset.toNat + length.toNat ≤ limit.toNat := by
  have sum : (offset + length).toNat = (offset.toNat + length.toNat) % 2 ^ 64 :=
    UInt64.toNat_add offset length
  have below := limit.toNat_lt
  have short := length.toNat_lt
  unfold checkedEnd?
  by_cases wraps : offset + length < offset
  · rw [if_pos wraps]
    rw [UInt64.lt_iff_toNat_lt, sum] at wraps
    constructor
    · rintro ⟨last, none_left, -⟩
      cases none_left
    · omega
  · rw [if_neg wraps]
    rw [UInt64.lt_iff_toNat_lt, sum] at wraps
    constructor
    · rintro ⟨last, end_eq, within⟩
      rw [← Option.some.inj end_eq, UInt64.le_iff_toNat_le, sum] at within
      omega
    · intro within
      refine ⟨_, rfl, ?_⟩
      rw [UInt64.le_iff_toNat_le, sum]
      omega

end Region

/-! ### The calls -/

/-- A call that writes to a region. -/
inductive RegionWrite where
  /-- Copies bytes to an offset, which is a word. -/
  | copy (offset : UInt64) (bytes : Bytes)
  /-- Writes the record of a thread, or clears its flags. -/
  | thread (call : ThreadWrite)
  /-- Writes the record of the process. -/
  | process (name : String)

namespace RegionWrite

def run (region : Region) : RegionWrite → StateM Memory Bool
  | copy offset bytes => region.writeAt offset.toNat bytes
  | thread call => call.run region
  | process name => ProcessRecord.write region name

/-- The length that a region needs for a call. -/
def room : RegionWrite → Nat
  | copy offset bytes => offset.toNat + bytes.length
  | thread (.activate _) => 40
  | thread .deactivate => 28
  | process name => 16 + (Utf8.encode name).length

/-- The fields that a call writes. -/
def fields : RegionWrite → List (Nat × Bytes)
  | copy offset bytes => [(offset.toNat, bytes)]
  | thread call => call.fields
  | process name => ProcessRecord.fields name

/-- The places of the bytes that a call writes: an activation leaves the four behind the flags, and
clearing the flags leaves all the others. -/
def Covers : RegionWrite → Nat → Prop
  | copy offset bytes, i => offset.toNat ≤ i ∧ i < offset.toNat + bytes.length
  | thread (.activate _), i => i < 28 ∨ 32 ≤ i ∧ i < 40
  | thread .deactivate, i => 24 ≤ i ∧ i < 28
  | process name, i => i < 16 + (Utf8.encode name).length

/-- What a call makes of a memory whose region is long enough: the bytes of its fields stand there,
and everything else is as it was. -/
structure Done (write : RegionWrite) (region : Region) (memory after : Memory) : Prop where
  written : ∀ field ∈ write.fields, ∀ i < field.2.length,
    (after.bytes region.block)[field.1 + i]? = field.2[i]?
  kept : ∀ i, ¬ write.Covers i →
    (after.bytes region.block)[i]? = (memory.bytes region.block)[i]?
  elsewhere : ∀ block, block ≠ region.block → after.bytes? block = memory.bytes? block
  next : after.next = memory.next

variable {region : Region} (write : RegionWrite)

theorem fields_apart : write.fields.Pairwise Bytes.Apart := by
  cases write with
  | copy offset bytes => exact List.pairwise_singleton _ _
  | thread call => exact call.fields_apart
  | process name => exact ProcessRecord.fields_apart name

theorem writesAll (region : Region) :
    region.WritesAll (write.run region) write.room write.fields := by
  cases write with
  | copy offset bytes =>
    refine ⟨?_, ?_, ?_⟩
    · intro field member
      rw [List.mem_singleton.mp member]
      exact Nat.le_refl _
    · intro enough memory
      exact ⟨_, if_pos enough, Memory.bytes_write _ _ _ _⟩
    · intro short memory
      exact if_neg (Nat.not_le.mpr short)
  | thread call =>
    cases call with
    | activate record => exact ThreadWrite.writesAll region (.activate record)
    | deactivate => exact ThreadWrite.writesAll region .deactivate
  | process name => exact ProcessRecord.writesAll region name

theorem run_differs (region : Region) (memory : Memory) :
    Memory.DiffersAt region.block memory (write.run region memory).2 := by
  have guarded (short : Prop) [Decidable short] (fields : List (Nat × Bytes)) :
      Memory.DiffersAt region.block memory
        ((if short then pure false else region.writeAll fields : StateM Memory Bool) memory).2 := by
    split
    · exact .refl memory
    · exact region.writeAll_differs fields memory
  cases write with
  | copy offset bytes => exact region.writeAt_differs offset.toNat bytes memory
  | thread call =>
    cases call with
    | activate record => exact guarded _ _
    | deactivate => exact region.writeAt_differs 24 _ memory
  | process name => exact guarded _ _

/-- A call covers the bytes of its fields and no others. -/
theorem covers_iff (i : Nat) :
    write.Covers i ↔ ∃ field ∈ write.fields, field.1 ≤ i ∧ i < field.1 + field.2.length := by
  cases write with
  | copy offset bytes => simp [Covers, fields]
  | thread call =>
    cases call with
    | activate record =>
      simp [Covers, fields, ThreadWrite.fields]
      omega
    | deactivate => simp [Covers, fields, ThreadWrite.fields]
  | process name =>
    simp [Covers, fields, ProcessRecord.fields]
    omega

/-- A call that is granted is done. -/
theorem done_of_overlay {memory after : Memory} (lies : region.LiesIn memory)
    (enough : write.room ≤ region.length)
    (left : after.bytes region.block = (memory.bytes region.block).overlayAll write.fields)
    (differs : Memory.DiffersAt region.block memory after) : write.Done region memory after := by
  have fit : ∀ field ∈ write.fields,
      field.1 + field.2.length ≤ (memory.bytes region.block).length := by
    intro field member
    exact Nat.le_trans ((write.writesAll region).within field member) (Nat.le_trans enough lies)
  refine ⟨?_, ?_, differs.elsewhere, differs.next⟩
  · intro field member i inside
    have stands := Bytes.slice?_overlayAll write.fields_apart fit member
    rw [left]
    exact Bytes.getElem?_of_slice? stands inside
  · intro i uncovered
    rw [left]
    apply Bytes.getElem?_overlayAll_outside fit
    intro field member
    by_cases reached : field.1 ≤ i ∧ i < field.1 + field.2.length
    · exact absurd ((write.covers_iff i).mpr ⟨field, member, reached⟩) uncovered
    · omega

/-- Looking for the overflow of a sum of words grants the same copies. -/
theorem copy_granted_iff {offset : UInt64} {bytes : Bytes} (short : bytes.length < 2 ^ 64)
    (addressable : region.length < 2 ^ 64) :
    (copy offset bytes).room ≤ region.length ↔
      ∃ last, Region.checkedEnd? offset (.ofNat bytes.length) = some last ∧
        last ≤ .ofNat region.length := by
  rw [Region.checkedEnd?_le_iff, UInt64.toNat_ofNat_of_lt' short,
    UInt64.toNat_ofNat_of_lt' addressable]
  exact Iff.rfl

/-- Every call is granted exactly if the region has the length that it asks for. One that is refused
leaves the memory as it is; one that is granted replaces the bytes of its fields and nothing else, in
the region and outside. For a copy, sums of words that are checked for an overflow decide the same. -/
theorem done_or_untouched (region : Region) (memory : Memory) (lies : region.LiesIn memory)
    (write : RegionWrite) :
    let outcome := write.run region memory
    (outcome.1 = true ↔ write.room ≤ region.length) ∧
    (outcome.1 = false → outcome.2 = memory) ∧
    (outcome.1 = true → write.Done region memory outcome.2) ∧
    (∀ offset bytes, write = .copy offset bytes → bytes.length < 2 ^ 64 → region.length < 2 ^ 64 →
      (outcome.1 = true ↔ ∃ last, Region.checkedEnd? offset (.ofNat bytes.length) = some last ∧
        last ≤ .ofNat region.length)) := by
  intro outcome
  have differs : Memory.DiffersAt region.block memory outcome.2 := write.run_differs region memory
  have granted_iff : outcome.1 = true ↔ write.room ≤ region.length := by
    constructor
    · intro granted
      by_cases short : region.length < write.room
      · have refused : outcome = (false, memory) :=
          (write.writesAll region).refused short memory
        rw [refused] at granted
        cases granted
      · exact Nat.not_lt.mp short
    · intro enough
      obtain ⟨after, wrote, -⟩ := (write.writesAll region).granted enough memory
      exact congrArg Prod.fst wrote
  refine ⟨granted_iff, ?_, ?_, ?_⟩
  · intro refused
    have short : region.length < write.room := by
      rw [← Nat.not_le, ← granted_iff, refused]
      exact Bool.false_ne_true
    exact congrArg Prod.snd ((write.writesAll region).refused short memory)
  · intro granted
    have enough := granted_iff.mp granted
    obtain ⟨after, wrote, left⟩ := (write.writesAll region).granted enough memory
    have reached : outcome.2 = after := congrArg Prod.snd wrote
    rw [← reached] at left
    exact write.done_of_overlay lies enough left differs
  · rintro offset bytes rfl short addressable
    rw [granted_iff]
    exact copy_granted_iff short addressable

/-- In a region of 48 bytes, a copy whose end would wrap around to a place inside is refused, as is a
name of 33 bytes; a name of 32 bytes fills the region. -/
theorem done_or_untouched_wrapping :
    let region := Region.used.1
    let memory := Region.used.2
    let wrapping := copy 18446744073709551612 (.replicate 8 7)
    let name := String.ofList (.replicate 32 'n')
    region.LiesIn memory ∧
      wrapping.run region memory = (false, memory) ∧
      (process (name ++ "n")).run region memory = (false, memory) ∧
      ((process name).run region memory).1 = true ∧
      (process name).Done region memory ((process name).run region memory).2 := by
  intro region memory wrapping name
  have lies : region.LiesIn memory := by
    unfold Region.LiesIn
    decide +kernel
  have refused (write : RegionWrite) (denied : (write.run region memory).1 = false) :
      write.run region memory = (false, memory) :=
    Prod.ext denied ((done_or_untouched region memory lies write).2.1 denied)
  have granted : ((process name).run region memory).1 = true := by decide +kernel
  refine ⟨lies, refused _ (by decide +kernel), refused _ (by decide +kernel), granted, ?_⟩
  exact (done_or_untouched region memory lies (process name)).2.2.1 granted

end RegionWrite

end TraceLink
