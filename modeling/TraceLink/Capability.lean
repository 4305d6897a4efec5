/-!
# Sets of tool capabilities

A set of capabilities is 128 bits in four words, the lowest first. Bit `b` stands at place
`b % 32` of word `b / 32`. Only two capabilities have names here, those that the agent negotiates.
-/

namespace TraceLink

/-- A capability that the agent negotiates. -/
inductive Capability where
  /-- Events for sampled allocations. -/
  | sampledAllocation
  /-- Support for virtual threads. -/
  | virtualThreads
  deriving DecidableEq, Repr

/-- The bit of a capability. -/
def Capability.bit : Capability → Fin 128
  | sampledAllocation => 43
  | virtualThreads => 44

/-- A set of capabilities in four words, the lowest first. -/
structure CapabilitySet where
  words : Vector UInt32 4
  deriving DecidableEq, Repr

namespace CapabilitySet

/-- The set without members. -/
def empty : CapabilitySet := ⟨Vector.replicate 4 0⟩

/-- The word that holds a bit. -/
def wordIndex (bit : Fin 128) : Fin 4 := ⟨bit.val / 32, by omega⟩

/-- The word in which only a bit's place is set. -/
def mask (bit : Fin 128) : UInt32 := 1 <<< (UInt32.ofNat (bit.val % 32))

/-- Whether a bit is set. -/
def testBit (set : CapabilitySet) (bit : Fin 128) : Bool :=
  set.words[wordIndex bit] &&& mask bit != 0

/-- Sets or clears a bit. -/
def setBit (set : CapabilitySet) (bit : Fin 128) (value : Bool) : CapabilitySet :=
  let word := set.words[wordIndex bit]
  let word := if value then word ||| mask bit else word &&& ~~~ mask bit
  ⟨set.words.set (wordIndex bit) word⟩

/-- Whether a capability is a member. -/
def has (set : CapabilitySet) (capability : Capability) : Bool := set.testBit capability.bit

/-- Puts a capability in or takes it out. -/
def assign (set : CapabilitySet) (capability : Capability) (value : Bool) : CapabilitySet :=
  set.setBit capability.bit value

/-- The set of one capability. -/
def single (capability : Capability) : CapabilitySet := empty.assign capability true

/-- The set of some capabilities. -/
def ofList (capabilities : List Capability) : CapabilitySet :=
  capabilities.foldl (fun set capability => set.assign capability true) empty

/-- Whether there are no members. -/
def isEmpty (set : CapabilitySet) : Bool := set.words.all (· == 0)

/-- The words in decimal between commas, the lowest first. -/
def text (set : CapabilitySet) : String :=
  String.intercalate "," (set.words.toList.map fun word => toString word.toNat)

example : (single .sampledAllocation).text = "0,2048,0,0" := by decide +kernel
example : (single .virtualThreads).text = "0,4096,0,0" := by decide +kernel

end CapabilitySet

end TraceLink
