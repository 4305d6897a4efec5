import Mathlib.Data.List.Forall2
import TraceLink.Config.Setting
import TraceLink.Proofs.Text.Margins
import TraceLink.Proofs.Text.Numerals

/-!
# What an option text says

The rules of option texts, written down without saying how a text is gone through: which pieces it
has, what a piece gives to a key, which values a key takes, what is wrong with a piece, and where each
field of the configuration comes from. Reading a text does what these rules say, for every text.

* `OptionText.Assigns`, `Takes`, `Offends` — the rules for one piece;
* `OptionText.Field.Settled` — a field comes from the last piece that names it;
* `OptionText.Reading` — what a whole text comes to: a configuration, or what is wrong with the
  leftmost piece that offends;
* `OptionText.parse_iff_reading` — reading a text comes to exactly that.
-/

namespace TraceLink

namespace OptionText

/-! ### Pieces -/

/-- The pieces of a text: what stands between its commas, trimmed, the empty ones left out. -/
def Pieces (text : String) (pieces : List (List Char)) : Prop :=
  ∃ trimmed, List.Forall₂ Blank.Trims (text.toList.splitOn ',') trimmed ∧
    pieces = trimmed.filter fun piece => decide (piece ≠ [])

theorem splitCommas_eq (cs : List Char) : Config.splitCommas cs = cs.splitOn ',' := by
  induction cs with
  | nil => rfl
  | cons c cs ih =>
    simp only [Config.splitCommas, ih, List.splitOn, List.splitOnP_cons_eq_if_modifyHead, beq_iff_eq]
    by_cases comma : c = ','
    · rw [if_pos comma, if_pos comma]
    · rw [if_neg comma, if_neg comma]
      obtain ⟨piece, pieces, parts⟩ :=
        List.exists_cons_of_ne_nil (List.splitOnP_ne_nil (fun c => c == ',') cs)
      rw [parts]
      rfl

theorem forall₂_trims_iff (cs trimmed : List (List Char)) :
    List.Forall₂ Blank.Trims cs trimmed ↔ trimmed = cs.map Blank.trim := by
  induction cs generalizing trimmed with
  | nil => rw [List.forall₂_nil_left_iff, List.map_nil]
  | cons c cs ih =>
    rw [List.forall₂_cons_left_iff]
    simp only [Blank.trims_iff, ih, List.map_cons]
    constructor
    · rintro ⟨_, _, rfl, rfl, rfl⟩
      rfl
    · rintro rfl
      exact ⟨_, _, rfl, rfl, rfl⟩

theorem pieces_iff (text : String) (pieces : List (List Char)) :
    Pieces text pieces ↔ pieces = Config.pieces text.toList := by
  simp only [Pieces, forall₂_trims_iff, exists_eq_left, Config.pieces, splitCommas_eq]

/-- A piece gives a value to a key: they stand before and behind its first equals sign. -/
def Assigns (piece : List Char) (key : String) (value : List Char) : Prop :=
  ∃ left right, piece = left ++ '=' :: right ∧ '=' ∉ left ∧
    Blank.Trims left key.toList ∧ Blank.Trims right value

/-- A piece gives some value to a key. -/
def Names (piece : List Char) (key : String) : Prop := ∃ value, Assigns piece key value

theorem not_mem_takeWhile (piece : List Char) : '=' ∉ piece.takeWhile (· != '=') := by
  intro member
  simpa using List.mem_takeWhile_imp member

/-- Where the first equals sign of a piece stands. -/
theorem split_first {piece : List Char} (member : '=' ∈ piece) :
    piece = piece.takeWhile (· != '=') ++ '=' :: (piece.dropWhile (· != '=')).drop 1 := by
  induction piece with
  | nil => cases member
  | cons c piece ih =>
    by_cases first : c = '='
    · simp [first]
    · have later : '=' ∈ piece := (List.mem_cons.mp member).resolve_left (Ne.symm first)
      have passed : (c != '=') = true := by simpa using first
      simp only [List.takeWhile_cons, List.dropWhile_cons, passed, if_true, List.cons_append]
      exact congrArg (List.cons c) (ih later)

theorem takeWhile_of_split {left : List Char} (right : List Char) (first : '=' ∉ left) :
    (left ++ '=' :: right).takeWhile (· != '=') = left ∧
      ((left ++ '=' :: right).dropWhile (· != '=')).drop 1 = right := by
  have passed : ∀ c ∈ left, (c != '=') = true := by
    intro c member
    rw [bne_iff_ne]
    rintro rfl
    exact first member
  rw [List.takeWhile_append_of_pos passed, List.dropWhile_append_of_pos passed]
  simp

theorem assigns_iff (piece : List Char) (key : String) (value : List Char) :
    Assigns piece key value ↔ '=' ∈ piece ∧
      key = String.ofList (Blank.trim (piece.takeWhile (· != '='))) ∧
      value = Blank.trim ((piece.dropWhile (· != '=')).drop 1) := by
  constructor
  · rintro ⟨left, right, rfl, first, named, given⟩
    obtain ⟨before, behind⟩ := takeWhile_of_split right first
    rw [before, behind, ← (Blank.trims_iff _ _).mp named, ← (Blank.trims_iff _ _).mp given]
    exact ⟨by simp, String.ofList_toList.symm, rfl⟩
  · rintro ⟨member, rfl, rfl⟩
    refine ⟨_, _, split_first member, not_mem_takeWhile piece, ?_, Blank.trims_trim _⟩
    rw [String.toList_ofList]
    exact Blank.trims_trim _

/-- A piece gives one value to one key. -/
theorem Assigns.unique {piece : List Char} {key key' : String} {value value' : List Char}
    (assigns : Assigns piece key value) (assigns' : Assigns piece key' value') :
    key = key' ∧ value = value' := by
  obtain ⟨-, rfl, rfl⟩ := (assigns_iff _ _ _).mp assigns
  obtain ⟨-, rfl, rfl⟩ := (assigns_iff _ _ _).mp assigns'
  exact ⟨rfl, rfl⟩

theorem exists_assigns_iff (piece : List Char) :
    (∃ key value, Assigns piece key value) ↔ '=' ∈ piece := by
  constructor
  · rintro ⟨key, value, assigns⟩
    exact ((assigns_iff _ _ _).mp assigns).1
  · exact fun member => ⟨_, _, (assigns_iff _ _ _).mpr ⟨member, rfl, rfl⟩⟩

/-! ### Values -/

/-- The keys that take any text. -/
def textKeys : List String :=
  ["bridge_class", "mount_event", "unmount_event", "mount_callback", "unmount_callback",
   "allocation_callback"]

/-- A value says whether something is on. -/
def IsBoolean (value : List Char) : Prop := value = "true".toList ∨ value = "false".toList

/-- A value is a numeral of a number that fits a sampling interval. -/
def IsInterval (value : List Char) : Prop :=
  ∃ n : Int, Decimal.Denotes value n ∧ 0 ≤ n ∧ n ≤ 2147483647

/-- A key takes a value. -/
inductive Takes : String → List Char → Prop
  | boolean {value : List Char} (h : IsBoolean value) : Takes "virtual_threads" value
  | interval {value : List Char} (h : IsInterval value) : Takes "sampling_interval" value
  | text {key : String} (named : key ∈ textKeys) (value : List Char) : Takes key value

/-- A piece is a setting. -/
def Acceptable (piece : List Char) : Prop :=
  ∃ key value, Assigns piece key value ∧ value ≠ [] ∧ Takes key value

/-- A piece is no setting, for a reason with this text. A missing equals sign comes before a missing
value, and a missing value before all else. -/
inductive Offends (piece : List Char) : String → Prop
  | notKeyValue (missing : '=' ∉ piece) :
    Offends piece ("option '" ++ String.ofList piece ++ "' is not key=value")
  | emptyValue {key : String} (assigns : Assigns piece key []) :
    Offends piece ("option '" ++ key ++ "' has an empty value")
  | unknownKey {key : String} {value : List Char} (assigns : Assigns piece key value)
      (given : value ≠ []) (boolean : key ≠ "virtual_threads") (interval : key ≠ "sampling_interval")
      (text : key ∉ textKeys) :
    Offends piece ("unknown option '" ++ key ++ "'")
  | notBoolean {value : List Char} (assigns : Assigns piece "virtual_threads" value)
      (given : value ≠ []) (malformed : ¬ IsBoolean value) :
    Offends piece ("virtual_threads=" ++ String.ofList value ++ " is not a boolean")
  | badInterval {value : List Char} (assigns : Assigns piece "sampling_interval" value)
      (given : value ≠ []) (malformed : ¬ IsInterval value) :
    Offends piece ("sampling_interval=" ++ String.ofList value)

/-! ### Fields -/

/-- Where a field of a configuration comes from. -/
structure Field (α : Type) where
  key : String
  default : α
  get : Config → α
  /-- What a value says of the field. -/
  Says : List Char → α → Prop

namespace Field

variable {α : Type}

/-- A field that holds the text of its value. -/
def ofText (key default : String) (get : Config → String) : Field String :=
  ⟨key, default, get, fun value text => text.toList = value⟩

/-- Points in the name of the class stand for slashes. -/
def bridgeClass : Field String where
  key := "bridge_class"
  default := "correlation/agent/NativeBridge"
  get := Config.bridgeClass
  Says value name := name.toList = value.map fun c => if c = '.' then '/' else c

def virtualThreads : Field Bool where
  key := "virtual_threads"
  default := false
  get := Config.virtualThreads
  Says value enabled := value = if enabled then "true".toList else "false".toList

def samplingInterval : Field Int where
  key := "sampling_interval"
  default := 524288
  get := Config.samplingInterval
  Says value bytes := Decimal.Denotes value bytes

def mountEvent : Field String :=
  ofText "mount_event" "com.sun.hotspot.events.VirtualThreadMount" Config.mountEvent

def unmountEvent : Field String :=
  ofText "unmount_event" "com.sun.hotspot.events.VirtualThreadUnmount" Config.unmountEvent

def mountMethod : Field String :=
  ofText "mount_callback" "onVirtualThreadMount" Config.mountMethod

def unmountMethod : Field String :=
  ofText "unmount_callback" "onVirtualThreadUnmount" Config.unmountMethod

def allocationMethod : Field String :=
  ofText "allocation_callback" "onSampledAllocation" Config.allocationMethod

/-- A field is as the last piece says that names its key, or else as usual. -/
def Settled (field : Field α) (pieces : List (List Char)) (config : Config) : Prop :=
  (∃ before piece after value, pieces = before ++ piece :: after ∧
    Assigns piece field.key value ∧ field.Says value (field.get config) ∧
    ∀ later ∈ after, ¬ Names later field.key) ∨
  (∀ piece ∈ pieces, ¬ Names piece field.key) ∧ field.get config = field.default

end Field

/-- Each field of a configuration comes from the pieces. -/
structure Settles (pieces : List (List Char)) (config : Config) : Prop where
  bridgeClass : Field.bridgeClass.Settled pieces config
  virtualThreads : Field.virtualThreads.Settled pieces config
  samplingInterval : Field.samplingInterval.Settled pieces config
  mountEvent : Field.mountEvent.Settled pieces config
  unmountEvent : Field.unmountEvent.Settled pieces config
  mountMethod : Field.mountMethod.Settled pieces config
  unmountMethod : Field.unmountMethod.Settled pieces config
  allocationMethod : Field.allocationMethod.Settled pieces config

/-- What an option text comes to. -/
inductive Reading (text : String) : Except Failure Config → Prop
  | accepted {pieces : List (List Char)} {config : Config} (made : Pieces text pieces)
      (acceptable : ∀ piece ∈ pieces, Acceptable piece) (settles : Settles pieces config) :
    Reading text (.ok config)
  | rejected {before after : List (List Char)} {piece : List Char} {message : String}
      (made : Pieces text (before ++ piece :: after))
      (acceptable : ∀ earlier ∈ before, Acceptable earlier) (offends : Offends piece message) :
    Reading text (.error (.invalidArgument message))

/-! ### Reading one piece -/

theorem read_of_assigns {piece : List Char} {key : String} {value : List Char}
    (assigns : Assigns piece key value) : Setting.read piece =
      if value = [] then .error (.emptyValue key) else Setting.ofPair key.toList value := by
  obtain ⟨member, rfl, rfl⟩ := (assigns_iff _ _ _).mp assigns
  rw [Setting.read, if_pos member, String.toList_ofList]

/-- The setting that a value of a key makes. -/
inductive Means : String → List Char → Setting → Prop
  | bridgeClass (value : List Char) :
    Means "bridge_class" value (.bridgeClass (String.ofList (Setting.internalName value)))
  | virtualThreads {value : List Char} {enabled : Bool}
      (read : Setting.readBool? value = some enabled) :
    Means "virtual_threads" value (.virtualThreads enabled)
  | samplingInterval {value : List Char} {bytes : Int}
      (read : Setting.readInterval? value = some bytes) :
    Means "sampling_interval" value (.samplingInterval bytes)
  | mountEvent (value : List Char) : Means "mount_event" value (.mountEvent (String.ofList value))
  | unmountEvent (value : List Char) :
    Means "unmount_event" value (.unmountEvent (String.ofList value))
  | mountMethod (value : List Char) :
    Means "mount_callback" value (.mountMethod (String.ofList value))
  | unmountMethod (value : List Char) :
    Means "unmount_callback" value (.unmountMethod (String.ofList value))
  | allocationMethod (value : List Char) :
    Means "allocation_callback" value (.allocationMethod (String.ofList value))

theorem readBool?_eq_some_iff (value : List Char) (enabled : Bool) :
    Setting.readBool? value = some enabled ↔
      value = if enabled then "true".toList else "false".toList := by
  rw [Setting.readBool?]
  split
  next on => cases enabled <;> simp [on]
  next on =>
    split
    next off => cases enabled <;> simp [off]
    next off =>
      cases enabled with
      | true => simpa using on
      | false => simpa using off

theorem isBoolean_iff (value : List Char) :
    IsBoolean value ↔ ∃ enabled, Setting.readBool? value = some enabled := by
  simp only [readBool?_eq_some_iff, Bool.exists_bool, IsBoolean, if_true, Bool.false_eq_true,
    if_false, or_comm]

theorem readInterval?_eq_some_iff (value : List Char) (bytes : Int) :
    Setting.readInterval? value = some bytes ↔
      Decimal.Denotes value bytes ∧ 0 ≤ bytes ∧ bytes ≤ 2147483647 := by
  rw [Setting.readInterval?, Option.filter_eq_some_iff, Decimal.readInt?_eq_some_iff,
    decide_eq_true_iff]
  exact Iff.rfl

theorem isInterval_iff (value : List Char) :
    IsInterval value ↔ ∃ bytes, Setting.readInterval? value = some bytes := by
  simp only [readInterval?_eq_some_iff, IsInterval]

/-- A key does not take a value, or is none. -/
inductive Refuses (key : String) (value : List Char) : OptionFault → Prop
  | notBoolean (named : key = "virtual_threads") (malformed : ¬ IsBoolean value) :
    Refuses key value (.notBoolean (String.ofList value))
  | badInterval (named : key = "sampling_interval") (malformed : ¬ IsInterval value) :
    Refuses key value (.badInterval (String.ofList value))
  | unknownKey (boolean : key ≠ "virtual_threads") (interval : key ≠ "sampling_interval")
      (text : key ∉ textKeys) : Refuses key value (.unknownKey key)

/-- A key takes a value exactly if they make a setting; otherwise the fault names what is wrong. -/
theorem ofPair_cases (key : String) (value : List Char) :
    (∃ setting, Setting.ofPair key.toList value = .ok setting ∧ Means key value setting ∧
      Takes key value) ∨
    ∃ fault, Setting.ofPair key.toList value = .error fault ∧ Refuses key value fault := by
  unfold Setting.ofPair
  rw [String.ofList_toList]
  dsimp only
  split
  case h_1 => exact .inl ⟨_, rfl, .bridgeClass value, .text (by decide) value⟩
  case h_2 =>
    cases read : Setting.readBool? value with
    | some enabled =>
      exact .inl ⟨_, rfl, .virtualThreads read, .boolean ((isBoolean_iff value).mpr ⟨_, read⟩)⟩
    | none =>
      refine .inr ⟨_, rfl, .notBoolean rfl ?_⟩
      rw [isBoolean_iff, read]
      nofun
  case h_3 =>
    cases read : Setting.readInterval? value with
    | some bytes =>
      exact .inl ⟨_, rfl, .samplingInterval read, .interval ((isInterval_iff value).mpr ⟨_, read⟩)⟩
    | none =>
      refine .inr ⟨_, rfl, .badInterval rfl ?_⟩
      rw [isInterval_iff, read]
      nofun
  case h_4 => exact .inl ⟨_, rfl, .mountEvent value, .text (by decide) value⟩
  case h_5 => exact .inl ⟨_, rfl, .unmountEvent value, .text (by decide) value⟩
  case h_6 => exact .inl ⟨_, rfl, .mountMethod value, .text (by decide) value⟩
  case h_7 => exact .inl ⟨_, rfl, .unmountMethod value, .text (by decide) value⟩
  case h_8 => exact .inl ⟨_, rfl, .allocationMethod value, .text (by decide) value⟩
  case h_9 bridge boolean interval mount unmount mountMethod unmountMethod allocationMethod =>
    refine .inr ⟨_, rfl, .unknownKey boolean interval ?_⟩
    simp only [textKeys, List.mem_cons, List.not_mem_nil, or_false, not_or]
    exact ⟨bridge, mount, unmount, mountMethod, unmountMethod, allocationMethod⟩

theorem Refuses.unique {key : String} {value : List Char} {fault fault' : OptionFault}
    (refuses : Refuses key value fault) (refuses' : Refuses key value fault') : fault = fault' := by
  cases refuses with
  | notBoolean named malformed =>
    subst named
    cases refuses' with
    | notBoolean => rfl
    | badInterval named => exact absurd named (by decide)
    | unknownKey boolean => exact absurd rfl boolean
  | badInterval named malformed =>
    subst named
    cases refuses' with
    | notBoolean named => exact absurd named (by decide)
    | badInterval => rfl
    | unknownKey _ interval => exact absurd rfl interval
  | unknownKey boolean interval text =>
    cases refuses' with
    | notBoolean named => exact absurd named boolean
    | badInterval named => exact absurd named interval
    | unknownKey => rfl

/-- A key does not refuse what it takes. -/
theorem Takes.not_refuses {key : String} {value : List Char} {fault : OptionFault}
    (takes : Takes key value) : ¬ Refuses key value fault := by
  intro refuses
  cases takes with
  | boolean h =>
    cases refuses with
    | notBoolean _ malformed => exact malformed h
    | badInterval named => exact absurd named (by decide)
    | unknownKey boolean => exact boolean rfl
  | interval h =>
    cases refuses with
    | notBoolean named => exact absurd named (by decide)
    | badInterval _ malformed => exact malformed h
    | unknownKey _ interval => exact interval rfl
  | text member =>
    cases refuses with
    | notBoolean named =>
      subst named
      exact absurd member (by decide)
    | badInterval named =>
      subst named
      exact absurd member (by decide)
    | unknownKey _ _ text => exact text member

theorem ofPair_of_takes {key : String} {value : List Char} (takes : Takes key value) :
    ∃ setting, Setting.ofPair key.toList value = .ok setting := by
  rcases ofPair_cases key value with ⟨setting, read, -⟩ | ⟨fault, -, refuses⟩
  · exact ⟨setting, read⟩
  · exact absurd refuses takes.not_refuses

theorem ofPair_of_refuses {key : String} {value : List Char} {fault : OptionFault}
    (refuses : Refuses key value fault) : Setting.ofPair key.toList value = .error fault := by
  rcases ofPair_cases key value with ⟨_, -, -, takes⟩ | ⟨fault', read, refuses'⟩
  · exact absurd refuses takes.not_refuses
  · rw [read, refuses'.unique refuses]

/-- A setting was read from a piece. -/
def Makes (piece : List Char) (setting : Setting) : Prop :=
  ∃ key value, Assigns piece key value ∧ Means key value setting

/-- Every piece is a setting or offends, and is read as such. -/
theorem read_cases (piece : List Char) :
    (∃ setting, Setting.read piece = .ok setting ∧ Makes piece setting ∧ Acceptable piece) ∨
    ∃ fault, Setting.read piece = .error fault ∧ Offends piece fault.message := by
  by_cases member : '=' ∈ piece
  · obtain ⟨key, value, assigns⟩ := (exists_assigns_iff piece).mpr member
    rw [read_of_assigns assigns]
    by_cases given : value = []
    · rw [if_pos given]
      subst given
      exact .inr ⟨_, rfl, .emptyValue assigns⟩
    rw [if_neg given]
    rcases ofPair_cases key value with ⟨setting, read, means, takes⟩ | ⟨fault, read, refuses⟩
    · exact .inl ⟨setting, read, ⟨key, value, assigns, means⟩, ⟨key, value, assigns, given, takes⟩⟩
    · refine .inr ⟨fault, read, ?_⟩
      cases refuses with
      | notBoolean named malformed =>
        subst named
        exact .notBoolean assigns given malformed
      | badInterval named malformed =>
        subst named
        exact .badInterval assigns given malformed
      | unknownKey boolean interval text => exact .unknownKey assigns given boolean interval text
  · refine .inr ⟨.notKeyValue (String.ofList piece), ?_, .notKeyValue member⟩
    rw [Setting.read, if_neg member]

theorem Acceptable.read {piece : List Char} (acceptable : Acceptable piece) :
    ∃ setting, Setting.read piece = .ok setting := by
  obtain ⟨key, value, assigns, given, takes⟩ := acceptable
  rw [read_of_assigns assigns, if_neg given]
  exact ofPair_of_takes takes

theorem Offends.read {piece : List Char} {message : String} (offends : Offends piece message) :
    ∃ fault, Setting.read piece = .error fault ∧ fault.message = message := by
  have refused {key : String} {value : List Char} {fault : OptionFault}
      (assigns : Assigns piece key value) (given : value ≠ []) (refuses : Refuses key value fault) :
      Setting.read piece = .error fault := by
    rw [read_of_assigns assigns, if_neg given]
    exact ofPair_of_refuses refuses
  cases offends with
  | notKeyValue missing =>
    refine ⟨.notKeyValue (String.ofList piece), ?_, rfl⟩
    rw [Setting.read, if_neg missing]
  | @emptyValue key assigns =>
    refine ⟨.emptyValue key, ?_, rfl⟩
    rw [read_of_assigns assigns, if_pos rfl]
  | unknownKey assigns given boolean interval text =>
    exact ⟨_, refused assigns given (.unknownKey boolean interval text), rfl⟩
  | notBoolean assigns given malformed =>
    exact ⟨_, refused assigns given (.notBoolean rfl malformed), rfl⟩
  | badInterval assigns given malformed =>
    exact ⟨_, refused assigns given (.badInterval rfl malformed), rfl⟩

/-! ### Reading all pieces -/

/-- All pieces are settings, or there is a leftmost one that offends. -/
theorem mapM_read_cases (pieces : List (List Char)) :
    (∃ settings, pieces.mapM Setting.read = .ok settings ∧ List.Forall₂ Makes pieces settings ∧
      ∀ piece ∈ pieces, Acceptable piece) ∨
    ∃ before piece after fault, pieces = before ++ piece :: after ∧
      (∀ earlier ∈ before, Acceptable earlier) ∧ Offends piece fault.message ∧
      pieces.mapM Setting.read = .error fault := by
  induction pieces with
  | nil => exact .inl ⟨[], rfl, .nil, nofun⟩
  | cons piece pieces ih =>
    rw [List.mapM_cons]
    rcases read_cases piece with ⟨setting, read, makes, acceptable⟩ | ⟨fault, read, offends⟩
    · rw [read]
      rcases ih with ⟨settings, all, made, accepted⟩ |
        ⟨before, offender, after, fault, rfl, accepted, offends, all⟩
      · rw [all]
        exact .inl ⟨setting :: settings, rfl, .cons makes made,
          List.forall_mem_cons.mpr ⟨acceptable, accepted⟩⟩
      · rw [all]
        exact .inr ⟨piece :: before, offender, after, fault, rfl,
          List.forall_mem_cons.mpr ⟨acceptable, accepted⟩, offends, rfl⟩
    · rw [read]
      exact .inr ⟨[], piece, pieces, fault, rfl, nofun, offends, rfl⟩

theorem mapM_read_of_acceptable {pieces : List (List Char)}
    (acceptable : ∀ piece ∈ pieces, Acceptable piece) :
    ∃ settings, pieces.mapM Setting.read = .ok settings ∧ List.Forall₂ Makes pieces settings := by
  rcases mapM_read_cases pieces with ⟨settings, all, made, -⟩ |
    ⟨before, offender, after, fault, rfl, -, offends, -⟩
  · exact ⟨settings, all, made⟩
  · obtain ⟨setting, read⟩ := (acceptable offender (by simp)).read
    obtain ⟨_, refused, -⟩ := offends.read
    rw [read] at refused
    cases refused

theorem mapM_read_of_offends {before after : List (List Char)} {piece : List Char}
    {fault : OptionFault} (acceptable : ∀ earlier ∈ before, Acceptable earlier)
    (refused : Setting.read piece = .error fault) :
    (before ++ piece :: after).mapM Setting.read = .error fault := by
  obtain ⟨settings, all, -⟩ := mapM_read_of_acceptable acceptable
  rw [List.mapM_append, all, List.mapM_cons, refused]
  rfl

/-! ### The fields -/

namespace Field

variable {α : Type} {field : Field α}

/-- A field is written by the settings of its key and by no others. -/
structure Lawful (field : Field α) : Prop where
  usual : field.get {} = field.default
  single : ∀ {value : List Char} {a b : α}, field.Says value a → field.Says value b → a = b
  written : ∀ {key : String} {value : List Char} {setting : Setting} (config : Config),
    Means key value setting →
      key = field.key ∧ field.Says value (field.get (setting.apply config)) ∨
      key ≠ field.key ∧ field.get (setting.apply config) = field.get config

theorem lawful_bridgeClass : bridgeClass.Lawful where
  usual := rfl
  single said said' := String.ext (said.trans said'.symm)
  written config means := by
    cases means <;> simp [bridgeClass, Setting.apply, Setting.internalName]

theorem lawful_virtualThreads : virtualThreads.Lawful where
  usual := rfl
  single {value a b} said said' := by
    have same := said.symm.trans said'
    cases a <;> cases b <;> first | rfl | simp at same
  written config means := by
    cases means with
    | virtualThreads read => exact .inl ⟨rfl, (readBool?_eq_some_iff _ _).mp read⟩
    | _ => exact .inr ⟨by decide, rfl⟩

theorem lawful_samplingInterval : samplingInterval.Lawful where
  usual := rfl
  single {value a b} said said' := by
    have read := (Decimal.readInt?_eq_some_iff _ _).mpr said
    rw [(Decimal.readInt?_eq_some_iff _ _).mpr said'] at read
    exact (Option.some.inj read).symm
  written config means := by
    cases means with
    | samplingInterval read => exact .inl ⟨rfl, ((readInterval?_eq_some_iff _ _).mp read).1⟩
    | _ => exact .inr ⟨by decide, rfl⟩

theorem lawful_ofText {key default : String} {get : Config → String}
    (usual : get {} = default)
    (written : ∀ {key' : String} {value : List Char} {setting : Setting} (config : Config),
      Means key' value setting →
        key' = key ∧ get (setting.apply config) = String.ofList value ∨
        key' ≠ key ∧ get (setting.apply config) = get config) :
    (ofText key default get).Lawful where
  usual := usual
  single said said' := String.ext (said.trans said'.symm)
  written config means := by
    refine (written config means).imp_left fun ⟨named, same⟩ => ⟨named, ?_⟩
    show (get _).toList = _
    rw [same, String.toList_ofList]

theorem lawful_mountEvent : mountEvent.Lawful :=
  lawful_ofText rfl fun config means => by cases means <;> simp [Setting.apply]

theorem lawful_unmountEvent : unmountEvent.Lawful :=
  lawful_ofText rfl fun config means => by cases means <;> simp [Setting.apply]

theorem lawful_mountMethod : mountMethod.Lawful :=
  lawful_ofText rfl fun config means => by cases means <;> simp [Setting.apply]

theorem lawful_unmountMethod : unmountMethod.Lawful :=
  lawful_ofText rfl fun config means => by cases means <;> simp [Setting.apply]

theorem lawful_allocationMethod : allocationMethod.Lawful :=
  lawful_ofText rfl fun config means => by cases means <;> simp [Setting.apply]

/-- Settings that are put into a configuration one after the other leave in a field what the last one
of its key says, or else what was there. -/
theorem Lawful.foldl_apply (lawful : field.Lawful) {pieces : List (List Char)}
    {settings : List Setting} (made : List.Forall₂ Makes pieces settings) : ∀ config : Config,
    (∃ before piece after value, pieces = before ++ piece :: after ∧
      Assigns piece field.key value ∧
      field.Says value (field.get (settings.foldl Setting.apply config)) ∧
      ∀ later ∈ after, ¬ Names later field.key) ∨
    (∀ piece ∈ pieces, ¬ Names piece field.key) ∧
      field.get (settings.foldl Setting.apply config) = field.get config := by
  induction made with
  | nil => exact fun config => .inr ⟨nofun, rfl⟩
  | @cons piece setting pieces settings makes made ih =>
    intro config
    obtain ⟨key, value, assigns, means⟩ := makes
    rcases ih (setting.apply config) with ⟨before, last, after, value', rfl, rest⟩ | ⟨none, kept⟩
    · exact .inl ⟨piece :: before, last, after, value', rfl, rest⟩
    rcases lawful.written config means with ⟨rfl, told⟩ | ⟨apart, same⟩
    · refine .inl ⟨[], piece, pieces, value, rfl, assigns, ?_, none⟩
      rw [List.foldl_cons, kept]
      exact told
    · refine .inr ⟨List.forall_mem_cons.mpr ⟨?_, none⟩, kept.trans same⟩
      rintro ⟨value', assigns'⟩
      exact apart (assigns.unique assigns').1

theorem Lawful.settled (lawful : field.Lawful) {pieces : List (List Char)}
    {settings : List Setting} (made : List.Forall₂ Makes pieces settings) :
    field.Settled pieces (settings.foldl Setting.apply {}) := by
  have come := lawful.foldl_apply made {}
  rw [lawful.usual] at come
  exact come

/-- Among the pieces that name a key only one is the last. -/
theorem last_unique {key : String} {before after before' after' : List (List Char)}
    {piece piece' : List Char} (same : before ++ piece :: after = before' ++ piece' :: after')
    (names : Names piece key) (names' : Names piece' key)
    (last : ∀ later ∈ after, ¬ Names later key) (last' : ∀ later ∈ after', ¬ Names later key) :
    piece = piece' := by
  rcases List.append_eq_append_iff.mp same with ⟨between, -, tail⟩ | ⟨between, -, tail⟩
  · cases between with
    | nil => exact (List.cons.inj tail).1
    | cons first between =>
      obtain ⟨-, rfl⟩ := List.cons.inj tail
      exact absurd names' (last piece' (by simp))
  · cases between with
    | nil => exact (List.cons.inj tail).1.symm
    | cons first between =>
      obtain ⟨-, rfl⟩ := List.cons.inj tail
      exact absurd names (last' piece (by simp))

theorem Lawful.unique (lawful : field.Lawful) {pieces : List (List Char)} {config config' : Config}
    (settled : field.Settled pieces config) (settled' : field.Settled pieces config') :
    field.get config = field.get config' := by
  rcases settled with ⟨before, piece, after, value, rfl, assigns, told, last⟩ | ⟨none, usual⟩
  · rcases settled' with ⟨before', piece', after', value', same, assigns', told', last'⟩ | ⟨none, -⟩
    · obtain rfl := last_unique same ⟨value, assigns⟩ ⟨value', assigns'⟩ last last'
      obtain ⟨-, rfl⟩ := assigns.unique assigns'
      exact lawful.single told told'
    · exact absurd ⟨value, assigns⟩ (none piece (by simp))
  · rcases settled' with ⟨before', piece', after', value', rfl, assigns', -, -⟩ | ⟨-, usual'⟩
    · exact absurd ⟨value', assigns'⟩ (none piece' (by simp))
    · rw [usual, usual']

end Field

theorem settles_of_makes {pieces : List (List Char)} {settings : List Setting}
    (made : List.Forall₂ Makes pieces settings) :
    Settles pieces (settings.foldl Setting.apply {}) where
  bridgeClass := Field.lawful_bridgeClass.settled made
  virtualThreads := Field.lawful_virtualThreads.settled made
  samplingInterval := Field.lawful_samplingInterval.settled made
  mountEvent := Field.lawful_mountEvent.settled made
  unmountEvent := Field.lawful_unmountEvent.settled made
  mountMethod := Field.lawful_mountMethod.settled made
  unmountMethod := Field.lawful_unmountMethod.settled made
  allocationMethod := Field.lawful_allocationMethod.settled made

/-- Pieces settle one configuration. -/
theorem Settles.unique {pieces : List (List Char)} {config config' : Config}
    (settles : Settles pieces config) (settles' : Settles pieces config') : config = config' := by
  have bridgeClass := Field.lawful_bridgeClass.unique settles.bridgeClass settles'.bridgeClass
  have virtualThreads :=
    Field.lawful_virtualThreads.unique settles.virtualThreads settles'.virtualThreads
  have samplingInterval :=
    Field.lawful_samplingInterval.unique settles.samplingInterval settles'.samplingInterval
  have mountEvent := Field.lawful_mountEvent.unique settles.mountEvent settles'.mountEvent
  have unmountEvent := Field.lawful_unmountEvent.unique settles.unmountEvent settles'.unmountEvent
  have mountMethod := Field.lawful_mountMethod.unique settles.mountMethod settles'.mountMethod
  have unmountMethod :=
    Field.lawful_unmountMethod.unique settles.unmountMethod settles'.unmountMethod
  have allocationMethod :=
    Field.lawful_allocationMethod.unique settles.allocationMethod settles'.allocationMethod
  cases config
  cases config'
  congr

/-! ### Reading a text -/

theorem parse_reading (text : String) :
    Reading text ((Config.parse text).mapError OptionFault.toFailure) := by
  have made := (pieces_iff text _).mpr rfl
  rw [Config.parse]
  rcases mapM_read_cases (Config.pieces text.toList) with ⟨settings, all, makes, acceptable⟩ |
    ⟨before, piece, after, fault, split, acceptable, offends, all⟩
  · rw [all]
    exact .accepted made acceptable (settles_of_makes makes)
  · rw [all]
    rw [split] at made
    exact .rejected made acceptable offends

/-- Reading a text comes to what the rules say, and to nothing else: a configuration whose fields
come from the last pieces that name them if every piece is a setting, and otherwise the message for
the leftmost piece that offends. -/
theorem parse_iff_reading (text : String) (result : Except Failure Config) :
    (Config.parse text).mapError OptionFault.toFailure = result ↔ Reading text result := by
  constructor
  · rintro rfl
    exact parse_reading text
  · intro reading
    rw [Config.parse]
    cases reading with
    | accepted made acceptable settles =>
      rw [pieces_iff] at made
      subst made
      obtain ⟨settings, all, makes⟩ := mapM_read_of_acceptable acceptable
      rw [all, settles.unique (settles_of_makes makes)]
      rfl
    | rejected made acceptable offends =>
      rw [pieces_iff] at made
      obtain ⟨fault, refused, rfl⟩ := offends.read
      rw [← made, mapM_read_of_offends acceptable refused]
      rfl

end OptionText

end TraceLink
