import TraceLink.Proofs.OptionReading
import TraceLink.Proofs.Options

/-!
# Configurations and the texts that list them

A configuration that was read has fields of a certain form, since a value stands between commas and is
trimmed. Every configuration of that form is read from the text that lists its fields, whatever their
order.

* `OptionText.Plain` — a text that stands for itself as a value;
* `Config.Expressible` — the form of a configuration that was read;
* `Config.entries`, `OptionText.listing` — the fields as keys and values, and as a text;
* `Config.parse_expresses` — what is read is of that form, and what is of that form is read.
-/

namespace TraceLink

namespace OptionText

/-! ### Plain texts -/

/-- A text that has neither a comma nor white space at an end. -/
structure Plain (text : List Char) : Prop where
  nonempty : text ≠ []
  comma : ',' ∉ text
  first : ∀ c ∈ text.head?, c.toNat ∉ Blank.whiteSpace
  last : ∀ c ∈ text.getLast?, c.toNat ∉ Blank.whiteSpace

/-- Whether a text is plain, by a look at its characters. -/
def isPlain (text : List Char) : Bool :=
  ! text.isEmpty && ! text.contains ',' &&
    text.head?.all (fun c => ! Blank.whiteSpace.contains c.toNat) &&
    text.getLast?.all (fun c => ! Blank.whiteSpace.contains c.toNat)

theorem isPlain_iff (text : List Char) : isPlain text = true ↔ Plain text := by
  have solid (end? : Option Char) :
      (end?.all fun c => ! Blank.whiteSpace.contains c.toNat) = true ↔
        ∀ c ∈ end?, c.toNat ∉ Blank.whiteSpace := by
    cases end? <;> simp
  rw [isPlain, Bool.and_eq_true, Bool.and_eq_true, Bool.and_eq_true, solid, solid]
  constructor
  · rintro ⟨⟨⟨nonempty, comma⟩, first⟩, last⟩
    exact ⟨by simpa using nonempty, by simpa using comma, first, last⟩
  · rintro ⟨nonempty, comma, first, last⟩
    exact ⟨⟨⟨by simpa using nonempty, by simpa using comma⟩, first⟩, last⟩

instance (text : List Char) : Decidable (Plain text) := decidable_of_iff _ (isPlain_iff text)

/-- A plain text is what trimming leaves of it. -/
theorem Plain.trims {text : List Char} (plain : Plain text) : Blank.Trims text text where
  margins := ⟨[], [], by simp, by simp, by simp⟩
  first := plain.first
  last := plain.last

/-- Slashes for points leave a text plain. -/
theorem Plain.slashed {text : List Char} (plain : Plain text) :
    Plain (text.map fun c => if c = '.' then '/' else c) := by
  have solid (c : Char) (h : c.toNat ∉ Blank.whiteSpace) :
      (if c = '.' then '/' else c).toNat ∉ Blank.whiteSpace := by
    by_cases point : c = '.'
    · rw [if_pos point]
      decide
    · rwa [if_neg point]
  constructor
  · simpa using plain.nonempty
  · intro member
    obtain ⟨c, inside, comma⟩ := List.mem_map.mp member
    by_cases point : c = '.'
    · rw [if_pos point] at comma
      exact absurd comma (by decide)
    · rw [if_neg point] at comma
      exact plain.comma (comma ▸ inside)
  · intro c first
    rw [List.head?_map, Option.mem_def, Option.map_eq_some_iff] at first
    obtain ⟨d, first, rfl⟩ := first
    exact solid d (plain.first d first)
  · intro c last
    rw [List.getLast?_map, Option.mem_def, Option.map_eq_some_iff] at last
    obtain ⟨d, last, rfl⟩ := last
    exact solid d (plain.last d last)

theorem point_not_mem_slashed (text : List Char) :
    '.' ∉ text.map fun c => if c = '.' then '/' else c := by
  intro member
  obtain ⟨c, -, same⟩ := List.mem_map.mp member
  by_cases point : c = '.'
  · rw [if_pos point] at same
    exact absurd same (by decide)
  · rw [if_neg point] at same
    exact point same

/-! ### What is read -/

theorem comma_not_mem_splitCommas (cs : List Char) : ∀ part ∈ Config.splitCommas cs, ',' ∉ part := by
  induction cs with
  | nil => simp [Config.splitCommas]
  | cons c cs ih =>
    rw [Config.splitCommas]
    by_cases comma : c = ','
    · rw [if_pos comma, List.forall_mem_cons]
      exact ⟨List.not_mem_nil, ih⟩
    · rw [if_neg comma]
      cases parts : Config.splitCommas cs with
      | nil => simpa using Ne.symm comma
      | cons part later =>
        rw [parts, List.forall_mem_cons] at ih
        rw [List.forall_mem_cons, List.mem_cons, not_or]
        exact ⟨⟨Ne.symm comma, ih.1⟩, ih.2⟩

/-- What is trimmed is part of what it was. -/
theorem mem_of_trims {text trimmed : List Char} (trims : Blank.Trims text trimmed) {c : Char}
    (member : c ∈ trimmed) : c ∈ text := by
  obtain ⟨left, right, rfl, -, -⟩ := trims.margins
  simp [member]

/-- The value of a piece that is a setting is plain. -/
theorem plain_of_assigns {text : String} {pieces : List (List Char)} (made : Pieces text pieces)
    {piece : List Char} (member : piece ∈ pieces) (acceptable : Acceptable piece) {key : String}
    {value : List Char} (assigns : Assigns piece key value) : Plain value := by
  obtain ⟨key', value', assigns', given, -⟩ := acceptable
  obtain ⟨-, rfl⟩ := assigns.unique assigns'
  obtain ⟨left, right, split, -, -, trims⟩ := assigns
  refine ⟨given, ?_, trims.first, trims.last⟩
  intro comma
  have inside : ',' ∈ piece := by
    rw [split]
    simp [mem_of_trims trims comma]
  rw [pieces_iff] at made
  rw [made, Config.pieces, List.mem_filter, List.mem_map] at member
  obtain ⟨⟨part, parts, rfl⟩, -⟩ := member
  exact comma_not_mem_splitCommas _ part parts (mem_of_trims (Blank.trims_trim part) inside)

/-- A field is as some piece says, or as usual. -/
theorem Field.Settled.cases_on {α : Type} {field : Field α} {pieces : List (List Char)}
    {config : Config} (settled : field.Settled pieces config) {P : α → Prop} (usual : P field.default)
    (told : ∀ piece ∈ pieces, ∀ value a, Assigns piece field.key value → field.Says value a → P a) :
    P (field.get config) := by
  obtain ⟨before, piece, after, value, rfl, assigns, given, -⟩ | ⟨-, same⟩ := settled
  · exact told piece (by simp) value _ assigns given
  · rwa [same]

/-! ### Listing -/

/-- A key and a value as a piece. -/
def entry (pair : String × String) : String := pair.1 ++ "=" ++ pair.2

/-- The text that lists keys and values. -/
def listing (entries : List (String × String)) : String := ",".intercalate (entries.map entry)

example : listing [("mount_event", "x=y"), ("bridge_class", "a/B")] =
    "mount_event=x=y,bridge_class=a/B" := by
  decide +kernel

/-- A key with a value that can be listed. -/
structure Listable (pair : String × String) : Prop where
  key : Plain pair.1.toList
  equals : '=' ∉ pair.1.toList
  value : Plain pair.2.toList

variable {pair : String × String} {entries : List (String × String)}

theorem toList_entry (pair : String × String) :
    (entry pair).toList = pair.1.toList ++ '=' :: pair.2.toList := by
  simp [entry]

/-- An entry gives its value to its key. -/
theorem Listable.assigns (listable : Listable pair) :
    Assigns (entry pair).toList pair.1 pair.2.toList :=
  ⟨_, _, toList_entry pair, listable.equals, listable.key.trims, listable.value.trims⟩

theorem Listable.plain (listable : Listable pair) : Plain (entry pair).toList := by
  obtain ⟨key, -, value⟩ := listable
  rw [toList_entry]
  refine ⟨by simp, ?_, ?_, ?_⟩
  · simp [key.comma, value.comma]
  · rw [List.head?_append_of_ne_nil _ key.nonempty]
    exact key.first
  · have last : (pair.1.toList ++ '=' :: pair.2.toList).getLast? = pair.2.toList.getLast? := by
      rw [List.getLast?_append_of_ne_nil _ (by simp), List.getLast?_cons_of_ne_nil value.nonempty]
    rw [last]
    exact value.last

/-- The pieces of a listing are its entries. -/
theorem pieces_listing (some_entry : entries ≠ []) (listable : ∀ pair ∈ entries, Listable pair) :
    Pieces (listing entries) (entries.map fun pair => (entry pair).toList) := by
  have plain : ∀ piece ∈ entries.map fun pair => (entry pair).toList, Plain piece := by
    intro piece member
    obtain ⟨pair, inside, rfl⟩ := List.mem_map.mp member
    exact (listable pair inside).plain
  have split : (listing entries).toList.splitOn ',' =
      entries.map fun pair => (entry pair).toList := by
    rw [listing, String.toList_intercalate, List.map_map]
    exact List.splitOn_intercalate ',' (fun piece member => (plain piece member).comma)
      (by simpa using some_entry)
  refine ⟨entries.map fun pair => (entry pair).toList, ?_, ?_⟩
  · rw [split, List.forall₂_same]
    exact fun piece member => (plain piece member).trims
  · rw [List.filter_eq_self.mpr]
    exact fun piece member => decide_eq_true (plain piece member).nonempty

/-- Of entries with different keys, each settles the field of its key. -/
theorem settled_of_mem {α : Type} {field : Field α} {config : Config} {value : String}
    (listable : ∀ pair ∈ entries, Listable pair) (keys : (entries.map Prod.fst).Nodup)
    (member : (field.key, value) ∈ entries)
    (told : field.Says value.toList (field.get config)) :
    field.Settled (entries.map fun pair => (entry pair).toList) config := by
  obtain ⟨before, after, rfl⟩ := List.append_of_mem member
  have assigns := (listable (field.key, value) member).assigns
  refine .inl ⟨before.map fun pair => (entry pair).toList, _,
    after.map fun pair => (entry pair).toList, _, by simp, assigns, told, ?_⟩
  intro later inside names
  obtain ⟨pair, behind, rfl⟩ := List.mem_map.mp inside
  obtain ⟨value', assigns'⟩ := names
  have same := (assigns'.unique (listable pair (by simp [behind])).assigns).1
  rw [List.map_append, List.map_cons] at keys
  have apart := (List.nodup_cons.mp (List.nodup_append.mp keys).2.1).1
  exact apart (List.mem_map.mpr ⟨pair, behind, same.symm⟩)

/-! ### Numbers -/

/-- Digits are plain. -/
theorem plain_of_digits {text : List Char} {n : Nat} (digits : Decimal.Digits text n) :
    Plain text := by
  have solid (c : Char) (digit : c.isDigit = true) : c ≠ ',' ∧ c.toNat ∉ Blank.whiteSpace := by
    rw [Char.isDigit, Bool.and_eq_true, decide_eq_true_iff, decide_eq_true_iff] at digit
    have low : 48 ≤ c.toNat := digit.1
    have high : c.toNat ≤ 57 := digit.2
    constructor
    · rintro rfl
      exact absurd low (by decide)
    · simp only [Blank.whiteSpace, List.mem_cons, List.not_mem_nil, or_false]
      omega
  exact
    { nonempty := digits.nonempty
      comma := fun member => (solid ',' (digits.digits _ member)).1 rfl
      first := fun c first => (solid c (digits.digits c (List.mem_of_head? first))).2
      last := fun c last => (solid c (digits.digits c (List.mem_of_getLast? last))).2 }

/-- An integer that is not negative is written in digits. -/
theorem digits_toString (n : Nat) : Decimal.Digits (toString (n : Int)).toList n := by
  have text : (toString (n : Int)).toList = Nat.toDigits 10 n := by
    show (String.ofList (Nat.toDigits 10 n)).toList = _
    rw [String.toList_ofList]
  rw [text]
  exact
    { nonempty := Nat.toDigits_ne_nil
      digits := fun c member => Nat.isDigit_of_mem_toDigits (by decide) (by decide) member
      value := (Nat.ofDigitChars_toDigits (by decide) (by decide)).symm }

end OptionText

namespace Config

open OptionText

variable {config : Config}

/-! ### Expressible configurations -/

/-- The form of a configuration that can be read from some text. -/
structure Expressible (config : Config) : Prop where
  bridgeClass : Plain config.bridgeClass.toList
  slashes : '.' ∉ config.bridgeClass.toList
  interval : 0 ≤ config.samplingInterval ∧ config.samplingInterval ≤ 2147483647
  mountEvent : Plain config.mountEvent.toList
  unmountEvent : Plain config.unmountEvent.toList
  mountMethod : Plain config.mountMethod.toList
  unmountMethod : Plain config.unmountMethod.toList
  allocationMethod : Plain config.allocationMethod.toList

/-- The fields of a configuration, each as a key and a value. -/
def entries (config : Config) : List (String × String) :=
  [("bridge_class", config.bridgeClass),
   ("virtual_threads", if config.virtualThreads then "true" else "false"),
   ("sampling_interval", toString config.samplingInterval),
   ("mount_event", config.mountEvent),
   ("unmount_event", config.unmountEvent),
   ("mount_callback", config.mountMethod),
   ("unmount_callback", config.unmountMethod),
   ("allocation_callback", config.allocationMethod)]

/-- What is read is expressible. -/
theorem expressible_of_parse {text : String} (parsed : parse text = .ok config) :
    config.Expressible := by
  have reading := parse_reading text
  rw [parsed] at reading
  cases reading with
  | @accepted pieces _ made acceptable settles =>
    have plain {key default : String} {get : Config → String}
        (settled : (Field.ofText key default get).Settled pieces config)
        (usual : Plain default.toList) : Plain (get config).toList := by
      refine settled.cases_on (P := fun text => Plain text.toList) usual ?_
      intro piece member value text assigns told
      rw [show text.toList = value from told]
      exact plain_of_assigns made member (acceptable piece member) assigns
    have named : Plain config.bridgeClass.toList ∧ '.' ∉ config.bridgeClass.toList := by
      refine settles.bridgeClass.cases_on
        (P := fun text => Plain text.toList ∧ '.' ∉ text.toList) (by decide +kernel) ?_
      intro piece member value text assigns told
      rw [show text.toList = value.map _ from told]
      exact ⟨(plain_of_assigns made member (acceptable piece member) assigns).slashed,
        point_not_mem_slashed value⟩
    exact
      { bridgeClass := named.1
        slashes := named.2
        interval := samplingInterval_mem parsed
        mountEvent := plain settles.mountEvent (by decide +kernel)
        unmountEvent := plain settles.unmountEvent (by decide +kernel)
        mountMethod := plain settles.mountMethod (by decide +kernel)
        unmountMethod := plain settles.unmountMethod (by decide +kernel)
        allocationMethod := plain settles.allocationMethod (by decide +kernel) }

/-! ### The listing of a configuration -/

theorem Expressible.digits (expressible : config.Expressible) :
    Decimal.Digits (toString config.samplingInterval).toList config.samplingInterval.toNat := by
  have digits := digits_toString config.samplingInterval.toNat
  rwa [Int.toNat_of_nonneg expressible.interval.1] at digits

theorem Expressible.denotes (expressible : config.Expressible) :
    Decimal.Denotes (toString config.samplingInterval).toList config.samplingInterval := by
  have denotes := Decimal.Denotes.plain expressible.digits
  rwa [Int.toNat_of_nonneg expressible.interval.1] at denotes

/-- The fields of an expressible configuration can be listed, and each key takes its value. -/
theorem Expressible.listable (expressible : config.Expressible) :
    ∀ pair ∈ config.entries, Listable pair ∧ Takes pair.1 pair.2.toList := by
  have listed {key value : String} (keyed : Plain key.toList ∧ '=' ∉ key.toList)
      (plain : Plain value.toList) (takes : Takes key value.toList) :
      Listable (key, value) ∧ Takes key value.toList := ⟨⟨keyed.1, keyed.2, plain⟩, takes⟩
  have text {key value : String} (keyed : Plain key.toList ∧ '=' ∉ key.toList)
      (named : key ∈ textKeys) (plain : Plain value.toList) :
      Listable (key, value) ∧ Takes key value.toList := listed keyed plain (.text named _)
  have boolean (enabled : Bool) : Plain (if enabled then "true" else "false").toList ∧
      IsBoolean (if enabled then "true" else "false").toList := by
    cases enabled with
    | true => exact ⟨by decide +kernel, .inl rfl⟩
    | false => exact ⟨by decide +kernel, .inr rfl⟩
  obtain ⟨plain, valid⟩ := boolean config.virtualThreads
  simp only [entries, List.forall_mem_cons, List.not_mem_nil, false_implies, implies_true, and_true]
  exact ⟨text (by decide +kernel) (by decide) expressible.bridgeClass,
    listed (by decide +kernel) plain (.boolean valid),
    listed (by decide +kernel) (plain_of_digits expressible.digits)
      (.interval ⟨_, expressible.denotes, expressible.interval⟩),
    text (by decide +kernel) (by decide) expressible.mountEvent,
    text (by decide +kernel) (by decide) expressible.unmountEvent,
    text (by decide +kernel) (by decide) expressible.mountMethod,
    text (by decide +kernel) (by decide) expressible.unmountMethod,
    text (by decide +kernel) (by decide) expressible.allocationMethod⟩

/-- Without a point in it, the name of the class is read as it stands. -/
theorem Expressible.unslashed (expressible : config.Expressible) :
    config.bridgeClass.toList =
      config.bridgeClass.toList.map fun c => if c = '.' then '/' else c := by
  have same : ∀ c ∈ config.bridgeClass.toList, (if c = '.' then '/' else c) = id c := by
    intro c member
    have other : c ≠ '.' := fun point => expressible.slashes (point ▸ member)
    rw [if_neg other]
    rfl
  rw [List.map_congr_left same, List.map_id]

theorem keys_nodup (config : Config) : (config.entries.map Prod.fst).Nodup := by
  show ["bridge_class", "virtual_threads", "sampling_interval", "mount_event", "unmount_event",
    "mount_callback", "unmount_callback", "allocation_callback"].Nodup
  decide

/-- Pieces that settle a configuration are read as it. -/
theorem parse_of_settles {text : String} {pieces : List (List Char)} (made : Pieces text pieces)
    (acceptable : ∀ piece ∈ pieces, Acceptable piece) (settles : Settles pieces config) :
    parse text = .ok config := by
  obtain ⟨settings, all, makes⟩ := mapM_read_of_acceptable acceptable
  rw [pieces_iff] at made
  rw [parse, ← made, all, settles.unique (settles_of_makes makes)]
  rfl

/-- The listing of an expressible configuration is read as it, in whatever order. -/
theorem Expressible.parse_listing (expressible : config.Expressible)
    {entries : List (String × String)} (order : entries.Perm config.entries) :
    parse (listing entries) = .ok config := by
  have listable : ∀ pair ∈ entries, Listable pair := fun pair member =>
    (expressible.listable pair (order.mem_iff.mp member)).1
  have keys : (entries.map Prod.fst).Nodup :=
    (order.map Prod.fst).nodup_iff.mpr config.keys_nodup
  have some_entry : entries ≠ [] := by
    rintro rfl
    exact absurd order.length_eq (by simp [Config.entries])
  have settled {α : Type} (field : OptionText.Field α) (value : String)
      (member : (field.key, value) ∈ config.entries)
      (told : field.Says value.toList (field.get config)) :
      field.Settled (entries.map fun pair => (entry pair).toList) config :=
    settled_of_mem listable keys (order.mem_iff.mpr member) told
  have text {key default : String} {get : Config → String}
      (member : (key, get config) ∈ config.entries) :
      (Field.ofText key default get).Settled (entries.map fun pair => (entry pair).toList) config :=
    settled (Field.ofText key default get) (get config) member rfl
  have acceptable : ∀ piece ∈ entries.map fun pair => (entry pair).toList, Acceptable piece := by
    intro piece member
    obtain ⟨pair, inside, rfl⟩ := List.mem_map.mp member
    obtain ⟨⟨-, -, plain⟩, takes⟩ := expressible.listable pair (order.mem_iff.mp inside)
    exact ⟨_, _, (listable pair inside).assigns, plain.nonempty, takes⟩
  refine parse_of_settles (pieces_listing some_entry listable) acceptable ?_
  exact
    { bridgeClass := settled .bridgeClass config.bridgeClass
        (by simp [Config.entries, Field.bridgeClass]) expressible.unslashed
      virtualThreads := settled .virtualThreads (if config.virtualThreads then "true" else "false")
        (by simp [Config.entries, Field.virtualThreads]) (apply_ite String.toList _ _ _)
      samplingInterval := settled .samplingInterval (toString config.samplingInterval)
        (by simp [Config.entries, Field.samplingInterval]) expressible.denotes
      mountEvent := text (by simp [Config.entries])
      unmountEvent := text (by simp [Config.entries])
      mountMethod := text (by simp [Config.entries])
      unmountMethod := text (by simp [Config.entries])
      allocationMethod := text (by simp [Config.entries]) }

/-- What some text is read as is exactly an expressible configuration, and each of these is read from
its own listing, the settings standing in any order. -/
theorem parse_expresses (config : Config) :
    ((∃ text, parse text = .ok config) ↔ config.Expressible) ∧
      (config.Expressible → ∀ entries : List (String × String), entries.Perm config.entries →
        parse (listing entries) = .ok config) := by
  refine ⟨⟨?_, ?_⟩, fun expressible entries order => expressible.parse_listing order⟩
  · rintro ⟨text, parsed⟩
    exact expressible_of_parse parsed
  · exact fun expressible => ⟨_, expressible.parse_listing (List.Perm.refl _)⟩

/-- Equality signs, inner spaces and letters beyond ASCII belong to a value. -/
theorem parse_expresses_reversed :
    let config : Config :=
      { bridgeClass := "a/B", virtualThreads := true, samplingInterval := 2147483647,
        mountEvent := "é", unmountEvent := "x=y", mountMethod := "=", unmountMethod := "a b",
        allocationMethod := "été 1" }
    config.Expressible ∧ parse (listing config.entries.reverse) = .ok config := by
  intro config
  have expressible : config.Expressible :=
    { bridgeClass := by decide +kernel
      slashes := by decide +kernel
      interval := by decide
      mountEvent := by decide +kernel
      unmountEvent := by decide +kernel
      mountMethod := by decide +kernel
      unmountMethod := by decide +kernel
      allocationMethod := by decide +kernel }
  exact ⟨expressible,
    (parse_expresses config).2 expressible config.entries.reverse (List.reverse_perm _)⟩

end Config

end TraceLink
