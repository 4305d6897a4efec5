import TraceLink.Proofs.Files.Sockets

/-!
# Paths that are bound and removed again

A path is read three times: to bind a socket to it, to find what stands there and to remove that. All
three readings lead to one place, and what they make of it depends on that place alone.

* `Names` — a path leads to a place at which a file can stand;
* `Names.lookup`, `Names.freePlace`, `Names.unlink` — what the three readings make of the place;
* `Retains.names` — a path names the same place as long as no directory goes;
* `bindSocket_eq_ok_iff`, `names_of_bindSocket` — which paths can be bound, and what binding leaves.
-/

namespace TraceLink

namespace FileSystem

variable {files before after : FileSystem} {path : Bytes} {place : FilePlace}

/-! ### The place of a path -/

/-- A path leads to a place at which a file stands or can stand. -/
structure Names (files : FileSystem) (path : Bytes) (place : FilePlace) : Prop where
  leads : ∃ directory name, files.locate path = .ok (directory, some name) ∧
    name.length ≤ maxNameLength ∧ place = directory ++ [name]
  plain : (FilePath.ofBytes path).endsInSlash = false

theorem entry?_of_short {name : FileName} (short : name.length ≤ maxNameLength)
    (directory : FilePlace) : files.entry? directory name = .ok (files.node? (directory ++ [name])) :=
  if_neg (by omega)

theorem entry?_of_long {name : FileName} (long : maxNameLength < name.length)
    (directory : FilePlace) : files.entry? directory name = .error .nameTooLong :=
  if_pos long

theorem Names.ne_nil (names : files.Names path place) : path ≠ [] := by
  rintro rfl
  obtain ⟨directory, name, located, -⟩ := names.leads
  cases located

/-- What is found is what stands at the place. -/
theorem Names.lookup (names : files.Names path place) : files.lookup path =
    match files.node? place with
    | none => .error .noEntry
    | some node => .ok node := by
  obtain ⟨⟨directory, name, located, short, rfl⟩, plain⟩ := names
  simp only [FileSystem.lookup, located, entry?_of_short short, plain, bind, Except.bind]
  cases files.node? (directory ++ [name]) with
  | none => rfl
  | some node => cases node <;> rfl

/-- The place can be taken if nothing stands there. -/
theorem Names.freePlace (names : files.Names path place) : files.freePlace path false =
    if (files.node? place).isSome then .error .alreadyExists else .ok place := by
  obtain ⟨⟨directory, name, located, short, rfl⟩, plain⟩ := names
  simp only [FileSystem.freePlace, located, entry?_of_short short, plain, bind, Except.bind]
  cases files.node? (directory ++ [name]) <;> rfl

/-- A socket is removed from its place. -/
theorem Names.unlink {id : SocketId} (names : files.Names path place)
    (standing : files.node? place = some (.socket id)) :
    files.unlink path = .ok (files.setNode place none) := by
  obtain ⟨⟨directory, name, located, short, rfl⟩, plain⟩ := names
  simp only [FileSystem.unlink, located, entry?_of_short short, standing, plain, bind, Except.bind]
  rfl

theorem Names.socketAt? {id : SocketId} (names : files.Names path place)
    (standing : files.node? place = some (.socket id)) : files.socketAt? path = some id := by
  rw [FileSystem.socketAt?, names.lookup, standing]

/-- A path leads to something exactly if something stands at its place. -/
theorem Names.pathExists (names : files.Names path place) :
    files.pathExists path = (files.node? place).isSome := by
  rw [FileSystem.pathExists, names.lookup]
  cases files.node? place <;> rfl

/-- A path at which something can be bound names a free place. -/
theorem names_of_freePlace (free : files.freePlace path false = .ok place) :
    files.Names path place ∧ files.node? place = none := by
  rw [FileSystem.freePlace] at free
  cases located : files.locate path with
  | error errno =>
    rw [located] at free
    cases free
  | ok found =>
    rw [located] at free
    obtain ⟨directory, _ | name⟩ := found
    · cases free
    by_cases long : maxNameLength < name.length
    · simp [entry?_of_long long, bind, Except.bind] at free
    have short : name.length ≤ maxNameLength := by omega
    simp only [entry?_of_short short, bind, Except.bind] at free
    cases standing : files.node? (directory ++ [name]) with
    | some node =>
      rw [standing] at free
      cases free
    | none =>
      rw [standing] at free
      cases slash : (FilePath.ofBytes path).endsInSlash with
      | true =>
        rw [slash] at free
        cases free
      | false =>
        rw [slash] at free
        cases free
        exact ⟨⟨⟨directory, name, located, short, rfl⟩, slash⟩, standing⟩

/-! ### What changes elsewhere -/

/-- No directory goes, and the working directory stays the same. -/
structure Retains (before after : FileSystem) : Prop where
  directories : ∀ place, before.node? place = some .directory → after.node? place = some .directory
  workingDirectory : after.workingDirectory = before.workingDirectory

theorem retains_setQueue (files : FileSystem) (id : SocketId) (queue : Option (List Datagram)) :
    files.Retains (files.setQueue id queue) where
  directories _ standing := standing
  workingDirectory := rfl

/-- A node may be put where no directory stands. -/
theorem retains_setNode (node : Option FileNode) (other : files.node? place ≠ some .directory) :
    files.Retains (files.setNode place node) where
  directories place' standing := by
    by_cases same : place' = place
    · rw [same] at standing
      exact absurd standing other
    · exact (if_neg same).trans standing
  workingDirectory := rfl

theorem Retains.enter (retains : before.Retains after) {name : FileName} {reached : FilePlace}
    (entered : before.enter place name = .ok reached) : after.enter place name = .ok reached := by
  rw [FileSystem.enter] at entered ⊢
  by_cases here : name = FilePath.here
  · rwa [if_pos here] at entered ⊢
  by_cases above : name = FilePath.above
  · rwa [if_neg here, if_pos above] at entered ⊢
  rw [if_neg here, if_neg above] at entered ⊢
  by_cases long : maxNameLength < name.length
  · simp [entry?_of_long long, bind, Except.bind] at entered
  have short : name.length ≤ maxNameLength := by omega
  simp only [entry?_of_short short, bind, Except.bind] at entered ⊢
  -- Only a directory can be entered, and that one is still there.
  cases standing : before.node? (place ++ [name]) with
  | none =>
    rw [standing] at entered
    cases entered
  | some node =>
    rw [standing] at entered
    cases node with
    | directory => rwa [retains.directories _ standing]
    | regular => cases entered
    | socket id => cases entered

/-- The way through directories leads where it led. -/
theorem Retains.walk (retains : before.Retains after) (names : List FileName) :
    ∀ {start reached : FilePlace}, names.foldlM before.enter start = .ok reached →
      names.foldlM after.enter start = .ok reached := by
  induction names with
  | nil => exact fun walked => walked
  | cons name names ih =>
    intro start reached walked
    rw [List.foldlM_cons] at walked ⊢
    cases entered : before.enter start name with
    | error errno =>
      rw [entered] at walked
      cases walked
    | ok next =>
      rw [entered] at walked
      rw [retains.enter entered]
      exact ih walked

theorem Retains.locate (retains : before.Retains after) {found : FilePlace × Option FileName}
    (located : before.locate path = .ok found) : after.locate path = .ok found := by
  rw [FileSystem.locate] at located ⊢
  by_cases empty : path = []
  · rw [if_pos empty] at located
    cases located
  by_cases long : maxPathLength < path.length
  · rw [if_neg empty, if_pos long] at located
    cases located
  rw [if_neg empty, if_neg long] at located ⊢
  simp only [retains.workingDirectory, bind, Except.bind] at located ⊢
  generalize (if (FilePath.ofBytes path).absolute = true then ([] : FilePlace) else
    before.workingDirectory) = start at located ⊢
  cases walked : (FilePath.ofBytes path).names.dropLast.foldlM before.enter start with
  | error errno =>
    rw [walked] at located
    cases located
  | ok directory =>
    rw [walked] at located
    rwa [retains.walk _ walked]

/-- A path names the place that it named. -/
theorem Retains.names (retains : before.Retains after) (names : before.Names path place) :
    after.Names path place := by
  obtain ⟨directory, name, located, rest⟩ := names.leads
  exact ⟨⟨directory, name, retains.locate located, rest⟩, names.plain⟩

/-! ### Binding -/

/-- Apart from the empty path, one that can be bound has no zero byte, is short enough and names a
free place, and binding is not refused for other reasons. There the new socket stands then. -/
theorem bindSocket_eq_ok_iff {bound : SocketId × FileSystem} (named : path ≠ []) :
    files.bindSocket path = .ok bound ↔
      (FilePath.isPassable path = true ∧ path.length ≤ maxSocketPath) ∧
      files.refusal? .bind = none ∧ ∃ place, files.Names path place ∧ files.node? place = none ∧
        bound = (files.next, files.openSocket.2.setNode place (some (.socket files.next))) := by
  rw [bindSocket_eq_ok_iff_address, bindAddress, if_neg named]
  apply and_congr_right'
  apply and_congr_right'
  constructor
  · intro accepted
    split at accepted
    · cases accepted
    · cases accepted
    next place free =>
      cases accepted
      obtain ⟨names, nothing⟩ := names_of_freePlace free
      exact ⟨place, names, nothing, rfl⟩
  · rintro ⟨place, names, nothing, rfl⟩
    rw [names.freePlace, nothing]
    rfl

/-- What a socket that was bound leaves: its path names the place at which it stands. -/
theorem names_of_bindSocket {opened : FileSystem} {id : SocketId} (named : path ≠ [])
    (bound : files.bindSocket path = .ok (id, opened)) :
    ∃ place, opened.Names path place ∧ opened.node? place = some (.socket id) := by
  obtain ⟨-, -, place, names, nothing, made⟩ := (bindSocket_eq_ok_iff named).mp bound
  cases made
  have free : files.node? place ≠ some .directory := by
    rw [nothing]
    nofun
  have retains : files.Retains (files.openSocket.2.setNode place (some (.socket files.next))) :=
    ⟨(retains_setNode (some (.socket files.next)) free).directories, rfl⟩
  exact ⟨place, retains.names names, if_pos rfl⟩

end FileSystem

end TraceLink
