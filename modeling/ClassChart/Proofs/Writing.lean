import ClassChart.Proofs.ExitStatus

/-! What a successful rendering leaves behind. A path is followed directory by directory, and writing
a file closes no way through them. So the drawing is read back at the path that it was written to,
and every other file is as it was before. -/
namespace ClassChart.CommandLine

open FileTree

/-- What ends well has gone well step by step. -/
theorem ok_of_bind {step : Except ε α} {next : α → Except ε β}
    (ended : step >>= next = .ok result) : ∃ value, step = .ok value ∧ next value = .ok result := by
  cases step with
  | error error => cases ended
  | ok value => exact ⟨value, rfl, ended⟩

/-! ## Looking into directories -/

theorem lookup_replaced (entries : List (String × FileTree)) (name other : String)
    (changed : FileTree) :
    (entries.map fun entry => if entry.1 = name then (name, changed) else entry).lookup other =
      (entries.lookup other).map fun found => if other = name then changed else found := by
  induction entries with
  | nil => rfl
  | cons entry entries ih =>
    obtain ⟨key, value⟩ := entry
    rw [List.map_cons]
    by_cases same : other = key
    · subst same
      by_cases named : other = name <;> simp [named]
    · have apart : (other == key) = false := by simpa using same
      by_cases named : key = name
      · subst named
        simp [List.lookup_cons, apart, ih]
      · simp [List.lookup_cons, apart, named, ih]

theorem find_inside (listed : entries.lookup first = some tree) (further : List String) :
    (directory entries).find? (first :: further) = tree.find? further := by
  rw [find?, listed]

theorem found_inside (found : (directory entries).find? (first :: further) = .ok entry) :
    ∃ tree, entries.lookup first = some tree ∧ tree.find? further = .ok entry := by
  rw [find?] at found
  cases listed : entries.lookup first with
  | none =>
    rw [listed] at found
    cases found
  | some tree =>
    rw [listed] at found
    exact ⟨tree, rfl, found⟩

/-! ## Writing a file -/

/-- What becomes of an entry when a file is written: a directory stays one, and a file somewhere
else stays as it is. -/
inductive Outlasts (elsewhere : Prop) : FileTree → FileTree → Prop where
  | directory : Outlasts elsewhere (.directory entries) (.directory others)
  | file (apart : elsewhere) : Outlasts elsewhere (.file old) (.file old)
  | written (here : ¬ elsewhere) : Outlasts elsewhere (.file old) (.file content)

theorem outlasts_same (apart : elsewhere) (entry : FileTree) : Outlasts elsewhere entry entry := by
  cases entry with
  | file old => exact .file apart
  | directory entries => exact .directory

theorem outlasts_congr (same : elsewhere ↔ other) (outlasts : Outlasts elsewhere entry kept) :
    Outlasts other entry kept :=
  propext same ▸ outlasts

/-- Writing a file brings it to its place. -/
theorem find_of_put (written : put content tree spot = .ok changed) :
    changed.find? spot = .ok (.file content) := by
  fun_induction put content tree spot generalizing changed with
  | case1 | case2 | case3 | case5 =>
    cases written
    try rfl
  | case4 entries name rest missing last =>
    cases written
    have found : (entries ++ [(name, file content)]).lookup name = some (file content) := by
      rw [List.lookup_append, missing]
      simp
    obtain rfl : rest = [] := by simpa using last
    exact find_inside found []
  | case6 entries name rest tree listed ih =>
    obtain ⟨below, inner, made⟩ := ok_of_bind written
    cases made
    rw [find_inside (by rw [lookup_replaced, listed, Option.map_some, if_pos rfl])]
    exact ih inner

/-- Nothing in a tree is lost by writing a file. -/
theorem outlasts_put (written : put content tree spot = .ok changed)
    (found : tree.find? other = .ok entry) :
    ∃ kept, changed.find? other = .ok kept ∧ Outlasts (other ≠ spot) entry kept := by
  fun_induction put content tree spot generalizing changed other entry with
  | case1 old =>
    cases written
    cases other with
    | nil =>
      cases found
      exact ⟨_, rfl, .written (by simp)⟩
    | cons name rest => cases found
  | case2 | case3 | case5 => cases written
  | case4 entries name rest missing last =>
    cases written
    cases other with
    | nil =>
      cases found
      exact ⟨_, rfl, .directory⟩
    | cons first further =>
      obtain ⟨tree, listed, below⟩ := found_inside found
      have different : first ≠ name := by
        rintro rfl
        rw [missing] at listed
        cases listed
      have still : (entries ++ [(name, file content)]).lookup first = some tree := by
        rw [List.lookup_append, listed]
        rfl
      exact ⟨entry, (find_inside still further).trans below,
        outlasts_same (by simp [different]) entry⟩
  | case6 entries name rest tree listed ih =>
    obtain ⟨below, inner, made⟩ := ok_of_bind written
    cases made
    cases other with
    | nil =>
      cases found
      exact ⟨_, rfl, .directory⟩
    | cons first further =>
      obtain ⟨held, listedFirst, inside⟩ := found_inside found
      by_cases same : first = name
      · subst same
        obtain rfl := Option.some.inj (listed.symm.trans listedFirst)
        obtain ⟨kept, still, outlasts⟩ := ih inner inside
        refine ⟨kept, ?_, outlasts_congr (by simp) outlasts⟩
        rw [find_inside (by rw [lookup_replaced, listed, Option.map_some, if_pos rfl])]
        exact still
      · refine ⟨entry, ?_, outlasts_same (by simp [same]) entry⟩
        rw [find_inside (by rw [lookup_replaced, listedFirst, Option.map_some, if_neg same])]
        exact inside

/-! ## Following paths -/

/-- A path leads where it led before a file was written. -/
theorem follow_of_put (written : put content root spot = .ok changed)
    (followed : root.follow start names = .ok found) :
    changed.follow start names = .ok found := by
  induction names generalizing start with
  | nil => exact followed
  | cons piece rest ih =>
    rw [follow] at followed ⊢
    obtain ⟨entry, standing, next⟩ := ok_of_bind followed
    obtain ⟨kept, still, outlasts⟩ := outlasts_put written standing
    rw [still]
    cases outlasts with
    | directory => exact ih next
    | file | written => cases next

/-- A way back is open only where a directory is left by it. -/
theorem way_back_through_directory (root : FileTree) (plain : piece ≠ "." ∧ piece ≠ "..")
    (followed : root.follow spot (piece :: ".." :: rest) = .ok found) :
    (∃ entries, root.find? (spot ++ [piece]) = .ok (.directory entries)) ∧
      root.follow spot rest = .ok found := by
  have down : nextPlace spot piece = spot ++ [piece] := by simp [nextPlace, plain]
  have back : nextPlace (spot ++ [piece]) ".." = spot := by simp [nextPlace]
  rw [follow] at followed
  obtain ⟨start, -, next⟩ := ok_of_bind followed
  cases start with
  | file content => cases next
  | directory entries =>
    rw [down, follow] at next
    obtain ⟨left, standing, next⟩ := ok_of_bind next
    cases left with
    | file content => cases next
    | directory inner =>
      rw [back] at next
      exact ⟨⟨inner, standing⟩, next⟩

/-- Where a file is written, and what happens there. -/
theorem put_of_write (written : tree.write path content = .ok changed) :
    ∃ spot, tree.follow [] (splitPath path).names = .ok spot ∧
      put content tree spot = .ok changed ∧ (splitPath path).endsInSlash = false := by
  obtain ⟨spot, followed, stored⟩ := ok_of_bind written
  obtain ⟨result, stored, ended⟩ := ok_of_bind stored
  split at ended
  case isTrue => cases ended
  case isFalse plain =>
    cases ended
    exact ⟨spot, followed, stored, by simpa using plain⟩

/-- The file at a path has been written, and no other file has been touched. -/
structure Written (before after : FileTree) (path : String) (content : ByteArray) : Prop where
  there : after.read path = .ok content
  others : ∀ spot old, before.find? spot = .ok (.file old) →
    before.follow [] (splitPath path).names ≠ .ok spot → after.find? spot = .ok (.file old)

theorem written_of_write (written : tree.write path content = .ok changed) :
    Written tree changed path content := by
  obtain ⟨spot, followed, stored, plain⟩ := put_of_write written
  constructor
  · rw [FileTree.read]
    simp only [bind, Except.bind, follow_of_put stored followed, find_of_put stored, plain]
    rfl
  · intro other old found apart
    have elsewhere : other ≠ spot := fun same => apart (same ▸ followed)
    obtain ⟨kept, still, outlasts⟩ := outlasts_put stored found
    cases outlasts with
    | file => exact still
    | written here => exact absurd elsewhere here

/-! ## Renderings -/

/-- A rendering into a file writes its drawing there and prints nothing. -/
theorem rendering_writes_its_drawing
    (asked : Asked surroundings (.render input (some path) strict width height) content)
    (isFile : path ≠ streamPath)
    (writes : CanWrite surroundings (.render input (some path) strict width height))
    (processed : process (renderGeometry width height) strict content = .ok compilation) :
    ∃ svg aftermath, compilation.svg = some svg ∧ surroundings.run = .ok aftermath ∧
      aftermath.exitStatus = 0 ∧ aftermath.standardOutput = "" ∧
      Written surroundings.workspace aftermath.workspace path svg.toUTF8 := by
  obtain ⟨svg, drawn⟩ := drawing_of_process processed
  obtain ⟨notes, verbose, ran⟩ := run_of_asked asked
  obtain ⟨more, delivered⟩ := render_delivers processed drawn (some path) verbose
  have file : filePath? (some path) = some path := by simpa [filePath?] using isFile
  obtain ⟨changed, written⟩ := writes path file svg.toUTF8
  have saved : deliver (some path) (notes ++ more) svg =
      ⟨notes ++ more, "", some (path, svg), none⟩ := by
    rw [deliver, file]
  refine ⟨svg, _, drawn, ran, ?_⟩
  rw [Command.run, delivered, after_deliver, saved, Outcome.carryOut]
  simp only [written]
  exact ⟨rfl, rfl, written_of_write written⟩

/-- A rendering without a file prints its drawing and touches no file. -/
theorem rendering_prints_its_drawing
    (asked : Asked surroundings (.render input none strict width height) content)
    (processed : process (renderGeometry width height) strict content = .ok compilation) :
    ∃ svg aftermath, compilation.svg = some svg ∧ surroundings.run = .ok aftermath ∧
      aftermath.exitStatus = 0 ∧ aftermath.standardOutput = endLine svg ∧
      aftermath.workspace = surroundings.workspace := by
  obtain ⟨svg, drawn⟩ := drawing_of_process processed
  obtain ⟨notes, verbose, ran⟩ := run_of_asked asked
  obtain ⟨more, delivered⟩ := render_delivers processed drawn none verbose
  refine ⟨svg, _, drawn, ran, ?_⟩
  rw [Command.run, delivered, after_deliver]
  exact ⟨rfl, rfl, rfl⟩

end ClassChart.CommandLine
