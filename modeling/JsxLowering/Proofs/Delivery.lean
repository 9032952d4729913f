import JsxLowering.CommandLine.Folder
import JsxLowering.Proofs.Phases

set_option autoImplicit false

/-!
What a run of the command leaves behind. A text that is put where a path leads is read back under
that path, and every other place is as it was: this rests on all folders on the way to a place
being there when a path is followed to it. With that, a run writes the code of a compilation
without errors to the file that was named or to the standard output, and nothing otherwise.
-/

namespace JsxLowering.CommandLine

namespace Folder

variable {folder later : Folder} {place next other : Place} {name path text : String}

/-- All folders on the way to a place are there. -/
def Rooted (folder : Folder) (place : Place) : Prop :=
  ∀ other, other <:+ place → other ≠ place → folder.isFolder other = true

theorem rooted_nil : folder.Rooted [] := by
  intro other suffix different
  exact absurd (List.suffix_nil.mp suffix) different

theorem rooted_home : folder.Rooted folder.home := by
  intro other suffix _
  simp [isFolder, suffix]

theorem isFolder_of_occupant (found : folder.occupant place = .folder) :
    folder.isFolder place = true := by
  unfold occupant at found
  split at found
  · cases found
  · split at found
    · cases found
    · by_contra missing
      simp [missing] at found

theorem step_cases (went : folder.step place name = .ok next) :
    folder.occupant place = .folder ∧
      (next = place ∨ next = place.tail ∨ next = name :: place) := by
  unfold step at went
  split at went
  · cases went
  · cases went
  · cases went
  · refine ⟨‹_›, ?_⟩
    split_ifs at went
    · exact .inl (Except.ok.inj went).symm
    · exact .inr (.inl (Except.ok.inj went).symm)
    · exact .inr (.inr (Except.ok.inj went).symm)

theorem Rooted.step (rooted : folder.Rooted place) (went : folder.step place name = .ok next) :
    folder.Rooted next := by
  obtain ⟨found, rfl | rfl | rfl⟩ := step_cases went
  · exact rooted
  · intro other suffix different
    refine rooted other (suffix.trans (List.tail_suffix place)) ?_
    rintro rfl
    exact different (suffix.eq_of_length_le (by simp))
  · intro other suffix different
    obtain rfl | suffix := List.suffix_cons_iff.mp suffix
    · exact absurd rfl different
    · by_cases here : other = place
      · rw [here]
        exact isFolder_of_occupant found
      · exact rooted other suffix here

theorem steps_cons {names : List String}
    (went : (name :: names).foldlM folder.step place = .ok next) :
    ∃ between, folder.step place name = .ok between ∧
      names.foldlM folder.step between = .ok next := by
  rw [List.foldlM_cons] at went
  cases first : folder.step place name with
  | error cause =>
      rw [first] at went
      cases went
  | ok between =>
      rw [first] at went
      exact ⟨between, rfl, went⟩

theorem Rooted.steps {names : List String} (rooted : folder.Rooted place)
    (went : names.foldlM folder.step place = .ok next) : folder.Rooted next := by
  induction names generalizing place with
  | nil => exact Except.ok.inj went ▸ rooted
  | cons name names inductionHypothesis =>
      obtain ⟨between, first, rest⟩ := steps_cons went
      exact inductionHypothesis (rooted.step first) rest

theorem rooted_resolve (reached : folder.resolve path = .ok place) : folder.Rooted place := by
  unfold resolve at reached
  split_ifs at reached with _ _ absolute
  · exact rooted_nil.steps reached
  · exact rooted_home.steps reached

/-- A step needs nothing but the folder that it starts from. -/
theorem step_of_kept (kept : folder.occupant place = .folder → later.occupant place = .folder)
    (went : folder.step place name = .ok next) : later.step place name = .ok next := by
  have found := (step_cases went).1
  unfold step at went ⊢
  rw [found] at went
  rw [kept found]
  exact went

theorem steps_of_kept {names : List String}
    (kept : ∀ place, folder.occupant place = .folder → later.occupant place = .folder)
    (went : names.foldlM folder.step place = .ok next) :
    names.foldlM later.step place = .ok next := by
  induction names generalizing place with
  | nil => exact went
  | cons name names inductionHypothesis =>
      obtain ⟨between, first, rest⟩ := steps_cons went
      rw [List.foldlM_cons, step_of_kept (kept place) first]
      exact inductionHypothesis rest

theorem resolve_of_kept (home : later.home = folder.home)
    (kept : ∀ place, folder.occupant place = .folder → later.occupant place = .folder)
    (reached : folder.resolve path = .ok place) : later.resolve path = .ok place := by
  unfold resolve at reached ⊢
  rw [home]
  split_ifs at reached ⊢ <;> exact steps_of_kept kept reached

theorem isFolder_put (rooted : folder.Rooted place) (different : other ≠ place) :
    (folder.put text place).isFolder other = folder.isFolder other := by
  have onTheWay : other <:+ place → folder.isFolder other = true :=
    fun suffix => rooted other suffix different
  rw [Bool.eq_iff_iff]
  simp only [isFolder, put, Bool.or_eq_true, List.any_cons, Bool.and_eq_true,
    List.isSuffixOf_iff_suffix] at onTheWay ⊢
  constructor
  · rintro (known | ⟨suffix, _⟩ | below)
    · exact .inl known
    · exact onTheWay suffix
    · exact .inr below
  · rintro (known | below)
    · exact .inl known
    · exact .inr (.inr below)

/-- What is at another place does not change. -/
theorem occupant_put_of_ne (rooted : folder.Rooted place) (different : other ≠ place) :
    (folder.put text place).occupant other = folder.occupant other := by
  have file : (folder.put text place).file? other = folder.file? other := by
    simp [file?, put, List.lookup_cons, beq_false_of_ne different]
  rw [occupant, occupant, file, isFolder_put rooted different]

theorem occupant_put_self (plain : ∀ device, folder.occupant place ≠ .device device) :
    (folder.put text place).occupant place = .file text := by
  have file : (folder.put text place).file? place = some text := by
    simp [file?, put]
  rw [occupant, file]
  split
  · rename_i device found
    exact absurd (by rw [occupant, found]) (plain device)
  · rfl

theorem withoutSlashes_of_ne (last : path.toList.getLast? ≠ some '/') :
    withoutSlashes path = path := by
  have kept : path.toList.reverse.dropWhile (· == '/') = path.toList.reverse := by
    rw [← List.head?_reverse] at last
    cases shape : path.toList.reverse with
    | nil => rfl
    | cons head rest =>
        rw [shape] at last
        have different : (head == '/') = false := by simpa using last
        rw [List.dropWhile_cons, different, if_neg Bool.false_ne_true]
  simp only [withoutSlashes, kept, List.reverse_reverse, String.ofList_toList, ite_self]

theorem target_cases (target : folder.target path = .ok place) :
    folder.resolve path = .ok place ∧ folder.occupant place ≠ .folder := by
  unfold Folder.target at target
  cases reached : folder.resolve (withoutSlashes path) with
  | error cause =>
      rw [reached] at target
      cases target
  | ok found =>
      rw [reached] at target
      change (if _ then _ else _) = _ at target
      split_ifs at target with bad
      obtain rfl := Except.ok.inj target
      simp only [Bool.or_eq_true, decide_eq_true_eq, not_or] at bad
      rw [withoutSlashes_of_ne bad.2] at reached
      exact ⟨reached, bad.1⟩

/-- A text is read back under the path that it was written to. -/
theorem read_put (target : folder.target path = .ok place)
    (plain : ∀ device, folder.occupant place ≠ .device device) (input : ByteArray) :
    World.read ⟨folder.put text place, input⟩ path = .ok text := by
  obtain ⟨reached, notFolder⟩ := target_cases target
  have kept : ∀ other, folder.occupant other = .folder →
      (folder.put text place).occupant other = .folder := by
    intro other found
    have different : other ≠ place := by
      rintro rfl
      exact notFolder found
    rw [occupant_put_of_ne (rooted_resolve reached) different, found]
  have again : (folder.put text place).resolve path = .ok place :=
    resolve_of_kept (by rfl) kept reached
  unfold World.read
  rw [again]
  simp only [bind, Except.bind, occupant_put_self plain]

end Folder

/-- Nothing has been written. -/
def Aftermath.Untouched (world : World) (after : Aftermath) : Prop :=
  after.standardOutput = "" ∧ after.folder = world.folder

/-- The texts that a run shows when the source was compiled. -/
def Invocation.told (invocation : Invocation) (result : Compilation) : List String :=
  (invocation.opening ++ invocation.shown result.log).map Message.text ++ result.warnings ++
    result.errors ++
    if result.errors = [] then []
    else ["exiting due to " ++ toString result.errors.length ++ " errors"]

/-- How a run ends when the source was compiled. -/
structure Invocation.Ends (invocation : Invocation) (world : World) (result : Compilation)
    (after : Aftermath) : Prop where
  refused : result.errors ≠ [] →
    after.Untouched world ∧ after.status = 1 ∧
      after.messages.map Message.text = invocation.told result
  shown : result.errors = [] → invocation.settings.output = none →
    after.standardOutput = result.code ∧ after.folder = world.folder ∧ after.status = 0 ∧
      after.messages.map Message.text = invocation.told result
  /-- The file that was named holds the code, and everything else is as it was. -/
  saved : ∀ (path : String) (place : Place), result.errors = [] →
    invocation.settings.output = some path → world.folder.target path = .ok place →
    (∀ device, world.folder.occupant place ≠ .device device) →
    (∀ input, World.read ⟨after.folder, input⟩ path = .ok result.code) ∧
      after.folder.occupant place = .file result.code ∧
      (∀ other, other ≠ place → after.folder.occupant other = world.folder.occupant other) ∧
      after.folder.home = world.folder.home ∧ after.standardOutput = "" ∧ after.status = 0 ∧
      after.messages.map Message.text = invocation.told result
  displayed : ∀ (path : String) (place : Place) (device : Device), result.errors = [] →
    invocation.settings.output = some path → world.folder.target path = .ok place →
    world.folder.occupant place = .device device →
    after.folder = world.folder ∧
      after.standardOutput = (if device = .standardOutput then result.code else "") ∧
      after.status = 0 ∧
      after.messages.map Message.text =
        invocation.told result ++ if device = .standardError then [result.code] else []
  /-- Code that cannot be written is not written elsewhere. -/
  unsaved : ∀ (path : String) (cause : FileError), result.errors = [] →
    invocation.settings.output = some path → world.folder.target path = .error cause →
    after.Untouched world ∧ after.status = 1 ∧
      after.messages.map Message.text =
        invocation.told result ++ ["Error: " ++ cause.message]

/-- How a run ends, however far it comes. -/
structure World.RunsTo (world : World) (equipment : Equipment) (words : List String)
    (after : Aftermath) : Prop where
  misused : ∀ cause : UsageError, Invocation.parse words = .error (.misuse cause) →
    after.Untouched world ∧ after.status = 2 ∧
      after.messages.map Message.text = ["error: " ++ cause.message]
  noticed : ∀ notice : Notice, Invocation.parse words = .error (.notice notice) →
    after.standardOutput = equipment.notice notice ∧ after.folder = world.folder ∧
      after.status = 0 ∧ after.messages = []
  unread : ∀ (invocation : Invocation) (cause : FileError),
    Invocation.parse words = .ok invocation → world.source invocation = .error cause →
    after.Untouched world ∧ after.status = 1 ∧
      after.messages.map Message.text =
        invocation.opening.map Message.text ++ ["Error: " ++ cause.message]
  stopped : ∀ (invocation : Invocation) (source : String),
    Invocation.parse words = .ok invocation → world.source invocation = .ok source →
    equipment.Stops invocation.settings source →
    after.Untouched world ∧ after.status = 1 ∧
      after.messages.map Message.text =
        invocation.opening.map Message.text ++
          ["Error: \"parser panicked, but no errors were reported\""]
  compiled : ∀ (invocation : Invocation) (source : String) (result : Compilation),
    Invocation.parse words = .ok invocation → world.source invocation = .ok source →
    equipment.compile invocation.settings source = .ok result →
    invocation.Ends world result after

variable {equipment : Equipment} {world : World} {words : List String} {invocation : Invocation}
  {result : Compilation}

theorem Message.text_report (content : String) : (Message.report content).text = content := rfl

theorem Message.text_failure (cause : String) :
    (Message.failure cause).text = "Error: " ++ cause := rfl

theorem Invocation.texts_conclude :
    (invocation.conclude result).messages.map Message.text = invocation.told result := by
  have reports (lines : List String) : (lines.map Message.report).map Message.text = lines := by
    rw [List.map_map]
    exact List.map_id'' Message.text_report lines
  by_cases errorless : result.errors = []
  · simp only [conclude, told, errorless, List.isEmpty_nil, if_true, List.map_append, reports,
      List.append_nil]
  · have faulty : result.errors.isEmpty = false := by simpa using errorless
    simp only [conclude, told, errorless, faulty, Bool.false_eq_true, if_false, List.map_append,
      reports]
    rfl

theorem Invocation.conclude_of_errors (invocation : Invocation)
    (faulty : result.errors ≠ []) :
    (invocation.conclude result).delivery = none ∧ (invocation.conclude result).status = 1 := by
  simp [conclude, faulty]

theorem Invocation.conclude_of_errorless (invocation : Invocation)
    (errorless : result.errors = []) :
    (invocation.conclude result).delivery = some (invocation.destination, result.code) ∧
      (invocation.conclude result).status = 0 := by
  simp [conclude, errorless]

theorem Invocation.ends_deliver :
    invocation.Ends world result (world.deliver (invocation.conclude result)) := by
  have texts : (invocation.conclude result).messages.map Message.text = invocation.told result :=
    texts_conclude
  have toFile {path : String} (errorless : result.errors = [])
      (output : invocation.settings.output = some path) :
      (invocation.conclude result).delivery = some (.file path, result.code) := by
    rw [(invocation.conclude_of_errorless errorless).1, destination, output]
  refine ⟨?_, ?_, ?_, ?_, ?_⟩
  · intro faulty
    obtain ⟨withheld, status⟩ := invocation.conclude_of_errors faulty
    simp only [World.deliver, withheld]
    exact ⟨⟨rfl, rfl⟩, status, texts⟩
  · intro errorless output
    obtain ⟨delivery, status⟩ := invocation.conclude_of_errorless errorless
    simp only [destination, output] at delivery
    simp only [World.deliver, delivery]
    exact ⟨rfl, rfl, status, texts⟩
  · intro path place errorless output target plain
    have after : world.deliver (invocation.conclude result) =
        ⟨0, "", (invocation.conclude result).messages, world.folder.put result.code place⟩ := by
      simp only [World.deliver, toFile errorless output, target,
        (invocation.conclude_of_errorless errorless).2]
    rw [after]
    obtain ⟨reached, _⟩ := Folder.target_cases target
    exact ⟨Folder.read_put target plain, Folder.occupant_put_self plain,
      fun _ => Folder.occupant_put_of_ne (Folder.rooted_resolve reached), rfl, rfl, rfl, texts⟩
  · intro path place device errorless output target found
    have status := (invocation.conclude_of_errorless errorless).2
    simp only [World.deliver, toFile errorless output, target, found]
    cases device <;> simp [World.display, status, texts, Message.text_report]
  · intro path cause errorless output target
    simp only [World.deliver, toFile errorless output, target]
    refine ⟨⟨rfl, rfl⟩, rfl, ?_⟩
    simp [Session.undelivered, Session.failed, texts, Message.text_failure]

theorem World.runsTo_run : world.RunsTo equipment words (world.run equipment words) := by
  refine ⟨?_, ?_, ?_, ?_, ?_⟩
  · intro cause parsed
    have after : world.run equipment words = ⟨2, "", [.usage cause], world.folder⟩ := by
      simp only [run, parsed, Session.halted, deliver]
    rw [after]
    exact ⟨⟨rfl, rfl⟩, rfl, rfl⟩
  · intro notice parsed
    have after : world.run equipment words =
        ⟨0, equipment.notice notice, [], world.folder⟩ := by
      simp only [run, parsed, Session.halted, deliver, display]
    rw [after]
    exact ⟨rfl, rfl, rfl, rfl⟩
  · intro invocation cause parsed readable
    have after : world.run equipment words =
        ⟨1, "", invocation.opening ++ [.failure cause.message], world.folder⟩ := by
      simp only [run, Invocation.run, parsed, readable, Session.failed, deliver]
    rw [after]
    exact ⟨⟨rfl, rfl⟩, rfl, List.map_append⟩
  · intro invocation source parsed readable stops
    have after : world.run equipment words =
        ⟨1, "", invocation.opening ++ [.failure (Text.quoted Fatal.parserStopped.message)],
          world.folder⟩ := by
      simp only [run, Invocation.run, parsed, readable, Toolchain.compile_of_stops stops,
        Session.failed, deliver]
    rw [after]
    refine ⟨⟨rfl, rfl⟩, rfl, ?_⟩
    rw [List.map_append]
    rfl
  · intro invocation source result parsed readable compiled
    simp only [run, Invocation.run, parsed, readable, compiled]
    exact Invocation.ends_deliver

/-- The source was compiled without an error. -/
def World.Succeeds (world : World) (equipment : Equipment) (words : List String) : Prop :=
  ∃ invocation source result, Invocation.parse words = .ok invocation ∧
    world.source invocation = .ok source ∧
    equipment.compile invocation.settings source = .ok result ∧ result.errors = []

theorem World.RunsTo.untouched {after : Aftermath} (runs : world.RunsTo equipment words after)
    (unasked : ∀ notice, Invocation.parse words ≠ .error (.notice notice))
    (fails : ¬world.Succeeds equipment words) : after.Untouched world ∧ after.status ≠ 0 := by
  cases parsed : Invocation.parse words with
  | error halt =>
      cases halt with
      | misuse cause =>
          obtain ⟨untouched, status, _⟩ := runs.misused cause parsed
          exact ⟨untouched, by simp [status]⟩
      | notice notice => exact absurd parsed (unasked notice)
  | ok invocation =>
      cases readable : world.source invocation with
      | error cause =>
          obtain ⟨untouched, status, _⟩ := runs.unread invocation cause parsed readable
          exact ⟨untouched, by simp [status]⟩
      | ok source =>
          by_cases stops : equipment.Stops invocation.settings source
          · obtain ⟨untouched, status, _⟩ := runs.stopped invocation source parsed readable stops
            exact ⟨untouched, by simp [status]⟩
          · obtain ⟨result, compiled, _⟩ := Toolchain.accounts stops
            have faulty : result.errors ≠ [] := fun errorless =>
              fails ⟨invocation, source, result, parsed, readable, compiled, errorless⟩
            obtain ⟨untouched, status, _⟩ :=
              (runs.compiled invocation source result parsed readable compiled).refused faulty
            exact ⟨untouched, by simp [status]⟩

/-- Code and errors exclude one another, whatever the phases around the lowering do. A
compilation sorts what is reported up to the first phase with an error, and has code exactly if
no error is among it. The command writes this code and nothing else, and only then; if it is
only asked about itself, it compiles nothing. -/
theorem errors_exclude_code (equipment : Equipment) :
    (∀ (settings : Settings) (source : String),
      (equipment.Stops settings source →
        equipment.compile settings source = .error .parserStopped) ∧
      (¬equipment.Stops settings source →
        ∃ result, equipment.compile settings source = .ok result ∧
          equipment.Accounts settings source result)) ∧
    ∀ (world : World) (words : List String),
      world.RunsTo equipment words (world.run equipment words) ∧
      ((∀ notice, Invocation.parse words ≠ .error (.notice notice)) →
        ¬world.Succeeds equipment words →
        (world.run equipment words).Untouched world ∧ (world.run equipment words).status ≠ 0) :=
  ⟨fun _ _ => ⟨Toolchain.compile_of_stops, Toolchain.accounts⟩,
    fun _ _ => ⟨World.runsTo_run, World.runsTo_run.untouched⟩⟩

/-- Phases of which the parser always has a warning. -/
def wary : Equipment where
  parse _ source := ⟨⟨source, [], [], [], none⟩, [⟨.warning, "odd", none, []⟩], false⟩
  check _ _ := []
  print _ _ := ⟨"code", none⟩
  render _ := Diagnostic.message
  notice _ := "help"

/-- A folder without files in another one, and nothing to read. -/
def vacant : World := ⟨⟨[], ["work", "tmp"], []⟩, .empty⟩

/-- Where and how `-W -o ../out.js` has the code written. -/
def strict : Invocation :=
  ⟨{ Settings.standard with warningsAsErrors := true, output := some "../out.js" }, 0, 0⟩

theorem errors_exclude_code_strict :
    ¬wary.Stops strict.settings "" ∧
    (∃ result, wary.compile strict.settings "" = .ok result ∧
      wary.Accounts strict.settings "" result) ∧
    (vacant.run wary ["-W", "-o", "../out.js"]).Untouched vacant ∧
    (vacant.run wary ["-W", "-o", "../out.js"]).status = 1 ∧
    (vacant.run wary ["-W", "-o", "../out.js"]).messages.map Message.text =
      ["odd", "exiting due to 1 errors"] ∧
    World.read ⟨(vacant.run wary ["-o", "../out.js"]).folder, .empty⟩ "../out.js" = .ok "code" ∧
    (vacant.run wary ["-o", "../out.js"]).folder.occupant ["out.js", "tmp"] = .file "code" ∧
    (vacant.run wary []).standardOutput = "code" ∧
    (vacant.run wary ["--help"]).standardOutput = "help" := by
  have running : ¬wary.Stops strict.settings "" := fun stops => by cases stops.1
  have empty : vacant.folder.occupant ["out.js", "tmp"] = .nothing := by decide +kernel
  have target : vacant.folder.target "../out.js" = .ok ["out.js", "tmp"] := by decide +kernel
  obtain ⟨compiles, runs⟩ := errors_exclude_code wary
  obtain ⟨untouched, status, texts⟩ :=
    ((runs vacant ["-W", "-o", "../out.js"]).1.compiled strict "" ⟨"", [], ["odd"], []⟩
      rfl rfl rfl).refused (by simp)
  obtain ⟨readBack, written, _⟩ :=
    ((runs vacant ["-o", "../out.js"]).1.compiled
      ⟨{ Settings.standard with output := some "../out.js" }, 0, 0⟩ "" ⟨"code", ["odd"], [], _⟩
      rfl rfl rfl).saved "../out.js" ["out.js", "tmp"] rfl rfl target (by simp [empty])
  obtain ⟨shown, _⟩ :=
    ((runs vacant []).1.compiled .standard "" ⟨"code", ["odd"], [], _⟩ rfl rfl rfl).shown rfl rfl
  exact ⟨running, (compiles strict.settings "").2 running, untouched, status, texts,
    readBack _, written, shown, ((runs vacant ["--help"]).1.noticed .manual rfl).1⟩

end JsxLowering.CommandLine
