import JsxLowering.Compile
import JsxLowering.Proofs.Diagnostics

set_option autoImplicit false

/-!
Errors and code exclude one another. Whatever the parser, the checker and the printer do, a
compilation reports the diagnostics of the phases up to the first one with an error, and it has
code only if there is no error at all.
-/

namespace JsxLowering

/-- The diagnostics of a lowering, if it was refused. -/
def Transformation.diagnostics (result : Transformation) : List Diagnostic :=
  match result.outcome with
  | .error diagnostics => diagnostics
  | .ok _ => []

/-- The phases that are run: those up to the first that has an error. -/
def Settings.ran (settings : Settings) : List (List Diagnostic) → List (List Diagnostic)
  | [] => []
  | phase :: rest =>
      if phase.any settings.isError then [phase] else phase :: settings.ran rest

/-- The line that goes after printed code. -/
def Printed.mapLine (settings : Settings) (printed : Printed) : String :=
  match settings.sourceMap, printed.map with
  | true, some url => "\n//# sourceMappingURL=" ++ url
  | _, _ => ""

/-- What printing is worth a warning for. -/
def Printed.notes (settings : Settings) (printed : Printed) : List String :=
  match settings.sourceMap, printed.map with
  | true, none => ["sourcemap generation requested, but no sourcemap was generated"]
  | _, _ => []

namespace Toolchain

section

variable (tools : Toolchain) (settings : Settings) (source : String)

/-- The program that is read from a source. -/
def program : Program := (tools.parse settings.typed source).program

/-- The diagnostics that each phase has to report, if it is run. -/
def phases : List (List Diagnostic) :=
  [(tools.parse settings.typed source).diagnostics,
    tools.check settings.typed (tools.program settings source),
    (transform settings.lowering (tools.program settings source)).diagnostics]

/-- The diagnostics of the phases that are run. -/
def reported : List Diagnostic := (settings.ran (tools.phases settings source)).flatten

/-- The reports on what counts as an error. Whatever counts as one is shown as one. -/
def errorReports : List String :=
  ((tools.reported settings source).filter fun diagnostic =>
      diagnostic.severity = .error ∨ settings.warningsAsErrors = true).map fun diagnostic =>
    tools.render source { diagnostic with severity := .error }

/-- The reports on what does not count as an error. -/
def warningReports : List String :=
  ((tools.reported settings source).filter fun diagnostic =>
      ¬(diagnostic.severity = .error ∨ settings.warningsAsErrors = true)).map
    (tools.render source)

/-- The parser has given up without saying why. -/
def Stops : Prop :=
  (tools.parse settings.typed source).stopped = true ∧
    (tools.parse settings.typed source).diagnostics = []

/-- The records of the lowering, if it is run. -/
def records : List Event :=
  if (settings.ran (tools.phases settings source)).length < 3 then []
  else
    .loweringStarted settings.lowering ::
      (transform settings.lowering (tools.program settings source)).log ++
      match (transform settings.lowering (tools.program settings source)).outcome with
      | .ok lowered => [.loweringFinished lowered.count]
      | .error _ => []

/-- The compilation accounts for all that the phases have reported, and has code only where
they have reported no error. -/
structure Accounts (result : Compilation) : Prop where
  errors : result.errors = tools.errorReports settings source
  withheld : result.errors ≠ [] →
    result.code = "" ∧ result.warnings = tools.warningReports settings source
  printed : result.errors = [] →
    ∃ lowered,
      (transform settings.lowering (tools.program settings source)).outcome = .ok lowered ∧
      result.code = (tools.print settings lowered.program).code ++
        (tools.print settings lowered.program).mapLine settings ∧
      result.warnings = tools.warningReports settings source ++
        (tools.print settings lowered.program).notes settings
  /-- A phase that is not run may be any. -/
  halted : ∀ others : Toolchain,
    others.render source = tools.render source →
    others.parse settings.typed source = tools.parse settings.typed source →
    (1 < (settings.ran (tools.phases settings source)).length →
      others.check settings.typed (tools.program settings source) =
        tools.check settings.typed (tools.program settings source)) →
    (result.errors = [] → others.print settings = tools.print settings) →
    others.compile settings source = .ok result
  /-- The lowering leaves its records exactly where it is run. -/
  logged : result.log = tools.records settings source

end

end Toolchain

namespace Settings

variable {settings : Settings} {phase : List Diagnostic} (rest : List (List Diagnostic))

@[simp]
theorem ran_of_faulty (faulty : phase.any settings.isError = true) :
    settings.ran (phase :: rest) = [phase] := by
  simp [ran, faulty]

@[simp]
theorem ran_of_clean (clean : phase.any settings.isError = false) :
    settings.ran (phase :: rest) = phase :: settings.ran rest := by
  simp [ran, clean]

@[simp]
theorem ran_singleton : settings.ran [phase] = [phase] := by
  simp [ran]

theorem isError_eq (diagnostic : Diagnostic) :
    settings.isError diagnostic =
      decide (diagnostic.severity = .error ∨ settings.warningsAsErrors = true) := by
  rw [isError, judge, Bool.eq_iff_iff]
  cases settings.warningsAsErrors <;> simp

theorem judge_of_isError {diagnostic : Diagnostic}
    (isError : settings.isError diagnostic = true) :
    settings.judge diagnostic = { diagnostic with severity := .error } := by
  simp only [Settings.isError, beq_iff_eq] at isError
  rw [← isError]
  rw [judge]
  split <;> rfl

theorem judge_of_not_isError {diagnostic : Diagnostic}
    (harmless : settings.isError diagnostic = false) :
    settings.judge diagnostic = diagnostic := by
  simp only [isError_eq, decide_eq_false_iff_not, not_or] at harmless
  rw [judge, if_neg harmless.2]

end Settings

namespace Compilation

/-- The compilation holds the given diagnostics and no code. -/
structure Tallies (settings : Settings) (render : Diagnostic → String)
    (diagnostics : List Diagnostic) (compilation : Compilation) : Prop where
  errors : compilation.errors =
    (diagnostics.filter settings.isError).map fun diagnostic =>
      render { diagnostic with severity := .error }
  warnings : compilation.warnings =
    (diagnostics.filter fun diagnostic => !settings.isError diagnostic).map render
  code : compilation.code = ""

variable {settings : Settings} {render : Diagnostic → String} {diagnostics : List Diagnostic}
  {compilation : Compilation}

theorem tallies_empty : empty.Tallies settings render [] := ⟨rfl, rfl, rfl⟩

theorem Tallies.report (tallies : compilation.Tallies settings render diagnostics)
    (more : List Diagnostic) :
    (compilation.report settings render more).Tallies settings render (diagnostics ++ more) where
  errors := by
    have judged : ((more.filter settings.isError).map fun diagnostic =>
        render (settings.judge diagnostic)) =
        (more.filter settings.isError).map fun diagnostic =>
          render { diagnostic with severity := .error } :=
      List.map_congr_left fun diagnostic membership => by
        rw [Settings.judge_of_isError (List.mem_filter.mp membership).2]
    simp [Compilation.report, tallies.errors, judged]
  warnings := by
    have judged : ((more.filter fun diagnostic => !settings.isError diagnostic).map
        fun diagnostic => render (settings.judge diagnostic)) =
        (more.filter fun diagnostic => !settings.isError diagnostic).map render :=
      List.map_congr_left fun diagnostic membership => by
        rw [Settings.judge_of_not_isError (by simpa using (List.mem_filter.mp membership).2)]
    simp [Compilation.report, tallies.warnings, judged]
  code := tallies.code

theorem Tallies.record (tallies : compilation.Tallies settings render diagnostics)
    (events : List Event) : (compilation.record events).Tallies settings render diagnostics :=
  ⟨tallies.errors, tallies.warnings, tallies.code⟩

theorem Tallies.isEmpty_errors (tallies : compilation.Tallies settings render diagnostics) :
    compilation.errors.isEmpty = !diagnostics.any settings.isError := by
  rw [tallies.errors, List.isEmpty_map, Bool.eq_iff_iff]
  simp

end Compilation

namespace Toolchain

variable {tools : Toolchain} {settings : Settings} {source : String}

/-- The compilation when the parser is done. -/
def read (tools : Toolchain) (settings : Settings) (source : String) : Compilation :=
  Compilation.empty.report settings (tools.render source)
    (tools.parse settings.typed source).diagnostics

/-- The compilation when the checker is done. -/
def checked (tools : Toolchain) (settings : Settings) (source : String) : Compilation :=
  (tools.read settings source).report settings (tools.render source)
    (tools.check settings.typed (tools.program settings source))

theorem tallies_read :
    (tools.read settings source).Tallies settings (tools.render source)
      (tools.parse settings.typed source).diagnostics :=
  Compilation.tallies_empty.report _

theorem tallies_checked :
    (tools.checked settings source).Tallies settings (tools.render source)
      ((tools.parse settings.typed source).diagnostics ++
        tools.check settings.typed (tools.program settings source)) :=
  tallies_read.report _

theorem compile_of_stops (stops : tools.Stops settings source) :
    tools.compile settings source = .error .parserStopped := by
  simp [compile, stops.1, stops.2]

section

variable (running : ¬tools.Stops settings source)

include running

theorem compile_eq :
    tools.compile settings source =
      .ok (if (tools.parse settings.typed source).diagnostics.any settings.isError then
          tools.read settings source
        else if (tools.check settings.typed (tools.program settings source)).any
            settings.isError then
          tools.checked settings source
        else
          tools.finish settings source (tools.program settings source)
            (tools.checked settings source)) := by
  have going : ¬((tools.parse settings.typed source).stopped &&
      (tools.parse settings.typed source).diagnostics.isEmpty) = true := by
    simpa [Stops] using running
  unfold compile
  dsimp only
  rw [if_neg going]
  change (if !(tools.read settings source).errors.isEmpty then
      Except.ok (tools.read settings source)
    else if !(tools.checked settings source).errors.isEmpty then
      .ok (tools.checked settings source)
    else .ok (tools.finish settings source (tools.program settings source)
      (tools.checked settings source))) = _
  rw [tallies_read.isEmpty_errors, tallies_checked.isEmpty_errors, List.any_append]
  cases (tools.parse settings.typed source).diagnostics.any settings.isError with
  | true => simp
  | false =>
      cases (tools.check settings.typed (tools.program settings source)).any settings.isError <;>
        simp

end

/-- A refusal is never a mere warning. -/
theorem any_isError_of_refused {options : Options} {program : Program}
    {diagnostics : List Diagnostic}
    (refused : (transform options program).outcome = .error diagnostics) :
    diagnostics.any settings.isError = true := by
  obtain ⟨nonempty, given⟩ := (outcome_eq_error_iff options program diagnostics).mp refused
  by_cases targeted : options.mode = .targeted
  · rw [Program.diagnostics_lowerBody_targeted targeted] at given
    obtain ⟨diagnostic, membership⟩ := List.exists_mem_of_ne_nil _ nonempty
    refine List.any_eq_true.mpr ⟨diagnostic, membership, ?_⟩
    rw [given] at membership
    obtain ⟨span, _, rfl⟩ := List.mem_map.mp membership
    simp [Settings.isError_eq, Diagnostic.namespacedTag]
  · rw [Program.diagnostics_lowerBody_of_ne targeted] at given
    exact absurd given nonempty

theorem Tallies.errors_eq {result : Compilation}
    (tallies : result.Tallies settings (tools.render source) (tools.reported settings source)) :
    result.errors = tools.errorReports settings source := by
  rw [tallies.errors, errorReports, funext Settings.isError_eq]

theorem Tallies.warnings_eq {result : Compilation}
    (tallies : result.Tallies settings (tools.render source) (tools.reported settings source)) :
    result.warnings = tools.warningReports settings source := by
  simp only [tallies.warnings, warningReports, Settings.isError_eq, decide_not]

/-- Phases that are not run do not matter. -/
theorem compile_congr {others : Toolchain}
    (render : others.render source = tools.render source)
    (parse : others.parse settings.typed source = tools.parse settings.typed source)
    (check : (tools.parse settings.typed source).diagnostics.any settings.isError = false →
      others.check settings.typed (tools.program settings source) =
        tools.check settings.typed (tools.program settings source))
    (finish : (tools.parse settings.typed source).diagnostics.any settings.isError = false →
      (tools.check settings.typed (tools.program settings source)).any settings.isError = false →
      others.finish settings source (tools.program settings source)
          (tools.checked settings source) =
        tools.finish settings source (tools.program settings source)
          (tools.checked settings source)) :
    others.compile settings source = tools.compile settings source := by
  have program : others.program settings source = tools.program settings source := by
    rw [Toolchain.program, Toolchain.program, parse]
  have read : others.read settings source = tools.read settings source := by
    rw [Toolchain.read, Toolchain.read, render, parse]
  have stopping : others.Stops settings source ↔ tools.Stops settings source := by
    rw [Stops, Stops, parse]
  by_cases stops : tools.Stops settings source
  · rw [compile_of_stops stops, compile_of_stops (stopping.mpr stops)]
  · rw [compile_eq stops, compile_eq (fun other => stops (stopping.mp other)), parse, program, read]
    cases clean : (tools.parse settings.typed source).diagnostics.any settings.isError with
    | true => rfl
    | false =>
        have checked : others.checked settings source = tools.checked settings source := by
          rw [Toolchain.checked, Toolchain.checked, read, render, program, check clean]
        rw [check clean, checked]
        cases passed : (tools.check settings.typed (tools.program settings source)).any
            settings.isError with
        | true => rfl
        | false => simp only [Bool.false_eq_true, if_false, finish clean passed]

theorem finish_of_refused {program : Program} {compilation : Compilation}
    {diagnostics : List Diagnostic}
    (refused : (transform settings.lowering program).outcome = .error diagnostics) :
    tools.finish settings source program compilation =
      (compilation.record (.loweringStarted settings.lowering ::
        (transform settings.lowering program).log)).report settings (tools.render source)
          diagnostics := by
  simp only [finish, refused]

theorem finish_of_accepted {program : Program} {compilation : Compilation} {lowered : Lowered}
    (accepted : (transform settings.lowering program).outcome = .ok lowered) :
    tools.finish settings source program compilation =
      { compilation with
        code := (tools.print settings lowered.program).code ++
          (tools.print settings lowered.program).mapLine settings
        warnings := compilation.warnings ++
          (tools.print settings lowered.program).notes settings
        log := compilation.log ++ (.loweringStarted settings.lowering ::
          (transform settings.lowering program).log ++ [.loweringFinished lowered.count]) } := by
  simp only [finish, accepted, Compilation.emit, Compilation.record, Printed.mapLine,
    Printed.notes]
  cases settings.sourceMap with
  | false => simp
  | true => cases (tools.print settings lowered.program).map <;> simp [String.append_assoc]

theorem accounts_of_faulty {result : Compilation}
    (tallies : result.Tallies settings (tools.render source) (tools.reported settings source))
    (faulty : (tools.reported settings source).any settings.isError = true)
    (halted : ∀ others : Toolchain,
      others.render source = tools.render source →
      others.parse settings.typed source = tools.parse settings.typed source →
      (1 < (settings.ran (tools.phases settings source)).length →
        others.check settings.typed (tools.program settings source) =
          tools.check settings.typed (tools.program settings source)) →
      others.compile settings source = .ok result)
    (logged : result.log = tools.records settings source) :
    tools.Accounts settings source result where
  errors := Tallies.errors_eq tallies
  withheld _ := ⟨tallies.code, Tallies.warnings_eq tallies⟩
  printed errorless := by
    have empty := tallies.isEmpty_errors
    rw [faulty, errorless] at empty
    cases empty
  halted others render parse check _ := halted others render parse check
  logged := logged

section

variable (running : ¬tools.Stops settings source)

include running

theorem accounts_of_unread
    (faulty : (tools.parse settings.typed source).diagnostics.any settings.isError = true) :
    tools.compile settings source = .ok (tools.read settings source) ∧
      tools.Accounts settings source (tools.read settings source) := by
  have compiled : tools.compile settings source = .ok (tools.read settings source) := by
    rw [compile_eq running, if_pos faulty]
  have ran : settings.ran (tools.phases settings source) =
      [(tools.parse settings.typed source).diagnostics] := Settings.ran_of_faulty _ faulty
  have reported : tools.reported settings source =
      (tools.parse settings.typed source).diagnostics := by
    simp [Toolchain.reported, ran]
  refine ⟨compiled, accounts_of_faulty ?_ ?_ ?_ ?_⟩
  · rw [reported]
    exact tallies_read
  · rw [reported]
    exact faulty
  · intro others render parse _
    rw [← compiled]
    apply compile_congr render parse <;>
      · intro clean
        rw [faulty] at clean
        cases clean
  · rw [records, ran]
    rfl

theorem accounts_of_unchecked
    (clean : (tools.parse settings.typed source).diagnostics.any settings.isError = false)
    (faulty : (tools.check settings.typed (tools.program settings source)).any
      settings.isError = true) :
    tools.compile settings source = .ok (tools.checked settings source) ∧
      tools.Accounts settings source (tools.checked settings source) := by
  have compiled : tools.compile settings source = .ok (tools.checked settings source) := by
    simp [compile_eq running, clean, faulty]
  have ran : settings.ran (tools.phases settings source) =
      [(tools.parse settings.typed source).diagnostics,
        tools.check settings.typed (tools.program settings source)] := by
    rw [phases, Settings.ran_of_clean _ clean, Settings.ran_of_faulty _ faulty]
  have reported : tools.reported settings source =
      (tools.parse settings.typed source).diagnostics ++
        tools.check settings.typed (tools.program settings source) := by
    simp [Toolchain.reported, ran]
  refine ⟨compiled, accounts_of_faulty ?_ ?_ ?_ ?_⟩
  · rw [reported]
    exact tallies_checked
  · simp [reported, List.any_append, faulty]
  · intro others render parse check
    rw [← compiled]
    refine compile_congr render parse (fun _ => check (by simp [ran])) ?_
    intro _ passed
    rw [faulty] at passed
    cases passed
  · rw [records, ran]
    rfl

variable (clean : (tools.parse settings.typed source).diagnostics.any settings.isError = false)
  (passed : (tools.check settings.typed (tools.program settings source)).any
    settings.isError = false)

include clean passed

theorem compile_of_passed :
    tools.compile settings source = .ok (tools.finish settings source
      (tools.program settings source) (tools.checked settings source)) := by
  simp [compile_eq running, clean, passed]

omit running in
theorem ran_of_passed :
    settings.ran (tools.phases settings source) = tools.phases settings source := by
  rw [phases, Settings.ran_of_clean _ clean, Settings.ran_of_clean _ passed,
    Settings.ran_singleton]

theorem accounts_of_refused {diagnostics : List Diagnostic}
    (refused : (transform settings.lowering (tools.program settings source)).outcome =
      .error diagnostics) :
    ∃ result, tools.compile settings source = .ok result ∧
      tools.Accounts settings source result := by
  have compiled := compile_of_passed running clean passed
  rw [finish_of_refused refused] at compiled
  have ran := ran_of_passed clean passed
  have reported : tools.reported settings source =
      (tools.parse settings.typed source).diagnostics ++
        tools.check settings.typed (tools.program settings source) ++ diagnostics := by
    rw [Toolchain.reported, ran]
    simp [phases, Transformation.diagnostics, refused]
  refine ⟨_, compiled, accounts_of_faulty ?_ ?_ ?_ ?_⟩
  · rw [reported]
    exact (tallies_checked.record _).report _
  · simp [reported, List.any_append, any_isError_of_refused refused]
  · intro others render parse check
    rw [← compiled]
    refine compile_congr render parse (fun _ => check ?_) ?_
    · rw [ran]
      simp [phases]
    · intro _ _
      rw [finish_of_refused refused, finish_of_refused refused, render]
  · rw [records, ran, refused]
    simp [phases, Compilation.report, Compilation.record, checked, read, Compilation.empty]

theorem accounts_of_accepted {lowered : Lowered}
    (accepted : (transform settings.lowering (tools.program settings source)).outcome =
      .ok lowered) :
    ∃ result, tools.compile settings source = .ok result ∧
      tools.Accounts settings source result := by
  have compiled := compile_of_passed running clean passed
  rw [finish_of_accepted accepted] at compiled
  have ran := ran_of_passed clean passed
  have tallies : (tools.checked settings source).Tallies settings (tools.render source)
      (tools.reported settings source) := by
    have reported : tools.reported settings source =
        (tools.parse settings.typed source).diagnostics ++
          tools.check settings.typed (tools.program settings source) := by
      rw [Toolchain.reported, ran]
      simp [phases, Transformation.diagnostics, accepted]
    rw [reported]
    exact tallies_checked
  have errorless : (tools.checked settings source).errors = [] := by
    rw [← List.isEmpty_iff, tallies_checked.isEmpty_errors, List.any_append, clean, passed]
    rfl
  have errors := Tallies.errors_eq tallies
  refine ⟨_, compiled, errors, ?_, ?_, ?_, ?_⟩
  · intro faulty
    exact absurd errorless faulty
  · intro _
    refine ⟨lowered, accepted, rfl, ?_⟩
    rw [← Tallies.warnings_eq tallies]
  · intro others render parse check print
    rw [← compiled]
    refine compile_congr render parse (fun _ => check ?_) ?_
    · rw [ran]
      simp [phases]
    · intro _ _
      rw [finish_of_accepted accepted, finish_of_accepted accepted, print errorless]
  · rw [records, ran, accepted]
    simp [phases, checked, read, Compilation.report, Compilation.empty]

end

/-- Unless the parser gives up without a word, a compilation comes to an end and accounts for
what was reported. -/
theorem accounts (running : ¬tools.Stops settings source) :
    ∃ result, tools.compile settings source = .ok result ∧
      tools.Accounts settings source result := by
  cases clean : (tools.parse settings.typed source).diagnostics.any settings.isError with
  | true => exact ⟨_, accounts_of_unread running clean⟩
  | false =>
      cases passed : (tools.check settings.typed (tools.program settings source)).any
          settings.isError with
      | true => exact ⟨_, accounts_of_unchecked running clean passed⟩
      | false =>
          cases outcome :
              (transform settings.lowering (tools.program settings source)).outcome with
          | error diagnostics => exact accounts_of_refused running clean passed outcome
          | ok lowered => exact accounts_of_accepted running clean passed outcome

end Toolchain

end JsxLowering
