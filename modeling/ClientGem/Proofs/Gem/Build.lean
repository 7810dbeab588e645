import ClientGem.Gem.Files
import ClientGem.Proofs.Output.Writes

/-!
A gem handed to a sink. Nothing is written before all names are known to be there; then the files
are written in their order, up to the first that is refused.
-/

namespace ClientGem.Gem

open Output

variable {σ ε : Type}

/-- How a build ends, and what the sink was asked to write until then. -/
structure FailStop (gem : Gem) (sink : Sink (StateM σ) ε) (start : σ) : Prop where
  /-- A sink is used in the same way whether or not a record is kept of what it is asked for. -/
  unobserved : ∀ record, gem.build sink start =
    ((gem.build (recorded sink) (record, start)).1, (gem.build (recorded sink) (record, start)).2.2)
  incomplete : ∀ missing, gem.render = .error missing →
    gem.build (recorded sink) ([], start) = (.error (.missing missing), [], start)
  /-- Without a refusal every file is written, and the paths are reported. -/
  complete : ∀ files, gem.render = .ok files → Takes sink start files →
    gem.build (recorded sink) ([], start) =
      (.ok (files.map File.path), files, stateAfter sink start files)
  /-- The file refused is the last that the sink is asked to write. -/
  stopped : ∀ earlier file later error, gem.render = .ok (earlier ++ file :: later) →
    Takes sink start earlier → answerAfter sink start earlier file = .error error →
    gem.build (recorded sink) ([], start) =
      (.error (.refused error), earlier ++ [file], stateAfter sink start (earlier ++ [file]))
  /-- There is no other end. -/
  decided : ∀ files, gem.render = .ok files → Takes sink start files ∨
    ∃ earlier file later error, files = earlier ++ file :: later ∧ Takes sink start earlier ∧
      answerAfter sink start earlier file = .error error

theorem build_of_error {gem : Gem} {missing : MissingName}
    (unrendered : gem.render = .error missing) (sink : Sink (StateM σ) ε) (start : σ) :
    gem.build sink start = (.error (.missing missing), start) := by
  rw [build, unrendered]
  rfl

theorem build_of_ok {gem : Gem} {files : List File} (rendered : gem.render = .ok files)
    (sink : Sink (StateM σ) ε) (start : σ) :
    gem.build sink start =
      ((writeFiles sink files start).1.mapError .refused, (writeFiles sink files start).2) := by
  rw [build, rendered]
  rfl

/-- A build succeeds for a gem with all its names, on a sink that takes all its files. -/
theorem exists_build_eq_ok {gem : Gem} {sink : Sink (StateM σ) ε} {start : σ} :
    (∃ paths, (gem.build sink start).1 = .ok paths) ↔
      gem.missingName? = none ∧ Takes sink start gem.files := by
  cases named : gem.missingName? with
  | some missing =>
    rw [build_of_error (render_of_missing named)]
    simp
  | none =>
    rw [build_of_ok (render_of_complete named)]
    constructor
    · rintro ⟨paths, built⟩
      rcases ended : writeFiles sink gem.files start with ⟨_ | written, last⟩
      · rw [ended] at built
        cases built
      · exact ⟨rfl, (takes_of_writeFiles ended).1⟩
    · rintro ⟨-, takes⟩
      rw [writeFiles_of_takes takes]
      exact ⟨_, rfl⟩

/-- The end of a build with a record gives the end of the build without one. -/
theorem build_eq_of_recorded {gem : Gem} (sink : Sink (StateM σ) ε) (record : List File)
    (start : σ) : gem.build sink start =
      ((gem.build (recorded sink) (record, start)).1,
        (gem.build (recorded sink) (record, start)).2.2) := by
  cases rendered : gem.render with
  | error missing => rw [build_of_error rendered, build_of_error rendered]
  | ok files =>
    rw [build_of_ok rendered, build_of_ok rendered]
    rcases takes_or_refuses sink start files with takes | ⟨earlier, file, later, error,
        rfl, takes, refused⟩
    · rw [writeFiles_of_takes takes, writeFiles_of_takes ((takes_recorded record).mpr takes),
        stateAfter_recorded]
    · rw [writeFiles_of_refuses later takes refused,
        writeFiles_of_refuses later ((takes_recorded record).mpr takes)
          ((answerAfter_recorded record earlier file).trans refused), stateAfter_recorded]

/-- Every build into every sink is a replay of the files, one by one, that ends with the first
refusal. -/
theorem build_failStop (gem : Gem) (sink : Sink (StateM σ) ε) (start : σ) :
    FailStop gem sink start where
  unobserved record := build_eq_of_recorded sink record start
  incomplete missing unrendered := build_of_error unrendered (recorded sink) ([], start)
  complete files rendered takes := by
    rw [build_of_ok rendered, writeFiles_of_takes ((takes_recorded []).mpr takes),
      stateAfter_recorded]
    rfl
  stopped earlier file later error rendered takes refused := by
    rw [build_of_ok rendered, writeFiles_of_refuses later ((takes_recorded []).mpr takes)
      ((answerAfter_recorded [] earlier file).trans refused), stateAfter_recorded]
    rfl
  decided files _ := takes_or_refuses sink start files

end ClientGem.Gem
