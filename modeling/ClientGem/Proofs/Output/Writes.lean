import ClientGem.Output.Sink
import ClientGem.Proofs.Action

/-!
What a sink is asked to write, and where the writing ends. A sink is any machine that answers to a
path and a content and changes its state; nothing is known of what it does.
-/

namespace ClientGem.Output

variable {σ ε : Type}

def recorded (sink : Sink (StateM σ) ε) : Sink (StateM (List File × σ)) ε :=
  fun path content (record, state) =>
    let (answer, state) := sink path content state
    (answer, record ++ [⟨path, content⟩], state)

/-- The state of a sink that has been asked to write files, whatever it answered. -/
def stateAfter (sink : Sink (StateM σ) ε) (start : σ) (files : List File) : σ :=
  files.foldl (fun state file => (sink file.path file.content state).2) start

def answerAfter (sink : Sink (StateM σ) ε) (start : σ) (earlier : List File) (file : File) :
    Except ε Unit :=
  (sink file.path file.content (stateAfter sink start earlier)).1

/-- The sink refuses none of the files, each of which it is asked to write after those before it. -/
def Takes (sink : Sink (StateM σ) ε) (start : σ) (files : List File) : Prop :=
  ∀ earlier file later, files = earlier ++ file :: later →
    answerAfter sink start earlier file = .ok ()

variable {sink : Sink (StateM σ) ε} {start : σ}

theorem stateAfter_append (earlier later : List File) :
    stateAfter sink start (earlier ++ later) =
      stateAfter sink (stateAfter sink start earlier) later :=
  List.foldl_append ..

theorem takes_nil : Takes sink start [] := by
  intro earlier file later split
  simp at split

theorem takes_cons {file : File} {rest : List File} :
    Takes sink start (file :: rest) ↔
      answerAfter sink start [] file = .ok () ∧ Takes sink (stateAfter sink start [file]) rest := by
  constructor
  · intro takes
    refine ⟨takes [] file rest rfl, ?_⟩
    intro earlier other later split
    exact takes (file :: earlier) other later (congrArg (file :: ·) split)
  · rintro ⟨taken, takes⟩ earlier other later split
    cases earlier with
    | nil =>
      obtain ⟨rfl, rfl⟩ := List.cons.inj split
      exact taken
    | cons first earlier =>
      obtain ⟨rfl, behind⟩ := List.cons.inj split
      exact takes earlier other later behind

theorem takes_concat {files : List File} {file : File}
    (takes : Takes sink start (files ++ [file])) :
    Takes sink start files ∧ answerAfter sink start files file = .ok () := by
  refine ⟨?_, takes files file [] rfl⟩
  intro earlier other later split
  exact takes earlier other (later ++ [file]) (by rw [split]; simp)

/-- Files are all taken, or there is a first one that is refused. -/
theorem takes_or_refuses (sink : Sink (StateM σ) ε) (start : σ) (files : List File) :
    Takes sink start files ∨ ∃ earlier file later error, files = earlier ++ file :: later ∧
      Takes sink start earlier ∧ answerAfter sink start earlier file = .error error := by
  induction files generalizing start with
  | nil => exact .inl takes_nil
  | cons file rest ih =>
    cases answer : answerAfter sink start [] file with
    | error error => exact .inr ⟨[], file, rest, error, rfl, takes_nil, answer⟩
    | ok _ =>
      rcases ih (stateAfter sink start [file]) with takes | ⟨earlier, other, later, error, split,
          takes, refused⟩
      · exact .inl (takes_cons.mpr ⟨answer, takes⟩)
      · exact .inr ⟨file :: earlier, other, later, error, by rw [split, List.cons_append],
          takes_cons.mpr ⟨answer, takes⟩, refused⟩

theorem writeFiles_cons (file : File) (rest : List File) (start : σ) :
    writeFiles sink (file :: rest) start =
      match sink file.path file.content start with
      | (.ok (), next) =>
        match writeFiles sink rest next with
        | (.ok paths, last) => (.ok (file.path :: paths), last)
        | (.error error, last) => (.error error, last)
      | (.error error, next) => (.error error, next) := by
  rw [writeFiles]
  rcases taken : sink file.path file.content start with ⟨_ | _, next⟩
  · rw [bind_of_error taken]
  · rw [bind_of_ok taken]
    dsimp only
    rw [bind_pure_apply]
    rcases writeFiles sink rest next with ⟨_ | _, last⟩
    · rfl
    · rfl

theorem writeFiles_of_takes {files : List File} (takes : Takes sink start files) :
    writeFiles sink files start = (.ok (files.map File.path), stateAfter sink start files) := by
  induction files generalizing start with
  | nil => rfl
  | cons file rest ih =>
    obtain ⟨taken, takes⟩ := takes_cons.mp takes
    have first : sink file.path file.content start = (.ok (), stateAfter sink start [file]) :=
      Prod.ext taken rfl
    rw [writeFiles_cons, first]
    simp only [ih takes]
    rfl

theorem writeFiles_of_refuses {earlier : List File} {file : File} (later : List File) {error : ε}
    (takes : Takes sink start earlier)
    (refused : answerAfter sink start earlier file = .error error) :
    writeFiles sink (earlier ++ file :: later) start =
      (.error error, stateAfter sink start (earlier ++ [file])) := by
  induction earlier generalizing start with
  | nil =>
    have first : sink file.path file.content start = (.error error, stateAfter sink start [file]) :=
      Prod.ext refused rfl
    rw [List.nil_append, writeFiles_cons, first]
    rfl
  | cons other earlier ih =>
    obtain ⟨taken, takes⟩ := takes_cons.mp takes
    have first : sink other.path other.content start = (.ok (), stateAfter sink start [other]) :=
      Prod.ext taken rfl
    rw [List.cons_append, writeFiles_cons, first]
    simp only [ih takes refused]
    rfl

/-- Files that have all been written are files that were taken. -/
theorem takes_of_writeFiles {files : List File} {before after : σ} {paths : List FilePath}
    (written : writeFiles sink files before = (.ok paths, after)) :
    Takes sink before files ∧ paths = files.map File.path ∧
      after = stateAfter sink before files := by
  rcases takes_or_refuses sink before files with takes | ⟨earlier, file, later, error, rfl, takes,
      refused⟩
  · rw [writeFiles_of_takes takes] at written
    cases written
    exact ⟨takes, rfl, rfl⟩
  · rw [writeFiles_of_refuses later takes refused] at written
    cases written

theorem stateAfter_recorded (record : List File) (start : σ) (files : List File) :
    stateAfter (recorded sink) (record, start) files =
      (record ++ files, stateAfter sink start files) := by
  induction files generalizing record start with
  | nil => simp [stateAfter]
  | cons file rest ih =>
    have first : stateAfter (recorded sink) (record, start) [file] =
        (record ++ [file], stateAfter sink start [file]) := rfl
    have whole : stateAfter sink start (file :: rest) =
        stateAfter sink (stateAfter sink start [file]) rest := stateAfter_append [file] rest
    rw [← List.singleton_append, stateAfter_append, first, ih, List.append_assoc,
      List.singleton_append, whole]

theorem answerAfter_recorded (record : List File) (earlier : List File) (file : File) :
    answerAfter (recorded sink) (record, start) earlier file =
      answerAfter sink start earlier file := by
  unfold answerAfter
  rw [stateAfter_recorded]
  rfl

theorem takes_recorded (record : List File) {files : List File} :
    Takes (recorded sink) (record, start) files ↔ Takes sink start files := by
  simp only [Takes, answerAfter_recorded]

end ClientGem.Output
