import InputDocs.Command.Run
import InputDocs.Proofs.Command.Arguments

/-!
# Proofs.Command.Run -- what a run does to files

A run is a sequence of steps in a world, and each step says what it leaves of the world. Reading and
working out leave the files and the record of effects as they were (`Untouched`), whether they
succeed or fail. So what has come to the one step that prints or writes has failed nowhere before,
and nothing comes after it (`Ends`).

This holds in any file system. In a lawful one it follows that a run that fails changes no file and
prints nothing, and that one that succeeds changes at most the document (`run_changes_document_only`).
A document that cannot be written is left out: what a failed write leaves behind is not known.
-/

namespace InputDocs.Command

set_option autoImplicit false

/-! ## Texts -/

/-- Bytes are a text if they are what the text is encoded to. -/
theorem decode_eq_ok_iff {bytes : ByteArray} {text : String} :
    decode bytes = .ok text ↔ bytes = text.toUTF8 := by
  unfold decode String.fromUTF8?
  by_cases valid : bytes.IsValidUTF8
  · rw [dif_pos valid]
    simp only [Except.ok.injEq, String.toUTF8_eq_toByteArray]
    exact String.toByteArray_inj.symm
  · rw [dif_neg valid]
    refine iff_of_false nofun ?_
    rintro rfl
    exact valid text.isValidUTF8

/-- A reworded step succeeds as the step does. -/
theorem mapError_eq_ok_iff {ε η α : Type} {reword : ε → η} {step : Except ε α} {found : α} :
    step.mapError reword = .ok found ↔ step = .ok found := by
  cases step with
  | error fault => exact iff_of_false nofun nofun
  | ok result =>
      change (Except.ok result : Except η α) = .ok found ↔ _
      rw [Except.ok.injEq, Except.ok.injEq]

/-- Bytes are found and decoded exactly if they are what the text is encoded to. -/
theorem bind_decode_eq_ok_iff {answer : Except FileFault ByteArray} {text : String} :
    answer.bind decode = .ok text ↔ answer = .ok text.toUTF8 := by
  cases answer with
  | error fault => exact iff_of_false nofun nofun
  | ok bytes => rw [Except.ok.injEq, ← decode_eq_ok_iff, Except.bind]

/-! ## Steps -/

/-- A step of a run in a world. -/
abbrev Step (S α : Type) : Type := ExceptT Failure (StateM (World S)) α

/-- What a step comes to, and the world it leaves. -/
def Step.exec {S α : Type} (step : Step S α) (before : World S) : Except Failure α × World S :=
  step.run.run before

/-- The files are what they were, and nothing was printed or written. -/
structure Untouched {S : Type} (before after : World S) : Prop where
  files : after.files = before.files
  effects : after.effects = before.effects

/-- A step that came to this has only read, and what it has found if it succeeded is so. -/
structure Reads {S α : Type} (before : World S) (finds : α → Prop)
    (ran : Except Failure α × World S) : Prop where
  untouched : Untouched before ran.2
  finds : ∀ found, ran.1 = .ok found → finds found

section Steps

variable {S α β : Type} {before : World S}

theorem Untouched.refl (world : World S) : Untouched world world := ⟨rfl, rfl⟩

theorem Untouched.trans {mid after : World S} (first : Untouched before mid)
    (second : Untouched mid after) : Untouched before after :=
  ⟨second.files.trans first.files, second.effects.trans first.effects⟩

/-- A step goes on where the one before it succeeds, and fails with it where it fails. -/
theorem exec_bind (step : Step S α) (next : α → Step S β) (before : World S) :
    Step.exec (step >>= next) before =
      match step.exec before with
      | (.ok found, mid) => (next found).exec mid
      | (.error failure, mid) => (.error failure, mid) := by
  simp only [Step.exec, ExceptT.run_bind, StateT.run_bind]
  cases (step.run.run before) with
  | mk result mid => cases result <;> rfl

/-- What holds of every failure in an untouched world, and of all that comes after the reading,
holds of both together. -/
theorem Reads.bind {step : Step S α} {next : α → Step S β} {finds : α → Prop}
    {E : Except Failure β × World S → Prop} (reads : Reads before finds (step.exec before))
    (fails : ∀ failure mid, Untouched before mid → E (.error failure, mid))
    (goesOn : ∀ found mid, Untouched before mid → finds found → E ((next found).exec mid)) :
    E (Step.exec (step >>= next) before) := by
  obtain ⟨untouched, finds⟩ := reads
  rw [exec_bind]
  cases ran : step.exec before with
  | mk result mid =>
      rw [ran] at untouched finds
      cases result with
      | error failure => exact fails failure mid untouched
      | ok found => exact goesOn found mid untouched (finds found rfl)

theorem reads_orFail {ε : Type} (result : Except ε α) (reason : ε → Failure)
    (before : World S) : Reads before (result = .ok ·) (Step.exec (orFail result reason) before) :=
  ⟨.refl before, fun _ => mapError_eq_ok_iff.1⟩

end Steps

/-! ## Runs -/

section Runs

variable {S : Type} [FileSystem S] (before : World S)

/-- The variables are those of the text in the file, or of standard input if there is none. -/
def Given (file : Option String) (inputs : List Variable) : Prop :=
  ∃ text : String,
    (match file with
      | some path => FileSystem.read before.files path = .ok text.toUTF8
      | none => before.input = text.toUTF8) ∧
    Variable.listOfText text = .ok inputs

theorem reads_readText (path : String) :
    Reads before (fun text => FileSystem.read before.files path = .ok text.toUTF8)
      (Step.exec (readText path) before) :=
  ⟨.refl before, fun _ done => bind_decode_eq_ok_iff.1 (mapError_eq_ok_iff.1 done)⟩

theorem reads_readInputText :
    Reads before (fun text => before.input = text.toUTF8) (Step.exec readInputText before) :=
  ⟨⟨rfl, rfl⟩, fun _ done => decode_eq_ok_iff.1 (mapError_eq_ok_iff.1 done)⟩

theorem reads_readVariables (file : Option String) :
    Reads before (Given before file) (Step.exec (readVariables file) before) := by
  have fails {failure : Failure} {mid : World S} (untouched : Untouched before mid) :
      Reads before (Given before file) (.error failure, mid) := ⟨untouched, nofun⟩
  cases file with
  | some path =>
      refine (reads_readText before path).bind (fun _ _ => fails) fun text mid untouched reads => ?_
      exact ⟨untouched, fun inputs said => ⟨text, reads, mapError_eq_ok_iff.1 said⟩⟩
  | none =>
      refine (reads_readInputText before).bind (fun _ _ => fails) fun text mid untouched holds => ?_
      exact ⟨untouched, fun inputs said => ⟨text, holds, mapError_eq_ok_iff.1 said⟩⟩

/-- What a run with arguments that make sense can come to: it fails and leaves everything as it
was, it prints, or it writes the document with the rendering between its markers. It fails after
that only if the document cannot be written. -/
inductive Ends [PatternEngine] (arguments : Arguments) : Except Failure Unit × World S → Prop
  | failed {failure : Failure} {after : World S} (untouched : Untouched before after) :
      Ends arguments (.error failure, after)
  | printed {text : String} {after : World S} (undirected : arguments.readme = none)
      (files : after.files = before.files)
      (effects : after.effects = before.effects ++ [.print text]) : Ends arguments (.ok (), after)
  | written {path : String} {inputs : List Variable} {format : Render.Format} {old new : String}
      {after : World S} (document : arguments.readme = some path)
      (given : Given before arguments.file inputs)
      (named : Render.Format.ofName (arguments.format.getD "markdown") = .ok format)
      (reads : FileSystem.read before.files path = .ok old.toUTF8)
      (spliced : splice old arguments.markers.1 arguments.markers.2
        (format.render (.ofVariables arguments.options inputs)) = .ok new)
      (writes : FileSystem.write before.files path new.toUTF8 = (after.files, .ok ()))
      (effects : after.effects = before.effects ++ [.write path new]) :
      Ends arguments (.ok (), after)
  | unwritable {path text : String} {fault : FileFault} {after : World S}
      (document : arguments.readme = some path)
      (writes : FileSystem.write before.files path text.toUTF8 = (after.files, .error fault))
      (effects : after.effects = before.effects ++ [.write path text]) :
      Ends arguments (.error (.unwritable path fault), after)

theorem exec_writeText (path text : String) :
    Step.exec (writeText path text) before =
      let wrote := FileSystem.write before.files path text.toUTF8
      (wrote.2.mapError (.unwritable path),
        ⟨wrote.1, before.input, before.effects ++ [.write path text]⟩) :=
  rfl

variable [PatternEngine] {arguments : Arguments}

theorem ends_print {mid : World S} (untouched : Untouched before mid)
    (undirected : arguments.readme = none) (text : String) :
    Ends before arguments
      (Step.exec (liftM (System.print text : StateM (World S) Unit)) mid) :=
  .printed undirected untouched.files (congrArg (· ++ [Effect.print text]) untouched.effects)

theorem ends_runExpr (undirected : arguments.readme = none) (expr : String) :
    Ends before arguments (Step.exec (runExpr arguments expr) before) :=
  (reads_orFail _ _ before).bind (fun _ _ => .failed)
    fun _ _ untouched _ => ends_print before untouched undirected _

/-- The document is written last, when nothing can fail any more but this. -/
theorem ends_updateDocument {mid : World S} {path : String} {inputs : List Variable}
    {format : Render.Format} (untouched : Untouched before mid)
    (document : arguments.readme = some path) (given : Given before arguments.file inputs)
    (named : Render.Format.ofName (arguments.format.getD "markdown") = .ok format) :
    Ends before arguments (Step.exec (updateDocument path
      (format.render (.ofVariables arguments.options inputs)) arguments.markers) mid) := by
  refine (reads_readText mid path).bind (fun _ _ more => .failed (untouched.trans more)) ?_
  intro old next read reads
  refine (reads_orFail _ _ next).bind
    (fun _ _ still => .failed (untouched.trans (read.trans still))) ?_
  intro new last still spliced
  rw [untouched.files] at reads
  have untouched := untouched.trans (read.trans still)
  cases wrote : FileSystem.write last.files path new.toUTF8 with
  | mk files answer =>
      rw [exec_writeText, wrote]
      rw [untouched.files] at wrote
      have effects := congrArg (· ++ [Effect.write path new]) untouched.effects
      cases answer with
      | error fault => exact .unwritable document wrote effects
      | ok => exact .written document given named reads spliced wrote effects

theorem ends_runFiles : Ends before arguments (Step.exec (runFiles arguments) before) := by
  refine (reads_readVariables before _).bind (fun _ _ => .failed) fun inputs mid read given => ?_
  refine (reads_orFail _ _ mid).bind (fun _ _ more => .failed (read.trans more)) ?_
  intro format next still named
  cases document : arguments.readme with
  | none => exact ends_print before (read.trans still) document _
  | some path => exact ends_updateDocument before (read.trans still) document given named

theorem ends_runArguments {words : List String}
    (parsed : Arguments.parse words = .ok (.done arguments)) :
    Ends before arguments (Step.exec (runArguments arguments) before) := by
  unfold runArguments
  cases asked : arguments.expr with
  | some expr =>
      exact ends_runExpr before (Arguments.readme_eq_none_of_parse parsed asked) expr
  | none => exact ends_runFiles before

/-- What a command line can come to. One that cannot be read, or that asks for help, does nothing;
any other does what its arguments say. -/
inductive Performs [PatternEngine] (words : List String) : Ending × World S → Prop
  | usage {error : UsageError} (unread : Arguments.parse words = .error error) :
      Performs words (.usage error, before)
  | help (asked : Arguments.parse words = .ok .help) : Performs words (.help, before)
  | failed {arguments : Arguments} {failure : Failure} {after : World S}
      (parsed : Arguments.parse words = .ok (.done arguments))
      (ends : Ends before arguments (.error failure, after)) :
      Performs words (.failed failure, after)
  | done {arguments : Arguments} {after : World S}
      (parsed : Arguments.parse words = .ok (.done arguments))
      (ends : Ends before arguments (.ok (), after)) : Performs words (.done, after)

theorem performs_perform (words : List String) :
    Performs before words (StateT.run (perform words : StateM (World S) Ending) before) := by
  unfold perform
  cases parsed : Arguments.parse words with
  | error error => exact .usage parsed
  | ok reading =>
      cases reading with
      | help => exact .help parsed
      | done arguments =>
          have ends := ends_runArguments before parsed
          simp only [StateT.run_bind]
          unfold Step.exec at ends
          cases ran : (runArguments arguments : Step S Unit).run.run before with
          | mk result after =>
              rw [ran] at ends
              cases result with
              | error failure => exact .failed parsed ends
              | ok => exact .done parsed ends

end Runs

/-- **A run on record does one thing at most, and nothing if it fails.** -/
theorem effects_run [PatternEngine] (read : String → Except FileFault ByteArray)
    (input : ByteArray) (words : List String) :
    (run read input words).effects.length ≤ 1 ∧
      ((run read input words).exitCode ≠ 0 → (run read input words).effects = []) := by
  let before : World Readings := ⟨⟨read⟩, input, []⟩
  have record : run read input words =
      let ran := StateT.run (perform words : StateM (World Readings) Ending) before
      ⟨ran.2.effects, ran.1⟩ := rfl
  rw [record]
  have performs := performs_perform before words
  generalize StateT.run (perform words : StateM (World Readings) Ending) before = ran at performs
  cases performs with
  | usage | help => exact ⟨Nat.zero_le 1, fun _ => rfl⟩
  | failed _ ends =>
      cases ends with
      | failed untouched =>
          have nothing := untouched.effects
          exact ⟨by simp [nothing, before], fun _ => nothing⟩
      | unwritable _ writes _ => exact absurd (congrArg Prod.snd writes) nofun
  | done _ ends =>
      cases ends with
      | printed _ _ effects | written _ _ _ _ _ _ effects =>
          exact ⟨by simp [effects, before], fun fails => absurd rfl fails⟩

/-! ## Files -/

section Files

variable {S : Type} [LawfulFileSystem S]

open LawfulFileSystem (File locate bytes)

/-- The path leads to the file before and after, the file had one text and has the other, and no
other file has changed. -/
structure Rewritten (before after : S) (path old new : String) (file : File S) : Prop where
  located : locate before path = some file ∧ locate after path = some file
  old : bytes before file = some old.toUTF8
  new : bytes after file = some new.toUTF8
  others : ∀ other, other ≠ file → bytes after other = bytes before other

/-- **Writing where a text was read rewrites one file.** -/
theorem exists_rewritten {before after : S} {path old new : String}
    (reads : FileSystem.read before path = .ok old.toUTF8)
    (writes : FileSystem.write before path new.toUTF8 = (after, .ok ())) :
    ∃ file, Rewritten before after path old new file := by
  obtain ⟨file, located, held⟩ := LawfulFileSystem.bytes_of_read reads
  obtain ⟨written, others⟩ := LawfulFileSystem.bytes_of_write located writes
  exact ⟨file, ⟨located, LawfulFileSystem.locate_of_write located writes⟩, held, written, others⟩

/-- **A run changes at most the document.** If it fails, other than by a document that cannot be
written, no file is changed and nothing is printed or written. If it succeeds, then either a word
asked for help, or the command line makes sense and what is changed is the document that it names,
if it names one: its text has the rendering of the variables between the markers, and nothing is
printed. -/
theorem run_changes_document_only [PatternEngine] (words : List String) (before : World S)
    {ending : Ending} {after : World S}
    (ran : StateT.run (perform words : StateM (World S) Ending) before = (ending, after))
    (writable : ∀ path fault, ending ≠ .failed (.unwritable path fault)) :
    (ending.exitCode ≠ 0 → after.files = before.files ∧ after.effects = before.effects) ∧
      (ending.exitCode = 0 →
        (∃ word ∈ words, Arguments.AsksForHelp word) ∧ after = before ∨
          ∃ arguments, Arguments.parse words = .ok (.done arguments) ∧
            match arguments.readme with
            | none => after.files = before.files
            | some path => ∃ inputs format old new,
                Given before arguments.file inputs ∧
                Render.Format.ofName (arguments.format.getD "markdown") = .ok format ∧
                splice old arguments.markers.1 arguments.markers.2
                  (format.render (.ofVariables arguments.options inputs)) = .ok new ∧
                after.effects = before.effects ++ [.write path new] ∧
                ∃ file, Rewritten before.files after.files path old new file) := by
  have performs := performs_perform before words
  rw [ran] at performs
  cases performs with
  | usage => exact ⟨fun _ => ⟨rfl, rfl⟩, nofun⟩
  | help asked =>
      exact ⟨fun fails => absurd rfl fails, fun _ => .inl ⟨Arguments.exists_of_parse_help asked, rfl⟩⟩
  | failed _ ends =>
      refine ⟨fun _ => ?_, nofun⟩
      cases ends with
      | failed untouched => exact ⟨untouched.files, untouched.effects⟩
      | unwritable => exact absurd rfl (writable _ _)
  | done parsed ends =>
      refine ⟨fun fails => absurd rfl fails, fun _ => .inr ⟨_, parsed, ?_⟩⟩
      cases ends with
      | printed undirected files _ =>
          rw [undirected]
          exact files
      | written document given named reads spliced writes effects =>
          rw [document]
          exact ⟨_, _, _, _, given, named, spliced, effects, exists_rewritten reads writes⟩

end Files

/-- A document that is named from the root, and variables in a file that is named from the start. -/
theorem run_changes_document_only_rooted :
    let _ : PatternEngine := .lenient
    let document := Splice.defaultStart ++ "\n" ++ Splice.defaultEnd
    let files : Directory :=
      ⟨.ofList [("/srv/README.md", document.toUTF8), ("inputs.json", "[]".toUTF8)]⟩
    let words := ["-r", "/srv/./README.md", "inputs.json"]
    ∃ after old new file,
      StateT.run (perform words : StateM (World Directory) Ending) ⟨files, ByteArray.empty, []⟩ =
        (.done, after) ∧
      after.effects = [.write "/srv/./README.md" new] ∧
      Rewritten files after.files "/srv/./README.md" old new file := by
  intro _ document files words
  let before : World Directory := ⟨files, ByteArray.empty, []⟩
  cases ran : StateT.run (perform words : StateM (World Directory) Ending) before with
  | mk ending after =>
      have done : ending = .done := by
        have ends : (StateT.run (perform words : StateM (World Directory) Ending) before).1 =
            .done := by
          decide +kernel
        rwa [ran] at ends
      subst done
      have read : Arguments.parse words =
          .ok (.done { file := some "inputs.json", readme := some "/srv/./README.md" }) := by
        with_unfolding_all rfl
      have silent : ∀ word ∈ words, ¬ Arguments.AsksForHelp word := by
        unfold Arguments.AsksForHelp
        decide
      rcases (run_changes_document_only words before ran nofun).2 rfl with
        ⟨⟨word, member, asks⟩, _⟩ | ⟨arguments, parsed, changed⟩
      · exact absurd asks (silent word member)
      · obtain rfl := Arguments.Reading.done.inj (Except.ok.inj (read.symm.trans parsed))
        obtain ⟨_, _, old, new, _, _, _, effects, file, rewritten⟩ := changed
        exact ⟨after, old, new, file, rfl, effects, rewritten⟩

end InputDocs.Command
