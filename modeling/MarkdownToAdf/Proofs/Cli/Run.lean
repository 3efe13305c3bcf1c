import MarkdownToAdf.Cli.Run
import MarkdownToAdf.Proofs.Config.Loading
import MarkdownToAdf.Proofs.Files.Directory
import MarkdownToAdf.Proofs.Format.Acceptance

set_option autoImplicit false

/-!
# Conversion runs

A run converts only if nothing stands in the way of any of its steps: its configuration, format,
input, parameters and output. Then the whole text goes to one place. Otherwise nothing goes
anywhere.
-/
namespace MarkdownToAdf.Cli
open Files Format Text

section
variable (c : CommandLine) {here : Place}

/-- The format of a run: the one that is asked for, else the one that the name of the output file
stands for, else the configured one. -/
inductive Chosen (settings : Config.Settings) : String → Prop
  | asked {name : String} (h : c.format = some name) : Chosen settings name
  | detected {path name : String} (hasked : c.format = none) (houtput : c.output = some path)
    (h : Registry.builtIn.detect? path = some name) : Chosen settings name
  | configured (hasked : c.format = none)
    (h : ∀ path, c.output = some path → Registry.builtIn.detect? path = none) :
    Chosen settings settings.format

/-- The bytes that a run converts are those of the standard input, if no file or a dash is given,
else those of the file. -/
inductive Input (stdin : List UInt8) (d : Directory here) : List UInt8 → Prop
  | standard (h : c.input = none ∨ c.input = some "-") : Input stdin d stdin
  | file {path : String} {place : Place} {bytes : List UInt8} (h : c.input = some path)
    (hdash : path ≠ "-") (hholds : d.Holds path place bytes) : Input stdin d bytes

/-- Nothing stands in the way of a run with these settings, format and text. -/
structure Ready (extras : Parameters) (stdin : List UInt8) (d : Directory here) (visits : Visits)
    (settings : Config.Settings) (format text : String) : Prop where
  configured : (loader c visits).load d = .ok settings
  chosen : Chosen c settings format
  known : format ∈ Registry.builtIn.names
  input : Input c stdin d (bytesOf text.toList)
  accepted : Registry.builtIn.Accepts format
    (formatOptions format settings.pretty c.compact extras)
  writable : ∀ path, c.output = some path → ∃ place, d.Writable path place

end

inductive EndsLine (written : String) : String → Prop
  | ended (h : written.toList.getLast? = some '\n') : EndsLine written written
  | extended (h : written.toList.getLast? ≠ some '\n') : EndsLine written (written ++ "\n")

/-- A text is in one place, which is either the standard output or the output file. -/
inductive Delivered {here : Place} (text : String) (d : Directory here) :
    Option String → Outcome here → Prop
  | shown {outcome : Outcome here} (hstdout : outcome.stdout = text) (hkept : outcome.directory = d) :
    Delivered text d none outcome
  | stored {outcome : Outcome here} {path : String} {place : Place} (hplace : d.Writable path place)
    (hstdout : outcome.stdout = "")
    (hstored : d.Stored place (bytesOf text.toList) outcome.directory) :
    Delivered text d (some path) outcome

theorem chosen_iff (c : CommandLine) (settings : Config.Settings) (name : String) :
    Chosen c settings name ↔
      resolveFormat .builtIn c.format c.output settings.format = name := by
  unfold resolveFormat
  constructor
  · intro h
    cases h with
    | asked h => rw [h, Option.getD_some]
    | detected hasked houtput h =>
      rw [hasked, houtput, Option.getD_none, Option.bind_some, h, Option.getD_some]
    | configured hasked h =>
      rw [hasked, Option.getD_none, Option.bind_eq_none_iff.2 h, Option.getD_none]
  · rintro rfl
    cases hasked : c.format with
    | some name => exact .asked hasked
    | none =>
      cases hdetect : c.output.bind Registry.builtIn.detect? with
      | none => exact .configured hasked (Option.bind_eq_none_iff.1 hdetect)
      | some name =>
        obtain ⟨path, houtput, hname⟩ := Option.bind_eq_some_iff.1 hdetect
        exact .detected hasked houtput hname

theorem failing_eq_ok_iff {ε α : Type} (cause : ε → Failure) (x : Except ε α) (a : α) :
    failing cause x = .ok a ↔ x = .ok a := by
  cases x with
  | error e => exact ⟨nofun, nofun⟩
  | ok b => rw [failing, Except.ok.injEq, Except.ok.injEq]

theorem endsLine_iff (written text : String) : EndsLine written text ↔ endLine written = text := by
  unfold endLine
  constructor
  · intro h
    cases h with
    | ended h => exact if_pos h
    | extended h => exact if_neg h
  · rintro rfl
    split
    · exact .ended ‹_›
    · exact .extended ‹_›

section
variable {c : CommandLine} {extras : Parameters} {stdin : List UInt8} {here : Place}
variable {d : Directory here} {visits : Visits} {settings : Config.Settings}

theorem inputFile?_eq_none_iff {input : Option String} :
    inputFile? input = none ↔ input = none ∨ input = some "-" := by
  cases input with
  | none => simp [inputFile?]
  | some path => simp [inputFile?]

theorem inputFile?_eq_some_iff {input : Option String} {path : String} :
    inputFile? input = some path ↔ input = some path ∧ path ≠ "-" := by
  cases input with
  | none => simp [inputFile?]
  | some given => grind [inputFile?]

theorem input_of_standard (h : inputFile? c.input = none) (bytes : List UInt8) :
    Input c stdin d bytes ↔ bytes = stdin := by
  have hinput : c.input = none ∨ c.input = some "-" := inputFile?_eq_none_iff.1 h
  constructor
  · intro hbytes
    cases hbytes with
    | standard => rfl
    | file hpath hdash _ =>
      rw [hpath, Option.some_inj] at hinput
      exact absurd hinput (by simp [hdash])
  · rintro rfl
    exact .standard hinput

theorem input_of_file {path : String} (h : inputFile? c.input = some path) (bytes : List UInt8) :
    Input c stdin d bytes ↔ ∃ place, d.Holds path place bytes := by
  obtain ⟨hpath, hdash⟩ := inputFile?_eq_some_iff.1 h
  constructor
  · intro hbytes
    cases hbytes with
    | standard hnone =>
      rw [inputFile?_eq_none_iff.2 hnone] at h
      cases h
    | file hgiven _ hholds =>
      rw [hpath] at hgiven
      cases hgiven
      exact ⟨_, hholds⟩
  · rintro ⟨place, hholds⟩
    exact .file hpath hdash hholds

theorem readInput_eq_ok_iff (text : String) :
    readInput d stdin c.input = .ok text ↔ Input c stdin d (bytesOf text.toList) := by
  unfold readInput
  cases hfile : inputFile? c.input with
  | some path => rw [input_of_file hfile, ← Directory.readText_eq_ok_iff]
  | none =>
    rw [input_of_standard hfile, ← decodeText?_eq_some_iff]
    cases decodeText? stdin with
    | none => exact ⟨nofun, nofun⟩
    | some found => simp

theorem convert_eq_ok_iff (whole : String) :
    convert settings c extras stdin d = .ok whole ↔
      ∃ format text written, Chosen c settings format ∧ format ∈ Registry.builtIn.names ∧
        Input c stdin d (bytesOf text.toList) ∧
        Registry.builtIn.writeWith format (formatOptions format settings.pretty c.compact extras)
          (Source.document (Source.ofMarkdown settings.extensions text)) = .ok written ∧
        EndsLine written whole := by
  constructor
  · intro h
    unfold convert at h
    dsimp only at h
    split at h
    · cases h
    · rename_i hhas
      rw [Bool.not_eq_true', Bool.not_eq_false, Registry.has_iff] at hhas
      obtain ⟨text, hread, h⟩ := (bind_eq_ok_iff _ _ _).1 h
      obtain ⟨written, hwritten, h⟩ := (bind_eq_ok_iff _ _ _).1 h
      rw [failing_eq_ok_iff] at hread hwritten
      have hends : endLine written = whole := Except.ok.inj h
      exact ⟨_, text, written, (chosen_iff _ _ _).2 rfl, hhas, (readInput_eq_ok_iff _).1 hread,
        hwritten, (endsLine_iff _ _).2 hends⟩
  · rintro ⟨format, text, written, hchosen, hknown, hinput, hwritten, hends⟩
    obtain rfl := (chosen_iff _ _ _).1 hchosen
    have hhas := (Registry.has_iff _ _).2 hknown
    have hread := (failing_eq_ok_iff (.reading (inputLabel c.input)) _ _).2
      ((readInput_eq_ok_iff _).2 hinput)
    have hwritten := (failing_eq_ok_iff .writing _ _).2 hwritten
    unfold convert
    dsimp only
    rw [hhas, Bool.not_true, if_neg Bool.false_ne_true]
    refine (bind_eq_ok_iff _ _ _).2 ⟨text, hread, (bind_eq_ok_iff _ _ _).2 ⟨written, hwritten, ?_⟩⟩
    exact congrArg Except.ok ((endsLine_iff _ _).1 hends)

theorem deliver_of_writable (text : String) {output : Option String}
    (h : ∀ path, output = some path → ∃ place, d.Writable path place) :
    ∃ outcome, deliver text output d = .ok outcome := by
  cases output with
  | none => exact ⟨_, rfl⟩
  | some path =>
    obtain ⟨place, hplace⟩ := h path rfl
    have hwrite := Directory.write_of_writable hplace (bytesOf text.toList)
    have hfailing := (failing_eq_ok_iff (.storing path) _ _).2 hwrite
    exact ⟨_, (map_eq_ok_iff _ _ _).2 ⟨_, hfailing, rfl⟩⟩

theorem delivered_of_deliver {text : String} {output : Option String} {outcome : Outcome here}
    (h : deliver text output d = .ok outcome) :
    outcome.code = 0 ∧ Delivered text d output outcome := by
  cases output with
  | none =>
    cases h
    exact ⟨rfl, .shown rfl rfl⟩
  | some path =>
    obtain ⟨after, hfailing, rfl⟩ := (map_eq_ok_iff _ _ _).1 h
    have hwrite := (failing_eq_ok_iff _ _ _).1 hfailing
    obtain ⟨place, hplace, rfl⟩ := (Directory.write_eq_ok_iff _ _).1 hwrite
    exact ⟨rfl, .stored hplace rfl (Directory.stored_put _ _ _)⟩

theorem Delivered.writable {text : String} {output : Option String} {outcome : Outcome here}
    (h : Delivered text d output outcome) :
    ∀ path, output = some path → ∃ place, d.Writable path place := by
  intro path hpath
  cases h with
  | shown => cases hpath
  | stored hplace =>
    cases hpath
    exact ⟨_, hplace⟩

theorem runCommand_eq_ok_iff (hlist : c.listFormats = false) (outcome : Outcome here) :
    runCommand c extras stdin d visits = .ok outcome ↔
      ∃ settings whole, (loader c visits).load d = .ok settings ∧
        convert settings c extras stdin d = .ok whole ∧ deliver whole c.output d = .ok outcome := by
  unfold runCommand
  simp only [hlist]
  constructor
  · intro h
    obtain ⟨settings, hload, h⟩ := (bind_eq_ok_iff _ _ _).1 h
    obtain ⟨whole, hconvert, h⟩ := (bind_eq_ok_iff _ _ _).1 h
    exact ⟨settings, whole, (failing_eq_ok_iff _ _ _).1 hload, hconvert, h⟩
  · rintro ⟨settings, whole, hload, hconvert, h⟩
    have hfailing := (failing_eq_ok_iff .config _ _).2 hload
    exact (bind_eq_ok_iff _ _ _).2 ⟨settings, hfailing, (bind_eq_ok_iff _ _ _).2 ⟨whole, hconvert, h⟩⟩

theorem ready_of_runCommand (hlist : c.listFormats = false) {outcome : Outcome here}
    (h : runCommand c extras stdin d visits = .ok outcome) :
    outcome.code = 0 ∧ ∃ settings format text, Ready c extras stdin d visits settings format text := by
  obtain ⟨settings, whole, hload, hconvert, hdeliver⟩ := (runCommand_eq_ok_iff hlist _).1 h
  obtain ⟨format, text, written, hchosen, hknown, hinput, hwritten, -⟩ :=
    (convert_eq_ok_iff _).1 hconvert
  obtain ⟨hcode, hdelivered⟩ := delivered_of_deliver hdeliver
  exact ⟨hcode, settings, format, text, hload, hchosen, hknown, hinput,
    Registry.builtIn_accepts hwritten, hdelivered.writable⟩

theorem Ready.runCommand {format text : String} (hlist : c.listFormats = false)
    (h : Ready c extras stdin d visits settings format text) :
    ∃ outcome written whole, runCommand c extras stdin d visits = .ok outcome ∧
      Registry.builtIn.writeWith format (formatOptions format settings.pretty c.compact extras)
        (Source.document (Source.ofMarkdown settings.extensions text)) = .ok written ∧
      EndsLine written whole ∧ Delivered whole d c.output outcome := by
  obtain ⟨written, hwritten⟩ :=
    h.accepted (Source.document (Source.ofMarkdown settings.extensions text))
  have hends : EndsLine written (endLine written) := (endsLine_iff _ _).2 rfl
  have hconvert := (convert_eq_ok_iff _).2
    ⟨format, text, written, h.chosen, h.known, h.input, hwritten, hends⟩
  obtain ⟨outcome, hdeliver⟩ := deliver_of_writable (endLine written) h.writable
  have hrun := (runCommand_eq_ok_iff hlist _).2 ⟨settings, _, h.configured, hconvert, hdeliver⟩
  obtain ⟨-, hdelivered⟩ := delivered_of_deliver hdeliver
  exact ⟨outcome, written, _, hrun, hwritten, hends, hdelivered⟩

end

/-- A conversion run is all or nothing. It succeeds exactly if nothing stands in its way, and then
the document is in one place, as a whole. If it fails, nothing is printed and no file is changed. -/
theorem run_settled {args : List String} {c : CommandLine}
    (hargs : Request.ofArguments (keptArguments args) = .run c) (hlist : c.listFormats = false)
    (stdin : List UInt8) {here : Place} (d : Directory here) (visits : Visits) :
    ((run args stdin d visits).code = 0 ∨ (run args stdin d visits).code = 1) ∧
      ((run args stdin d visits).code = 0 ↔
        ∃ settings format text, Ready c (extraParameters args) stdin d visits settings format text) ∧
      (∀ settings format text, Ready c (extraParameters args) stdin d visits settings format text →
        ∃ written whole,
          Registry.builtIn.writeWith format
            (formatOptions format settings.pretty c.compact (extraParameters args))
            (Source.document (Source.ofMarkdown settings.extensions text)) = .ok written ∧
          EndsLine written whole ∧ Delivered whole d c.output (run args stdin d visits)) ∧
      ((run args stdin d visits).code = 1 →
        (run args stdin d visits).stdout = "" ∧ (run args stdin d visits).directory = d) := by
  unfold run
  rw [hargs]
  dsimp only
  cases hrun : runCommand c (extraParameters args) stdin d visits with
  | ok outcome =>
    obtain ⟨hcode, hready⟩ := ready_of_runCommand hlist hrun
    refine ⟨.inl hcode, ⟨fun _ => hready, fun _ => hcode⟩, ?_, ?_⟩
    · intro settings format text h
      -- a run has one outcome, so the one that is found for what is ready here is this one
      obtain ⟨_, written, whole, hrun', hwritten, hends, hdelivered⟩ := h.runCommand hlist
      rw [hrun] at hrun'
      cases hrun'
      exact ⟨written, whole, hwritten, hends, hdelivered⟩
    · intro hfailed
      rw [hcode] at hfailed
      cases hfailed
  | error failure =>
    have hstopped : ∀ settings format text,
        ¬ Ready c (extraParameters args) stdin d visits settings format text := by
      intro settings format text h
      obtain ⟨_, _, _, hrun', -⟩ := h.runCommand hlist
      rw [hrun] at hrun'
      cases hrun'
    refine ⟨.inr rfl, ⟨nofun, ?_⟩, ?_, fun _ => ⟨rfl, rfl⟩⟩
    · rintro ⟨settings, format, text, h⟩
      exact absurd h (hstopped settings format text)
    · intro settings format text h
      exact absurd h (hstopped settings format text)

def noted : Directory ["home"] :=
  ⟨[(["home", "in.md"], bytesOf "hi".toList)], []⟩

def treeArguments : List String :=
  ["in.md", "-o", "../out.tree", "--extra-show-marks", "no"]

def treeCommand : CommandLine :=
  { input := some "in.md", output := some "../out.tree" }

theorem ready_noted :
    Ready treeCommand (extraParameters treeArguments) [] noted {} .defaults "treeviz" "hi" where
  configured := Config.load_of_absent (by decide) .asWritten .asWritten .asAdded
  chosen := .detected rfl rfl rfl
  known := (Registry.has_iff _ _).1 rfl
  input := .file rfl (by decide)
    (⟨rfl, rfl, ⟨by decide, by decide⟩, rfl⟩ : noted.Holds _ ["home", "in.md"] _)
  accepted := fun _ => Registry.builtIn_writeWith_ok_iff.2 (.inr ⟨rfl, by decide⟩)
  writable := by
    rintro path ⟨⟩
    exact ⟨["out.tree"], rfl, nofun, ⟨by decide, by decide⟩, rfl, fun _ => rfl⟩

theorem run_noted :
    Request.ofArguments (keptArguments treeArguments) = .run treeCommand ∧
      treeCommand.listFormats = false ∧
        (run treeArguments [] noted).code = 0 ∧ (run treeArguments [] noted).stdout = "" ∧
          ∃ place bytes, noted.Stored place bytes (run treeArguments [] noted).directory := by
  have hargs : Request.ofArguments (keptArguments treeArguments) = .run treeCommand := by decide
  have hlist : treeCommand.listFormats = false := rfl
  obtain ⟨-, hcode, hdelivered, -⟩ := run_settled hargs hlist [] noted {}
  refine ⟨hargs, hlist, hcode.2 ⟨_, _, _, ready_noted⟩, ?_⟩
  obtain ⟨written, whole, -, -, hdelivered⟩ := hdelivered _ _ _ ready_noted
  cases hdelivered with
  | stored _ hstdout hstored => exact ⟨hstdout, _, _, hstored⟩

end MarkdownToAdf.Cli
