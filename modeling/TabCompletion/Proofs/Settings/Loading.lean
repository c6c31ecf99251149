import TabCompletion.CommandLine
import TabCompletion.Proofs.Settings.Homes
import TabCompletion.World.Host

/-! # Faults of the settings

Loading the settings tells a user of a file that is missing, of one that is no document, and of bad
values in it. It fails in other ways too, none of which is told as a fault of the settings: where a
home directory is asked for that is not known, where the file cannot be looked up or read, and where
the document exceeds the limits of its reader. -/

namespace TabCompletion

namespace Settings

/-! ## The file -/

/-- The file of the settings as it is named, and whether it was named at all. -/
def choice (around : Surroundings) : Option Path → Path × Bool
  | some path => (path, true)
  | none =>
    match around.configVariable with
    | some named => if named = "" then (usualPath, false) else (Path.ofString named, true)
    | none => (usualPath, false)

/-- The file that is read for the settings. -/
def sought (around : Surroundings) (path : Option Path) : Except HomeFault Path :=
  (choice around path).1.expand around.homes

theorem location_eq (around : Surroundings) (path : Option Path) :
    location around path =
      match sought around path with
      | .ok found => .ok (found, (choice around path).2)
      | .error fault => .error (.ofHome fault) := by
  have hchosen : location around path = (do
      return (← expand around.homes (choice around path).1, (choice around path).2)) := by
    unfold location choice
    cases path with
    | some path => rfl
    | none =>
        cases around.configVariable with
        | none => rfl
        | some named => by_cases hempty : named = "" <;> simp only [hempty, if_true, if_false]
  rw [hchosen, sought, expand]
  cases (choice around path).1.expand around.homes <;> rfl

/-- The text of a file of these bytes, with its line ends unified. -/
def textOf? (content : ByteArray) : Option String :=
  (String.fromUTF8? content).map fun text => String.ofList (Text.unifyLineEnds text.toList)

theorem read_of_find_file {tree : Files.Tree} {path : Path} {place : Files.Place}
    {content : ByteArray} (h : tree.find path = .ok (place, .file content)) :
    tree.read path =
      match textOf? content with
      | some text => .ok text
      | none => .error .notText := by
  rw [Files.Tree.read, Files.Tree.text, h, textOf?]
  cases hutf : String.fromUTF8? content <;> simp [hutf, bind, Except.bind, pure, Except.pure]

theorem read_of_find_directory {tree : Files.Tree} {path : Path} {place : Files.Place}
    (h : tree.find path = .ok (place, .directory)) : tree.read path = .error .isDirectory := by
  rw [Files.Tree.read, Files.Tree.text, h]
  rfl

/-! ## Faults that are not told -/

/-- The ways to fail that are not told as faults of the settings. -/
inductive Untold (around : Surroundings) (path : Option Path) : Prop
  /-- The file is in a home directory that is not known. -/
  | homeless : (choice around path).1.Homeless around.homes → Untold around path
  /-- The file is in the home directory of a user whose name holds a NUL character. -/
  | unnameable : (choice around path).1.Unnameable → Untold around path
  /-- The name of the file is too long to be looked up. -/
  | nameTooLong {file : Path} : sought around path = .ok file →
      around.files.find file = .error .nameTooLong → Untold around path
  | directory {file : Path} {place : Files.Place} : sought around path = .ok file →
      around.files.find file = .ok (place, .directory) → Untold around path
  | notText {file : Path} {place : Files.Place} {content : ByteArray} :
      sought around path = .ok file →
      around.files.find file = .ok (place, .file content) → textOf? content = none →
      Untold around path
  /-- A number is too long for the reader of documents, or values are nested too deeply. -/
  | beyondLimits {file : Path} {place : Files.Place} {content : ByteArray} {text : String}
      {fault : Toml.Fault} : sought around path = .ok file →
      around.files.find file = .ok (place, .file content) → textOf? content = some text →
      Toml.document text = .error fault → fault ≠ .malformed → Untold around path
  /-- A setting is a path in a home directory that is not known. -/
  | homelessSetting {file : Path} {place : Files.Place} {content : ByteArray} {text : String}
      {document : Toml.Table} : sought around path = .ok file →
      around.files.find file = .ok (place, .file content) → textOf? content = some text →
      Toml.document text = .ok document → HoldsHomeless around.homes (settingsOf document) →
      Untold around path

/-- An attempt to load settings that fails without telling of a fault of theirs. -/
def FailsUntold (outcome : Except LoadFault Settings) : Prop :=
  ∃ fault, outcome = .error fault ∧ fault.isAboutSettings = false

@[simp]
theorem not_failsUntold_ok (settings : Settings) : ¬ FailsUntold (.ok settings) := by
  rintro ⟨fault, hfault, -⟩
  cases hfault

@[simp]
theorem failsUntold_error_iff (fault : LoadFault) :
    FailsUntold (.error fault) ↔ fault.isAboutSettings = false := by
  simp [FailsUntold]

/-- What comes of loading, by what is found where the file should be. -/
theorem load_eq (around : Surroundings) (path : Option Path) :
    load around path =
      match sought around path with
      | .error fault => .error (.ofHome fault)
      | .ok file =>
        match around.files.find file with
        | .error .nameTooLong => .error (.file .nameTooLong)
        | .error _ => if (choice around path).2 then .error (.missing file) else .ok {}
        | .ok (_, .directory) => .error (.file .isDirectory)
        | .ok (_, .file content) =>
          match textOf? content with
          | none => .error (.file .notText)
          | some text => ofText around.homes file text := by
  rw [load, location_eq]
  cases sought around path with
  | error fault => rfl
  | ok file =>
      simp only [bind, Except.bind, Files.Tree.present]
      cases hfind : around.files.find file with
      | error fault => cases fault <;> rfl
      | ok found =>
          obtain ⟨place, entry⟩ := found
          cases entry with
          | directory => simp only [read_of_find_directory hfind]
          | file content =>
              simp only [read_of_find_file hfind]
              cases textOf? content <;> rfl

theorem failsUntold_ofText_iff (homes : Homes) (file : Path) (text : String) :
    FailsUntold (ofText homes file text) ↔
      (∃ fault, Toml.document text = .error fault ∧ fault ≠ .malformed) ∨
        ∃ document, Toml.document text = .ok document ∧
          HoldsHomeless homes (settingsOf document) := by
  unfold ofText
  cases Toml.document text with
  | error fault => cases fault <;> simp [LoadFault.isAboutSettings]
  | ok document =>
      simp only [← ofData_eq_homeless_iff]
      cases hchecked : ofData homes (settingsOf document) <;>
        simp [LoadFault.isAboutSettings, hchecked]

/-- The faults that are not told are exactly those listed. -/
theorem failsUntold_load_iff (around : Surroundings) (path : Option Path) :
    FailsUntold (load around path) ↔ Untold around path := by
  rw [load_eq]
  constructor
  · intro h
    cases hfile : sought around path with
    | error fault =>
        cases fault with
        | unknown => exact .homeless (Path.expand_eq_unknown_iff.mp hfile)
        | holdsNul => exact .unnameable (Path.expand_eq_holdsNul_iff.mp hfile)
    | ok file =>
        simp only [hfile] at h
        cases hfind : around.files.find file with
        | error fault =>
            simp only [hfind] at h
            cases fault with
            | nameTooLong => exact .nameTooLong hfile hfind
            | _ =>
                dsimp only at h
                split at h <;> simp [LoadFault.isAboutSettings] at h
        | ok found =>
            obtain ⟨place, entry⟩ := found
            simp only [hfind] at h
            cases entry with
            | directory => exact .directory hfile hfind
            | file content =>
                cases htext : textOf? content with
                | none => exact .notText hfile hfind htext
                | some text =>
                    simp only [htext, failsUntold_ofText_iff] at h
                    rcases h with ⟨fault, hfault, hne⟩ | ⟨document, hdocument, hhomeless⟩
                    · exact .beyondLimits hfile hfind htext hfault hne
                    · exact .homelessSetting hfile hfind htext hdocument hhomeless
  · intro h
    cases h with
    | homeless hhomeless =>
        have hfile : sought around path = .error .unknown :=
          Path.expand_eq_unknown_iff.mpr hhomeless
        simp [hfile, LoadFault.ofHome, LoadFault.isAboutSettings]
    | unnameable hunnameable =>
        have hfile : sought around path = .error .holdsNul :=
          Path.expand_eq_holdsNul_iff.mpr hunnameable
        simp [hfile, LoadFault.ofHome, LoadFault.isAboutSettings]
    | nameTooLong hfile hfind => simp [hfile, hfind, LoadFault.isAboutSettings]
    | directory hfile hfind => simp [hfile, hfind, LoadFault.isAboutSettings]
    | notText hfile hfind htext => simp [hfile, hfind, htext, LoadFault.isAboutSettings]
    | beyondLimits hfile hfind htext hfault hne =>
        simp only [hfile, hfind, htext]
        exact (failsUntold_ofText_iff _ _ _).mpr (.inl ⟨_, hfault, hne⟩)
    | homelessSetting hfile hfind htext hdocument hhomeless =>
        simp only [hfile, hfind, htext]
        exact (failsUntold_ofText_iff _ _ _).mpr (.inr ⟨_, hdocument, hhomeless⟩)

/-! ## Faults that are told -/

/-- The faults of the settings themselves, each with the file that is at fault. -/
inductive Told (around : Surroundings) (path : Option Path) : LoadFault → Prop
  /-- A file was named, and there is none. -/
  | missing {file : Path} {fault : FileFault} : (choice around path).2 = true →
      sought around path = .ok file → around.files.find file = .error fault →
      fault ≠ .nameTooLong → Told around path (.missing file)
  | malformed {file : Path} {place : Files.Place} {content : ByteArray} {text : String} :
      sought around path = .ok file →
      around.files.find file = .ok (place, .file content) → textOf? content = some text →
      Toml.document text = .error .malformed → Told around path (.malformed file)
  | invalid {file : Path} {place : Files.Place} {content : ByteArray} {text : String}
      {document : Toml.Table} {complaints : List Complaint} : sought around path = .ok file →
      around.files.find file = .ok (place, .file content) → textOf? content = some text →
      Toml.document text = .ok document →
      ofData around.homes (settingsOf document) = .bad complaints →
      Told around path (.invalid file complaints)

theorem load_eq_of_told {around : Surroundings} {path : Option Path} {fault : LoadFault}
    (h : Told around path fault) :
    load around path = .error fault ∧ fault.isAboutSettings = true := by
  rw [load_eq]
  cases h with
  | @missing file fault hnamed hfile hfind hne =>
      cases fault with
      | nameTooLong => exact absurd rfl hne
      | _ => simp [hfile, hfind, hnamed, LoadFault.isAboutSettings]
  | malformed hfile hfind htext hfault =>
      simp [hfile, hfind, htext, ofText, hfault, LoadFault.isAboutSettings]
  | invalid hfile hfind htext hdocument hbad =>
      simp [hfile, hfind, htext, ofText, hdocument, hbad, LoadFault.isAboutSettings]

/-! ## The shell -/

section

variable {σ : Type} (host : Host σ) (fresh : Files.Tree → σ) (time : String)
  {around : Surroundings} {args : List String} (input : List Keystroke)
  {order : CommandLine.ShellOrder} {fault : LoadFault}

/-- Where there are no settings, a call for the shell ends before anything is made or done. -/
theorem run_of_load_eq_error (horder : CommandLine.order? args = some (.shell order))
    (h : load around order.config = .error fault) :
    CommandLine.run host fresh time around args input =
      .early (if fault.isAboutSettings then .badSettings fault else .noSettings fault)
        around.files input := by
  rw [CommandLine.run, horder]
  simp only [CommandLine.runShellOrder, h]

end

/-- Loading the settings answers settings or tells of a fault of theirs, but for the listed ways to
fail; in each of these it fails with another fault. A file that is missing, malformed or invalid is
always told of, and a call for the shell is then a wrong call, which ends before an interpreter is
made. Faults that are not told cut such a call short as early, but without a status. -/
theorem load_tells_unless_untold (around : Surroundings) (path : Option Path) :
    (¬ Untold around path →
      (∃ settings, load around path = .ok settings) ∨
        ∃ fault, load around path = .error fault ∧ fault.isAboutSettings = true) ∧
    (Untold around path →
      ∃ fault, load around path = .error fault ∧ fault.isAboutSettings = false) ∧
    (∀ fault, Told around path fault →
      load around path = .error fault ∧ fault.isAboutSettings = true) ∧
    ∀ {σ : Type} (host : Host σ) (fresh : Files.Tree → σ) (time : String) (args : List String)
        (input : List Keystroke) (debugLog : Option Path),
      CommandLine.order? args = some (.shell ⟨path, debugLog⟩) →
      let result := CommandLine.run host fresh time around args input
      (∀ fault, Told around path fault →
        result = .early (.badSettings fault) around.files input ∧
          result.ending.status? = some 2 ∧ result.interpreter.isNone ∧ result.events = []) ∧
      (Untold around path → ∃ fault,
        result = .early (.noSettings fault) around.files input ∧ result.ending.status? = none) := by
  refine ⟨?_, (failsUntold_load_iff around path).mpr, fun _ => load_eq_of_told, ?_⟩
  · intro htold
    rw [← failsUntold_load_iff] at htold
    cases hload : load around path with
    | ok settings => exact .inl ⟨settings, rfl⟩
    | error fault =>
        rw [hload, failsUntold_error_iff, Bool.not_eq_false] at htold
        exact .inr ⟨fault, rfl, htold⟩
  · intro σ host fresh time args input debugLog horder result
    constructor
    · intro fault htold
      obtain ⟨hload, habout⟩ := load_eq_of_told htold
      have hresult : result = .early (.badSettings fault) around.files input := by
        simpa only [habout, ite_true] using
          run_of_load_eq_error host fresh time input horder hload
      rw [hresult]
      exact ⟨rfl, rfl, rfl, rfl⟩
    · intro huntold
      obtain ⟨fault, hload, habout⟩ := (failsUntold_load_iff around path).mpr huntold
      have hresult : result = .early (.noSettings fault) around.files input := by
        simpa only [habout, Bool.false_eq_true, ite_false] using
          run_of_load_eq_error host fresh time input horder hload
      rw [hresult]
      exact ⟨fault, rfl, rfl⟩

/-- Surroundings with one file, which holds the given bytes. -/
def holding (content : ByteArray) : Surroundings where
  homes := .ofAccounts (some "home") "0" [⟨"root", "0", "/root"⟩]
  configVariable := none
  files := Files.Tree.empty.put ⟨.above 0, ["c.toml"]⟩ (.file content)

/-- The path of that file. -/
def heldPath : Path := ⟨.here, ["c.toml"]⟩

theorem untold_holding : Untold (holding ⟨#[0xff]⟩) (some heldPath) :=
  .notText rfl rfl rfl

theorem load_tells_holding :
    Untold (holding ⟨#[0xff]⟩) (some heldPath) ∧
    (∃ fault, load (holding ⟨#[0xff]⟩) (some heldPath) = .error fault ∧
      fault.isAboutSettings = false) ∧
    Told (holding ⟨#[0x5b]⟩) (some heldPath) (.malformed heldPath) ∧
    (CommandLine.run World.linkedHost (fun files => World.linked { files }) "TIME"
      (holding ⟨#[0x5b]⟩) ["repl", "--config", "c.toml"] []).ending.status? = some 2 := by
  have htold : Told (holding ⟨#[0x5b]⟩) (some heldPath) (.malformed heldPath) :=
    .malformed rfl rfl (show textOf? ⟨#[0x5b]⟩ = some "[" from rfl) rfl
  have horder : CommandLine.order? ["repl", "--config", "c.toml"] =
      some (.shell ⟨some heldPath, none⟩) := rfl
  refine ⟨untold_holding, (load_tells_unless_untold _ _).2.1 untold_holding, htold, ?_⟩
  have hrun := (load_tells_unless_untold (holding ⟨#[0x5b]⟩) (some heldPath)).2.2.2 World.linkedHost
    (fun files => World.linked { files }) "TIME" _ [] none horder
  exact (hrun.1 _ htold).2.1

/-- A file whose bytes are no text is a fault that is not told. -/
theorem not_forall_loading_told :
    ¬ ∀ (around : Surroundings) (path : Option Path),
      (∃ settings, load around path = .ok settings) ∨
        ∃ fault, load around path = .error fault ∧ fault.isAboutSettings = true := by
  intro h
  obtain ⟨fault, hload, habout⟩ := (failsUntold_load_iff _ _).mpr untold_holding
  rcases h (holding ⟨#[0xff]⟩) (some heldPath) with ⟨settings, hsettings⟩ | ⟨other, hother, htold⟩
  · cases hload.symm.trans hsettings
  · obtain rfl := Except.error.inj (hload.symm.trans hother)
    simp [habout] at htold

end Settings

end TabCompletion
