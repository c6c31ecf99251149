import TabCompletion.Proofs.Settings.Complaints
import TabCompletion.Settings.Load

/-! # Checked settings

A table without bad values holds settings: absent fields have their defaults, and every path stands
for itself or for one in a home directory. With that it is said of every value what its check comes
to. -/

namespace TabCompletion

namespace Settings

variable {homes : Homes} {entries : List (String × Data)} {α : Type}

/-! ## What a field gives -/

/-- The value of a field: its default if the field is absent, or what its data are read as. -/
def Gives (entries : List (String × Data)) (name : String) (default : α) (reads : Data → α → Prop)
    (a : α) : Prop :=
  match entries.lookup name with
  | none => a = default
  | some data => reads data a

theorem field_eq_good_iff {name : String} {default : α} {check : String → Data → Checked α}
    {reads : Data → α → Prop} (hcheck : ∀ data a, check name data = .good a ↔ reads data a) (a : α) :
    field entries name default check = .good a ↔ Gives entries name default reads a := by
  unfold field Gives
  cases entries.lookup name with
  | none => simp [eq_comm]
  | some data => exact hcheck data a

/-- Data that are a text. -/
inductive HoldsText : Data → String → Prop
  | text (s : String) : HoldsText (.text s) s

/-- Data that name a namespace; the empty name is that of the global one. -/
inductive HoldsNs : Data → String → Prop
  | empty : HoldsNs (.text "") "::"
  | named {s : String} : s ≠ "" → HoldsNs (.text s) s

/-- Data that name an object system. -/
inductive HoldsSystem : Data → ObjectSystem → Prop
  | name (system : ObjectSystem) : HoldsSystem (.text system.name) system

/-- Data that are a path, which is then expanded. -/
inductive HoldsPath (homes : Homes) : Data → Path → Prop
  | path {text : String} {path : Path} : (Path.ofString text).Expands homes path →
      HoldsPath homes (.text text) path

/-- Data that may also be null, for nothing. -/
inductive HoldsOptional (holds : Data → α → Prop) : Data → Option α → Prop
  | none : HoldsOptional holds .null none
  | some {data : Data} {a : α} : holds data a → HoldsOptional holds data (some a)

/-- Data that are a list, item by item. -/
inductive HoldsList (holds : Data → α → Prop) : Data → List α → Prop
  | list {items : List Data} {found : List α} : List.Forall₂ holds items found →
      HoldsList holds (.list items) found

/-- The settings that a table holds. -/
structure Holds (homes : Homes) (entries : List (String × Data)) (settings : Settings) : Prop where
  interp : Gives entries "interp" "" HoldsText settings.interp
  ns : Gives entries "namespace" "::" HoldsNs settings.ns
  systems : Gives entries "object_systems" [.oo, .nsf, .xotcl] (HoldsList HoldsSystem)
    settings.systems
  packages : Gives entries "packages" [] (HoldsList HoldsText) settings.packages
  startup : Gives entries "startup" [] (HoldsList (HoldsPath homes)) settings.startup
  history : Gives entries "history_file" none (HoldsOptional (HoldsPath homes)) settings.history
  debugLog : Gives entries "debug_log" none (HoldsOptional (HoldsPath homes)) settings.debugLog

end Settings

/-! ## Good values -/

namespace Checked

open Settings

variable {α β : Type} {read? : Data → Option α} {expected : Expected} {name : String} {data : Data}

/-- A traversal that finds something for every item is a relation, item by item. -/
theorem mapM_eq_some_iff {f : α → Option β} {R : α → β → Prop}
    (h : ∀ a b, f a = some b ↔ R a b) (as : List α) (bs : List β) :
    as.mapM f = some bs ↔ List.Forall₂ R as bs := by
  induction as generalizing bs with
  | nil => simp [List.forall₂_nil_left_iff, eq_comm]
  | cons a rest ih =>
      rw [List.mapM_cons, List.forall₂_cons_left_iff]
      simp only [← h, ← ih]
      cases f a <;> cases rest.mapM f <;> simp [eq_comm]

theorem list_eq_good_iff {holds : Data → α → Prop}
    (hread : ∀ data a, read? data = some a ↔ holds data a) {found : List α} :
    list read? expected name data = .good found ↔ HoldsList holds data found := by
  constructor
  · cases data with
    | list items =>
        intro h
        rw [list, items_eq_good_iff, mapM_eq_some_iff hread] at h
        exact .list h
    | _ =>
        intro h
        cases h
  · rintro ⟨h⟩
    rwa [list, items_eq_good_iff, mapM_eq_some_iff hread]

theorem housed_map_eq_good_iff {x : Checked α} {f : α → Except HomeFault β} {b : β} :
    (f <$> x).housed name = .good b ↔ ∃ a, x = .good a ∧ f a = .ok b := by
  change (x.map f).housed name = .good b ↔ _
  cases x with
  | good a =>
      cases hf : f a with
      | ok value => simp [Checked.map, Checked.housed, hf]
      | error fault => cases fault <;> simp [Checked.map, Checked.housed, hf]
  | bad complaints => simp [Checked.map, Checked.housed]
  | homeless => simp [Checked.map, Checked.housed]

end Checked

namespace Settings

variable {homes : Homes} {entries : List (String × Data)}

theorem text?_eq_some_iff (data : Data) (s : String) : data.text? = some s ↔ HoldsText data s := by
  constructor
  · cases data with
    | text t =>
        intro h
        obtain rfl := Option.some.inj h
        exact .text t
    | _ => nofun
  · rintro ⟨⟩
    rfl

theorem system?_eq_some_iff (data : Data) (system : ObjectSystem) :
    system? data = some system ↔ HoldsSystem data system := by
  constructor
  · cases data with
    | text s =>
        intro h
        obtain rfl := ObjectSystem.name_of_ofName? h
        exact .name system
    | _ => nofun
  · rintro ⟨⟩
    exact ObjectSystem.ofName?_name system

theorem ns_eq_good_iff {name : String} {data : Data} {ns : String} :
    (fun s => Namespace.orRoot (some s)) <$> Checked.value Data.text? .text name data = .good ns ↔
      HoldsNs data ns := by
  rw [Checked.map_eq_good_iff]
  simp only [Checked.value_eq_good_iff, text?_eq_some_iff]
  constructor
  · rintro ⟨s, ⟨⟩, rfl⟩
    by_cases hempty : s = ""
    · subst hempty
      exact .empty
    · rw [Namespace.orRoot, if_neg hempty]
      exact .named hempty
  · rintro (_ | hne)
    · exact ⟨"", .text "", rfl⟩
    · exact ⟨ns, .text ns, if_neg hne⟩

theorem holdsPath_iff {data : Data} {expanded : Path} :
    HoldsPath homes data expanded ↔ ∃ path, path? data = some path ∧ path.Expands homes expanded := by
  constructor
  · rintro ⟨h⟩
    exact ⟨_, rfl, h⟩
  · rintro ⟨path, hpath, h⟩
    cases data with
    | text s =>
        obtain rfl := Option.some.inj hpath
        exact .path h
    | _ => cases hpath

/-- Reading all paths and then expanding them is reading and expanding each of them. -/
theorem forall₂_holdsPath_iff (items : List Data) (paths : List Path) :
    List.Forall₂ (HoldsPath homes) items paths ↔
      ∃ unexpanded, List.Forall₂ (fun data path => path? data = some path) items unexpanded ∧
        List.Forall₂ (Path.Expands homes) unexpanded paths := by
  constructor
  · intro h
    induction h with
    | nil => exact ⟨[], .nil, .nil⟩
    | cons hholds _ ih =>
        obtain ⟨path, hread, hexpands⟩ := holdsPath_iff.mp hholds
        obtain ⟨rest, hreads, hexpand⟩ := ih
        exact ⟨path :: rest, .cons hread hreads, .cons hexpands hexpand⟩
  · rintro ⟨unexpanded, hreads, hexpand⟩
    induction hreads generalizing paths with
    | nil =>
        cases hexpand
        exact .nil
    | cons hread _ ih =>
        cases hexpand with
        | cons hexpands hrest => exact .cons (holdsPath_iff.mpr ⟨_, hread, hexpands⟩) (ih _ hrest)

theorem startupPaths_eq_good_iff {name : String} {data : Data} {paths : List Path} :
    startupPaths homes name data = .good paths ↔ HoldsList (HoldsPath homes) data paths := by
  change ((fun paths => paths.mapM (Path.expand homes)) <$>
    Checked.list path? .path name data).housed name = .good paths ↔ _
  rw [Checked.housed_map_eq_good_iff]
  simp only [Checked.list_eq_good_iff fun _ _ => Iff.rfl,
    mapM_eq_ok_iff fun _ _ => Path.expand_eq_ok_iff]
  constructor
  · rintro ⟨unexpanded, ⟨hreads⟩, hexpand⟩
    exact .list ((forall₂_holdsPath_iff _ _).mpr ⟨unexpanded, hreads, hexpand⟩)
  · rintro ⟨h⟩
    obtain ⟨unexpanded, hreads, hexpand⟩ := (forall₂_holdsPath_iff _ _).mp h
    exact ⟨unexpanded, .list hreads, hexpand⟩

theorem singlePath_eq_good_iff {name : String} {data : Data} {path : Option Path} :
    singlePath homes name data = .good path ↔ HoldsOptional (HoldsPath homes) data path := by
  constructor
  · intro h
    obtain ⟨unexpanded, hread, hexpand⟩ := Checked.housed_map_eq_good_iff.mp h
    rw [Checked.value_eq_good_iff] at hread
    cases data with
    | null =>
        obtain rfl := Option.some.inj hread
        obtain rfl := Except.ok.inj hexpand
        exact .none
    | text s =>
        obtain rfl := Option.some.inj hread
        cases hexpanded : (Path.ofString s).expand homes with
        | error fault => simp [hexpanded] at hexpand
        | ok expanded =>
            obtain rfl : some expanded = path := by simpa [hexpanded] using hexpand
            exact .some (.path (Path.expand_eq_ok_iff.mp hexpanded))
    | _ => cases hread
  · rintro (_ | ⟨⟨h⟩⟩)
    · rfl
    · refine Checked.housed_map_eq_good_iff.mpr ⟨_, (Checked.value_eq_good_iff ..).mpr rfl, ?_⟩
      simp [Path.expand_eq_ok_iff.mpr h]

/-! ## Tables and documents -/

/-- The settings that come of a table are those that it holds. -/
theorem holds_of_ofTable {settings : Settings} (h : ofTable homes entries = .good settings) :
    Holds homes entries settings := by
  have htext : ∀ data s, Checked.value Data.text? .text "interp" data = .good s ↔
      HoldsText data s := fun data s =>
    (Checked.value_eq_good_iff ..).trans (text?_eq_some_iff data s)
  simp only [ofTable, Checked.seq_eq_good_iff, Checked.map_eq_good_iff] at h
  obtain ⟨_, debugLog, ⟨_, history, ⟨_, startup, ⟨_, packages, ⟨_, systems, ⟨_, ns,
    ⟨interp, hinterp, rfl⟩, hns, rfl⟩, hsystems, rfl⟩, hpackages, rfl⟩, hstartup, rfl⟩,
    hhistory, rfl⟩, hdebugLog, rfl⟩ := h
  constructor
  · exact (field_eq_good_iff htext interp).mp hinterp
  · exact (field_eq_good_iff (fun _ _ => ns_eq_good_iff) ns).mp hns
  · exact (field_eq_good_iff (fun _ _ => Checked.list_eq_good_iff system?_eq_some_iff) systems).mp hsystems
  · exact (field_eq_good_iff (fun _ _ => Checked.list_eq_good_iff text?_eq_some_iff) packages).mp hpackages
  · exact (field_eq_good_iff (fun _ _ => startupPaths_eq_good_iff) startup).mp hstartup
  · exact (field_eq_good_iff (fun _ _ => singlePath_eq_good_iff) history).mp hhistory
  · exact (field_eq_good_iff (fun _ _ => singlePath_eq_good_iff) debugLog).mp hdebugLog

/-- Only the fields that are declared are looked at. -/
theorem ofTable_congr {others : List (String × Data)}
    (h : ∀ declaration ∈ declared, others.lookup declaration.1 = entries.lookup declaration.1) :
    ofTable homes others = ofTable homes entries := by
  simp only [declared, List.forall_mem_cons] at h
  obtain ⟨hinterp, hns, hsystems, hpackages, hstartup, hhistory, hdebugLog, -⟩ := h
  simp only [ofTable, field, hinterp, hns, hsystems, hpackages, hstartup, hhistory, hdebugLog]

/-- The settings of a document are in a value of its own, if it has one. -/
def HeldIn (document : Toml.Table) (data : Data) : Prop :=
  document.lookup "tclcomplete" = some data ∨
    document.lookup "tclcomplete" = none ∧ data = .table document

theorem settingsOf_eq {document : Toml.Table} {data : Data} (h : HeldIn document data) :
    settingsOf document = data := by
  change (document.lookup "tclcomplete").getD (.table document) = data
  rcases h with hown | ⟨hnone, rfl⟩
  · simp [hown]
  · simp [hnone]

/-- What comes of loading settings from a file in which a checked value was found. -/
def loaded (path : Path) : Checked Settings → Except LoadFault Settings
  | .good settings => .ok settings
  | .bad complaints => .error (.invalid path complaints)
  | .homeless => .error .homeless

theorem ofText_eq_loaded {path : Path} {text : String} {document : Toml.Table} {data : Data}
    (hdocument : Toml.document text = .ok document) (hdata : HeldIn document data) :
    ofText homes path text = loaded path (ofData homes data) := by
  rw [ofText, hdocument]
  simp only [settingsOf_eq hdata]
  cases ofData homes data <;> rfl

/-- A value that is no table is one bad value. Of a table only the fields declared are looked at. If
a path in it, given as it should be, is in a home directory that is not known, then that ends the
check, whatever else is wrong. Otherwise, if any of the fields that are there holds a bad value, all
bad values are told of and nothing else, in the order of the fields and then of the items, no place
twice; and if none does, the settings are those that the table holds. Loading a file comes to what
the check of the value comes to that holds the settings in it. -/
theorem ofData_tells_all_faults (homes : Homes) (data : Data) :
    (¬ Expected.Fits .table data → ofData homes data = .bad [⟨none, none, .table⟩]) ∧
    (∀ entries, data = .table entries →
      (∀ others : List (String × Data),
        (∀ declaration ∈ declared,
          others.lookup declaration.1 = entries.lookup declaration.1) →
        ofData homes (.table others) = ofData homes data) ∧
      (HoldsHomeless homes data → ofData homes data = .homeless) ∧
      (¬ HoldsHomeless homes data →
        ((∃ complaint, FaultAmong entries declared complaint) →
          ∃ complaints, ofData homes data = .bad complaints ∧
            (∀ complaint, complaint ∈ complaints ↔ FaultAmong entries declared complaint) ∧
            complaints.Pairwise Precedes ∧ (complaints.map Complaint.place).Nodup) ∧
        ((¬ ∃ complaint, FaultAmong entries declared complaint) →
          ∃ settings, ofData homes data = .good settings ∧ Holds homes entries settings))) ∧
    ∀ (path : Path) (text : String) (document : Toml.Table),
      Toml.document text = .ok document → HeldIn document data →
      ofText homes path text = loaded path (ofData homes data) := by
  refine ⟨?_, ?_, fun path text document => ofText_eq_loaded⟩
  · intro hnot
    cases data with
    | table entries => exact absurd (.table entries) hnot
    | _ => rfl
  rintro entries rfl
  refine ⟨fun others => ofTable_congr, (ofData_eq_homeless_iff _).mpr, ?_⟩
  intro hhoused
  rw [← ofData_eq_homeless_iff] at hhoused
  have htells := tells_ofTable homes entries
  change ofTable homes entries ≠ .homeless at hhoused
  change (_ → ∃ complaints, ofTable homes entries = _ ∧ _) ∧
    (_ → ∃ settings, ofTable homes entries = _ ∧ _)
  cases hchecked : ofTable homes entries with
  | homeless => exact absurd hchecked hhoused
  | good settings =>
      rw [hchecked] at htells
      obtain ⟨_, hnone⟩ := htells
      constructor
      · rintro ⟨complaint, hfault⟩
        exact absurd hfault (hnone complaint)
      · intro _
        exact ⟨settings, rfl, holds_of_ofTable hchecked⟩
  | bad complaints =>
      rw [hchecked] at htells
      cases htells with
      | bad hne hmem horder =>
          constructor
          · intro _
            exact ⟨complaints, rfl, hmem, horder, nodup_place horder⟩
          · intro hnone
            obtain ⟨complaint, hcomplaint⟩ := List.exists_mem_of_ne_nil complaints hne
            exact absurd ⟨complaint, (hmem complaint).mp hcomplaint⟩ hnone

/-- Two accounts, and a variable that names the home of one of them. -/
def machine : Homes :=
  .ofAccounts (some "/home/me") "1000" [⟨"root", "0", "/root"⟩, ⟨"me", "1000", "/home/me"⟩]

/-- A table with bad values in three of its fields, and a field that is not declared. -/
def faulty : List (String × Data) :=
  [("history_file", .list []), ("colour", .text "red"),
    ("object_systems", .list [.text "oo", .text "itcl", .flag true]), ("interp", .number "3")]

theorem ofData_tells_all_faults_faulty :
    (∃ complaints, ofData machine (.table faulty) = .bad complaints ∧
      (∀ complaint, complaint ∈ complaints ↔ FaultAmong faulty declared complaint) ∧
      complaints.Pairwise Precedes ∧ complaints =
        [⟨some "interp", none, .text⟩, ⟨some "object_systems", some 1, .systemName⟩,
          ⟨some "object_systems", some 2, .systemName⟩, ⟨some "history_file", none, .path⟩]) ∧
    ofData machine (.table (("startup", .list [.text "~else/a.tcl"]) :: faulty)) = .homeless ∧
    ∃ settings,
      ofData machine (.table [("startup", .list [.text "~root/a.tcl"])]) = .good settings ∧
      settings.startup = [⟨.slash, ["root", "a.tcl"]⟩] := by
  have hbad : ofData machine (.table faulty) =
      .bad [⟨some "interp", none, .text⟩, ⟨some "object_systems", some 1, .systemName⟩,
        ⟨some "object_systems", some 2, .systemName⟩, ⟨some "history_file", none, .path⟩] := rfl
  have hhoused : ¬ HoldsHomeless machine (.table faulty) := by
    rw [← ofData_eq_homeless_iff, hbad]
    nofun
  have hfault : FaultAmong faulty declared ⟨some "interp", none, .text⟩ :=
    ⟨("interp", .single .text), by simp [declared], .number "3", rfl, rfl,
      .mistyped (.single nofun)⟩
  have hunknown : (Path.ofString "~else/a.tcl").Homeless machine :=
    Path.expand_eq_unknown_iff.mp rfl
  have hhomeless : HoldsHomeless machine
      (.table (("startup", .list [.text "~else/a.tcl"]) :: faulty)) :=
    @HoldsHomeless.startup machine _ _ [] [] "~else/a.tcl" rfl rfl hunknown (by simp)
  obtain ⟨complaints, hchecked, hmem, horder, -⟩ :=
    (((ofData_tells_all_faults machine (.table faulty)).2.1 faulty rfl).2.2 hhoused).1 ⟨_, hfault⟩
  refine ⟨⟨complaints, hchecked, hmem, horder, ?_⟩, ?_, _, rfl, rfl⟩
  · exact Checked.bad.inj (hchecked.symm.trans hbad)
  · exact ((ofData_tells_all_faults machine _).2.1 _ rfl).2.1 hhomeless

/-- A path that cannot be expanded does not end the check if the name of its user holds a NUL
character. -/
theorem not_forall_unexpandable_homeless :
    ¬ ∀ (homes : Homes) (entries : List (String × Data)) (data : Data) (texts : List String)
        (text : String), entries.lookup "startup" = some data → data.texts? = some texts →
      text ∈ texts → (∀ expanded, ¬ (Path.ofString text).Expands homes expanded) →
      ofData homes (.table entries) = .homeless := by
  intro h
  have hended := h machine [("startup", .list [.text "~a\x00b"])] _ _ "~a\x00b" rfl rfl (.head _) ?_
  · cases hended
  · intro expanded hexpands
    cases Path.expand_eq_ok_iff.mpr hexpands

end Settings

end TabCompletion
