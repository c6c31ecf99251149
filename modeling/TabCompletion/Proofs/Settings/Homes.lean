import Mathlib.Data.List.Forall2
import TabCompletion.Proofs.Files.Homes
import TabCompletion.Settings

/-! # Paths without a home

A path that starts with `~` has no meaning where the home directory is not known. Such a path is no
bad value of a setting: it ends the check, whatever else is wrong. It is one, however, if the name of
the user holds a NUL character, so that nobody can be asked for. -/

namespace TabCompletion

/-! ## Checks that end early -/

namespace Checked

variable {α β : Type}

@[simp]
theorem map_eq_homeless_iff (f : α → β) (a : Checked α) :
    f <$> a = .homeless ↔ a = .homeless := by
  change a.map f = .homeless ↔ _
  cases a <;> simp [Checked.map]

@[simp]
theorem seq_eq_homeless_iff (f : Checked (α → β)) (a : Checked α) :
    f <*> a = .homeless ↔ f = .homeless ∨ a = .homeless := by
  change f.seq a = .homeless ↔ _
  cases f <;> cases a <;> simp [Checked.seq]

theorem map_eq_good_iff (f : α → β) (a : Checked α) (b : β) :
    f <$> a = .good b ↔ ∃ x, a = .good x ∧ f x = b := by
  change a.map f = .good b ↔ _
  cases a <;> simp [Checked.map]

theorem seq_eq_good_iff (f : Checked (α → β)) (a : Checked α) (b : β) :
    f <*> a = .good b ↔ ∃ g x, f = .good g ∧ a = .good x ∧ g x = b := by
  change f.seq a = .good b ↔ _
  cases f <;> cases a <;> simp [Checked.seq]

theorem housed_eq_homeless_iff (name : String) (a : Checked (Except HomeFault α)) :
    a.housed name = .homeless ↔ a = .homeless ∨ a = .good (.error .unknown) := by
  cases a with
  | good value =>
      cases value with
      | ok a => simp [housed]
      | error fault => cases fault <;> simp [housed]
  | bad complaints => simp [housed]
  | homeless => simp [housed]

variable (read? : Data → Option α) (expected : Expected) (field : String)

@[simp]
theorem value_ne_homeless (data : Data) : value read? expected field data ≠ .homeless := by
  unfold value
  split <;> nofun

theorem value_eq_good_iff (data : Data) (a : α) :
    value read? expected field data = .good a ↔ read? data = some a := by
  unfold value
  cases read? data <;> simp

@[simp]
theorem items_ne_homeless (i : Nat) (found : List Data) :
    items read? expected field i found ≠ .homeless := by
  induction found generalizing i with
  | nil => nofun
  | cons item rest ih =>
      simp only [items, ne_eq, seq_eq_homeless_iff, map_eq_homeless_iff, ih, or_false]
      split <;> nofun

@[simp]
theorem list_ne_homeless (data : Data) : list read? expected field data ≠ .homeless := by
  unfold list
  split
  · exact items_ne_homeless read? expected field 0 _
  · nofun

/-- A list is good exactly if every item of it can be read. -/
theorem items_eq_good_iff (i : Nat) (found : List Data) (read : List α) :
    items read? expected field i found = .good read ↔ found.mapM read? = some read := by
  induction found generalizing i read with
  | nil => simp [items]
  | cons item rest ih =>
      rw [items, List.mapM_cons, seq_eq_good_iff]
      simp only [map_eq_good_iff, ih]
      cases hitem : read? item with
      | none => simp
      | some a => simp [Option.bind_eq_some_iff]

end Checked

/-! ## Traversals -/

section

variable {ε α β : Type} {f : α → Except ε β}

theorem mapM_eq_ok_iff {R : α → β → Prop} (h : ∀ a b, f a = .ok b ↔ R a b) (as : List α)
    (bs : List β) : as.mapM f = .ok bs ↔ List.Forall₂ R as bs := by
  induction as generalizing bs with
  | nil => simp [List.forall₂_nil_left_iff, pure, Except.pure, eq_comm]
  | cons a rest ih =>
      rw [List.mapM_cons, List.forall₂_cons_left_iff]
      simp only [← h, ← ih]
      cases f a <;> cases rest.mapM f <;> simp [bind, Except.bind, pure, Except.pure, eq_comm]

/-- A traversal fails with what its first failure is. -/
theorem exists_of_mapM_eq_error {e : ε} {as : List α} (h : as.mapM f = .error e) :
    ∃ before a after, as = before ++ a :: after ∧ (∀ earlier ∈ before, ∃ b, f earlier = .ok b) ∧
      f a = .error e := by
  induction as with
  | nil => cases h
  | cons a rest ih =>
      rw [List.mapM_cons] at h
      cases ha : f a with
      | error fault =>
          rw [ha] at h
          obtain rfl : fault = e := Except.error.inj h
          exact ⟨[], a, rest, rfl, by simp, ha⟩
      | ok b =>
          have hrest : rest.mapM f = .error e := by
            cases hmapped : rest.mapM f with
            | ok bs => simp [ha, hmapped, bind, Except.bind, pure, Except.pure] at h
            | error fault => simpa [ha, hmapped, bind, Except.bind] using h
          obtain ⟨before, failing, after, rfl, hbefore, hfailing⟩ := ih hrest
          refine ⟨a :: before, failing, after, rfl, ?_, hfailing⟩
          exact List.forall_mem_cons.mpr ⟨⟨b, ha⟩, hbefore⟩

end

/-! ## Tables of settings -/

namespace Settings

variable {homes : Homes}

theorem field_eq_homeless_iff {α : Type} (entries : List (String × Data)) (name : String)
    (default : α) (check : String → Data → Checked α) :
    field entries name default check = .homeless ↔
      ∃ data, entries.lookup name = some data ∧ check name data = .homeless := by
  unfold field
  cases entries.lookup name <;> simp

/-- The first path that cannot be expanded decides what comes of all of them. -/
theorem mapM_expand_eq_unknown_iff (paths : List Path) :
    paths.mapM (Path.expand homes) = .error .unknown ↔
      ∃ before path after, paths = before ++ path :: after ∧ path.Homeless homes ∧
        ∀ earlier ∈ before, ¬ earlier.Unnameable := by
  constructor
  · intro h
    obtain ⟨before, path, after, rfl, hbefore, hpath⟩ := exists_of_mapM_eq_error h
    refine ⟨before, path, after, rfl, Path.expand_eq_unknown_iff.mp hpath, ?_⟩
    intro earlier hearlier
    obtain ⟨expanded, hexpanded⟩ := hbefore earlier hearlier
    exact (Path.expand_eq_ok_iff.mp hexpanded).not_unnameable
  · rintro ⟨before, path, after, rfl, hhomeless, hbefore⟩
    induction before with
    | nil =>
        rw [List.nil_append, List.mapM_cons, Path.expand_eq_unknown_iff.mpr hhomeless]
        rfl
    | cons earlier before ih =>
        have hrest := ih fun other hother => hbefore other (.tail _ hother)
        rw [List.cons_append, List.mapM_cons, hrest]
        cases hexpand : earlier.expand homes with
        | ok expanded => rfl
        | error fault =>
            cases fault with
            | unknown => rfl
            | holdsNul =>
                exact absurd (Path.expand_eq_holdsNul_iff.mp hexpand) (hbefore earlier (.head _))

theorem not_unnameable_of_mapM_expand {paths expanded : List Path}
    (h : paths.mapM (Path.expand homes) = .ok expanded) : ∀ path ∈ paths, ¬ path.Unnameable := by
  have hexpands := (mapM_eq_ok_iff (fun _ _ => Path.expand_eq_ok_iff) paths expanded).mp h
  exact ((List.forall₂_and_left _ _).mp
    (hexpands.imp fun _ _ hok => ⟨hok.not_unnameable, hok⟩)).1

theorem mapM_path? (items : List Data) :
    items.mapM path? = (items.mapM Data.text?).map (List.map Path.ofString) := by
  induction items with
  | nil => rfl
  | cons item rest ih =>
      rw [List.mapM_cons, List.mapM_cons, ih]
      cases hitem : item.text? with
      | none => simp [path?, hitem]
      | some text => cases rest.mapM Data.text? <;> simp [path?, hitem]

theorem list_path?_eq_good_iff (name : String) (data : Data) (paths : List Path) :
    Checked.list path? .path name data = .good paths ↔
      ∃ texts, data.texts? = some texts ∧ texts.map Path.ofString = paths := by
  cases data with
  | list items =>
      rw [Checked.list, Checked.items_eq_good_iff, mapM_path?, Option.map_eq_some_iff]
      rfl
  | _ => simp [Checked.list, Data.texts?]

/-- Paths are only expanded where all of them are texts. -/
theorem startupPaths_eq_homeless_iff (name : String) (data : Data) :
    startupPaths homes name data = .homeless ↔
      ∃ texts before text after, data.texts? = some texts ∧ texts = before ++ text :: after ∧
        (Path.ofString text).Homeless homes ∧
        ∀ earlier ∈ before, ¬ (Path.ofString earlier).Unnameable := by
  change ((fun paths => paths.mapM (Path.expand homes)) <$>
    Checked.list path? .path name data).housed name = .homeless ↔ _
  simp only [Checked.housed_eq_homeless_iff, Checked.map_eq_homeless_iff,
    Checked.list_ne_homeless, false_or, Checked.map_eq_good_iff, list_path?_eq_good_iff,
    mapM_expand_eq_unknown_iff]
  constructor
  · rintro ⟨_, ⟨texts, htexts, rfl⟩, before, path, after, hpaths, hhomeless, hbefore⟩
    obtain ⟨earlier, later, rfl, rfl, hlater⟩ := List.map_eq_append_iff.mp hpaths
    obtain ⟨text, rest, rfl, rfl, rfl⟩ := List.map_eq_cons_iff.mp hlater
    exact ⟨_, earlier, text, rest, htexts, rfl, hhomeless, fun other hother =>
      hbefore _ (List.mem_map_of_mem hother)⟩
  · rintro ⟨_, before, text, after, htexts, rfl, hhomeless, hbefore⟩
    exact ⟨_, ⟨_, htexts, rfl⟩, before.map Path.ofString, _, after.map Path.ofString, by simp,
      hhomeless, List.forall_mem_map.mpr hbefore⟩

theorem singlePath_eq_homeless_iff (name : String) (data : Data) :
    singlePath homes name data = .homeless ↔
      ∃ text, data = .text text ∧ (Path.ofString text).Homeless homes := by
  cases data with
  | text s =>
      simp only [Data.text.injEq, exists_eq_left', ← Path.expand_eq_unknown_iff]
      change Checked.housed name (.good (some <$> (Path.ofString s).expand homes)) = .homeless ↔ _
      rw [Checked.housed_eq_homeless_iff]
      cases (Path.ofString s).expand homes <;> simp
  | null => exact iff_of_false nofun nofun
  | _ => exact iff_of_false nofun nofun

/-- Among the settings of a table there is a path whose home is not known. In a list of paths the
first that cannot be expanded decides, so that none before it asks for a user whom there cannot be. -/
inductive HoldsHomeless (homes : Homes) : Data → Prop
  | startup {entries : List (String × Data)} {data : Data} {before after : List String}
      {text : String} :
      entries.lookup "startup" = some data → data.texts? = some (before ++ text :: after) →
      (Path.ofString text).Homeless homes →
      (∀ earlier ∈ before, ¬ (Path.ofString earlier).Unnameable) →
      HoldsHomeless homes (.table entries)
  | single {entries : List (String × Data)} {name text : String} :
      name ∈ ["history_file", "debug_log"] → entries.lookup name = some (.text text) →
      (Path.ofString text).Homeless homes → HoldsHomeless homes (.table entries)

/-- The check of a table ends early exactly if a path without a home is among the settings, be the
other values good or bad. -/
theorem ofData_eq_homeless_iff (data : Data) :
    ofData homes data = .homeless ↔ HoldsHomeless homes data := by
  cases data with
  | table entries =>
      simp only [ofData, ofTable, Checked.seq_eq_homeless_iff, Checked.map_eq_homeless_iff,
        field_eq_homeless_iff, Checked.value_ne_homeless, Checked.list_ne_homeless,
        startupPaths_eq_homeless_iff, singlePath_eq_homeless_iff, and_false, exists_false,
        false_or]
      constructor
      · rintro ((⟨data, hdata, _, before, text, after, htexts, rfl, hhomeless, hbefore⟩ |
          ⟨_, hdata, text, rfl, hhomeless⟩) | ⟨_, hdata, text, rfl, hhomeless⟩)
        · exact .startup hdata htexts hhomeless hbefore
        · exact .single (by simp) hdata hhomeless
        · exact .single (by simp) hdata hhomeless
      · rintro (⟨hdata, htexts, hhomeless, hbefore⟩ | ⟨hname, hdata, hhomeless⟩)
        · exact .inl (.inl ⟨_, hdata, _, _, _, _, htexts, rfl, hhomeless, hbefore⟩)
        · simp only [List.mem_cons, List.not_mem_nil, or_false] at hname
          rcases hname with rfl | rfl
          · exact .inl (.inr ⟨_, hdata, _, rfl, hhomeless⟩)
          · exact .inr ⟨_, hdata, _, rfl, hhomeless⟩
  | _ => exact ⟨nofun, nofun⟩

end Settings

end TabCompletion
