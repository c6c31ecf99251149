import TabCompletion.Proofs.Settings.Homes

/-! # Complaints about settings

Checking a table of settings complains about every bad value of its fields once, in the order in
which the fields are declared, and within a list in the order of the items. -/

namespace TabCompletion

/-! ## Bad values -/

/-- The values that are what they should be. -/
inductive Expected.Fits : Expected → Data → Prop
  | text (s : String) : Fits .text (.text s)
  | list (items : List Data) : Fits .list (.list items)
  | systemName (system : ObjectSystem) : Fits .systemName (.text system.name)
  | path (s : String) : Fits .path (.text s)
  | home {s : String} : ¬ (Path.ofString s).Unnameable → Fits .home (.text s)
  | table (entries : List (String × Data)) : Fits .table (.table entries)

/-- Where the bad value is: its field, and its place if it is an item of a list. -/
def Complaint.place (complaint : Complaint) : Option String × Option Nat :=
  (complaint.field, complaint.index)

namespace Settings

/-- What the value of a field should be. -/
inductive Shape
  | single (expected : Expected)
  /-- The value may also be null. -/
  | optional (expected : Expected)
  /-- The value is a list, and every item of it should be this. -/
  | listOf (expected : Expected)

/-- The fields of a table of settings, in the order in which they are declared. -/
def declared : List (String × Shape) :=
  [("interp", .single .text), ("namespace", .single .text),
    ("object_systems", .listOf .systemName), ("packages", .listOf .text),
    ("startup", .listOf .path), ("history_file", .optional .path), ("debug_log", .optional .path)]

/-- A value of a wrong type in the value of a field: its place, if it is an item of a list, and what
it should have been. -/
inductive Shape.Mistyped : Shape → Data → Option Nat → Expected → Prop
  | single {expected : Expected} {data : Data} : ¬ expected.Fits data →
      Mistyped (.single expected) data none expected
  | optional {expected : Expected} {data : Data} : data ≠ .null → ¬ expected.Fits data →
      Mistyped (.optional expected) data none expected
  | noList {expected : Expected} {data : Data} : ¬ Expected.Fits .list data →
      Mistyped (.listOf expected) data none .list
  | item {expected : Expected} {items : List Data} {i : Nat} {data : Data} :
      items[i]? = some data → ¬ expected.Fits data →
      Mistyped (.listOf expected) (.list items) (some i) expected

/-- A path, or a list of nothing but paths, that asks for the home directory of a user whom there
cannot be. -/
inductive Shape.Misnamed : Shape → Data → Prop
  | optional {s : String} : ¬ Expected.Fits .home (.text s) → Misnamed (.optional .path) (.text s)
  | listOf {data : Data} {texts : List String} {s : String} : data.texts? = some texts →
      s ∈ texts → ¬ Expected.Fits .home (.text s) → Misnamed (.listOf .path) data

/-- A bad value in the value of a field. A list that asks for such users is one bad value, however
many of them it asks for. -/
inductive Shape.Wrong (shape : Shape) (data : Data) : Option Nat → Expected → Prop
  | mistyped {index : Option Nat} {expected : Expected} : shape.Mistyped data index expected →
      Wrong shape data index expected
  | misnamed : shape.Misnamed data → Wrong shape data none .home

/-- A complaint about a bad value in the value of a field of this name. -/
def FaultOf (name : String) (shape : Shape) (data : Data) (complaint : Complaint) : Prop :=
  complaint.field = some name ∧ shape.Wrong data complaint.index complaint.expected

/-- A complaint about a bad value in a field that is there. -/
def FaultIn (entries : List (String × Data)) (declaration : String × Shape)
    (complaint : Complaint) : Prop :=
  ∃ data, entries.lookup declaration.1 = some data ∧
    FaultOf declaration.1 declaration.2 data complaint

/-- A complaint about a bad value in one of some fields. -/
def FaultAmong (entries : List (String × Data)) (declarations : List (String × Shape))
    (complaint : Complaint) : Prop :=
  ∃ declaration ∈ declarations, FaultIn entries declaration complaint

/-- A complaint about a value of a wrong type in the value of a field of this name. -/
def MistypedOf (name : String) (shape : Shape) (data : Data) (complaint : Complaint) : Prop :=
  complaint.field = some name ∧ shape.Mistyped data complaint.index complaint.expected

/-- A complaint about a bad item of a list whose first item is at a certain place. -/
def FaultFrom (name : String) (expected : Expected) (start : Nat) (found : List Data)
    (complaint : Complaint) : Prop :=
  ∃ i data, found[i]? = some data ∧ ¬ expected.Fits data ∧
    complaint = ⟨some name, some (start + i), expected⟩

/-- The place of a field among those declared. -/
def rank (name : String) : Nat :=
  (declared.map Prod.fst).idxOf name

/-- Of two complaints the first is about a field declared earlier, or about an earlier item of the
same list. -/
inductive Precedes : Complaint → Complaint → Prop
  | field {first second : Complaint} {earlier later : String} : first.field = some earlier →
      second.field = some later → rank earlier < rank later → Precedes first second
  | item {first second : Complaint} {i j : Nat} : first.field = second.field →
      first.index = some i → second.index = some j → i < j → Precedes first second

theorem Precedes.place_ne {first second : Complaint} (h : Precedes first second) :
    first.place ≠ second.place := by
  intro hplace
  obtain ⟨hfield, hindex⟩ := Prod.mk.inj hplace
  cases h with
  | field hfirst hsecond hrank =>
      obtain rfl := Option.some.inj (hfirst.symm.trans (hfield.trans hsecond))
      exact Nat.lt_irrefl _ hrank
  | item _ hfirst hsecond hlt =>
      obtain rfl := Option.some.inj (hfirst.symm.trans (hindex.trans hsecond))
      exact Nat.lt_irrefl _ hlt

/-- Complaints in order are about different places. -/
theorem nodup_place {complaints : List Complaint} (h : complaints.Pairwise Precedes) :
    (complaints.map Complaint.place).Nodup :=
  List.pairwise_map.mpr (h.imp Precedes.place_ne)

end Settings

/-! ## Checks that tell all -/

namespace Checked

open Settings

variable {α β : Type} {P Q : Complaint → Prop}

/-- A check complains of all that has a property and of nothing else, each once and in order, unless
it ends early. -/
inductive Tells (P : Complaint → Prop) : Checked α → Prop
  | good (a : α) : (∀ complaint, ¬ P complaint) → Tells P (.good a)
  | bad {complaints : List Complaint} : complaints ≠ [] →
      (∀ complaint, complaint ∈ complaints ↔ P complaint) → complaints.Pairwise Precedes →
      Tells P (.bad complaints)
  | homeless : Tells P .homeless

theorem tells_bad_single {only : Complaint} (h : ∀ complaint, P complaint ↔ complaint = only) :
    (bad [only] : Checked α).Tells P :=
  .bad (by simp) (by simp [h]) (by simp)

theorem Tells.congr {x : Checked α} (hx : x.Tells P) (h : ∀ complaint, P complaint ↔ Q complaint) :
    x.Tells Q := by
  obtain rfl : P = Q := funext fun complaint => propext (h complaint)
  exact hx

theorem Tells.map {x : Checked α} (hx : x.Tells P) (f : α → β) : (f <$> x).Tells P := by
  cases hx with
  | good a hnone => exact .good (f a) hnone
  | bad hne hmem horder => exact .bad hne hmem horder
  | homeless => exact .homeless

/-- Two checks tell what both of them tell, if what the first tells comes first. -/
theorem Tells.seq {f : Checked (α → β)} {x : Checked α} (hf : f.Tells P) (hx : x.Tells Q)
    (horder : ∀ first second, P first → Q second → Precedes first second) :
    (f <*> x).Tells fun complaint => P complaint ∨ Q complaint := by
  cases hf with
  | homeless => cases x <;> exact .homeless
  | good g hnone =>
      cases hx with
      | homeless => exact .homeless
      | good a hnone' => exact .good (g a) fun complaint => not_or.mpr ⟨hnone _, hnone' _⟩
      | bad hne hmem hsorted =>
          refine .bad hne (fun complaint => ?_) hsorted
          rw [hmem, or_iff_right (hnone complaint)]
  | @bad complaints hne hmem hsorted =>
      cases hx with
      | homeless => exact .homeless
      | good a hnone =>
          refine .bad hne (fun complaint => ?_) hsorted
          rw [hmem, or_iff_left (hnone complaint)]
      | @bad later hne' hmem' hsorted' =>
          -- only here do complaints of both meet
          refine .bad (by simp [hne]) (fun complaint => ?_) ?_
          · rw [List.mem_append, hmem, hmem']
          · rw [List.pairwise_append]
            refine ⟨hsorted, hsorted', fun first hfirst second hsecond => ?_⟩
            exact horder first second ((hmem first).mp hfirst) ((hmem' second).mp hsecond)

end Checked

namespace Settings

/-! ## Which values are wrong -/

theorem mistyped_single_iff {expected wanted : Expected} {data : Data} {index : Option Nat} :
    (Shape.single expected).Mistyped data index wanted ↔
      ¬ expected.Fits data ∧ index = none ∧ wanted = expected := by
  constructor
  · rintro ⟨⟩
    exact ⟨‹_›, rfl, rfl⟩
  · rintro ⟨hbad, rfl, rfl⟩
    exact .single hbad

theorem mistyped_optional_iff {expected wanted : Expected} {data : Data} {index : Option Nat} :
    (Shape.optional expected).Mistyped data index wanted ↔
      (data ≠ .null ∧ ¬ expected.Fits data) ∧ index = none ∧ wanted = expected := by
  constructor
  · rintro ⟨⟩
    exact ⟨⟨‹_›, ‹_›⟩, rfl, rfl⟩
  · rintro ⟨⟨hnull, hbad⟩, rfl, rfl⟩
    exact .optional hnull hbad

theorem mistyped_listOf_iff {expected wanted : Expected} {items : List Data} {index : Option Nat} :
    (Shape.listOf expected).Mistyped (.list items) index wanted ↔
      ∃ i data, items[i]? = some data ∧ ¬ expected.Fits data ∧ index = some i ∧
        wanted = expected := by
  constructor
  · rintro (_ | _ | hlist | ⟨hitem, hbad⟩)
    · exact absurd (.list items) hlist
    · exact ⟨_, _, hitem, hbad, rfl, rfl⟩
  · rintro ⟨i, data, hitem, hbad, rfl, rfl⟩
    exact .item hitem hbad

theorem text?_eq_none_iff (data : Data) : data.text? = none ↔ ¬ Expected.Fits .text data := by
  cases data with
  | text s => exact iff_of_false nofun (not_not_intro (.text s))
  | _ => exact iff_of_true rfl nofun

theorem path?_eq_none_iff (data : Data) : path? data = none ↔ ¬ Expected.Fits .path data := by
  cases data with
  | text s => exact iff_of_false nofun (not_not_intro (.path s))
  | _ => exact iff_of_true rfl nofun

theorem optionalPath?_eq_none_iff (data : Data) :
    optionalPath? data = none ↔ data ≠ .null ∧ ¬ Expected.Fits .path data := by
  cases data with
  | null => exact iff_of_false nofun (fun h => h.1 rfl)
  | text s => exact iff_of_false nofun (fun h => h.2 (.path s))
  | _ => exact iff_of_true rfl ⟨nofun, nofun⟩

theorem system?_eq_none_iff (data : Data) :
    system? data = none ↔ ¬ Expected.Fits .systemName data := by
  cases data with
  | text s =>
      change ObjectSystem.ofName? s = none ↔ _
      constructor
      · rintro hnone ⟨system⟩
        rw [ObjectSystem.ofName?_name] at hnone
        cases hnone
      · intro hbad
        by_contra hsome
        obtain ⟨system, hsystem⟩ := Option.ne_none_iff_exists'.mp hsome
        obtain rfl := ObjectSystem.name_of_ofName? hsystem
        exact hbad (.systemName system)
  | _ => exact iff_of_true rfl nofun

theorem faultFrom_cons {name : String} {expected : Expected} {start : Nat} {item : Data}
    {rest : List Data} {complaint : Complaint} :
    FaultFrom name expected start (item :: rest) complaint ↔
      (¬ expected.Fits item ∧ complaint = ⟨some name, some start, expected⟩) ∨
        FaultFrom name expected (start + 1) rest complaint := by
  constructor
  · rintro ⟨i, data, hitem, hbad, rfl⟩
    cases i with
    | zero =>
        obtain rfl : item = data := by simpa using hitem
        exact .inl ⟨hbad, rfl⟩
    | succ i => exact .inr ⟨i, data, by simpa using hitem, hbad, by simp; omega⟩
  · rintro (⟨hbad, rfl⟩ | ⟨i, data, hitem, hbad, rfl⟩)
    · exact ⟨0, item, rfl, hbad, rfl⟩
    · exact ⟨i + 1, data, by simpa using hitem, hbad, by simp; omega⟩

end Settings

/-! ## Values of a field -/

namespace Checked

open Settings

variable {α β : Type} {read? : Data → Option α} {expected : Expected} (name : String)

theorem tells_value {shape : Shape} {data : Data}
    (hmistyped : ∀ index wanted, shape.Mistyped data index wanted ↔
      read? data = none ∧ index = none ∧ wanted = expected) :
    (value read? expected name data).Tells (MistypedOf name shape data) := by
  unfold value
  split
  · next a hread =>
    refine .good a fun complaint hfault => ?_
    have hnone := ((hmistyped _ _).mp hfault.2).1
    cases hread.symm.trans hnone
  · next hread =>
    refine tells_bad_single fun complaint => ?_
    obtain ⟨field, index, wanted⟩ := complaint
    simp [MistypedOf, hmistyped, hread]

section

variable (hread : ∀ data, read? data = none ↔ ¬ expected.Fits data)
include hread

theorem tells_single (data : Data) :
    (value read? expected name data).Tells (MistypedOf name (.single expected) data) :=
  tells_value name fun _ _ => by rw [mistyped_single_iff, hread]

/-- The items of a list are told of from the first on. -/
theorem tells_items (start : Nat) (found : List Data) :
    (items read? expected name start found).Tells (FaultFrom name expected start found) := by
  induction found generalizing start with
  | nil => exact .good [] (by simp [FaultFrom])
  | cons item rest ih =>
      -- the first item comes before all later ones, which are counted from one place further
      rw [items]
      refine Tells.congr ?_ fun _ => faultFrom_cons.symm
      refine Tells.seq (Tells.map ?_ List.cons) (ih (start + 1)) ?_
      · cases hitem : read? item with
        | some a =>
            refine .good a fun complaint hfault => ?_
            cases hitem.symm.trans ((hread item).mpr hfault.1)
        | none => exact tells_bad_single fun _ => and_iff_right ((hread item).mp hitem)
      · rintro first second ⟨-, rfl⟩ ⟨i, data, -, -, rfl⟩
        exact .item rfl rfl rfl (by omega)

theorem tells_list (data : Data) :
    (list read? expected name data).Tells (MistypedOf name (.listOf expected) data) := by
  cases data with
  | list found =>
      refine (tells_items name hread 0 found).congr fun complaint => ?_
      obtain ⟨field, index, wanted⟩ := complaint
      simp only [FaultFrom, MistypedOf, mistyped_listOf_iff, Nat.zero_add, Complaint.mk.injEq]
      constructor
      · rintro ⟨i, data, hitem, hbad, hfield, hindex, hwanted⟩
        exact ⟨hfield, i, data, hitem, hbad, hindex, hwanted⟩
      · rintro ⟨hfield, i, data, hitem, hbad, hindex, hwanted⟩
        exact ⟨i, data, hitem, hbad, hfield, hindex, hwanted⟩
  | _ =>
      refine tells_bad_single fun complaint => ?_
      obtain ⟨field, index, wanted⟩ := complaint
      simp only [MistypedOf, Complaint.mk.injEq]
      constructor
      · rintro ⟨hfield, ⟨⟩⟩
        exact ⟨hfield, rfl, rfl⟩
      · rintro ⟨hfield, rfl, rfl⟩
        exact ⟨hfield, .noList nofun⟩

end

end Checked

/-! ## Tables of settings -/

namespace Settings

variable {entries : List (String × Data)} {α β : Type}

/-- A bad value is of a wrong type, or of the right type with a path that cannot be looked up. -/
theorem faultOf_iff {name : String} {shape : Shape} {data : Data} {complaint : Complaint} :
    FaultOf name shape data complaint ↔
      MistypedOf name shape data complaint ∨
        shape.Misnamed data ∧ complaint = ⟨some name, none, .home⟩ := by
  obtain ⟨field, index, expected⟩ := complaint
  simp only [FaultOf, MistypedOf, Complaint.mk.injEq]
  constructor
  · rintro ⟨hfield, hmistyped | hmisnamed⟩
    · exact .inl ⟨hfield, hmistyped⟩
    · exact .inr ⟨hmisnamed, hfield, rfl, rfl⟩
  · rintro (⟨hfield, hmistyped⟩ | ⟨hmisnamed, hfield, rfl, rfl⟩)
    · exact ⟨hfield, .mistyped hmistyped⟩
    · exact ⟨hfield, .misnamed hmisnamed⟩

/-- A value that is looked at for the names of users has the right type. -/
theorem not_mistypedOf_of_misnamed {shape : Shape} {data : Data} (h : shape.Misnamed data)
    (name : String) (complaint : Complaint) : ¬ MistypedOf name shape data complaint := by
  cases h with
  | @optional s =>
      rintro ⟨-, hmistyped⟩
      exact (mistyped_optional_iff.mp hmistyped).1.2 (.path s)
  | listOf htexts =>
      have hlist := Checked.tells_list name path?_eq_none_iff data
      rw [(list_path?_eq_good_iff name data _).mpr ⟨_, htexts, rfl⟩] at hlist
      cases hlist with
      | good _ hnone => exact hnone complaint

theorem not_fits_home_iff {s : String} :
    ¬ Expected.Fits .home (.text s) ↔ (Path.ofString s).Unnameable := by
  constructor
  · intro hnot
    by_contra hnameable
    exact hnot (.home hnameable)
  · rintro hunnameable (_ | _ | _ | _ | hnameable)
    exact hnameable hunnameable

/-- If a check tells of all values of a wrong type, then it tells of all bad values once it has
looked for home directories as well. -/
theorem tells_housed {name : String} {shape : Shape} {data : Data}
    {x : Checked (Except HomeFault α)} (hx : x.Tells (MistypedOf name shape data))
    (hok : ∀ a, x = .good (.ok a) → ¬ shape.Misnamed data)
    (hnul : x = .good (.error .holdsNul) → shape.Misnamed data) :
    (x.housed name).Tells (FaultOf name shape data) := by
  cases hx with
  | good found hnone =>
      cases found with
      | ok a => exact .good a fun complaint => by simp [faultOf_iff, hnone, hok a rfl]
      | error fault =>
          cases fault with
          | unknown => exact .homeless
          | holdsNul =>
              have hmisnamed := hnul rfl
              refine Checked.tells_bad_single fun complaint => ?_
              simp [faultOf_iff, hnone, hmisnamed]
  | @bad complaints hne hmem horder =>
      have hnot : ¬ shape.Misnamed data := by
        intro hmisnamed
        obtain ⟨first, hfirst⟩ := List.exists_mem_of_ne_nil complaints hne
        exact not_mistypedOf_of_misnamed hmisnamed name first ((hmem first).mp hfirst)
      exact .bad hne (fun complaint => by simp [faultOf_iff, hmem, hnot]) horder
  | homeless => exact .homeless

/-- Where there is no path, all that can be wrong is the type. -/
theorem tells_faultOf {name : String} {shape : Shape} {data : Data} {x : Checked α}
    (hx : x.Tells (MistypedOf name shape data)) (h : ¬ shape.Misnamed data) :
    x.Tells (FaultOf name shape data) :=
  hx.congr fun complaint => by simp [faultOf_iff, h]

theorem tells_startupPaths (homes : Homes) (name : String) (data : Data) :
    (startupPaths homes name data).Tells (FaultOf name (.listOf .path) data) := by
  refine tells_housed ((Checked.tells_list name path?_eq_none_iff data).map _) ?_ ?_
  · rintro expanded hgood (_ | ⟨htexts, hs, hhome⟩)
    obtain ⟨paths, hpaths, hexpanded⟩ := (Checked.map_eq_good_iff _ _ _).mp hgood
    obtain ⟨texts, htexts', rfl⟩ := (list_path?_eq_good_iff name data paths).mp hpaths
    obtain rfl := Option.some.inj (htexts.symm.trans htexts')
    exact not_unnameable_of_mapM_expand hexpanded _ (List.mem_map_of_mem hs)
      (not_fits_home_iff.mp hhome)
  · intro hgood
    obtain ⟨paths, hpaths, hfails⟩ := (Checked.map_eq_good_iff _ _ _).mp hgood
    obtain ⟨texts, htexts, rfl⟩ := (list_path?_eq_good_iff name data paths).mp hpaths
    obtain ⟨before, path, after, hsplit, -, hpath⟩ := exists_of_mapM_eq_error hfails
    obtain ⟨s, hs, rfl⟩ := List.mem_map.mp (hsplit ▸ List.mem_append_right before (.head after))
    exact .listOf htexts hs (not_fits_home_iff.mpr (Path.expand_eq_holdsNul_iff.mp hpath))

theorem tells_singlePath (homes : Homes) (name : String) (data : Data) :
    (singlePath homes name data).Tells (FaultOf name (.optional .path) data) := by
  have hvalue : (Checked.value optionalPath? .path name data).Tells
      (MistypedOf name (.optional .path) data) :=
    Checked.tells_value name fun _ _ => by rw [mistyped_optional_iff, optionalPath?_eq_none_iff]
  refine tells_housed (hvalue.map _) ?_ ?_
  · rintro expanded hgood (@⟨s, hhome⟩ | _)
    obtain ⟨path, hpath, hexpanded⟩ := (Checked.map_eq_good_iff _ _ _).mp hgood
    rw [Checked.value_eq_good_iff] at hpath
    obtain rfl := Option.some.inj hpath
    have hexpand : (Path.ofString s).expand homes = .error .holdsNul :=
      Path.expand_eq_holdsNul_iff.mpr (not_fits_home_iff.mp hhome)
    simp [hexpand] at hexpanded
  · intro hgood
    obtain ⟨path, hpath, hfails⟩ := (Checked.map_eq_good_iff _ _ _).mp hgood
    rw [Checked.value_eq_good_iff] at hpath
    cases path with
    | none => cases hfails
    | some path =>
        have hexpand : path.expand homes = .error .holdsNul := by
          cases hexpand : path.expand homes with
          | ok expanded => simp [hexpand] at hfails
          | error fault => simpa [hexpand] using hfails
        cases data with
        | text s =>
            obtain rfl := Option.some.inj (Option.some.inj hpath)
            exact .optional (not_fits_home_iff.mpr (Path.expand_eq_holdsNul_iff.mp hexpand))
        | _ => cases hpath

theorem tells_field (entries : List (String × Data)) (name : String) (shape : Shape) (default : α)
    {check : String → Data → Checked α}
    (hcheck : ∀ data, (check name data).Tells (FaultOf name shape data)) :
    (field entries name default check).Tells (FaultIn entries (name, shape)) := by
  unfold field
  split
  · next hnone =>
    refine .good default ?_
    rintro complaint ⟨data, hdata, -⟩
    cases hnone.symm.trans hdata
  · next data hdata =>
    refine (hcheck data).congr fun complaint => ?_
    simp [FaultIn, hdata]

/-- A field is checked after those that are declared before it. -/
theorem tells_seq_field {before : List (String × Shape)} {declaration : String × Shape}
    {f : Checked (α → β)} {x : Checked α} (hf : f.Tells (FaultAmong entries before))
    (hx : x.Tells (FaultIn entries declaration))
    (hrank : ∀ earlier ∈ before, rank earlier.1 < rank declaration.1) :
    (f <*> x).Tells (FaultAmong entries (before ++ [declaration])) := by
  refine (hf.seq hx ?_).congr fun complaint => ?_
  · rintro first second ⟨earlier, hearlier, _, -, hfirst, -⟩ ⟨_, -, hsecond, -⟩
    exact .field hfirst hsecond (hrank earlier hearlier)
  · simp [FaultAmong, or_and_right, exists_or]

/-- Checking a table tells of the bad values of the fields declared, and of nothing else. -/
theorem tells_ofTable (homes : Homes) (entries : List (String × Data)) :
    (ofTable homes entries).Tells (FaultAmong entries declared) := by
  have hinterp := tells_field entries "interp" (.single .text) ""
    fun data => tells_faultOf (Checked.tells_single "interp" text?_eq_none_iff data) nofun
  have hns : (field entries "namespace" Namespace.root fun name data =>
      (fun ns => Namespace.orRoot (some ns)) <$> Checked.value Data.text? .text name data).Tells
        (FaultIn entries ("namespace", .single .text)) :=
    tells_field entries "namespace" (.single .text) Namespace.root fun data =>
      tells_faultOf ((Checked.tells_single "namespace" text?_eq_none_iff data).map _) nofun
  have hsystems := tells_field entries "object_systems" (.listOf .systemName) ObjectSystem.usual
    fun data => tells_faultOf (Checked.tells_list "object_systems" system?_eq_none_iff data) nofun
  have hpackages := tells_field entries "packages" (.listOf .text) []
    fun data => tells_faultOf (Checked.tells_list "packages" text?_eq_none_iff data) nofun
  have hstartup := tells_field entries "startup" (.listOf .path) []
    (tells_startupPaths homes "startup")
  have hhistory := tells_field entries "history_file" (.optional .path) none
    (tells_singlePath homes "history_file")
  have hdebugLog := tells_field entries "debug_log" (.optional .path) none
    (tells_singlePath homes "debug_log")
  have hfirst : (Settings.mk <$> field entries "interp" "" (.value Data.text? .text)).Tells
      (FaultAmong entries [("interp", .single .text)]) :=
    (hinterp.map Settings.mk).congr fun complaint => by simp [FaultAmong]
  have hall := tells_seq_field hfirst hns (by decide)
  have hall := tells_seq_field hall hsystems (by decide)
  have hall := tells_seq_field hall hpackages (by decide)
  have hall := tells_seq_field hall hstartup (by decide)
  have hall := tells_seq_field hall hhistory (by decide)
  exact tells_seq_field hall hdebugLog (by decide)

end Settings

end TabCompletion
