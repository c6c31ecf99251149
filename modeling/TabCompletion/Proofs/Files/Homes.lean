import Mathlib.Data.List.DropRight
import TabCompletion.Files.Homes

/-! # Expanding paths

A path that starts in a home directory stands for one below the directory that is given as the home,
if any is. Other paths stand for themselves. -/

namespace TabCompletion

namespace Homes

/-- What is given as the home directory of a user. One's own is the value of the variable; only
where that is not set does the account count. -/
inductive Gives (homes : Homes) : String → String → Prop
  | named {home : String} : homes.named = some home → Gives homes "" home
  | account {home : String} : homes.named = none → homes.account = some home → Gives homes "" home
  | ofUser {user home : String} : user ≠ "" → homes.ofUser user = some home → Gives homes user home

variable {homes : Homes} {user : String}

theorem given?_eq_some_iff {home : String} :
    homes.given? user = some home ↔ homes.Gives user home := by
  unfold given?
  constructor
  · intro h
    split at h
    · next hself =>
      subst hself
      cases hnamed : homes.named with
      | none => exact .account hnamed (by simpa [hnamed] using h)
      | some own => exact .named (by simpa [hnamed] using h)
    · next hother => exact .ofUser hother h
  · rintro (hnamed | ⟨hnone, haccount⟩ | ⟨hother, huser⟩)
    · simp [hnamed]
    · simp [hnone, haccount]
    · rwa [if_neg hother]

theorem beginsWith_tilde_iff (text : String) :
    Text.beginsWith "~" text = true ↔ ∃ rest, text.toList = '~' :: rest := by
  rw [Text.beginsWith_iff]
  constructor
  · rintro ⟨rest, hrest⟩
    exact ⟨rest, hrest.symm⟩
  · rintro ⟨rest, hrest⟩
    exact ⟨rest, hrest.symm⟩

/-- Slashes at the end of the home directory are of no account for how it starts. -/
theorem beginsWith_tilde_directoryOf (home : String) :
    Text.beginsWith "~" (directoryOf home) = Text.beginsWith "~" home := by
  have hkept : (home.toList.reverse.dropWhile (· == '/')).reverse =
      home.toList.rdropWhile (· == '/') := rfl
  have hstart := List.rdropWhile_prefix (· == '/') home.toList
  rw [Bool.eq_iff_iff, beginsWith_tilde_iff, beginsWith_tilde_iff, directoryOf, hkept]
  split
  · next hnil =>
    constructor
    · rintro ⟨rest, hrest⟩
      exact absurd hrest (by simp)
    · rintro ⟨rest, hrest⟩
      rw [List.rdropWhile_eq_nil_iff] at hnil
      exact absurd (hnil '~' (by simp [hrest])) (by decide)
  · next hne =>
    rw [String.toList_ofList]
    constructor
    · rintro ⟨rest, hrest⟩
      rw [hrest] at hstart
      obtain ⟨more, hmore⟩ := hstart
      exact ⟨rest ++ more, hmore.symm⟩
    · rintro ⟨rest, hrest⟩
      cases hdropped : home.toList.rdropWhile (· == '/') with
      | nil => exact absurd hdropped hne
      | cons c cs =>
          rw [hdropped, hrest, List.cons_prefix_cons] at hstart
          exact ⟨cs, by rw [hstart.1]⟩

variable {directory : String}

theorem directory_of_nul (h : '\x00' ∈ user.toList) : homes.directory user = .error .holdsNul :=
  if_pos (by simpa using h)

theorem directory_of_no_nul (h : '\x00' ∉ user.toList) :
    homes.directory user =
      match homes.given? user with
      | none => .error .unknown
      | some home =>
        if Text.beginsWith "~" home then .error .unknown else .ok (directoryOf home) := by
  rw [directory, if_neg (by simpa using h)]
  cases homes.given? user with
  | none => rfl
  | some home => simp only [beginsWith_tilde_directoryOf]

theorem directory_eq_unknown_iff :
    homes.directory user = .error .unknown ↔
      '\x00' ∉ user.toList ∧ ∀ home, homes.Gives user home → Text.beginsWith "~" home = true := by
  by_cases hnul : '\x00' ∈ user.toList
  · simp [directory_of_nul hnul, hnul]
  · simp only [directory_of_no_nul hnul, ← given?_eq_some_iff, hnul, not_false_eq_true, true_and]
    cases homes.given? user with
    | none => simp
    | some home => cases hhome : Text.beginsWith "~" home <;> simp [hhome]

theorem directory_eq_holdsNul_iff :
    homes.directory user = .error .holdsNul ↔ '\x00' ∈ user.toList := by
  by_cases hnul : '\x00' ∈ user.toList
  · simp [directory_of_nul hnul, hnul]
  · simp only [directory_of_no_nul hnul, hnul, iff_false]
    split
    · nofun
    · split <;> nofun

theorem directory_eq_ok_iff :
    homes.directory user = .ok directory ↔
      '\x00' ∉ user.toList ∧ ∃ home, homes.Gives user home ∧ Text.beginsWith "~" home = false ∧
        directoryOf home = directory := by
  by_cases hnul : '\x00' ∈ user.toList
  · simp [directory_of_nul hnul, hnul]
  · simp only [directory_of_no_nul hnul, ← given?_eq_some_iff, hnul, not_false_eq_true, true_and]
    cases homes.given? user with
    | none => simp
    | some home => cases hhome : Text.beginsWith "~" home <;> simp [hhome]

end Homes

namespace Path

/-- The path of these parts in the home directory of a user. -/
def inHome (user : String) (rest : List String) : Path :=
  ⟨.here, ("~" ++ user) :: rest⟩

/-- A path in a home directory that is not known: there is no such user, or what is given as the
home starts with `~` again. -/
inductive Homeless (homes : Homes) : Path → Prop
  | unknown {user : String} {rest : List String} : '\x00' ∉ user.toList →
      (∀ home, homes.Gives user home → Text.beginsWith "~" home = true) →
      Homeless homes (inHome user rest)

/-- A path in the home directory of a user whose name holds a NUL character. -/
inductive Unnameable : Path → Prop
  | holdsNul {user : String} {rest : List String} : '\x00' ∈ user.toList →
      Unnameable (inHome user rest)

/-- What a path stands for. -/
inductive Expands (homes : Homes) : Path → Path → Prop
  | kept {path : Path} : (∀ user rest, path ≠ inHome user rest) → Expands homes path path
  | housed {user home : String} {rest : List String} : '\x00' ∉ user.toList →
      homes.Gives user home → Text.beginsWith "~" home = false →
      Expands homes (inHome user rest) ((ofString (Homes.directoryOf home)).append rest)

variable {homes : Homes} {path expanded : Path}

theorem housed?_inHome (user : String) (rest : List String) :
    (inHome user rest).housed? = some (user, rest) := by
  simp [housed?, inHome]

theorem housed?_eq_none (h : ∀ user rest, path ≠ inHome user rest) :
    path.housed? = none := by
  obtain ⟨anchor, parts⟩ := path
  unfold housed?
  split
  · next first rest hanchor hparts =>
    split
    · next user hfirst =>
      obtain rfl : anchor = .here := hanchor
      obtain rfl : parts = first :: rest := hparts
      refine absurd ?_ (h (String.ofList user) rest)
      simp [inHome, ← String.toList_inj, hfirst]
    · rfl
  · rfl

theorem expand_inHome (homes : Homes) (user : String) (rest : List String) :
    (inHome user rest).expand homes =
      (homes.directory user).map fun home => (ofString home).append rest := by
  rw [expand, housed?_inHome]
  rfl

theorem expand_kept (h : ∀ user rest, path ≠ inHome user rest) :
    path.expand homes = .ok path := by
  rw [expand, housed?_eq_none h]

/-- A path that cannot be expanded is in a home directory that cannot be used. -/
theorem exists_of_expand_eq_error {fault : HomeFault} (h : path.expand homes = .error fault) :
    ∃ user rest, path = inHome user rest ∧ homes.directory user = .error fault := by
  by_cases hhoused : ∃ user rest, path = inHome user rest
  · obtain ⟨user, rest, rfl⟩ := hhoused
    rw [expand_inHome] at h
    refine ⟨user, rest, rfl, ?_⟩
    cases hdirectory : homes.directory user with
    | ok directory => simp [hdirectory, Except.map] at h
    | error other => simpa [hdirectory, Except.map] using h
  · push Not at hhoused
    cases (expand_kept hhoused).symm.trans h

theorem expand_eq_unknown_iff : path.expand homes = .error .unknown ↔ path.Homeless homes := by
  constructor
  · intro h
    obtain ⟨user, rest, rfl, hunknown⟩ := exists_of_expand_eq_error h
    obtain ⟨hnul, hhome⟩ := Homes.directory_eq_unknown_iff.mp hunknown
    exact .unknown hnul hhome
  · rintro ⟨hnul, hhome⟩
    rw [expand_inHome, Homes.directory_eq_unknown_iff.mpr ⟨hnul, hhome⟩]
    rfl

theorem expand_eq_holdsNul_iff : path.expand homes = .error .holdsNul ↔ path.Unnameable := by
  constructor
  · intro h
    obtain ⟨user, rest, rfl, hnul⟩ := exists_of_expand_eq_error h
    exact .holdsNul (Homes.directory_eq_holdsNul_iff.mp hnul)
  · rintro ⟨hnul⟩
    rw [expand_inHome, Homes.directory_of_nul hnul]
    rfl

theorem expand_eq_ok_iff : path.expand homes = .ok expanded ↔ path.Expands homes expanded := by
  constructor
  · intro h
    by_cases hhoused : ∃ user rest, path = inHome user rest
    · obtain ⟨user, rest, rfl⟩ := hhoused
      rw [expand_inHome] at h
      cases hdirectory : homes.directory user with
      | error fault => simp [hdirectory, Except.map] at h
      | ok directory =>
          obtain ⟨hnul, home, hgives, hhome, rfl⟩ := Homes.directory_eq_ok_iff.mp hdirectory
          rw [hdirectory] at h
          obtain rfl := Except.ok.inj h
          exact .housed hnul hgives hhome
    · push Not at hhoused
      obtain rfl := Except.ok.inj ((expand_kept hhoused).symm.trans h)
      exact .kept hhoused
  · rintro (hkept | ⟨hnul, hgives, hhome⟩)
    · exact expand_kept hkept
    · rw [expand_inHome, Homes.directory_eq_ok_iff.mpr ⟨hnul, _, hgives, hhome, rfl⟩]
      rfl

theorem Expands.not_unnameable (h : path.Expands homes expanded) : ¬ path.Unnameable := by
  intro hunnameable
  rw [← expand_eq_ok_iff, expand_eq_holdsNul_iff.mpr hunnameable] at h
  cases h

end Path

end TabCompletion
