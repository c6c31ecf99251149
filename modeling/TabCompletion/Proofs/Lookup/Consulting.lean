import TabCompletion.Completer
import TabCompletion.Proofs.Dialogue.Consulting

/-! # Lookups consult

Whatever the replies, a lookup puts queries of a few forms about its own scope, announces each of
them, and fails only where one of them does. Looking for methods in an object system puts only
queries that belong to that system. -/

namespace TabCompletion

open Dialogue

variable (scope : Scope)

namespace Lookup

/-- The queries that lookups put. -/
inductive Puts : Kind → List String → Prop
  | commands (pattern : String) : Puts .names ["::info", "commands", pattern]
  | vars (pattern : String) : Puts .names ["::info", "vars", pattern]
  | elements (array pattern : String) : Puts .names ["::array", "names", array, pattern]
  | reading (holder : String) : Puts .value ["::set", holder]
  | isObject (object : String) : Puts .flag ["::info", "object", "isa", "object", object]
  | ooMethods (object : String) : Puts .names ["::info", "object", "methods", object, "-all"]
  | isNsfObject (object : String) : Puts .flag ["::nsf::object::exists", object]
  | children (parent pattern : String) : Puts .names ["::namespace", "children", parent, pattern]
  | nsfMethods (object pattern : String) :
      Puts .names
        [object, "::nsf::methods::object::info::lookupmethods", "-callprotection", "public",
          "-path", "--", pattern]
  | xotclLoaded : Puts .flag ["::info", "exists", "::xotcl::version"]
  | isXotclObject (object : String) : Puts .flag ["::xotcl::Object", "isobject", object]
  | xotclMethods (object pattern : String) : Puts .names [object, "info", "methods", pattern]

/-- The queries that list commands, variables and the elements of arrays. -/
inductive Lists : Kind → List String → Prop
  | commands (pattern : String) : Lists .names ["::info", "commands", pattern]
  | vars (pattern : String) : Lists .names ["::info", "vars", pattern]
  | elements (array pattern : String) : Lists .names ["::array", "names", array, pattern]

/-- The queries that are put for one object system. What a variable holds is read anew for each. -/
inductive PutsFor : ObjectSystem.Tag → Kind → List String → Prop
  | reading (tag : ObjectSystem.Tag) (holder : String) : PutsFor tag .value ["::set", holder]
  | isObject (object : String) :
      PutsFor (.known .oo) .flag ["::info", "object", "isa", "object", object]
  | ooMethods (object : String) :
      PutsFor (.known .oo) .names ["::info", "object", "methods", object, "-all"]
  | commands (pattern : String) : PutsFor (.known .nsf) .names ["::info", "commands", pattern]
  | isNsfObject (object : String) : PutsFor (.known .nsf) .flag ["::nsf::object::exists", object]
  | children (parent pattern : String) :
      PutsFor (.known .nsf) .names ["::namespace", "children", parent, pattern]
  | nsfMethods (object pattern : String) :
      PutsFor (.known .nsf) .names
        [object, "::nsf::methods::object::info::lookupmethods", "-callprotection", "public",
          "-path", "--", pattern]
  | xotclLoaded : PutsFor (.known .xotcl) .flag ["::info", "exists", "::xotcl::version"]
  | isXotclObject (object : String) :
      PutsFor (.known .xotcl) .flag ["::xotcl::Object", "isobject", object]
  | xotclMethods (object pattern : String) :
      PutsFor (.known .xotcl) .names [object, "info", "methods", pattern]

/-- The queries that are put for one of several systems. -/
def PutsForAny (tags : List ObjectSystem.Tag) (kind : Kind) (words : List String) : Prop :=
  ∃ tag ∈ tags, PutsFor tag kind words

variable {kind : Kind} {words : List String}

theorem Lists.puts (h : Lists kind words) : Puts kind words := by
  cases h with
  | commands pattern => exact .commands pattern
  | vars pattern => exact .vars pattern
  | elements array pattern => exact .elements array pattern

theorem PutsFor.puts {tag : ObjectSystem.Tag} (h : PutsFor tag kind words) : Puts kind words := by
  cases h with
  | reading _ holder => exact .reading holder
  | isObject object => exact .isObject object
  | ooMethods object => exact .ooMethods object
  | commands pattern => exact .commands pattern
  | isNsfObject object => exact .isNsfObject object
  | children parent pattern => exact .children parent pattern
  | nsfMethods object pattern => exact .nsfMethods object pattern
  | xotclLoaded => exact .xotclLoaded
  | isXotclObject object => exact .isXotclObject object
  | xotclMethods object pattern => exact .xotclMethods object pattern

theorem PutsForAny.puts {tags : List ObjectSystem.Tag} (h : PutsForAny tags kind words) :
    Puts kind words := by
  obtain ⟨tag, -, hputs⟩ := h
  exact hputs.puts

/-- But for the reading of a variable, a query tells for which system it is put. -/
theorem PutsFor.unique {tag other : ObjectSystem.Tag} (h : PutsFor tag kind words)
    (hother : PutsFor other kind words) (hkind : kind ≠ .value) : tag = other := by
  -- the words of the two are told apart by an equation, which `simp` refutes where they differ
  obtain ⟨words', hwords⟩ : ∃ words', words' = words := ⟨words, rfl⟩
  rw [← hwords] at hother
  cases h <;> cases hother <;> simp at hwords hkind ⊢

theorem consults_commands (typed : String) : (commands scope typed).Consults scope Lists :=
  (consults_query scope (.commands _)).bind fun _ => consults_pure _ _ _

theorem consults_elements (typed array element : String) :
    (elements scope typed array element).Consults scope Lists := by
  refine (consults_query scope (.elements _ _)).bind fun found => ?_
  exact (consults_note (by simp)).bind fun _ => consults_pure _ _ _

theorem consults_vars (typed : String) : (vars scope typed).Consults scope Lists := by
  unfold vars
  split
  · exact consults_elements scope typed _ _
  · exact (consults_query scope (.vars _)).bind fun _ => consults_pure _ _ _

/-! ## Methods -/

theorem consults_objectName (receiver : Receiver) (tag : ObjectSystem.Tag) :
    (receiver.objectName scope).Consults scope (PutsFor tag) := by
  cases receiver with
  | named name => exact consults_pure _ _ name
  | heldBy holder => exact consults_query scope (.reading tag holder)

theorem consults_ooMethods (object typed : String) :
    (ooMethods scope object typed).Consults scope (PutsFor (.known .oo)) := by
  refine (consults_query scope (.isObject object)).bind fun known => ?_
  split
  · exact (consults_query scope (.ooMethods object)).bind fun _ => consults_pure _ _ _
  · exact consults_pure _ _ _

theorem consults_nsfLoaded : (nsfLoaded scope).Consults scope (PutsFor (.known .nsf)) :=
  (consults_query scope (.commands _)).bind fun _ => consults_pure _ _ _

theorem consults_nsfAbsolute (typed : String) :
    (nsfAbsolute scope typed).Consults scope (PutsFor (.known .nsf)) := by
  refine (consults_query scope (.commands _)).bind fun found => ?_
  exact (consults_query scope (.children _ _)).bind fun _ => consults_pure _ _ _

theorem consults_nsfMethods (object typed : String) :
    (nsfMethods scope object typed).Consults scope (PutsFor (.known .nsf)) := by
  refine (consults_nsfLoaded scope).bind fun loaded => ?_
  split
  · refine (consults_query scope (.isNsfObject object)).bind fun known => ?_
    split
    · split
      · exact consults_nsfAbsolute scope typed
      · exact consults_query scope (.nsfMethods object _)
    · exact consults_pure _ _ _
  · exact consults_pure _ _ _

theorem consults_xotclMethods (object typed : String) :
    (xotclMethods scope object typed).Consults scope (PutsFor (.known .xotcl)) := by
  refine (consults_query scope .xotclLoaded).bind fun loaded => ?_
  split
  · refine (consults_query scope (.isXotclObject object)).bind fun known => ?_
    split
    · exact consults_query scope (.xotclMethods object _)
    · exact consults_pure _ _ _
  · exact consults_pure _ _ _

theorem consults_unsupported (system : ObjectSystem) (tag : ObjectSystem.Tag) :
    (unsupported system).Consults scope (PutsFor tag) :=
  (consults_note (by simp)).bind fun _ => consults_pure _ _ _

theorem consults_candidates (object typed : String) (system : ObjectSystem) :
    (candidates scope object typed system).Consults scope (PutsFor (.known system)) := by
  cases system with
  | ensemble => exact consults_unsupported scope .ensemble _
  | oo => exact consults_ooMethods scope object typed
  | snit => exact consults_unsupported scope .snit _
  | nsf => exact consults_nsfMethods scope object typed
  | xotcl => exact consults_xotclMethods scope object typed

theorem consults_methodsOf (object typed : String) (tag : ObjectSystem.Tag) :
    (methodsOf scope object typed tag).Consults scope (PutsFor tag) := by
  cases tag with
  | known system =>
      exact (consults_candidates scope object typed system).bind fun _ => consults_pure _ _ _
  | unknown name => exact (consults_note (by simp)).bind fun _ => consults_pure _ _ _

theorem consults_methods (typed : String) (tag : ObjectSystem.Tag) (token : String) :
    (methods scope typed tag token).Consults scope (PutsFor tag) :=
  (consults_objectName scope _ tag).bind fun object => consults_methodsOf scope object typed tag

theorem consults_firstMethods (typed token : String) (tags : List ObjectSystem.Tag) :
    (firstMethods scope typed token tags).Consults scope (PutsForAny tags) := by
  induction tags with
  | nil => exact consults_pure _ _ _
  | cons tag rest ih =>
      have hfirst : (methods scope typed tag token).Consults scope (PutsForAny (tag :: rest)) :=
        (consults_methods scope typed tag token).mono fun _ _ h => ⟨tag, by simp, h⟩
      refine hfirst.bind fun offer => ?_
      split
      · refine ih.mono ?_
        rintro kind words ⟨later, hlater, h⟩
        exact ⟨later, List.mem_cons_of_mem tag hlater, h⟩
      · exact consults_pure _ _ offer

end Lookup

/-- The word of a draft is a method: it comes right after the receiver, and is no variable. -/
def Draft.NamesMethod (draft : Draft) : Prop :=
  draft.words.length = 1 ∧ draft.word.toList.head? ≠ some '$'

instance (draft : Draft) : Decidable draft.NamesMethod :=
  inferInstanceAs (Decidable (_ ∧ _))

namespace Completer

/-- The queries put to complete the word of a draft: for a method those for the systems to try, and
elsewhere those that list names. -/
def PutsAt (completer : Completer) (draft : Draft) (kind : Kind) (words : List String) : Prop :=
  (draft.NamesMethod → Lookup.PutsForAny (ObjectSystem.orUsual completer.systems) kind words) ∧
    (¬ draft.NamesMethod → Lookup.Lists kind words)

theorem PutsAt.puts {completer : Completer} {draft : Draft} {kind : Kind} {words : List String}
    (h : completer.PutsAt draft kind words) : Lookup.Puts kind words := by
  by_cases hnames : draft.NamesMethod
  · exact (h.1 hnames).puts
  · exact (h.2 hnames).puts

theorem consults_offer? (completer : Completer) (draft : Draft) :
    (completer.offer? scope draft).Consults scope (completer.PutsAt draft) := by
  unfold offer?
  split
  · next name hname =>
    have hnot : ¬ draft.NamesMethod := fun h => h.2 (by simp [hname])
    have hvars : (Lookup.vars scope (String.ofList name)).Consults scope (completer.PutsAt draft) :=
      (Lookup.consults_vars scope _).mono fun _ _ h => by simpa [PutsAt, hnot] using h
    exact hvars.bind fun _ => consults_pure _ _ _
  · next hother =>
    split
    · next hwords =>
      have hnot : ¬ draft.NamesMethod := fun h => by simpa [hwords] using h.1
      split
      · exact consults_pure _ _ none
      · refine ((Lookup.consults_commands scope _).mono fun _ _ h => ?_).map some
        simpa [PutsAt, hnot] using h
    · next receiver hwords =>
      have hnames : draft.NamesMethod := by
        refine ⟨by simp [hwords], fun hhead => ?_⟩
        obtain ⟨name, hname⟩ := List.head?_eq_some_iff.mp hhead
        exact hother name hname
      refine ((Lookup.consults_firstMethods scope _ _ _).mono fun _ _ h => ?_).map some
      simpa [PutsAt, hnames] using h
    · exact consults_pure _ _ none

theorem consults_resolve (completer : Completer) (text : String) :
    (completer.resolve scope text).Consults scope (completer.PutsAt (Draft.ofText text)) :=
  (consults_offer? scope completer _).bind fun _ => consults_pure _ _ _

end Completer

end TabCompletion
