import TabCompletion.Proofs.Dialogue.Exchanges
import TabCompletion.Proofs.Lookup.Consulting
import TabCompletion.Shell
import TabCompletion.World.Host

/-! # Completing within the systems of the settings

To complete a method the shell asks only for object systems that its settings list, unless they list
none: then it asks for the usual ones. -/

namespace TabCompletion

open Dialogue

variable {α β σ : Type}

/-! ## Asking at all -/

namespace Dialogue

/-- A dialogue that makes a request, whatever it tells before. -/
inductive Inquisitive : Dialogue α → Prop
  | tell (output : Output) {next : Dialogue α} : Inquisitive next → Inquisitive (tell output next)
  | ask (request : Request) (next : Except Failure request.Answer → Dialogue α) :
      Inquisitive (ask request next)

theorem inquisitive_query (scope : Scope) (kind : Kind) (words : List String) :
    (scope.query kind words).Inquisitive :=
  .tell _ (.ask _ _)

theorem Inquisitive.bind {d : Dialogue α} (hd : d.Inquisitive) (f : α → Dialogue β) :
    (d >>= f).Inquisitive := by
  change (d.bind f).Inquisitive
  induction hd with
  | tell output _ ih => exact .tell output ih
  | ask request next => exact .ask request _

theorem Inquisitive.map {d : Dialogue α} (hd : d.Inquisitive) (f : α → β) :
    (f <$> d).Inquisitive := by
  rw [← bind_pure_comp]
  exact hd.bind _

theorem Inquisitive.rescue {d : Dialogue α} (hd : d.Inquisitive)
    (handler : Rejection → Dialogue α) : (d.rescue handler).Inquisitive := by
  induction hd with
  | tell output _ ih => exact .tell output ih
  | ask request next => exact .ask request _

theorem Inquisitive.exchanges_ne_nil {d : Dialogue α} (hd : d.Inquisitive) (host : Host σ) (s : σ) :
    Event.exchanges (d.run host s).events ≠ [] := by
  induction hd generalizing s with
  | tell output _ ih => exact ih s
  | ask request next => simp [Dialogue.run]

end Dialogue

/-! ## The systems tried -/

namespace ObjectSystem

theorem orUsual_of_ne_nil {tags : List Tag} (h : tags ≠ []) : orUsual tags = tags := by
  simp [orUsual, h]

/-- Nothing stands in for the usual systems. -/
theorem orUsual_orUsual (tags : List Tag) : orUsual (orUsual tags) = orUsual tags := by
  by_cases h : tags = []
  · subst h
    rfl
  · rw [orUsual_of_ne_nil h, orUsual_of_ne_nil h]

theorem orUsual_map_known (systems : List ObjectSystem) :
    orUsual (systems.map .known) = (if systems = [] then usual else systems).map .known := by
  by_cases h : systems = []
  · subst h
    rfl
  · rw [if_neg h, orUsual_of_ne_nil (by simpa using h)]

end ObjectSystem

namespace Lookup

variable (scope : Scope) (typed token : String)

/-- Looking in the first of the usual systems starts with a query, whatever the receiver. -/
theorem inquisitive_methods_oo : (methods scope typed (.known .oo) token).Inquisitive := by
  rw [methods]
  cases Receiver.ofToken token with
  | named object =>
      change (methodsOf scope object typed (.known .oo)).Inquisitive
      exact ((inquisitive_query scope _ _).bind _).bind _
  | heldBy holder => exact (inquisitive_query scope _ _).bind _

end Lookup

namespace Completer

variable (scope : Scope)

/-- Where the word is a method, a completer without systems of its own puts a query. -/
theorem inquisitive_offer? {draft : Draft} (h : draft.NamesMethod) :
    ((Completer.of []).offer? scope draft).Inquisitive := by
  obtain ⟨hwords, hhead⟩ := h
  obtain ⟨receiver, hreceiver⟩ := List.length_eq_one_iff.mp hwords
  unfold offer?
  split
  · next name hname => simp [hname] at hhead
  · rw [hreceiver]
    have hfirst := Lookup.inquisitive_methods_oo scope draft.word receiver
    exact (hfirst.bind _).map some

theorem inquisitive_edits {text : String} (h : (Draft.ofText text).NamesMethod) :
    ((Completer.of []).edits scope text).Inquisitive :=
  (((inquisitive_offer? scope h).bind _).map editsFor).rescue _

theorem asks_edits_putsAt (completer : Completer) (text : String) :
    (completer.edits scope text).Asks fun request => ∃ kind words,
      completer.PutsAt (Draft.ofText text) kind words ∧ request = scope.looking kind words := by
  have hconsults := (consults_resolve scope completer text).map editsFor
  exact hconsults.relays.asks.rescue fun r => .tell _ (.done [])

end Completer

/-! ## Confinement -/

namespace Shell

/-- The exchange is a query about the scope that completes a draft in some systems: where the word is
a method one that is put for one of them, and elsewhere one that lists names. -/
def Confined (scope : Scope) (systems : List ObjectSystem) (draft : Draft) (exchange : Exchange) :
    Prop :=
  ∃ kind words, exchange.request = scope.looking kind words ∧
    (draft.NamesMethod → ∃ system ∈ systems, Lookup.PutsFor (.known system) kind words) ∧
    (¬ draft.NamesMethod → Lookup.Lists kind words)

/-- The systems of the settings, or the usual ones if these list none. -/
def systemsTried (shell : Shell) : List ObjectSystem :=
  if shell.settings.systems = [] then ObjectSystem.usual else shell.settings.systems

theorem systems_completer (shell : Shell) :
    shell.completer.systems = shell.systemsTried.map .known :=
  ObjectSystem.orUsual_map_known shell.settings.systems

theorem confined_exchanges (shell : Shell) (text : String) (host : Host σ) (s : σ) :
    ∀ exchange ∈ Event.exchanges ((shell.edits text).run host s).events,
      Confined shell.scope shell.systemsTried (Draft.ofText text) exchange := by
  intro exchange hexchange
  have hasks := Completer.asks_edits_putsAt shell.scope shell.completer text
  obtain ⟨kind, words, ⟨hmethod, hlists⟩, hrequest⟩ := hasks.exchanges host s exchange hexchange
  refine ⟨kind, words, hrequest, ?_, hlists⟩
  intro hnames
  obtain ⟨tag, htag, hputs⟩ := hmethod hnames
  have hcompleter : ObjectSystem.orUsual shell.completer.systems =
      shell.systemsTried.map .known := by
    rw [← systems_completer]
    exact ObjectSystem.orUsual_orUsual _
  rw [hcompleter] at htag
  obtain ⟨system, hsystem, rfl⟩ := List.mem_map.mp htag
  exact ⟨system, hsystem, hputs⟩

/-- A shell without systems puts a query to complete a method all the same. -/
theorem exists_exchange_of_nil {shell : Shell} (hnone : shell.settings.systems = []) {text : String}
    (hnames : (Draft.ofText text).NamesMethod) (host : Host σ) (s : σ) :
    ∃ exchange, exchange ∈ Event.exchanges ((shell.edits text).run host s).events := by
  have hcompleter : shell.completer = Completer.of [] := by
    rw [completer, hnone]
    rfl
  have hasks := (Completer.inquisitive_edits shell.scope hnames).exchanges_ne_nil host s
  rw [edits, hcompleter]
  exact List.exists_mem_of_ne_nil _ hasks

/-- Whatever the replies, all that the shell asks to complete a word are queries about its own scope.
Where the word is a method they are put for the systems that the settings list, or for the usual ones
if the settings list none; elsewhere they only list names. The queries that belong to any other
system are not put. So the shell keeps to the systems listed exactly if there are any, or if the word
is no method: without any it still asks for others. -/
theorem confined_iff_systems_listed (shell : Shell) (text : String) (host : Host σ) (s : σ) :
    let asked := Event.exchanges ((shell.edits text).run host s).events
    let draft := Draft.ofText text
    (∀ exchange ∈ asked, Confined shell.scope shell.systemsTried draft exchange) ∧
      (draft.NamesMethod → ∀ other ∉ shell.systemsTried, ∀ kind words, kind ≠ .value →
        Lookup.PutsFor (.known other) kind words →
        ∀ exchange ∈ asked, exchange.request ≠ shell.scope.looking kind words) ∧
      ((∀ exchange ∈ asked, Confined shell.scope shell.settings.systems draft exchange) ↔
        shell.settings.systems ≠ [] ∨ ¬ draft.NamesMethod) := by
  intro asked draft
  have hconfined := confined_exchanges shell text host s
  refine ⟨hconfined, ?_, ?_⟩
  · intro hnames other hother kind words hkind hputs exchange hexchange hrequest
    obtain ⟨kind', words', hrequest', hmethod, -⟩ := hconfined exchange hexchange
    obtain ⟨rfl, hcall⟩ := Request.query.inj (hrequest.symm.trans hrequest')
    obtain ⟨-, -, rfl⟩ := Call.mk.inj hcall
    obtain ⟨system, hsystem, hputs'⟩ := hmethod hnames
    obtain rfl := ObjectSystem.Tag.known.inj (hputs.unique hputs' hkind)
    exact hother hsystem
  -- the systems tried differ from those listed only if none is listed, which shows only in methods
  by_cases hnone : shell.settings.systems = []
  · by_cases hnames : draft.NamesMethod
    · refine iff_of_false ?_ (by simp [hnone, hnames])
      intro hall
      obtain ⟨exchange, hexchange⟩ := exists_exchange_of_nil hnone hnames host s
      obtain ⟨kind, words, -, hmethod, -⟩ := hall exchange hexchange
      obtain ⟨system, hsystem, -⟩ := hmethod hnames
      simp [hnone] at hsystem
    · refine iff_of_true ?_ (.inr hnames)
      intro exchange hexchange
      obtain ⟨kind, words, hrequest, -, hlists⟩ := hconfined exchange hexchange
      exact ⟨kind, words, hrequest, fun h => absurd h hnames, hlists⟩
  · have htried : shell.systemsTried = shell.settings.systems := if_neg hnone
    rw [htried] at hconfined
    exact iff_of_true hconfined (.inl hnone)

/-- Settings that list no system are accepted, but not kept to. -/
theorem not_forall_confined :
    ¬ ∀ (homes : Homes) (data : Data) (settings : Settings),
      Settings.ofData homes data = .good settings → ∀ (text : String) (w : World),
        ∀ exchange ∈ Event.exchanges (((start settings).edits text).run World.host w).events,
          Confined (start settings).scope settings.systems (Draft.ofText text) exchange := by
  intro h
  let bare : Settings := { systems := [] }
  let nowhere : Homes := ⟨none, none, fun _ => none⟩
  have haccepted : Settings.ofData nowhere (.table [("object_systems", .list [])]) = .good bare := rfl
  have hnames : (Draft.ofText "obj me").NamesMethod := by decide
  have hnone : (start bare).settings.systems = [] := rfl
  obtain ⟨exchange, hexchange⟩ := exists_exchange_of_nil hnone hnames World.host {}
  obtain ⟨kind, words, -, hmethod, -⟩ := h nowhere _ bare haccepted "obj me" {} exchange hexchange
  obtain ⟨system, hsystem, -⟩ := hmethod hnames
  simp [bare] at hsystem

end Shell

end TabCompletion
