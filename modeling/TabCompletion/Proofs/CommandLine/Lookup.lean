import TabCompletion.CommandLine
import TabCompletion.Proofs.Json.Reading
import TabCompletion.Proofs.World.Linked
import TabCompletion.Proofs.World.Sourcing

/-! # What comes of a lookup from the command line

The scripts are run one after the other, and only if all of them are there and none fails is
anything looked up. An answer is printed whole or not at all. -/

namespace TabCompletion

open Dialogue

namespace CommandLine

/-! ## Running the scripts -/

/-- What a call is told of a refused command. -/
def toldRejection (words : List String) (interp message : String) : Rejection :=
  ⟨" ".intercalate words ++ ": " ++ message, words, interp, some message⟩

/-- What stops the scripts, as the outcome of running them behind a binding. -/
def outcomeOf : Option World.Stop → Except Failure (Option Hindrance)
  | none => .ok none
  | some (.missing path) => .ok (some (.noScript path))
  | some (.unaskable _ fault) => .error (.file fault)
  | some (.refused path r) =>
    .error (.rejected (toldRejection ["source", path.text] "" r.message))
  | some (.unread _ fault) => .error (.file fault)

/-- The request by which a script is run. -/
abbrev sourcing (path : Path) : Request :=
  .source path.text ""

theorem run_source {σ : Type} (host : Host σ) (path : Path) (s : σ) :
    let run := (Dialogue.source path "").run host s
    run.outcome = (host (sourcing path) s).1 ∧
      run.events.filterMap Event.request? = [sourcing path] ∧
      run.state = (host (sourcing path) s).2 := by
  have hsource : Dialogue.source path "" =
      .tell (.noted (.sourcing path.text "")) (.ask (sourcing path) Dialogue.ofExcept) := rfl
  have hreply : ∀ reply t, (Dialogue.ofExcept reply : Dialogue Value).run host t =
      ⟨reply, [], t⟩ := by
    intro reply t
    cases reply <;> rfl
  simp only [hsource, Dialogue.run, hreply]
  exact ⟨trivial, rfl, trivial⟩

/-- The scripts are asked for in order, up to the one that stops the run. -/
theorem run_sourceAll {w after : World} {scripts started : List Path} {stop : Option World.Stop}
    (h : World.Sources w scripts started after stop) :
    let run := (sourceAll w.files scripts).run World.linkedHost (World.linked w)
    run.outcome = outcomeOf stop ∧
      run.events.filterMap Event.request? = started.map sourcing ∧
      run.state = World.linked after := by
  induction h with
  | finished w => exact ⟨rfl, rfl, rfl⟩
  | missing rest hpresent =>
      simp only [sourceAll, hpresent]
      exact ⟨rfl, rfl, rfl⟩
  | unaskable rest hpresent =>
      simp only [sourceAll, hpresent]
      exact ⟨rfl, rfl, rfl⟩
  | @refused w next path r rest hpresent hsource =>
      obtain ⟨houtcome, hrequests, hstate⟩ := run_source World.linkedHost path (World.linked w)
      rw [World.linkedHost_source, hsource] at houtcome hstate
      simp only [sourceAll, hpresent, run_bind, houtcome]
      exact ⟨rfl, hrequests, hstate⟩
  | @unread w next path fault rest hpresent hsource =>
      obtain ⟨houtcome, hrequests, hstate⟩ := run_source World.linkedHost path (World.linked w)
      rw [World.linkedHost_source, hsource] at houtcome hstate
      simp only [sourceAll, hpresent, run_bind, houtcome]
      exact ⟨rfl, hrequests, hstate⟩
  | @ran w next after path rest started value stop hpresent hsource _ ih =>
      obtain ⟨houtcome, hrequests, hstate⟩ := run_source World.linkedHost path (World.linked w)
      rw [World.linkedHost_source, hsource] at houtcome hstate
      have hfiles : next.files = w.files := by
        rw [← World.files_source w path.text "", hsource]
      rw [hfiles] at ih
      simp only [sourceAll, hpresent, run_bind, houtcome, hstate, Except.map, Except.mapError]
      refine ⟨ih.1, ?_, ih.2.2⟩
      simp only [List.filterMap_append, hrequests, ih.2.1, List.map_cons, List.singleton_append]

/-! ## The lookup -/

/-- The scope of an order's lookup. -/
def LookupOrder.scope (order : LookupOrder) : Scope :=
  Scope.of (some order.interp) (some order.ns)

/-- What is looked up for an order, once its scripts have been run. -/
def LookupOrder.lookup (order : LookupOrder) : Dialogue Offer :=
  order.subject.lookup order.scope

/-- A world behind a binding concurs with the world itself about every lookup. -/
theorem concurs_lookup (order : LookupOrder) (w : World) :
    World.Concurs order.scope (order.lookup.run World.host w)
      (order.lookup.run World.linkedHost (World.linked w)) := by
  have hconcurs : ∀ inquiry : Inquiry, World.Concurs order.scope
      ((inquiry.dialogue order.scope).run World.host w)
      ((inquiry.dialogue order.scope).run World.linkedHost (World.linked w)) := by
    intro inquiry
    refine World.concurs_of_inquires (inquiry.inquires order.scope) w ?_
    rw [World.run_outcome (inquiry.inquires order.scope).asks]
    exact World.okOrRefused_inquiry w order.scope inquiry
  rw [LookupOrder.lookup]
  cases order.subject with
  | commands typed => exact hconcurs (.commands typed)
  | vars typed => exact hconcurs (.vars typed)
  | methods system receiver typed => exact hconcurs (.methods (.known system) receiver typed)

/-! ## The whole order -/

/-- How an order of an answer as JSON ends, by what stops its scripts and what is found. -/
def LookupOrder.endingOf (order : LookupOrder) (stop : Option World.Stop)
    (found : Except Failure Offer) : Ending :=
  match stop, found with
  | none, .ok offer => .done (printedAsJson offer)
  | none, .error (.rejected r) => .refused (toldRejection r.words order.interp r.message)
  | none, .error e => .failed e
  | some (.missing path), _ => .noScript path
  | some (.unaskable _ fault), _ => .failed (.file fault)
  | some (.refused path r), _ => .refused (toldRejection ["source", path.text] "" r.message)
  | some (.unread _ fault), _ => .failed (.file fault)

/-- A refusal becomes a hindrance like a script that is missing. -/
def hindered : Except Failure (Except Hindrance Offer) → Except Failure (Except Hindrance Offer)
  | .error (.rejected r) => .ok (.error (.refused r))
  | other => other

theorem run_carryOut {σ : Type} (host : Host σ) (files : Files.Tree) (order : LookupOrder) (s : σ) :
    (order.carryOut files).run host s =
      { (order.attempt files).run host s with
        outcome := hindered ((order.attempt files).run host s).outcome } := by
  rw [LookupOrder.carryOut, run_rescue]
  obtain ⟨outcome, events, state⟩ := (order.attempt files).run host s
  cases outcome with
  | ok a => rfl
  | error e =>
      cases e with
      | rejected r => simp [hindered]
      | _ => rfl

section

variable {w after : World} {order : LookupOrder} {started : List Path}

/-- A run of which a call keeps the outcome, the requests and the world that is left. -/
structure Comes (run : Run (Linked World) (Except Hindrance Offer)) (order : LookupOrder)
    (ending : Ending) (requests : List Request) (left : World) : Prop where
  ending : order.asJson = true → ∀ width, order.ending width (hindered run.outcome) = ending
  requests : run.events.filterMap Event.request? = requests
  state : run.state = World.linked left

/-- Where the scripts are stopped, nothing is looked up. -/
theorem run_attempt_of_stopped {stop : World.Stop}
    (h : World.Sources w order.scripts started after (some stop)) (found : Except Failure Offer) :
    Comes ((order.attempt w.files).run World.linkedHost (World.linked w)) order
      (order.endingOf (some stop) found) (started.map sourcing) after := by
  obtain ⟨houtcome, hrequests, hstate⟩ := run_sourceAll h
  rw [LookupOrder.attempt, run_bind, houtcome]
  cases stop with
  | missing path => exact ⟨fun _ _ => rfl, by simpa [outcomeOf] using hrequests, hstate⟩
  | unaskable path fault => exact ⟨fun _ _ => rfl, hrequests, hstate⟩
  | refused path r => exact ⟨fun _ _ => rfl, hrequests, hstate⟩
  | unread path fault => exact ⟨fun _ _ => rfl, hrequests, hstate⟩

/-- Where all scripts are run, the lookup is made in the world that they leave. -/
theorem run_attempt_of_finished (h : World.Sources w order.scripts started after none) :
    let looked := order.lookup.run World.host after
    Comes ((order.attempt w.files).run World.linkedHost (World.linked w)) order
      (order.endingOf none looked.outcome)
      (started.map sourcing ++ looked.events.filterMap Event.request?) looked.state := by
  obtain ⟨houtcome, hrequests, hstate⟩ := run_sourceAll h
  have hconcurs := concurs_lookup order after
  have hlookup : (do return .ok (← order.subject.lookup order.scope)) =
      (Except.ok <$> order.lookup : Dialogue (Except Hindrance Offer)) := rfl
  rw [LookupOrder.attempt, run_bind, houtcome, hstate]
  simp only [outcomeOf]
  rw [← LookupOrder.scope, hlookup, run_map]
  refine ⟨fun hjson width => ?_, ?_, hconcurs.state⟩
  · cases hlooked : (order.lookup.run World.host after).outcome with
    | ok offer =>
        rw [hconcurs.done offer hlooked]
        simp only [Except.map, hindered, LookupOrder.ending, offerEnding, hjson, if_true]
        rfl
    | error e =>
        obtain ⟨r, rfl, -, hthrough⟩ := hconcurs.refused e hlooked
        rw [hthrough]
        rfl
  · rw [List.filterMap_append, hrequests, hconcurs.requests]

end

/-! ## The call -/

/-- What stands on the error output where an interpreter has refused a command. -/
def complaint (words : List String) (message : String) : String :=
  Screen.withoutControlSequences ("Error: " ++ (" ".intercalate words ++ ": " ++ message)) ++ "\n"

/-- What a call leaves that looks something up in a world, by the scripts that were started, the
world that they leave, and what stopped them. -/
structure Concludes (order : LookupOrder) (started : List Path) (after : World)
    (stop : Option World.Stop) (result : Result (Linked World)) : Prop where
  status_zero_iff : result.ending.status? = some 0 ↔
    stop = none ∧ ∃ offer, (order.lookup.run World.host after).outcome = .ok offer
  printed : stop = none → ∀ offer, (order.lookup.run World.host after).outcome = .ok offer →
    Offer.ofJson? result.ending.standardOutput = some offer
  silent : result.ending.status? ≠ some 0 → result.ending.standardOutput = ""
  /-- If all scripts were run, the lookup is all that follows. -/
  finished : stop = none →
    let looked := order.lookup.run World.host after
    result.events.filterMap Event.request? =
        order.scripts.map sourcing ++ looked.events.filterMap Event.request? ∧
      result.interpreter = some (World.linked looked.state)
  /-- Otherwise nothing follows. -/
  stopped : stop ≠ none →
    result.events.filterMap Event.request? = started.map sourcing ∧
      result.interpreter = some (World.linked after)
  missing : ∀ path, stop = some (.missing path) →
    result.ending.status? = some 2 ∧ result.ending.advice = "Script not found: " ++ path.text
  refused : ∀ path r, stop = some (.refused path r) →
    result.ending.status? = some 1 ∧
      result.ending.standardError = complaint ["source", path.text] r.message
  /-- A lookup fails by being refused, and in no other way. -/
  unanswered : stop = none → ∀ e, (order.lookup.run World.host after).outcome = .error e →
    ∃ r, e = .rejected r ∧ result.ending.status? = some 1 ∧
      result.ending.standardError = complaint r.words r.message
  /-- No status is given for a script that cannot be looked for, or whose file holds no text. -/
  cut_short : ∀ path fault, stop = some (.unaskable path fault) ∨ stop = some (.unread path fault) →
    result.ending.status? = none

section

variable {w after : World} {order : LookupOrder} {started : List Path}
  {result : Result (Linked World)}

theorem concludes_of_stopped {stop : World.Stop} {found : Except Failure Offer}
    (hending : result.ending = order.endingOf (some stop) found)
    (hrequests : result.events.filterMap Event.request? = started.map sourcing)
    (hstate : result.interpreter = some (World.linked after)) :
    Concludes order started after (some stop) result := by
  refine ⟨?_, nofun, ?_, nofun, fun _ => ⟨hrequests, hstate⟩, ?_, ?_, nofun, ?_⟩
  all_goals rw [hending]
  · cases stop <;> simp [LookupOrder.endingOf, Ending.status?]
  · cases stop <;> simp [LookupOrder.endingOf, Ending.standardOutput]
  · rintro path ⟨⟩
    exact ⟨rfl, rfl⟩
  · rintro path r ⟨⟩
    exact ⟨rfl, rfl⟩
  · rintro path fault (⟨⟨⟩⟩ | ⟨⟨⟩⟩)
    · rfl
    · rfl

theorem concludes_of_finished
    (hending : result.ending =
      order.endingOf none (order.lookup.run World.host after).outcome)
    (hrequests : result.events.filterMap Event.request? = order.scripts.map sourcing ++
      (order.lookup.run World.host after).events.filterMap Event.request?)
    (hstate : result.interpreter =
      some (World.linked (order.lookup.run World.host after).state)) :
    Concludes order started after none result := by
  cases hlooked : (order.lookup.run World.host after).outcome with
  | ok offer =>
      rw [hlooked] at hending
      refine ⟨?_, ?_, ?_, fun _ => ⟨hrequests, hstate⟩, nofun, nofun, nofun, ?_, ?_⟩
      all_goals rw [hending]
      · simp [LookupOrder.endingOf, Ending.status?, hlooked]
      · rintro - found hfound
        obtain rfl := Except.ok.inj (hlooked.symm.trans hfound)
        exact Offer.ofJson?_printed offer
      · simp [LookupOrder.endingOf, Ending.status?]
      · rintro - e he
        cases hlooked.symm.trans he
      · rintro path fault (⟨⟨⟩⟩ | ⟨⟨⟩⟩)
  | error e =>
      obtain ⟨r, rfl, -, -⟩ := (concurs_lookup order after).refused e hlooked
      rw [hlooked] at hending
      refine ⟨?_, ?_, ?_, fun _ => ⟨hrequests, hstate⟩, nofun, nofun, nofun, ?_, ?_⟩
      all_goals rw [hending]
      · simp [LookupOrder.endingOf, Ending.status?, hlooked]
      · rintro - found hfound
        cases hlooked.symm.trans hfound
      · simp [LookupOrder.endingOf, Ending.standardOutput]
      · rintro - e he
        obtain rfl := Except.error.inj (hlooked.symm.trans he)
        exact ⟨r, rfl, rfl, rfl⟩
      · rintro path fault (⟨⟨⟩⟩ | ⟨⟨⟩⟩)

end

/-- What a call leaves is settled by how its scripts are run. -/
theorem concludes_of_sources {w after : World} {around : Surroundings} {args : List String}
    {order : LookupOrder} {started : List Path} {stop : Option World.Stop}
    (hargs : order? args = some (.lookUp order)) (hjson : order.asJson = true)
    (h : World.Sources { w with files := around.files } order.scripts started after stop)
    (time : String) (input : List Keystroke) :
    Concludes order started after stop
      (run World.linkedHost (fun files => World.linked { w with files }) time around args
        input) := by
  have hrun : run World.linkedHost (fun files => World.linked { w with files }) time around args
      input = runLookup World.linkedHost (fun files => World.linked { w with files }) around input
        order := by
    rw [run, hargs]
  rw [hrun, runLookup]
  simp only [run_carryOut]
  cases stop with
  | none =>
      have hcomes := run_attempt_of_finished h
      rw [h.started_eq] at hcomes
      exact concludes_of_finished (hcomes.ending hjson _) hcomes.requests
        (congrArg some hcomes.state)
  | some stop =>
      have hcomes := run_attempt_of_stopped h (.error .unable)
      exact concludes_of_stopped (hcomes.ending hjson _) hcomes.requests
        (congrArg some hcomes.state)

/-- A call that orders a lookup as JSON runs the scripts in order, each in the world that the one
before it has left, and looks up what was ordered only if all of them are there and none fails. It
ends with status 0 exactly if that succeeds, and prints the answer then and nothing otherwise. -/
theorem sources_then_concludes (w : World) (time : String) (around : Surroundings)
    (args : List String) (input : List Keystroke) (order : LookupOrder)
    (hargs : order? args = some (.lookUp order))
    (hjson : order.asJson = true) :
    (∃ started after stop,
      World.Sources { w with files := around.files } order.scripts started after stop) ∧
    ∀ started after stop,
      World.Sources { w with files := around.files } order.scripts started after stop →
        started <+: order.scripts ∧
        Concludes order started after stop
          (run World.linkedHost (fun files => World.linked { w with files }) time around args
            input) := by
  refine ⟨World.exists_sources _ _, ?_⟩
  intro started after stop hsources
  exact ⟨hsources.started_prefix, concludes_of_sources hargs hjson hsources time input⟩

/-- Surroundings with one script, which defines a command. -/
def scripted : Surroundings where
  homes := .ofAccounts (some "home") "0" [⟨"root", "0", "/root"⟩]
  configVariable := none
  files := Files.Tree.empty.put ⟨.above 0, ["a.tcl"]⟩ (.file "proc go".toUTF8)

/-- The world that the script leaves. -/
def sourced : World where
  commands := ["go"]
  files := scripted.files
  calls := [⟨"", "::", ["source", "a.tcl"]⟩]

/-- The script is run and leaves its command, but another one is not there. -/
theorem sources_then_concludes_scripted :
    let args := ["commands", "g", "--json", "-s", "a.tcl", "-s", "b.tcl"]
    let result := run World.linkedHost (fun files => World.linked { files }) "TIME" scripted args []
    result.ending.status? = some 2 ∧ result.ending.standardOutput = "" ∧
      result.events.filterMap Event.request? = [.source "a.tcl" ""] ∧
      result.interpreter = some (World.linked sourced) := by
  let order : LookupOrder :=
    ⟨.commands "g", "", "::", [⟨.here, ["a.tcl"]⟩, ⟨.here, ["b.tcl"]⟩], true⟩
  have hargs : order? ["commands", "g", "--json", "-s", "a.tcl", "-s", "b.tcl"] =
      some (.lookUp order) := by rfl
  have hsources : World.Sources { files := scripted.files } order.scripts [⟨.here, ["a.tcl"]⟩]
      sourced (some (.missing ⟨.here, ["b.tcl"]⟩)) := .ran rfl rfl (.missing [] rfl)
  obtain ⟨-, hconcludes⟩ :=
    (sources_then_concludes {} "TIME" scripted _ [] order hargs rfl).2 _ _ _ hsources
  have hstatus := (hconcludes.missing _ rfl).1
  obtain ⟨hrequests, hstate⟩ := hconcludes.stopped nofun
  exact ⟨hstatus, hconcludes.silent (by simp [hstatus]), hrequests, hstate⟩

/-! ## Names that are too long -/

theorem ofString_eq_of_plain {name : String} (hne : name ≠ "") (hdot : name ≠ ".")
    (hslash : '/' ∉ name.toList) : Path.ofString name = ⟨.here, [name]⟩ := by
  have hall : ∀ c ∈ name.toList, (c == '/') = false := by
    intro c hc
    rw [beq_eq_false_iff_ne]
    rintro rfl
    exact hslash hc
  have hpieces : Text.piecesBy (· == '/') name = [name] := by
    simp [Text.piecesBy, List.splitOnP_eq_singleton hall, hne]
  have hanchor : (name.toList.takeWhile (· == '/')).length = 0 := by
    cases hlist : name.toList with
    | nil => rfl
    | cons c cs => simp [hall c (by simp [hlist])]
  simp [Path.ofString, Path.anchorOf, hpieces, hanchor, hdot]

/-- Whether there is anything of a name that no file can have, is not answered. -/
theorem present_eq_nameTooLong (files : Files.Tree) {name : String}
    (hnul : '\x00' ∉ name.toList) (hlong : Files.Tree.nameLimit < name.utf8ByteSize) :
    files.present ⟨.here, [name]⟩ = .error .nameTooLong := by
  have htext : Path.text ⟨.here, [name]⟩ = name := by simp [Path.text, Path.Anchor.text]
  have hstep : files.step ⟨.above 0, []⟩ name = .error .nameTooLong := by
    simp [Files.Tree.step, Files.Tree.entry?, hlong]
  have hlocate : files.locate ⟨.here, [name]⟩ = .error .nameTooLong := by
    rw [Files.Tree.locate, htext, if_neg (by simpa using hnul)]
    split
    · rfl
    · simp only [Files.Tree.start, if_true, List.foldlM_cons, hstep]
      rfl
  have hfind : files.find ⟨.here, [name]⟩ = .error .nameTooLong := by
    rw [Files.Tree.find, hlocate]
    rfl
  rw [Files.Tree.present, hfind]

theorem order?_sourcing {name : String} {path : Path} (h : pathValue? name = some path) :
    order? ["commands", "p", "--json", "-s", name] =
      some (.lookUp ⟨.commands "p", "", "::", [path], true⟩) := by
  have hsort : sortOut lookupOptions ["p", "--json", "-s", name] =
      some ⟨[(.json, ""), (.source, name)], ["p"]⟩ := by rfl
  have hnamed : order? ["commands", "p", "--json", "-s", name] =
      lookupOrder? "commands" ["p", "--json", "-s", name] := by rfl
  rw [hnamed, lookupOrder?, hsort]
  simp [Arguments.has, Arguments.values, Arguments.last?, subject?, h]
  rfl

/-- A script of a name that no file can have is not there, but a call with it has no status. -/
theorem status_of_long {name : String} (hlong : Files.Tree.nameLimit < name.utf8ByteSize)
    (hslash : '/' ∉ name.toList) (hnul : '\x00' ∉ name.toList) :
    let path : Path := ⟨.here, [name]⟩
    let args := ["commands", "p", "--json", "-s", name]
    order? args = some (.lookUp ⟨.commands "p", "", "::", [path], true⟩) ∧
      (∀ found, scripted.files.find path ≠ .ok found) ∧
      (run World.linkedHost (fun files => World.linked { files }) "TIME" scripted args
        []).ending.status? = none := by
  have hne : name ≠ "" := by
    rintro rfl
    exact absurd hlong (by decide)
  have hdot : name ≠ "." := by
    rintro rfl
    exact absurd hlong (by decide)
  have hpresent := present_eq_nameTooLong scripted.files hnul hlong
  have hvalue : pathValue? name = some ⟨.here, [name]⟩ := by
    rw [pathValue?, if_neg (by simpa using hnul), ofString_eq_of_plain hne hdot hslash]
  have hargs := order?_sourcing hvalue
  refine ⟨hargs, ?_, ?_⟩
  · intro found hfound
    rw [Files.Tree.present, hfound] at hpresent
    cases hpresent
  · have hstopped : World.Sources { files := scripted.files } [⟨.here, [name]⟩] []
        { files := scripted.files } (some (.unaskable ⟨.here, [name]⟩ .nameTooLong)) :=
      .unaskable [] hpresent
    have hconcludes := concludes_of_sources (w := {}) hargs rfl hstopped "TIME" []
    exact hconcludes.cut_short _ _ (.inl rfl)

def repeated (n : Nat) (c : Char) : String :=
  String.ofList (List.replicate n c)

theorem notMem_repeated {c d : Char} (h : d ≠ c) (n : Nat) : d ∉ (repeated n c).toList := by
  intro hd
  rw [repeated, String.toList_ofList] at hd
  exact h (List.eq_of_mem_replicate hd)

theorem utf8ByteSize_repeated (n : Nat) : (repeated n 'a').utf8ByteSize = n := by
  induction n with
  | zero => rfl
  | succ n ih =>
      have hsize : 'a'.utf8Size = 1 := rfl
      rw [repeated] at ih ⊢
      rw [List.replicate_succ, String.ofList_cons, String.utf8ByteSize_append, ih,
        String.utf8ByteSize_singleton, hsize, Nat.add_comm]

/-- Not every script that is not there gives a call its status. -/
theorem not_forall_absent_status :
    ¬ ∀ (w : World) (time : String) (around : Surroundings) (args : List String)
        (input : List Keystroke) (order : LookupOrder) (path : Path),
      order? args = some (.lookUp order) → order.asJson = true → order.scripts = [path] →
      (∀ found, around.files.find path ≠ .ok found) →
        (run World.linkedHost (fun files => World.linked { w with files }) time around args
          input).ending.status? = some 2 := by
  intro h
  have hlong : Files.Tree.nameLimit < (repeated 300 'a').utf8ByteSize := by
    rw [utf8ByteSize_repeated]
    decide
  obtain ⟨hargs, habsent, hstatus⟩ :=
    status_of_long hlong (notMem_repeated (by decide) 300) (notMem_repeated (by decide) 300)
  cases hstatus.symm.trans (h {} "TIME" scripted _ [] _ _ hargs rfl rfl habsent)

end CommandLine

end TabCompletion
