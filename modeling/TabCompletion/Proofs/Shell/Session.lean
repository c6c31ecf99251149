import Mathlib.Data.List.Basic
import TabCompletion.Proofs.Lookup.Relaying
import TabCompletion.Proofs.Shell.Execution
import TabCompletion.Proofs.Shell.Record
import TabCompletion.World.Script

/-! # What becomes of the lines that are typed

As long as the host decides by the script alone whether it is complete, every line that is taken is
part of one script that is executed, or is still pending in the end, or was blank while nothing was
pending. -/

namespace TabCompletion

open Dialogue

variable {σ : Type}

namespace Shell

variable {complete : String → Bool}

/-! ## Scripts as lines -/

section

variable {lines : List String} {line : String}

/-- No beginning of the lines is a complete script. -/
def Unfinished (complete : String → Bool) (lines : List String) : Prop :=
  ∀ front, front <+: lines → front ≠ [] → complete ("\n".intercalate front) = false

/-- The lines are a complete script, and no fewer of them at the beginning are one. -/
def Finished (complete : String → Bool) (lines : List String) : Prop :=
  complete ("\n".intercalate lines) = true ∧
    ∀ front, front <+: lines → front ≠ [] → front ≠ lines →
      complete ("\n".intercalate front) = false

theorem unfinished_nil (complete : String → Bool) : Unfinished complete [] := by
  intro front hfront hne
  exact absurd (List.prefix_nil.mp hfront) hne

theorem Unfinished.concat (h : Unfinished complete lines)
    (hline : complete ("\n".intercalate (lines ++ [line])) = false) :
    Unfinished complete (lines ++ [line]) := by
  intro front hfront hne
  rcases List.prefix_concat_iff.mp hfront with rfl | hfront
  · exact hline
  · exact h front hfront hne

theorem Unfinished.finished (h : Unfinished complete lines)
    (hline : complete ("\n".intercalate (lines ++ [line])) = true) :
    Finished complete (lines ++ [line]) := by
  refine ⟨hline, ?_⟩
  intro front hfront hne hproper
  rcases List.prefix_concat_iff.mp hfront with rfl | hfront
  · exact absurd rfl hproper
  · exact h front hfront hne

end

/-- It makes no difference whether lines are joined at once or first in groups. -/
theorem intercalate_map_append {groups : List (List String)} (hne : ∀ group ∈ groups, group ≠ [])
    (rest : List String) :
    "\n".intercalate (groups.map "\n".intercalate ++ rest) =
      "\n".intercalate (groups.flatten ++ rest) := by
  induction groups with
  | nil => rfl
  | cons group groups ih =>
      obtain ⟨hgroup, hgroups⟩ := List.forall_mem_cons.mp hne
      by_cases hlast : groups = [] ∧ rest = []
      · obtain ⟨rfl, rfl⟩ := hlast
        simp
      · have hjoined : groups.map "\n".intercalate ++ rest ≠ [] := by
          simpa using hlast
        have hflat : groups.flatten ++ rest ≠ [] := by
          intro hnil
          obtain ⟨hflatten, hrest⟩ := List.append_eq_nil_iff.mp hnil
          refine hlast ⟨List.eq_nil_iff_forall_not_mem.mpr ?_, hrest⟩
          intro other hother
          exact hgroups other hother (List.flatten_eq_nil_iff.mp hflatten other hother)
        rw [List.map_cons, List.cons_append, String.intercalate_cons_of_ne_nil hjoined, ih hgroups,
          List.flatten_cons, List.append_assoc, String.intercalate_append_of_ne_nil hgroup hflat]

/-! ## Single keystrokes -/

/-- What comes of a keystroke, and the line recorded for it. -/
inductive Responds (complete : String → Bool) (shell : Shell) :
    Keystroke → Option Shell → Option Turn → Prop
  | left : Responds complete shell .leave none none
  | offered (text : String) : Responds complete shell (.tab text) (some shell) none
  | parted {line : String} : shell.isFarewell line = true →
      Responds complete shell (.line line) none none
  | idled {line : String} : shell.isFarewell line = false → shell.isIdle line = true →
      Responds complete shell (.line line) (some shell) (some ⟨shell.pending, line, none⟩)
  | continued {line : String} : shell.isFarewell line = false → shell.isIdle line = false →
      complete (shell.typed line).script = false →
      Responds complete shell (.line line) (some (shell.typed line))
        (some ⟨shell.pending, line, none⟩)
  | executed {line : String} {next : Shell} : shell.isFarewell line = false →
      shell.isIdle line = false → complete (shell.typed line).script = true → next.pending = [] →
      Responds complete shell (.line line) (some next)
        (some ⟨shell.pending, line, some (shell.typed line).script⟩)

/-- The host tells by a test of the script whether it is complete, and otherwise fails only by
refusing commands. -/
structure Decides (host : Host σ) (complete : String → Bool) : Prop where
  reply_eq : ∀ script s, (host (.isComplete script) s).1 = .ok (complete script)
  refuses : host.OnlyRefuses fun request => ∀ script, request ≠ .isComplete script

section

variable {host : Host σ} (hhost : Decides host complete)

include hhost

theorem succeeds_execute (shell : Shell) (script : String) :
    (shell.execute script).Succeeds host fun next => next.pending = shell.pending := by
  have hrefuses : host.OnlyRefuses Sends := by
    refine hhost.refuses.mono ?_
    rintro request hsends script rfl
    cases hsends
  intro s
  obtain ⟨next, houtcome, hexecutes⟩ := run_execute hrefuses shell script s
  exact ⟨next, houtcome, hexecutes.frame.2.1⟩

theorem succeeds_edits (shell : Shell) (text : String) :
    (shell.edits text).Succeeds host fun _ => True := by
  have hrefuses : host.OnlyRefuses shell.scope.Covers := by
    refine hhost.refuses.mono ?_
    rintro request hcovers script rfl
    exact hcovers
  refine succeeds_rescue (Completer.relays_editsFor shell.scope shell.completer text) hrefuses ?_
  intro r
  exact succeeds_tell (succeeds_pure trivial)

theorem succeeds_startUp (shell : Shell) : shell.startUp.Succeeds host fun _ => True := by
  have hreport : ∀ task r, (print .error (task ++ ": " ++ Rejection.reason r)).Succeeds host
      fun _ => True := fun task r => succeeds_tell (succeeds_pure trivial)
  refine (succeeds_forM ?_ shell.settings.packages).bind fun _ _ => succeeds_forM ?_ _
  · intro package
    refine succeeds_rescue ((relays_request ?_).map fun _ => ()) hhost.refuses (hreport _)
    exact fun _ => nofun
  · intro path
    refine succeeds_rescue ?_ hhost.refuses (hreport _)
    refine ((relays_note _ _).bind fun _ => relays_request ?_).map fun _ => ()
    exact fun _ => nofun

theorem succeeds_enter (shell : Shell) (line : String) :
    (shell.enter line).Succeeds host fun entered =>
      entered = if complete (shell.typed line).script
        then ((shell.typed line).emptied, some (shell.typed line).script)
        else (shell.typed line, none) := by
  refine (succeeds_request (hhost.reply_eq _)).bind ?_
  rintro _ rfl
  by_cases hcomplete : complete (shell.typed line).script = true
  · simp only [hcomplete, if_true]
    exact succeeds_pure rfl
  · simp only [hcomplete]
    exact succeeds_pure rfl

/-- The line that is taken is recorded with the script that it completes. -/
theorem succeeds_takeLineRecorded (shell : Shell) (line : String) :
    (shell.takeLineRecorded line).Succeeds host fun taken =>
      if complete (shell.typed line).script then
        taken.1.pending = [] ∧ taken.2 = some (shell.typed line).script
      else taken = (shell.typed line, none) := by
  refine (succeeds_enter hhost shell line).bind ?_
  rintro _ rfl
  by_cases hcomplete : complete (shell.typed line).script = true
  · simp only [hcomplete, if_true]
    refine (succeeds_execute hhost (shell.typed line).emptied _).bind ?_
    intro next hnext
    exact succeeds_pure ⟨hnext, rfl⟩
  · simp only [hcomplete]
    exact succeeds_pure rfl

theorem succeeds_respondRecorded (shell : Shell) (keystroke : Keystroke) :
    (shell.respondRecorded keystroke).Succeeds host fun response =>
      Responds complete shell keystroke response.1 response.2 := by
  cases keystroke with
  | leave => exact succeeds_tell (succeeds_pure .left)
  | tab text =>
      refine (succeeds_edits hhost shell text).bind ?_
      intro edits _
      exact succeeds_tell (succeeds_pure (.offered text))
  | line line =>
      rw [respondRecorded]
      apply succeeds_tell
      split
      · next hfarewell => exact succeeds_pure (.parted hfarewell)
      · next hstays =>
        split
        · next hidle => exact succeeds_pure (.idled (by simpa using hstays) hidle)
        · next hbusy =>
          refine (succeeds_takeLineRecorded hhost shell line).bind ?_
          rintro ⟨next, script⟩ htaken
          split at htaken
          · next hcomplete =>
            obtain ⟨hpending, rfl⟩ := htaken
            exact succeeds_pure (.executed (by simpa using hstays) (by simpa using hbusy) hcomplete
              hpending)
          · next hincomplete =>
            cases htaken
            exact succeeds_pure (.continued (by simpa using hstays) (by simpa using hbusy)
              (by simpa using hincomplete))

end

/-! ## All keystrokes -/

/-- The lines that are typed before the user leaves. -/
def typedLines : List Keystroke → List String
  | [] => []
  | .leave :: _ => []
  | .tab _ :: rest => typedLines rest
  | .line text :: rest => text :: typedLines rest

/-- A line that ends a session, but for the blanks around it. -/
def Farewell (line : String) : Prop :=
  Text.trimBlanks line ∈ farewells

/-- What holds of the turns by which typed lines are taken, if some lines are pending before and
some are left pending in the end. -/
structure RecordSpec (complete : String → Bool) (pending typed : List String) (turns : List Turn)
    (last : List String) : Prop where
  /-- The lines are taken in order, up to a farewell while nothing is pending. -/
  taken : ∃ left, typed = turns.map Turn.line ++ left ∧
    ∀ line ∈ left.head?, Farewell line ∧ last = []
  stays : ∀ turn ∈ turns, turn.pending = [] → ¬ Farewell turn.line
  /-- But for idle ones, the lines make up the scripts executed and what is left. -/
  parted : pending ++ Turn.kept turns = (Turn.groups turns).flatten ++ last
  executed : ∀ turn ∈ turns, ∀ script ∈ turn.executed,
    script = "\n".intercalate turn.lines ∧ Finished complete turn.lines
  waiting : ∀ turn ∈ turns, Unfinished complete turn.pending
  waiting_last : Unfinished complete last

namespace RecordSpec

variable {pending typed last : List String} {turns : List Turn}

theorem nil (hwaiting : Unfinished complete pending)
    (hleft : ∀ line ∈ typed.head?, Farewell line ∧ pending = []) :
    RecordSpec complete pending typed [] pending where
  taken := ⟨typed, rfl, hleft⟩
  stays := by simp
  parted := by simp [Turn.kept, Turn.groups]
  executed := by simp
  waiting := by simp
  waiting_last := hwaiting

theorem cons (turn : Turn) (h : RecordSpec complete pending typed turns last)
    (hstays : turn.pending = [] → ¬ Farewell turn.line)
    (hparted : turn.pending ++ (if turn.isIdle then [] else [turn.line]) =
      (Turn.groups [turn]).flatten ++ pending)
    (hexecuted : ∀ script ∈ turn.executed,
      script = "\n".intercalate turn.lines ∧ Finished complete turn.lines)
    (hwaiting : Unfinished complete turn.pending) :
    RecordSpec complete turn.pending (turn.line :: typed) (turn :: turns) last where
  taken := by
    obtain ⟨left, htyped, hleft⟩ := h.taken
    exact ⟨left, by simp [htyped], hleft⟩
  stays := List.forall_mem_cons.mpr ⟨hstays, h.stays⟩
  parted := by
    have hgroups : Turn.groups (turn :: turns) = Turn.groups [turn] ++ Turn.groups turns :=
      List.filterMap_append (l := [turn])
    rw [Turn.kept_cons, hgroups, ← List.append_assoc, hparted, List.append_assoc, h.parted,
      List.flatten_append, List.append_assoc]
  executed := List.forall_mem_cons.mpr ⟨hexecuted, h.executed⟩
  waiting := List.forall_mem_cons.mpr ⟨hwaiting, h.waiting⟩
  waiting_last := h.waiting_last

/-- Joined, the scripts executed and what is left are the lines. -/
theorem joined (h : RecordSpec complete pending typed turns last) :
    "\n".intercalate (Turn.scripts turns ++ last) =
      "\n".intercalate (pending ++ Turn.kept turns) := by
  have hscripts : Turn.scripts turns = (Turn.groups turns).map "\n".intercalate := by
    rw [Turn.scripts, Turn.groups, List.map_filterMap]
    apply List.filterMap_congr
    intro turn hturn
    cases hscript : turn.executed with
    | none => rfl
    | some script =>
        obtain ⟨rfl, -⟩ := h.executed turn hturn script hscript
        rfl
  have hne : ∀ group ∈ Turn.groups turns, group ≠ [] := by
    intro group hgroup
    obtain ⟨turn, -, hlines⟩ := List.mem_filterMap.mp hgroup
    obtain ⟨script, -, rfl⟩ := Option.map_eq_some_iff.mp hlines
    simp [Turn.lines]
  rw [hscripts, intercalate_map_append hne, h.parted]

end RecordSpec

theorem isFarewell_iff {shell : Shell} {line : String} :
    shell.isFarewell line = true ↔ shell.pending = [] ∧ Farewell line := by
  simp [isFarewell, Farewell]

theorem not_farewell {shell : Shell} {line : String} (h : shell.isFarewell line = false)
    (hpending : shell.pending = []) : ¬ Farewell line := by
  intro hfarewell
  rw [isFarewell_iff.mpr ⟨hpending, hfarewell⟩] at h
  cases h

section

variable {host : Host σ} (hhost : Decides host complete)

include hhost

theorem succeeds_loopRecorded (input : List Keystroke) {shell : Shell}
    (hshell : Unfinished complete shell.pending) :
    (shell.loopRecorded input).Succeeds host fun recorded =>
      RecordSpec complete shell.pending (typedLines input) recorded.2
        recorded.1.shell.pending := by
  induction input generalizing shell with
  | nil => exact succeeds_tell (succeeds_pure (.nil hshell (by simp [typedLines])))
  | cons keystroke rest ih =>
      refine (succeeds_respondRecorded hhost shell keystroke).bind ?_
      rintro ⟨next, turn⟩ hresponds
      -- What is recorded of the rest goes on from the lines pending after this keystroke.
      cases hresponds with
      | left => exact succeeds_pure (.nil hshell (by simp [typedLines]))
      | parted hfarewell =>
          obtain ⟨hpending, hline⟩ := isFarewell_iff.mp hfarewell
          exact succeeds_pure (.nil hshell (by simp [typedLines, hline, hpending]))
      | offered text =>
          refine (ih hshell).bind ?_
          intro later hlater
          exact succeeds_pure hlater
      | @idled line hstays hidle =>
          refine (ih hshell).bind ?_
          intro later hlater
          have hturn : Turn.isIdle ⟨shell.pending, line, none⟩ = true := hidle
          refine succeeds_pure (.cons ⟨shell.pending, line, none⟩ hlater (not_farewell hstays) ?_
            (by simp) hshell)
          simp [hturn, Turn.groups]
      | @continued line hstays hbusy hincomplete =>
          refine (ih (hshell.concat hincomplete)).bind ?_
          intro later hlater
          have hturn : Turn.isIdle ⟨shell.pending, line, none⟩ = false := hbusy
          refine succeeds_pure (.cons ⟨shell.pending, line, none⟩ hlater (not_farewell hstays) ?_
            (by simp) hshell)
          simp [hturn, Turn.groups, typed]
      | @executed line next hstays hbusy hcomplete hpending =>
          have hnext : Unfinished complete next.pending := hpending ▸ unfinished_nil complete
          refine (ih hnext).bind ?_
          intro later hlater
          have hturn : Turn.isIdle ⟨shell.pending, line, some (shell.typed line).script⟩ = false :=
            hbusy
          refine succeeds_pure (.cons ⟨shell.pending, line, some (shell.typed line).script⟩ hlater
            (not_farewell hstays) ?_ ?_ hshell)
          · simp [hturn, Turn.groups, Turn.lines, hpending]
          · rintro script ⟨⟩
            exact ⟨rfl, hshell.finished hcomplete⟩

/-- A session always comes to an end, and every line typed before that is accounted for: in the
order in which they were typed, the lines are those of the scripts executed and of the one left
pending, but for blank lines while nothing was pending. A script is executed as soon as its lines
are complete. -/
theorem session_accounts_for_lines (settings : Settings) (input : List Keystroke) (s : σ) :
    Prod.fst <$> sessionRecorded settings input = session settings input ∧
      ∃ ending turns, ((session settings input).run host s).outcome = .ok ending ∧
        ((sessionRecorded settings input).run host s).outcome = .ok (ending, turns) ∧
        RecordSpec complete [] (typedLines input) turns ending.shell.pending ∧
        "\n".intercalate (Turn.scripts turns ++ ending.shell.pending) =
          "\n".intercalate (Turn.kept turns) := by
  have hsession : (sessionRecorded settings input).Succeeds host fun recorded =>
      RecordSpec complete [] (typedLines input) recorded.2 recorded.1.shell.pending :=
    (succeeds_startUp hhost _).bind fun _ _ =>
      succeeds_loopRecorded hhost input (unfinished_nil complete)
  obtain ⟨⟨ending, turns⟩, hrecorded, hrecord⟩ := hsession s
  have hplain : ((session settings input).run host s).outcome = .ok ending := by
    rw [← fst_sessionRecorded, ← bind_pure_comp, run_bind, hrecorded]
    rfl
  exact ⟨fst_sessionRecorded settings input, ending, turns, hplain, hrecorded, hrecord,
    hrecord.joined⟩

end

/-- A host that gives back every script as it is, and refuses all queries. -/
def echoing : Host Unit
  | .evaluate _ _ script, s => (.ok script, s)
  | .isComplete script, s => (.ok (World.balanced script), s)
  | .query _ call, s => (.error (World.refuse call.words "nothing to look at"), s)
  | .source path _, s => (.error (World.refuse [] path), s)
  | .require package _, s => (.error (World.refuse [] package), s)

theorem decides_echoing : Decides echoing World.balanced where
  reply_eq _ _ := rfl
  refuses := by
    intro request s hother
    cases request with
    | evaluate interp ns script => exact .inl ⟨script, rfl, trivial⟩
    | isComplete script => exact absurd rfl (hother script)
    | query kind call => exact .inr ⟨_, rfl⟩
    | source path interp => exact .inr ⟨_, rfl⟩
    | require package interp => exact .inr ⟨_, rfl⟩

/-- Lines with a script that is open for a while. -/
def braced : List Keystroke :=
  [.line " ", .line "proc f \x7b", .line "", .tab "ex", .line "exit", .line "\x7d", .line " quit ",
    .line "never"]

theorem session_accounts_for_braced :
    Decides echoing World.balanced ∧
      ∃ ending turns, ((sessionRecorded {} braced).run echoing ()).outcome = .ok (ending, turns) ∧
        RecordSpec World.balanced [] (typedLines braced) turns ending.shell.pending ∧
        Turn.scripts turns = ["proc f \x7b\n\nexit\n\x7d"] := by
  obtain ⟨-, ending, turns, -, hrecorded, hrecord, -⟩ :=
    session_accounts_for_lines decides_echoing {} braced ()
  have hcomputed : ((sessionRecorded {} braced).run echoing ()).outcome =
      .ok (⟨start {}, [.line "never"]⟩,
        [⟨[], " ", none⟩, ⟨[], "proc f \x7b", none⟩, ⟨["proc f \x7b"], "", none⟩,
          ⟨["proc f \x7b", ""], "exit", none⟩,
          ⟨["proc f \x7b", "", "exit"], "\x7d", some "proc f \x7b\n\nexit\n\x7d"⟩]) := by
    rfl
  rw [hcomputed] at hrecorded
  cases hrecorded
  exact ⟨decides_echoing, _, _, hcomputed, hrecord, rfl⟩

end Shell

end TabCompletion
