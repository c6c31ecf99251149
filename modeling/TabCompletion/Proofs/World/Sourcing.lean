import TabCompletion.Proofs.World.Fixtures

/-! # Script files of a world

Scripts that are run one after the other, each in the world that the one before it has left. They
never change the files, and behind a binding they do what they do in the world itself. -/

namespace TabCompletion.World

/-! ## One script -/

theorem files_source (w : World) (path interp : String) :
    (w.source path interp).2.files = w.files :=
  congrArg (fun fixtures => fixtures.2.2) (fixtures_source w path interp)

/-- A script fails by being refused, or because its file holds no text. -/
theorem refused_or_unread_of_source {w : World} {path interp : String} {e : Failure}
    (h : (w.source path interp).1 = .error e) :
    (∃ r, e = .rejected r) ∨ ∃ fault, e = .file fault := by
  rw [source] at h
  split at h
  · split at h
    · next script _ =>
      simp only [runScript] at h
      cases hresult : ((w.log ⟨interp, Namespace.root, ["source", path]⟩).statements ""
          (parse script)).1 with
      | ok value => rw [hresult] at h; cases h
      | error message =>
          rw [hresult] at h
          cases h
          exact .inl ⟨_, rfl⟩
    · cases h
      exact .inl ⟨_, rfl⟩
    · cases h
      exact .inr ⟨_, rfl⟩
  · cases h
    exact .inl ⟨_, rfl⟩

/-- Behind a binding a script is run as one command in the main interpreter. -/
theorem linkedHost_source (w : World) (path : String) :
    linkedHost (.source path "") (linked w) =
      (((((w.source path "").1.map Value.text).mapError asBindingFailure).map
          handedOver).mapError (Bridge.refusal ["source", path] ""),
        linked (w.source path "").2) := by
  simp [linkedHost, Bridge.host, Bridge.callIn, Bridge.withTexts, Bridge.call, binding, request?,
    serve, linked]

/-! ## One after the other -/

/-- Why no further script is run. -/
inductive Stop
  /-- There is nothing at the path. -/
  | missing (path : Path)
  /-- Whether there is anything at the path cannot be asked. -/
  | unaskable (path : Path) (fault : FileFault)
  | refused (path : Path) (r : Rejection)
  /-- The file holds no text. -/
  | unread (path : Path) (fault : FileFault)

/-- Scripts run in order in the main interpreter of a world, each looked for when its turn has come,
until one of them is not there or fails. The paths of the scripts that were started are told, the
world that is left, and what stopped the run, if it did not come to its end. -/
inductive Sources : World → List Path → List Path → World → Option Stop → Prop
  | finished (w : World) : Sources w [] [] w none
  | missing {w : World} {path : Path} (rest : List Path) :
      w.files.present path = .ok false →
      Sources w (path :: rest) [] w (some (.missing path))
  | unaskable {w : World} {path : Path} {fault : FileFault} (rest : List Path) :
      w.files.present path = .error fault →
      Sources w (path :: rest) [] w (some (.unaskable path fault))
  | refused {w next : World} {path : Path} {r : Rejection} (rest : List Path) :
      w.files.present path = .ok true → w.source path.text "" = (.error (.rejected r), next) →
      Sources w (path :: rest) [path] next (some (.refused path r))
  | unread {w next : World} {path : Path} {fault : FileFault} (rest : List Path) :
      w.files.present path = .ok true → w.source path.text "" = (.error (.file fault), next) →
      Sources w (path :: rest) [path] next (some (.unread path fault))
  | ran {w next after : World} {path : Path} {rest started : List Path} {value : String}
      {stop : Option Stop} :
      w.files.present path = .ok true → w.source path.text "" = (.ok value, next) →
      Sources next rest started after stop →
      Sources w (path :: rest) (path :: started) after stop

theorem exists_sources (w : World) (scripts : List Path) :
    ∃ started after stop, Sources w scripts started after stop := by
  induction scripts generalizing w with
  | nil => exact ⟨[], w, none, .finished w⟩
  | cons path rest ih =>
      cases hpresent : w.files.present path with
      | error fault => exact ⟨_, _, _, .unaskable rest hpresent⟩
      | ok present =>
          cases present with
          | false => exact ⟨_, _, _, .missing rest hpresent⟩
          | true =>
              rcases hsource : w.source path.text "" with ⟨reply, next⟩
              cases reply with
              | ok value =>
                  obtain ⟨started, after, stop, hrest⟩ := ih next
                  exact ⟨_, _, _, .ran hpresent hsource hrest⟩
              | error e =>
                  rcases refused_or_unread_of_source (congrArg Prod.fst hsource) with
                    ⟨r, rfl⟩ | ⟨fault, rfl⟩
                  · exact ⟨_, _, _, .refused rest hpresent hsource⟩
                  · exact ⟨_, _, _, .unread rest hpresent hsource⟩

/-- Scripts are started in order, and none is left out before the one that stops the run. -/
theorem Sources.started_prefix {w after : World} {scripts started : List Path}
    {stop : Option Stop} (h : Sources w scripts started after stop) : started <+: scripts := by
  induction h with
  | finished w => exact List.nil_prefix
  | missing rest _ => exact List.nil_prefix
  | unaskable rest _ => exact List.nil_prefix
  | refused rest _ _ => exact List.cons_prefix_cons.mpr ⟨rfl, List.nil_prefix⟩
  | unread rest _ _ => exact List.cons_prefix_cons.mpr ⟨rfl, List.nil_prefix⟩
  | ran _ _ _ ih => exact List.cons_prefix_cons.mpr ⟨rfl, ih⟩

theorem Sources.started_eq {w after : World} {scripts started : List Path}
    (h : Sources w scripts started after none) : started = scripts := by
  generalize hstop : none = stop at h
  induction h with
  | finished w => rfl
  | missing rest _ => cases hstop
  | unaskable rest _ => cases hstop
  | refused rest _ _ => cases hstop
  | unread rest _ _ => cases hstop
  | ran _ _ _ ih => rw [ih hstop]

end TabCompletion.World
