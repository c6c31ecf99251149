import TabCompletion.Bridge
import TabCompletion.World.Script

/-! # Worlds as hosts

A world can be asked directly, or through the binding of an interpreter; both ways reach the same
answers. -/

namespace TabCompletion.World

/-! ## Directly -/

/-- An answer read as a list: a text is the list of its characters. -/
def asNames : Value → Except Failure (List String)
  | .text s => .ok (s.toList.map String.singleton)
  | .list items => .ok (items.map Value.asText)
  | _ => .error .notAList

def readAs : (kind : Kind) → Value → Except Failure kind.Answer
  | .names, value => asNames value
  | .flag, value => .ok value.weight
  | .value, value => .ok value.asText

def host : Host World
  | .query kind call, w =>
    let result := w.look call
    (result.1 >>= readAs kind, result.2)
  | .evaluate interp ns script, w => w.evaluate interp ns script
  | .isComplete script, w => (.ok (balanced script), w)
  | .source path interp, w =>
    let result := w.source path interp
    (result.1.map .text, result.2)
  | .require package interp, w =>
    let result := w.require package interp
    (result.1.map .text, result.2)

/-! ## Through a binding -/

/-- A value as a binding hands it over: truth values as `1` and `0`. -/
def handedOver : Value → Value
  | .truth b => .text (if b then "1" else "0")
  | other => other

/-- A refusal as a failure of the binding: only its message is left. -/
def asBindingFailure : Failure → Failure
  | .rejected r => .binding r.message
  | other => other

/-- The words of a command, if they are all texts. -/
def words? : List Value → Option (List String)
  | [] => some []
  | .text s :: rest => (s :: ·) <$> words? rest
  | _ :: _ => none

/-- What the words of a call ask of the world. -/
def request? : List Value → Option Request
  | [.text "::interp", .text "eval", .text interp,
      .list [.text "::namespace", .text "inscope", .text ns, .list words]] =>
    (words? words).map fun words => .query .value ⟨interp, ns, words⟩
  | [.text "::interp", .text "eval", .text interp,
      .list [.text "::namespace", .text "eval", .text ns, .text script]] =>
    some (.evaluate interp ns script)
  | [.text "::interp", .text "eval", .text interp, .list [.text "::source", .text path]] =>
    some (.source path interp)
  | [.text "::interp", .text "eval", .text interp,
      .list [.text "::package", .text "require", .text package]] =>
    some (.require package interp)
  | [.text "::info", .text "complete", .text script] => some (.isComplete script)
  | _ => none

/-- Answers a request with a value that is not read yet. -/
def serve (w : World) : Request → Except Failure Value × World
  | .query _ call => w.look call
  | .evaluate interp ns script =>
    let result := w.evaluate interp ns script
    (result.1.map .text, result.2)
  | .isComplete script => (.ok (.truth (balanced script)), w)
  | .source path interp =>
    let result := w.source path interp
    (result.1.map .text, result.2)
  | .require package interp =>
    let result := w.require package interp
    (result.1.map .text, result.2)

def binding : Binding World where
  call _ words w :=
    match request? words with
    | none => (.error (.binding "invalid command"), w)
    | some request =>
      let result := w.serve request
      ((result.1.mapError asBindingFailure).map handedOver, result.2)
  items := Binding.plainItems
  truth := Binding.plainTruth

/-- A world behind the binding of an interpreter. -/
def linkedHost : Host (Linked World) :=
  Bridge.host binding

def linked (w : World) : Linked World :=
  ⟨w, true⟩

end TabCompletion.World
