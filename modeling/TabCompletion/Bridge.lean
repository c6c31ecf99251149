import TabCompletion.Binding

/-! # A host over a binding

Queries run in a namespace that must exist, so that looking never creates one; scripts of the user
run in a namespace that is created at need. While a command runs, results are wished as texts. -/

namespace TabCompletion

/-- A binding in use: its own state, and whether richer values than texts are wished. -/
structure Linked (β : Type) where
  under : β
  richValues : Bool

namespace Bridge

variable {α β : Type} (binding : Binding β)

/-- Does something while results are wished as texts, and restores the wish afterwards. -/
def withTexts (act : Linked β → α × Linked β) (link : Linked β) : α × Linked β :=
  let result := act { link with richValues := false }
  (result.1, { result.2 with richValues := link.richValues })

def call (words : List Value) (link : Linked β) : Except Failure Value × Linked β :=
  let result := binding.call link.richValues words link.under
  (result.1, { link with under := result.2 })

/-- A failure of the binding, as the refusal of a command in an interpreter. -/
def refusal (words : List String) (interp : String) : Failure → Failure
  | .binding message =>
    .rejected ⟨" ".intercalate words ++ ": " ++ message, words, interp, some message⟩
  | other => other

def texts (words : List String) : Value :=
  .list (words.map .text)

/-- Has an interpreter run a script given as a list; failures are told of the command that it
stands for. -/
def callIn (interp : String) (script : List Value) (words : List String) (link : Linked β) :
    Except Failure Value × Linked β :=
  let sent : List Value := [.text "::interp", .text "eval", .text interp, .list script]
  let result := withTexts (call binding sent) link
  (result.1.mapError (refusal words interp), result.2)

/-- A query becomes a command inside its namespace, one word in the place of one word. -/
def queryScript (ns : String) (words : List String) : List Value :=
  [.text "::namespace", .text "inscope", .text ns, texts words]

/-- How the result of a query is read. A result that is no list is not told of the command. -/
def readAs (call : Call) : (kind : Kind) → Value → Except Failure kind.Answer
  | .names, result => (·.map Value.asText) <$> binding.items result
  | .flag, result =>
    match binding.truth result with
    | .error (.binding message) =>
      .error (.rejected ⟨" ".intercalate call.words ++ ": expected boolean, got " ++ result.shown,
        call.words, call.interp, some message⟩)
    | other => other
  | .value, result => .ok result.asText

/-- The host that puts every request to a binding. -/
def host : Host (Linked β)
  | .query kind sent, link =>
    let result := callIn binding sent.interp (queryScript sent.ns sent.words) sent.words link
    (result.1 >>= readAs binding sent kind, result.2)
  | .evaluate interp ns script, link =>
    let result := callIn binding interp
      [.text "::namespace", .text "eval", .text ns, .text script] [script] link
    (result.1.map Value.asText, result.2)
  | .isComplete script, link =>
    let result := call binding [.text "::info", .text "complete", .text script] link
    (result.1 >>= binding.truth, result.2)
  | .source path interp, link =>
    callIn binding interp [.text "::source", .text path] ["source", path] link
  | .require package interp, link =>
    callIn binding interp [.text "::package", .text "require", .text package]
      ["package", "require", package] link

end Bridge

end TabCompletion
