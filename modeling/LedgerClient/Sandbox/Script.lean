import LedgerClient.Rpc.Local

/-!
# Scripted nodes

A local node that answers from a script: one reply after the other, or always the same result. A
line of the script may also let the network fail before the node is reached.
-/

namespace LedgerClient.Sandbox

open Rpc

/-- A line of a script. -/
inductive Cue
  /-- The node answers. -/
  | answer (answer : Answer)
  /-- The network fails in the given words. -/
  | failure (text : String)

/-- What a scripted node answers. -/
inductive Script
  /-- One line after the other. -/
  | lines (cues : List Cue)
  /-- The same result every time. -/
  | always (result : Json)

namespace Script

/-! ### Scripts as documents -/

/-- The member of a document, or `null`. -/
def member (document : Json) (name : String) : Json :=
  match document with
  | .obj ms => (Json.find? ms name).getD .null
  | _ => .null

/-- What a part of a document stands for, or something else if it stands for nothing. -/
def readOr {α : Type} (f : Json.Form α) (other : α) (document : Json) : α :=
  (f.read document).toOption.getD other

/-- A refusal as a script states it, where the details may be left out. -/
def refusalOf (document : Json) : Refusal :=
  ⟨readOr .flexI64 0 (member document "code"), readOr .text "" (member document "message"),
    match document with
    | .obj ms => Json.find? ms "data"
    | _ => none⟩

/-- A line of a script: `fail` with a text, `body` with the status of the reply, which is that of
success unless stated, `error` with a refusal, or `result`. -/
def cueOf (document : Json) : Cue :=
  match member document "fail", member document "body", member document "error" with
  | .str text, _, _ => .failure text
  | _, .str body, _ =>
    .answer (.raw ⟨.ofNat (readOr .flexU64 200 (member document "status")).toNat, body⟩)
  | _, _, .obj ms => .answer (.refusal (refusalOf (.obj ms)))
  | _, _, _ => .answer (.result (member document "result"))

/-- A script: `always` with a result, or `replies` with the lines. -/
def ofJson : Json → Script
  | .obj ms =>
    match Json.find? ms "always", Json.find? ms "replies" with
    | some result, _ => always result
    | none, some (.arr cues) => lines (cues.map cueOf)
    | none, _ => lines []
  | _ => lines []

/-! ### The node -/

/-- The answer once a script has come to its end. -/
def exhausted : Answer :=
  .refuse (-32099) "script is empty"

/-- The answer to the next call and the script after it. -/
def next : Script → Answer × Script
  | always result => (.result result, always result)
  | lines (.answer a :: rest) => (a, lines rest)
  | lines (.failure _ :: rest) => (exhausted, lines rest)
  | lines [] => (exhausted, lines [])

/-- The local node that follows a script. -/
def node (delay : Duration) : LocalNode Script :=
  ⟨fun _ s => s.next, delay⟩

/-- The transport to a scripted node, which may fail by itself. -/
def transport (delay : Duration) : Transport (LocalNetwork Script) := fun body s =>
  match s.node with
  | lines (.failure text :: rest) =>
    let after : LocalNetwork Script := ⟨lines rest, s.calls⟩
    ⟨after, ⟨0⟩, .error (.network (.stated text none)), after⟩
  | _ => (node delay).transport body s

end Script

end LedgerClient.Sandbox
