import WorkspaceFleet.Document

/-!
# WorkspaceFleet.Label

Labels of servers: names with a truth value or a text. A request may require labels, and a server
answers them when it has each with the same value of the same kind.
-/

namespace WorkspaceFleet

/-- The value of a label. The text `true` and the truth value are different values. -/
inductive LabelValue where
  | flag (b : Bool)
  | text (s : String)
  deriving DecidableEq, Repr, Inhabited

namespace LabelValue

variable {κ : Type}

def display : LabelValue → String
  | .flag true => "true"
  | .flag false => "false"
  | .text s => s

def isFlag : LabelValue → Bool
  | .flag _ => true
  | .text _ => false

def encode : LabelValue → Document κ
  | .flag b => .bool b
  | .text s => .text s

def decode : Document κ → Decoded LabelValue
  | .bool b => .ok (.flag b)
  | .text s => .ok (.text s)
  | _ => .error .mismatch

end LabelValue

abbrev Labels := Table LabelValue

/-- Whether every required label is there with an equal value. -/
def Labels.satisfy (labels required : Labels) : Bool :=
  required.entries.all (fun e => labels.get? e.1 == some e.2)

end WorkspaceFleet
