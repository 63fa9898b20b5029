import ClientForge.Client.Plan

/-!
Artifacts: the files of a generated client, line by line, as the templates give them.
-/

namespace ClientForge

/-- A file of a generated client. -/
structure Artifact where
  path : String
  /-- The lines, each without its end. -/
  lines : List String
deriving DecidableEq, Repr, Inhabited

/-- The text of a file: its lines, each with its end. -/
def Artifact.text (a : Artifact) : String := String.join (a.lines.map (· ++ "\n"))

/-! ## Lines of several languages -/

/-- Texts with commas between them. -/
def commas (texts : List String) : String := ", ".intercalate texts

/-- A name between braces. -/
def inBraces (name : String) : String := "\x7b" ++ name ++ "\x7d"

/-- The call of a method in an example. -/
def MethodPlan.call (t : Target) (m : MethodPlan) : String :=
  m.name ++ "(" ++ commas (m.exampleArgs t) ++ ")"

/-- The verb and the path in a comment. -/
def MethodPlan.route (t : Target) (m : MethodPlan) : String := m.verb.name ++ " " ++ t.comment m.path

/-- The response of a status in a comment, after the mark of one. -/
def responseLine (t : Target) (mark : String) (r : String × String) : String :=
  mark ++ "   " ++ r.1 ++ ": " ++ firstFilled [t.comment r.2] "no description"

/-- The comment over the test of a method: its route and its responses, after the mark of a comment. -/
def MethodPlan.testComment (t : Target) (mark : String) (m : MethodPlan) : List String :=
  (mark ++ " " ++ m.route t) ::
    if m.responses.isEmpty then [mark ++ " No documented responses."]
    else (mark ++ " Responses:") :: m.responses.map (responseLine t mark)

/-- The methods that an example of usage shows, with their numbers. -/
def ClientPlan.shown (p : ClientPlan) : List (MethodPlan × Nat) := (p.methods.take 2).zipIdx 1

end ClientForge
