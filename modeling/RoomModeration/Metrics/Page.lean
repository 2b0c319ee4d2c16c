import RoomModeration.Metrics.Exposition

/-!
# Pages for a collector

A collector asks for pages: one with the figures, and one that only says that the program is alive.
Pages can be asked for with or without their text; nothing else can be done with them.

## Main definitions

* `Page` : what is answered.
* `Page.answer` : the answer to a request.
-/

namespace RoomModeration

/-- What a collector is answered. -/
structure Page where
  /-- The status. -/
  status : Nat
  /-- What kind of text it is; empty if there is none. -/
  contentType : String
  /-- The text. -/
  body : String
  deriving DecidableEq, Repr

namespace Page

/-- The page with a text. -/
def ofText (body : String) : Page :=
  ⟨200, "text/plain; charset=utf-8", body⟩

/-- The page with a status and nothing else. -/
def bare (status : Nat) : Page :=
  ⟨status, "", ""⟩

/-- The text of the page under a path, if there is one. -/
def text? (figures : Figures) (path : String) : Option String :=
  if path = "/metrics" then some (String.join (figures.lines.map (· ++ "\n")))
  else if path = "/health" then some "ok"
  else none

/-- The path of a target, which may be followed by a query. -/
def pathOf (target : String) : String :=
  String.ofList (target.toList.takeWhile (· != '?'))

/-- The answer to a request. -/
def answer (figures : Figures) (method target : String) : Page :=
  match text? figures (pathOf target) with
  | none => bare 404
  | some text =>
    if method = "GET" then ofText text
    else if method = "HEAD" then { ofText text with body := "" }
    else bare 405

end Page

end RoomModeration
