import Refetch.Document.Printer
import Refetch.Document.Same
import Refetch.Adapter
import Refetch.Source.Written

/-!
# Sessions

A session holds a current document, an adapter and a request, and takes one step after the
other. A step that fails leaves everything as it was.
-/

namespace Refetch

/-- What a session holds. -/
structure Session where
  /-- the current document, none at first -/
  document? : Option Document := none
  /-- the adapter -/
  adapter : Adapter := .default
  /-- the request, none at first -/
  request? : Option Request := none

/-- Why a step fails. -/
inductive StepError where
  /-- a source does not resolve -/
  | source (e : SourceError)
  /-- a text is no document -/
  | parse (e : ParseError)
  /-- the sources cannot be loaded -/
  | load (e : LoadError)
  /-- the document cannot be narrowed -/
  | isolation (e : IsolationError)
  /-- the step needs a document -/
  | noDocument
  /-- the step needs a request -/
  | noRequest

/-- A change to the current document. -/
inductive Edit where
  /-- narrow it to what lies under a field -/
  | isolate (field : String)
  /-- strip derived fields -/
  | strip (rule : DerivedRule)
  /-- take a prefix off type names -/
  | normalize (prefixName : String)
  /-- rebuild it as it is -/
  | rebuild
  /-- print it and read it again -/
  | reparse
  /-- add the definitions of a text at the end -/
  | push (text : String)
  /-- drop the first definition, if there is one -/
  | pop

/-- A step of a session. -/
inductive Step where
  /-- read the current document from a text -/
  | parse (text : String)
  /-- load the current document from sources -/
  | load (query : WrittenSource) (fragments : List WrittenSource)
  /-- change the current document -/
  | edit (edit : Edit)
  /-- set the adapter's root field -/
  | setRootField (field : String)
  /-- set the adapter's prefix -/
  | setTypePrefix (prefixName : String)
  /-- set the adapter's rule -/
  | setRule (rule : DerivedRule)
  /-- start a request -/
  | query (source : WrittenSource)
  /-- add a fragment to the request -/
  | addFragment (source : WrittenSource)
  /-- start a request with the current document -/
  | useDocument
  /-- adapt the request, perhaps keeping what comes out as the current document -/
  | adapt (keep : Bool)
  /-- adapt the current document, perhaps keeping what comes out in its place -/
  | adaptDocument (keep : Bool)

/-- What a step answers. -/
inductive StepAnswer where
  /-- the current document, and whether it is the same as before -/
  | document (document : Document) (same : Bool)
  /-- the adapter -/
  | settings (adapter : Adapter)
  /-- the number of fragments of the request -/
  | fragments (count : Nat)
  /-- what became of a document -/
  | outcome (outcome : Outcome)

/-- Reads a document as part of a step. -/
def StepError.parsing (text : String) : Except StepError Document :=
  match Document.parse text with
  | .ok document => .ok document
  | .error e => .error (.parse e)

/-- Resolves a source as part of a step. -/
def StepError.resolving {α : Type} : Except SourceError α → Except StepError α
  | .ok x => .ok x
  | .error e => .error (.source e)

/-- Loads a request as part of a step. -/
def StepError.loading {α : Type} : Except LoadError α → Except StepError α
  | .ok x => .ok x
  | .error e => .error (.load e)

/-- Applies a change to a document. -/
def Edit.apply (document : Document) : Edit → Except StepError Document
  | isolate field =>
    match document.isolate field with
    | .ok isolated => .ok isolated
    | .error e => .error (.isolation e)
  | strip rule => .ok (document.strip rule)
  | normalize prefixName => .ok (document.normalize (.ofName prefixName))
  | rebuild => .ok (Pass.identity.run document)
  | reparse => StepError.parsing document.print
  | push text => do
    let more ← StepError.parsing text
    return ⟨document.definitions ++ more.definitions⟩
  | pop => .ok ⟨document.definitions.drop 1⟩

namespace Session

/-- The current document, which the step needs. -/
def needDocument (session : Session) : Except StepError Document :=
  match session.document? with
  | some document => .ok document
  | none => .error .noDocument

/-- The request, which the step needs. -/
def needRequest (session : Session) : Except StepError Request :=
  match session.request? with
  | some request => .ok request
  | none => .error .noRequest

/-- Makes a document the current one. -/
def replace (session : Session) (document : Document) : StepAnswer × Session :=
  let same := match session.document? with
    | some before => before.same document
    | none => false
  (.document document same, { session with document? := some document })

/-- Sets the adapter. -/
def configure (session : Session) (adapter : Adapter) : StepAnswer × Session :=
  (.settings adapter, { session with adapter })

/-- Sets the request. -/
def ask (session : Session) (request : Request) : StepAnswer × Session :=
  (.fragments request.fragments.length, { session with request? := some request })

/-- Answers an outcome and keeps its document if that is wanted. -/
def conclude (session : Session) (keep : Bool) (outcome : Outcome) : StepAnswer × Session :=
  match keep, outcome with
  | true, .adapted document => (.outcome outcome, { session with document? := some document })
  | _, _ => (.outcome outcome, session)

/-- Takes one step. -/
def step (session : Session) : Step → Except StepError (StepAnswer × Session)
  | .parse text => do
    return session.replace (← StepError.parsing text)
  | .load query fragments => do
    let request ← StepError.resolving (query.resolveAll fragments)
    let document ← StepError.loading (request.query.loadWith request.fragments)
    return session.replace document
  | .edit edit => do
    let document ← session.needDocument
    return session.replace (← edit.apply document)
  | .setRootField field => return session.configure (session.adapter.setRootField field)
  | .setTypePrefix prefixName =>
    return session.configure (session.adapter.setTypePrefix prefixName)
  | .setRule rule => return session.configure (session.adapter.setRule rule)
  | .query source => do
    return session.ask (.ofQuery (← StepError.resolving source.resolve))
  | .addFragment source => do
    let request ← session.needRequest
    return session.ask (request.addFragment (← StepError.resolving source.resolve))
  | .useDocument => do
    return session.ask (.ofQuery (.document (← session.needDocument)))
  | .adapt keep => do
    let request ← session.needRequest
    return session.conclude keep (← StepError.loading (session.adapter.adapt request))
  | .adaptDocument keep => do
    return session.conclude keep (session.adapter.adaptDocument (← session.needDocument))

/-- Takes steps one after the other; a failing one changes nothing. -/
def run (session : Session) : List Step → List (Except StepError StepAnswer)
  | [] => []
  | step :: rest =>
    match session.step step with
    | .ok (answer, next) => .ok answer :: next.run rest
    | .error e => .error e :: session.run rest

end Session

end Refetch
