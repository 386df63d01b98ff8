import ChapterTex.Book.Chapter
import ChapterTex.Files.Workspace
import ChapterTex.Markdown.Adapt
import ChapterTex.Render.Basic
import ChapterTex.Token.Serialized

/-!
Conversion of one document to LaTeX. The document is read and made tokens, then the chapter order of
its book is looked up, then it is rendered; the first of these steps that fails gives the failure.
-/
namespace ChapterTex

inductive Format where
  | markdown
  | json
deriving Repr, DecidableEq

def Format.name : Format → String
  | markdown => "markdown"
  | json => "json"

/-- The names of formats. `auto` is the format that the name of the document tells. -/
def Format.names : List String := ["auto", "markdown", "json"]

/-- The format of a document at a path. -/
def Format.ofPath (p : Path) : Format := if p.suffix == ".json" then .json else .markdown

/-- The format that a name means for a document at a path. -/
def Format.ofName (name : String) (p : Path) : Except Failure Format :=
  match name with
  | "auto" => .ok (.ofPath p)
  | "markdown" => .ok .markdown
  | "json" => .ok .json
  | _ => .error (.unknownFormat name)

/-- A document to be converted. Without a directory of its own it belongs to the book in the
directory of the environment, or else in its own one. -/
structure Request where
  path : Path
  chaptersDir : Option Path := none
  format : String := "auto"
  /-- Whether headings get the capitals of titles. -/
  capitals : Bool := false

namespace Request

/-- The tokens of a text in a format. Only headings in Markdown get capitals. -/
def parse (r : Request) (format : Format) (text : String) : Except Failure (List Token) :=
  match format with
  | .json => Token.load text
  | .markdown => Markdown.load r.capitals text

def tokens (r : Request) (w : Workspace) : Except Failure (List Token) := do
  let format ← Format.ofName r.format r.path
  let text ← w.read r.path
  r.parse format text

def directory (r : Request) (env : Environment) : Directory :=
  match r.chaptersDir with
  | some p => .at p
  | none =>
    match env.chaptersDir? none with
    | some p => .at p
    | none => if r.path = Workspace.inputPath then .working else .at r.path.parent

end Request

/-- The chapter order of the book in a directory. -/
def Workspace.chapters (w : Workspace) (d : Directory) : Except Failure Book.Registry :=
  Book.discover <$> w.list d

/-- The renderer of a document in a book. -/
def Request.renderer (r : Request) (env : Environment) (registry : Book.Registry) : Renderer :=
  { registry
    chapter := Book.chapterLabel r.path.name
    frontMatter := Book.isFrontMatter r.path.name
    figureWidth := env.width }

/-- The LaTeX of a document. -/
def convert (w : Workspace) (r : Request) : Except Failure String := do
  let tokens ← r.tokens w
  let registry ← w.chapters (r.directory w.env)
  (r.renderer w.env registry).render tokens

/-! What is logged. The parser of Markdown logs its own steps, which are left out. -/

/-- The message about the tokens of a document that was read. -/
def Format.loaded (format : Format) (tokens : List Token) : String :=
  match format with
  | markdown => "Parsed " ++ toString tokens.length ++ " block token(s)"
  | json => "Loaded " ++ toString tokens.length ++ " token(s) from JSON"

/-- The message about the chapter files of a directory, if there is one. -/
def Workspace.chaptersLog (w : Workspace) (d : Directory) : List String :=
  match w.list d with
  | .error _ => []
  | .ok names =>
    let slugs := (Book.chapterFiles names).filterMap Book.chapterSlug?
    ["Found " ++ toString slugs.length ++ " chapter(s) in " ++ w.nameOf d ++ ": " ++
      (Datum.list (slugs.map Datum.text)).inner]

/-- The messages about the steps of a conversion, up to the step that fails. -/
def Request.log (r : Request) (w : Workspace) : List String :=
  match Format.ofName r.format r.path, w.read r.path with
  | .ok format, .ok text =>
    ("Reading " ++ r.path.toText ++ " as " ++ format.name) ::
      match r.parse format text with
      | .error _ => []
      | .ok tokens =>
        let directory := r.directory w.env
        format.loaded tokens :: w.chaptersLog directory ++
          match w.chapters directory with
          | .error _ => []
          | .ok registry =>
            ["Rendering " ++ toString tokens.length ++ " token(s) for chapter " ++
              (r.renderer w.env registry).chapter]
  | _, _ => []

end ChapterTex
