import ReviewPrep.Prompt.Render

/-!
# Enriched review requests

A review request carries a diff, its file's language tag and path, the prompt context of the
file's outline through the view of the diff, and a summary of the changed symbols. It fails when
the file's source cannot be read, and, after that, when a hunk mark of the diff is too long to
read; a path that names no file is reported as such.
-/

namespace ReviewPrep.Prompt

/-- A review request enriched with structural context. -/
structure Request where
  /-- The diff under review. -/
  diff : String
  /-- The language tag, as given. -/
  language : String
  /-- The file's path. -/
  filePath : String
  /-- The prompt context of the file. -/
  context : String
  /-- The summary of the changed symbols. -/
  changedSymbols : String
  deriving Inhabited

/-- Why a request could not be built. -/
inductive RequestError where
  /-- The source could not be read. -/
  | unreadable (e : SourceError)
  /-- The path names no file. -/
  | noFileName (path : String)
  /-- The diff's hunk marks cannot be read. -/
  | badDiff (e : Diff.DiffError)
  /-- The context must be cut at a limit that is not a whole number. -/
  | fractionalLimit

/-- The text of a request error. -/
def RequestError.message : RequestError → String
  | .unreadable e => "failed to parse file: " ++ e.message
  | .noFileName path => (SourceError.noFileName path).message
  | .badDiff e => e.message
  | .fractionalLimit => "slice indices must be integers"

/-- Builds the request for a diff of a file whose new source is `code`. -/
def Request.build (maxLength : Quantity) (diff language filePath : String) (code : Payload) :
    Except RequestError Request :=
  match Outline.read language code filePath with
  | .ok (_, o) =>
    match o.changes diff with
    | .ok v =>
      match render? maxLength o (some v) with
      | some text => .ok ⟨diff, language, filePath, text, v.summary⟩
      | none => .error .fractionalLimit
    | .error e => .error (.badDiff e)
  | .error (.noFileName p) => .error (.noFileName p)
  | .error e => .error (.unreadable e)

end ReviewPrep.Prompt
