import ReviewPrep.Diff.Scan
import ReviewPrep.Tokens.Estimate

/-!
# Review priority

Files are reviewed source first, then tests, then configuration, then documentation. A file is
a test when it is flagged so or its path contains `_test`, `.test.` or `.spec.`; otherwise its
extension decides between documentation, configuration and source. Ordering keeps the input
order within each priority.
-/

namespace ReviewPrep

/-- The review priority of a file, earliest first. -/
inductive Priority where
  | source | test | config | docs
  deriving DecidableEq, Repr, Inhabited

/-- The rank of a priority, from 1 for source to 4 for documentation. -/
def Priority.rank : Priority → Nat
  | .source => 1
  | .test => 2
  | .config => 3
  | .docs => 4

/-- The priorities in review order. -/
def Priority.all : List Priority := [.source, .test, .config, .docs]

/-- A file queued for review. -/
structure FileInfo where
  /-- The path. -/
  path : String
  /-- The language tag. -/
  language : String
  /-- The estimated token count of its changes. -/
  tokenCount : Int
  /-- Whether the file is flagged as a test. -/
  isTest : Bool
  deriving DecidableEq, Repr, Inhabited

/-- Path parts that mark a test. -/
def testMarkers : List String := ["_test", ".test.", ".spec."]

/-- Extensions of configuration files. -/
def configExtensions : List String := [".json", ".yaml", ".yml", ".toml", ".ini"]

/-- Extensions of documentation files. -/
def docExtensions : List String := [".md", ".txt", ".rst", ".adoc"]

/-- The priority of a file. -/
def FileInfo.priority (f : FileInfo) : Priority :=
  if f.isTest || testMarkers.any (fun m => Text.occursIn m.toList f.path.toList) then .test
  else
    let ext := fileExtension f.path
    if docExtensions.contains ext then .docs
    else if configExtensions.contains ext then .config
    else .source

/-- The files in review order: by priority, each priority keeping the input order. -/
def prioritize (files : List FileInfo) : List FileInfo :=
  Priority.all.flatMap fun p => files.filter (·.priority == p)

/-- The text of a file change's lines, joined by line feeds. -/
def FileChange.changedText (f : FileChange) : List Char :=
  Text.joinWith ['\n'] (f.hunks.flatMap fun h => h.lines.map (·.content.toList))

/-- The files of a diff as review queue entries, with estimated token counts. -/
def Diff.fileInfos (d : Diff) (est : Tokens.Estimator) : Except Tokens.TokenFault (List FileInfo) :=
  d.files.mapM fun f => do
    return ⟨f.path, f.language.tag, ← est.estimate f.changedText, false⟩

end ReviewPrep
