import ReviewPrep.Text.Basic
import ReviewPrep.Text.Case.Lower

/-!
# Languages of source files

A file's language is read off the extension of its last path component: the text from the last
dot on, lower-cased, provided some character other than a dot stands before that dot. Both `/`
and `\` separate path components. An extension outside the table gives `unknown`.
-/

namespace ReviewPrep

/-- The languages that file extensions name. -/
inductive Language where
  | go | python | javascript | typescript | java | ruby | rust | c | cpp | csharp | php | swift
  | kotlin | scala | shell | yaml | json | xml | html | css | scss | sql | markdown | unknown
  deriving DecidableEq, Repr, Inhabited

namespace Language

/-- The tag of a language, as written in reports. -/
def tag : Language → String
  | go => "go" | python => "python" | javascript => "javascript" | typescript => "typescript"
  | java => "java" | ruby => "ruby" | rust => "rust" | c => "c" | cpp => "cpp"
  | csharp => "csharp" | php => "php" | swift => "swift" | kotlin => "kotlin"
  | scala => "scala" | shell => "shell" | yaml => "yaml" | json => "json" | xml => "xml"
  | html => "html" | css => "css" | scss => "scss" | sql => "sql" | markdown => "markdown"
  | unknown => "unknown"

/-- The extensions, dot included, that name a language. -/
def extensions : List (String × Language) :=
  [(".go", go), (".py", python), (".js", javascript), (".jsx", javascript),
   (".ts", typescript), (".tsx", typescript), (".java", java), (".rb", ruby), (".rs", rust),
   (".c", c), (".h", c), (".cpp", cpp), (".hpp", cpp), (".cs", csharp), (".php", php),
   (".swift", swift), (".kt", kotlin), (".scala", scala), (".sh", shell), (".bash", shell),
   (".yaml", yaml), (".yml", yaml), (".json", json), (".xml", xml), (".html", html),
   (".css", css), (".scss", scss), (".sql", sql), (".md", markdown)]

/-- The language that an extension names, `unknown` for any other. -/
def ofExtension (ext : String) : Language :=
  match extensions.find? (·.1 == ext) with
  | some (_, l) => l
  | none => unknown

end Language

/-- The last component of a path, after the last `/` or `\`. -/
def baseName (path : List Char) : List Char :=
  (path.reverse.takeWhile fun c => c != '/' && c != '\\').reverse

/-- The extension of a file name as written: from its last dot on, when a character other than a
dot precedes that dot; otherwise empty. -/
def nameExtension (name : List Char) : List Char :=
  match Text.breakOnLast? ['.'] name with
  | some (stem, rest) => if stem.any (· != '.') then '.' :: rest else []
  | none => []

/-- The lower-cased extension of a path's last component, dot included. -/
def fileExtension (path : String) : String :=
  String.ofList (Text.toLowerChars (nameExtension (baseName path.toList)))

/-- The language of a file, read off its extension. -/
def detectLanguage (path : String) : Language := Language.ofExtension (fileExtension path)

end ReviewPrep
