import ReviewPrep.Report

/-!
# The command line

The tool runs one stage of review preparation on files and prints the result:

* `parse DIFF`: the diff as a document;
* `context --diff DIFF --file FILE [--language TAG] [--max-length N]`: the enriched review
  request of a file, from the file and its diff;
* `chunk FILE [--language TAG] [--max-tokens N] [--strict]`: the text's chunks;
* `prioritize PATH...`: the paths in review order, one a line;
* `tokens FILE [--model NAME]`: the text's estimate against the model's budget.

`--log-format {console,json}` and `--log-level LEVEL` may stand before the command. An option is
written `--name value` or `--name=value`, its name may be shortened as long as it stays
unambiguous, and `--` ends the options. A language left empty comes from the file's extension;
a length, budget or model left zero or empty comes from the settings. Diffs and texts are read
leniently as UTF-8, the source file of `context` strictly.

All of this is pure: the words become an `Invocation`, and file contents become the text to
print. Reading the files and the environment, and writing, is left to the program.
-/

namespace ReviewPrep.Command

/-- What the tool is asked to do. -/
inductive Task where
  /-- Read a diff file. -/
  | parse (diffFile : String)
  /-- Build the review request of a file from the file and its diff. -/
  | context (diffFile file language : String) (maxLength : Int)
  /-- Split a file into chunks. -/
  | chunk (file language : String) (maxTokens : Int) (strict : Bool)
  /-- Order paths for review. -/
  | prioritize (paths : List String)
  /-- Estimate the tokens of a file. -/
  | tokens (file model : String)
  deriving Repr, Inhabited

/-- A command line: the logging options, when given, and the task. -/
structure Invocation where
  /-- The log format. -/
  logFormat : Option String
  /-- The least log level reported. -/
  logLevel : Option String
  /-- The task. -/
  task : Task
  deriving Repr, Inhabited

/-- What a command line asks for: a run, the help text, or nothing, for a usage error whose
text is given. -/
inductive Outcome where
  | run (i : Invocation)
  | help (text : String)
  | usageError (text : String)
  deriving Repr

/-- The name the tool goes by in its messages. -/
def programName : String := "diffscope"

/-- The names of the commands, in the order the help lists them. -/
def commandNames : List String := ["parse", "context", "chunk", "prioritize", "tokens"]

/-- The usage line of the tool. -/
def mainUsage : String :=
  "usage: " ++ programName ++ " [-h] [--log-format \x7bconsole,json\x7d] [--log-level LOG_LEVEL]\n" ++
  "                 \x7b" ++ ",".intercalate commandNames ++ "\x7d ..."

/-- The usage line of a command. -/
def commandUsage : String → String
  | "parse" => "usage: " ++ programName ++ " parse [-h] diff_file"
  | "context" => "usage: " ++ programName ++
      " context [-h] --diff DIFF --file FILE [--language LANGUAGE] [--max-length MAX_LENGTH]"
  | "chunk" => "usage: " ++ programName ++
      " chunk [-h] [--language LANGUAGE] [--max-tokens MAX_TOKENS] [--strict] file"
  | "prioritize" => "usage: " ++ programName ++ " prioritize [-h] paths [paths ...]"
  | "tokens" => "usage: " ++ programName ++ " tokens [-h] [--model MODEL] file"
  | _ => mainUsage

/-- The help text of the tool. -/
def mainHelp : String :=
  mainUsage ++ "\n\nPrepare diffs and source files for AI code review\n\n" ++
  "positional arguments:\n" ++
  "  \x7b" ++ ",".intercalate commandNames ++ "\x7d\n" ++
  "    parse               Parse a unified diff into JSON\n" ++
  "    context             Build an enhanced review request\n" ++
  "    chunk               Split a diff or file into token-bounded chunks\n" ++
  "    prioritize          Order paths by review priority\n" ++
  "    tokens              Estimate tokens for a file\n\n" ++
  "options:\n" ++
  "  -h, --help            show this help message and exit\n" ++
  "  --log-format \x7bconsole,json\x7d\n" ++
  "                        Log output format (default: DIFFSCOPE_LOG_FORMAT or console)\n" ++
  "  --log-level LOG_LEVEL\n" ++
  "                        Minimum log level (default: DIFFSCOPE_LOG_LEVEL or INFO)"

/-- A usage error of the tool, or of one of its commands. -/
def usageError (command : Option String) (message : String) : Outcome :=
  match command with
  | some c => .usageError (commandUsage c ++ "\n" ++ programName ++ " " ++ c ++ ": error: " ++ message)
  | none => .usageError (mainUsage ++ "\n" ++ programName ++ ": error: " ++ message)

/-- An option: its name and whether a value follows it. -/
structure Flag where
  /-- The name, with its leading dashes. -/
  name : String
  /-- Whether a value follows. -/
  takesValue : Bool

/-- What reading the options of a word list stops at. -/
inductive Stop where
  /-- A request for help. -/
  | help
  /-- A usage error with its message. -/
  | error (message : String)

/-- The words of a command line sorted: option values in order, positional words, and
option-like words that no option knows. -/
structure Words where
  /-- Each option read with its value, empty for a switch. -/
  values : List (String × String)
  /-- The positional words. -/
  positionals : List String
  /-- The unknown option-like words. -/
  unknown : List String

/-- Whether a word is a negative number, such as `-5` or `-.5`, which is a value and no option. -/
def isNegativeNumber (w : List Char) : Bool :=
  match w with
  | '-' :: rest =>
    let digits := rest.takeWhile Text.isDecimal
    let after := rest.dropWhile Text.isDecimal
    (!digits.isEmpty && after.isEmpty) ||
      (match after with
       | '.' :: frac => !frac.isEmpty && frac.all Text.isDecimal
       | _ => false)
  | _ => false

/-- Whether a word reads as an option: a dash and more, and no negative number. -/
def looksLikeOption (w : String) : Bool :=
  match w.toList with
  | '-' :: _ :: _ => !isNegativeNumber w.toList
  | _ => false

/-- The option a word names: exactly, or as the only option it abbreviates. -/
def findFlag (flags : List Flag) (word : String) : Except String (Option Flag) :=
  match flags.find? (·.name == word) with
  | some f => .ok (some f)
  | none =>
    if !"--".toList.isPrefixOf word.toList then .ok none
    else match flags.filter (fun f => word.toList.isPrefixOf f.name.toList) with
      | [f] => .ok (some f)
      | [] => .ok none
      | fs => .error ("ambiguous option: " ++ word ++ " could match " ++
          ", ".intercalate (fs.map (·.name)))

/-- Sorts words into option values, positional words and unknown options; with `stopAtFirst`,
the first positional word ends the options and it and all after it are positional. -/
def sortWords (flags : List Flag) (stopAtFirst : Bool) : List String → Except Stop Words
  | [] => .ok ⟨[], [], []⟩
  | w :: rest =>
    if w == "--" then .ok ⟨[], rest, []⟩
    else if w == "-h" || (w.length > 2 && w.toList.isPrefixOf "--help".toList) then .error .help
    else
      let (name, inline?) := match Text.breakOn? ['='] w.toList with
        | some (n, v) =>
          if "--".toList.isPrefixOf n then (String.ofList n, some (String.ofList v)) else (w, none)
        | none => (w, none)
      match findFlag flags name with
      | .error msg => .error (.error msg)
      | .ok (some f) =>
        match inline?, f.takesValue with
        | some v, true => (sortWords flags stopAtFirst rest).map fun ws =>
            { ws with values := (f.name, v) :: ws.values }
        | some v, false => .error (.error ("argument " ++ f.name ++ ": ignored explicit argument '" ++ v ++ "'"))
        | none, false => (sortWords flags stopAtFirst rest).map fun ws =>
            { ws with values := (f.name, "") :: ws.values }
        | none, true =>
          match rest with
          | v :: rest' =>
            if looksLikeOption v then .error (.error ("argument " ++ f.name ++ ": expected one argument"))
            else (sortWords flags stopAtFirst rest').map fun ws =>
              { ws with values := (f.name, v) :: ws.values }
          | [] => .error (.error ("argument " ++ f.name ++ ": expected one argument"))
      | .ok none =>
        if looksLikeOption w && !w.contains ' ' then
          (sortWords flags stopAtFirst rest).map fun ws => { ws with unknown := w :: ws.unknown }
        else if stopAtFirst then .ok ⟨[], w :: rest, []⟩
        else (sortWords flags stopAtFirst rest).map fun ws =>
          { ws with positionals := w :: ws.positionals }

/-- The last value given for an option. -/
def Words.value? (ws : Words) (name : String) : Option String :=
  (ws.values.filter (·.1 == name)).getLast?.map (·.2)

/-- Whether a switch was given. -/
def Words.has (ws : Words) (name : String) : Bool := ws.values.any (·.1 == name)

/-- An integer option, zero when absent. -/
def Words.intValue (ws : Words) (name : String) : Except String Int :=
  match ws.value? name with
  | none => .ok 0
  | some raw =>
    match Text.readInteger? raw.toList with
    | some n => .ok n
    | none => .error ("argument " ++ name ++ ": invalid int value: " ++ String.ofList (Text.quoted raw.toList))

/-- The options of each command. -/
def commandFlags : String → List Flag
  | "context" => [⟨"--diff", true⟩, ⟨"--file", true⟩, ⟨"--language", true⟩, ⟨"--max-length", true⟩]
  | "chunk" => [⟨"--language", true⟩, ⟨"--max-tokens", true⟩, ⟨"--strict", false⟩]
  | "tokens" => [⟨"--model", true⟩]
  | _ => []

/-- The options of the tool itself. -/
def mainFlags : List Flag := [⟨"--log-format", true⟩, ⟨"--log-level", true⟩]

/-- A command's task from its sorted words, with the words left over; or the message of a usage
error. -/
def taskOf (command : String) (ws : Words) : Except String (Task × List String) :=
  let one (argName : String) (k : String → Except String Task) :
      Except String (Task × List String) :=
    match ws.positionals with
    | [] => .error ("the following arguments are required: " ++ argName)
    | p :: extra => (k p).map fun t => (t, extra)
  match command with
  | "parse" => one "diff_file" fun p => .ok (.parse p)
  | "context" =>
    match ws.value? "--diff", ws.value? "--file" with
    | some d, some f => do
      let n ← ws.intValue "--max-length"
      return (.context d f ((ws.value? "--language").getD "") n, ws.positionals)
    | d, f =>
      let missing := (if d.isNone then ["--diff"] else []) ++ (if f.isNone then ["--file"] else [])
      .error ("the following arguments are required: " ++ ", ".intercalate missing)
  | "chunk" => one "file" fun p => do
      let n ← ws.intValue "--max-tokens"
      return .chunk p ((ws.value? "--language").getD "") n (ws.has "--strict")
  | "prioritize" =>
    if ws.positionals.isEmpty then .error "the following arguments are required: paths"
    else .ok (.prioritize ws.positionals, [])
  | _ => one "file" fun p => .ok (.tokens p ((ws.value? "--model").getD ""))

/-- Reads a command line. -/
def read (args : List String) : Outcome :=
  match sortWords mainFlags true args with
  | .error .help => .help mainHelp
  | .error (.error msg) => usageError none msg
  | .ok top =>
    let logFormat := top.value? "--log-format"
    match logFormat with
    | some f =>
      if f != "console" && f != "json" then
        usageError none ("argument --log-format: invalid choice: " ++ String.ofList (Text.quoted f.toList) ++
          " (choose from 'console', 'json')")
      else afterMain top logFormat
    | none => afterMain top logFormat
where
  /-- Reads the command after the tool's own options. -/
  afterMain (top : Words) (logFormat : Option String) : Outcome :=
    match top.positionals with
    | [] => usageError none "the following arguments are required: command"
    | command :: rest =>
      if !commandNames.contains command then
        usageError none ("argument command: invalid choice: " ++ String.ofList (Text.quoted command.toList) ++
          " (choose from " ++ ", ".intercalate (commandNames.map fun c => "'" ++ c ++ "'") ++ ")")
      else
        match sortWords (commandFlags command) false rest with
        | .error .help => .help (commandUsage command)
        | .error (.error msg) => usageError (some command) msg
        | .ok ws =>
          match taskOf command ws with
          | .error msg => usageError (some command) msg
          | .ok (task, extra) =>
            let unknown := top.unknown ++ ws.unknown ++ extra
            if unknown.isEmpty then .run ⟨logFormat, top.value? "--log-level", task⟩
            else usageError none ("unrecognized arguments: " ++ " ".intercalate unknown)

/-- The files a task reads, in the order it reads them. -/
def Task.inputs : Task → List String
  | .parse d => [d]
  | .context d f _ _ => [d, f]
  | .chunk f _ _ _ => [f]
  | .prioritize _ => []
  | .tokens f _ => [f]

/-- A language tag given, or else the language of the file's extension. -/
def languageFor (language file : String) : String :=
  if language.isEmpty then (detectLanguage file).tag else language

/-- A number given, or else the setting when it is zero. -/
def orSetting (given setting : Int) : Int := if given == 0 then setting else given

/-- The text of a token estimate's failure. -/
def faultText : Tokens.TokenFault → String
  | .divisionByZero => "float division by zero"
  | .overflow => "cannot convert float infinity to integer"
  | .notANumber => "cannot convert float NaN to integer"

/-- A document written indented, with a final line feed; it fails when an integer in it has too
many digits to be written. -/
def writeJson (style : JsonValue.Escapes) (v : JsonValue) : Except String String :=
  if v.numeralsFit then .ok (v.pretty style 0 ++ "\n")
  else .error ("Exceeds the limit (" ++ toString Text.maxDigits ++
    " digits) for integer string conversion")

/-- What a task prints, given the settings and the contents of its files; or the message of its
failure. -/
def Task.output (s : Settings) (contents : String → List UInt8) : Task → Except String String
  | .parse d =>
    match Diff.read (Text.decodeLossy (contents d)) with
    | .ok diff => writeJson .ascii diff.toCompactJson
    | .error e => .error e.message
  | .context d f language maxLength =>
    let diff := Text.decodeLossy (contents d)
    match Prompt.Request.build (.whole (orSetting maxLength s.maxContextLength)) diff (languageFor language f) f
        (.bytes (contents f)) with
    | .ok r => writeJson .utf8 r.toJson
    | .error e => .error e.message
  | .chunk f language maxTokens strict =>
    let chunker := Chunker.make (.whole (orSetting maxTokens s.maxChunkTokens)) (languageFor language f)
      (Tokens.Estimator.forModel s.model) (strict || s.strictChunkBudget)
    match chunker.chunk (Text.decodeLossy (contents f)).toList with
    | .ok chunks => writeJson .ascii (JsonValue.arr (chunks.map Chunk.toJson))
    | .error e => .error (faultText e)
  | .prioritize paths =>
    let files := paths.map fun p => ({ path := p, language := (detectLanguage p).tag, tokenCount := 0,
                                       isTest := false } : FileInfo)
    .ok (String.join ((ReviewPrep.prioritize files).map (·.path ++ "\n")))
  | .tokens f model =>
    let model := if model.isEmpty then s.model else model
    match (Tokens.Estimator.forModel model).estimate (Text.decodeLossy (contents f)).toList with
    | .ok n =>
      let b := Tokens.Budget.forModel model (.whole s.responseReserve)
      match b.available, b.canFit (.whole n) with
      | .ok available, .ok fits =>
        writeJson .ascii (JsonValue.obj [("file", .str f), ("model", .str model), ("tokens", .int n),
          ("max_tokens", b.maxTokens.toJson), ("available", available.toJson), ("fits", .bool fits)])
      | .error e, _ | _, .error e => .error e.message
    | .error e => .error (faultText e)

/-- The name of a task's command. -/
def Task.name : Task → String
  | .parse _ => "parse"
  | .context .. => "context"
  | .chunk .. => "chunk"
  | .prioritize _ => "prioritize"
  | .tokens .. => "tokens"

/-- A log line of an event with its fields, in the log format: a JSON object, or a line for the
console. -/
def logLine (format event : String) (fields : List (String × String)) : String :=
  if format == "json" then
    (JsonValue.obj (fields.map (fun (k, v) => (k, .str v)) ++
      [("event", .str event), ("level", .str "error")])).compact
  else
    "[error    ] " ++ event ++ String.join (fields.map fun (k, v) => " " ++ k ++ "=" ++ v)

end ReviewPrep.Command
