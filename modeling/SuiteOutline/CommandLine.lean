/-!
# The command line

Arguments are read from left to right. Flags may stand before or after the name of the command,
and each of them once on either side; the path of the options after the name counts. Everything
after two hyphens is a path.
-/

namespace SuiteOutline

inductive Command where
  | emit (file : String)
  | blocks (file : String)
  | check (directory : String)
  deriving DecidableEq

structure Flags where
  config : Option String
  debug : Bool
  deriving DecidableEq

def Flags.none : Flags :=
  ⟨Option.none, false⟩

inductive Request where
  | run (flags : Flags) (command : Command)
  | version
  | help
  /-- It is no command line of the program. -/
  | misuse
  deriving DecidableEq

namespace CommandLine

inductive Name where
  | emit
  | blocks
  | check
  deriving DecidableEq

def Name.ofText? (text : String) : Option Name :=
  if text == "emit" then some .emit
  else if text == "blocks" then some .blocks
  else if text == "check" then some .check
  else none

inductive Argument where
  | verbose
  | debug
  | config
  | configIs (path : String)
  | separator
  | word (text : String)
  | version
  | help
  | unknown

/-- Letters after one hyphen: any number of flags, of which help and version end the reading. -/
def ofLetters (knowsVersion : Bool) : List Char → Argument
  | [] => .verbose
  | 'v' :: rest => ofLetters knowsVersion rest
  | 'h' :: _ => .help
  | 'V' :: _ => if knowsVersion then .version else .unknown
  | _ => .unknown

/-- The argument that a text is. Only the part before the command knows the flag for the version. -/
def Argument.ofText (knowsVersion : Bool) (text : String) : Argument :=
  if text == "--" then .separator
  else if text == "--debug" then .debug
  else if text == "--verbose" then .verbose
  else if text == "--config" then .config
  else if text == "--help" then .help
  else if text == "--version" then if knowsVersion then .version else .unknown
  else if text.startsWith "--config=" then
    .configIs (String.ofList (text.toList.drop "--config=".length))
  else if text.startsWith "--" then .unknown
  else
    match text.toList with
    | '-' :: letter :: letters => ofLetters knowsVersion (letter :: letters)
    | _ => .word text

/-- Whether a text may be the path after a flag: it is not empty and does not look like a flag. -/
def isPath (text : String) : Bool :=
  text == "-" || (text != "" && !text.startsWith "-")

/-- The flags with the path of the options, which may be given once. -/
def setConfig? (flags : Flags) (path : String) : Option Flags :=
  if flags.config.isSome || path == "" then none else some { flags with config := some path }

/-- The flags with debugging on, which may be asked for once. -/
def setDebug? (flags : Flags) : Option Flags :=
  if flags.debug then none else some { flags with debug := true }

def mergeFlags (before after : Flags) : Flags :=
  ⟨after.config.or before.config, before.debug || after.debug⟩

def requestOf (flags : Flags) : Name → List String → Request
  | .emit, [file] => .run flags (.emit file)
  | .blocks, [file] => .run flags (.blocks file)
  | .check, [] => .run flags (.check "specs")
  | .check, [directory] => .run flags (.check directory)
  | _, _ => .misuse

/-- Completes a request with paths read in front of others; a path is not empty, and there is at
most one. -/
def finish (flags : Flags) (name : Name) (paths : List String) : Request :=
  if paths.contains "" then .misuse else requestOf flags name paths

def readAfter (before : Flags) (name : Name) : Flags → List String → List String → Request
  | flags, paths, [] => finish (mergeFlags before flags) name paths
  | flags, paths, [last] =>
      match Argument.ofText false last with
      | .verbose => finish (mergeFlags before flags) name paths
      | .debug =>
          match setDebug? flags with
          | none => .misuse
          | some flags => finish (mergeFlags before flags) name paths
      | .configIs path =>
          match setConfig? flags path with
          | none => .misuse
          | some flags => finish (mergeFlags before flags) name paths
      | .separator => finish (mergeFlags before flags) name paths
      | .word path => finish (mergeFlags before flags) name (paths ++ [path])
      | .help => .help
      | .config | .version | .unknown => .misuse
  | flags, paths, first :: second :: rest =>
      match Argument.ofText false first with
      | .verbose => readAfter before name flags paths (second :: rest)
      | .debug =>
          match setDebug? flags with
          | none => .misuse
          | some flags => readAfter before name flags paths (second :: rest)
      | .configIs path =>
          match setConfig? flags path with
          | none => .misuse
          | some flags => readAfter before name flags paths (second :: rest)
      | .config =>
          if isPath second then
            match setConfig? flags second with
            | none => .misuse
            | some flags => readAfter before name flags paths rest
          else .misuse
      | .separator => finish (mergeFlags before flags) name (paths ++ second :: rest)
      | .word path =>
          if paths.isEmpty && path != "" then
            readAfter before name flags (paths ++ [path]) (second :: rest)
          else .misuse
      | .help => .help
      | .version | .unknown => .misuse

def readHelp : List String → Request
  | [] => .help
  | [topic] => if (Name.ofText? topic).isSome || topic == "help" then .help else .misuse
  | _ => .misuse

def readCommand (flags : Flags) (word : String) (rest : List String) : Request :=
  match Name.ofText? word with
  | some name => readAfter flags name Flags.none [] rest
  | none => if word == "help" then readHelp rest else .misuse

def readBefore : Flags → List String → Request
  | _, [] => .misuse
  | flags, first :: rest =>
      match Argument.ofText true first with
      | .verbose => readBefore flags rest
      | .debug =>
          match setDebug? flags with
          | none => .misuse
          | some flags => readBefore flags rest
      | .configIs path =>
          match setConfig? flags path with
          | none => .misuse
          | some flags => readBefore flags rest
      | .config =>
          match rest with
          | [] => .misuse
          | second :: others =>
              if isPath second then
                match setConfig? flags second with
                | none => .misuse
                | some flags => readBefore flags others
              else .misuse
      | .word word => readCommand flags word rest
      | .version => .version
      | .help => .help
      | .separator | .unknown => .misuse

def read (arguments : List String) : Request :=
  readBefore Flags.none arguments

end CommandLine

end SuiteOutline
