import SuiteOutline.Session

/-!
# The program

Reads its arguments, carries out the request over the files of the system, and writes the
transcript.
-/

namespace SuiteOutline

def faultOf : IO.Error → FileFault
  | .noFileOrDirectory _ _ _ => .missing
  | .inappropriateType _ code _ => if code == 20 then .notADirectory else .isDirectory
  | other => .other (toString other)

def readSystemFile (path : String) : IO (Except FileFault String) := do
  try
    let content ← IO.FS.readBinFile path
    match String.fromUTF8? content with
    | some text => pure (.ok text)
    | none => pure (.error .notText)
  catch failure => pure (.error (faultOf failure))

/-- All that stands at a path of the system, given what stands there. Links below the path are not
followed. -/
partial def walkSystem (path : String) : IO.FS.FileType → IO (List Found)
  | .dir => do
      let mut found := [⟨path, false⟩]
      for entry in ← ((← IO.currentDir) / path).readDir do
        let inner ← entry.path.symlinkMetadata
        found := found ++ (← walkSystem (Path.join path entry.fileName) inner.type)
      pure found
  | .file => pure [⟨path, true⟩]
  | _ => pure [⟨path, false⟩]

def systemFiles : Files IO where
  read := readSystemFile
  walk path := do
    try
      let outer ← ((← IO.currentDir) / path).metadata
      pure (.ok (← walkSystem path outer.type))
    catch failure => pure (.error (faultOf failure))

end SuiteOutline

open SuiteOutline in
def main (arguments : List String) : IO UInt32 := do
  let transcript ← systemFiles.carryOut (CommandLine.read arguments)
  (← IO.getStdout).putStr (lineText transcript.output)
  (← IO.getStderr).putStr (lineText transcript.diagnostics)
  pure transcript.status.code
