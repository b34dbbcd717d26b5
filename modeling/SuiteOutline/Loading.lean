import SuiteOutline.Files
import SuiteOutline.OptionsDocument
import SuiteOutline.SpecDocument

/-!
# Loading documents from files

Specs and options are read from files by path, and the spec documents below a directory are found
and put in order. What goes wrong is reported together with the path, or with the document.
-/

namespace SuiteOutline

variable {ν : Type}

def Spec.load (name text : String) : Except Report (Spec ν) :=
  (Spec.ofText text).mapError fun error => error.report ⟨name, text⟩

def Options.load (name text : String) : Except Report Options :=
  (Options.ofText text).mapError fun fault => optionsReport ⟨name, text⟩ fault

def unreadable (what path : String) (fault : FileFault) : Report :=
  (Report.ofMessage .load ("failed to read " ++ what ++ "'" ++ path ++ "'")).withCause
    (Cause.ofText fault.text)

def unsearchable (path : String) (fault : FileFault) : Report :=
  (Report.ofMessage .load "failed to walk directory").withCause
    (.outside ("IO error for operation on " ++ path ++ ": " ++ fault.text)
      (some (Cause.ofText fault.text)))

namespace Files

variable {m : Type → Type} [Monad m] (files : Files m)

def loadSpec (path : String) : m (Except Report (Spec ν)) := do
  match ← files.read path with
  | .error fault => pure (.error (unreadable "" path fault))
  | .ok text => pure (Spec.load path text)

def loadOptions (path : String) : m (Except Report Options) := do
  match ← files.read path with
  | .error fault => pure (.error (unreadable "config " path fault))
  | .ok text => pure (Options.load path text)

/-- The spec documents at or below a path, in the order of paths. -/
def discover (path : String) : m (Except Report (List String)) := do
  match ← files.walk path with
  | .error fault => pure (.error (unsearchable path fault))
  | .ok found => pure (.ok (specPaths found))

end Files

end SuiteOutline
