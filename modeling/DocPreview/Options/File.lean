import DocPreview.FileTree.Basic
import DocPreview.Options.Basic
import DocPreview.Toml.Reader

/-!
# Options files

An options file is a TOML text. What it leaves out has its default.
-/

set_option autoImplicit false

namespace DocPreview.OptionSet

def ofToml? (text : String) : Option OptionSet :=
  (Toml.fieldsOfText? text).bind fun fields => ofJson? (.object fields)

inductive LoadFault where
  | unreadable (path : String) (fault : FileFault)
  | malformed
deriving DecidableEq, Repr

def LoadFault.message : LoadFault → String
  | .unreadable path fault => "failed to read options file " ++ path ++ ": " ++ fault.message
  | .malformed => "failed to parse options"

def load (files : FileTree) (path : String) : Except LoadFault OptionSet :=
  match files.read (Path.ofText path) with
  | .error fault => .error (.unreadable path fault)
  | .ok text =>
    match ofToml? text with
    | some options => .ok options
    | none => .error .malformed

end DocPreview.OptionSet
