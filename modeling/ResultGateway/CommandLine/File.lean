-- Files that a command reads. A file gives bytes, which have to be text in
-- UTF-8, or a fault.
import ResultGateway.Failure
import ResultGateway.Text.Utf8

namespace ResultGateway.CommandLine

inductive FileFault where
  | missing
  | denied
  | isDirectory
  | notDirectory
  | failed (cause : String)
deriving DecidableEq, Repr

namespace FileFault

def kind : FileFault → Failure.Kind
  | missing => .notFound
  | denied => .permission
  | isDirectory | notDirectory | failed _ => .io

def cause : FileFault → String
  | missing => "No such file or directory (os error 2)"
  | denied => "Permission denied (os error 13)"
  | isDirectory => "Is a directory (os error 21)"
  | notDirectory => "Not a directory (os error 20)"
  | failed cause => cause

end FileFault

/-- The files that a command finds, by path. -/
abbrev Files := String → Except FileFault (List UInt8)

def notText : FileFault := .failed "stream did not contain valid UTF-8"

def Files.text? (files : Files) (path : String) : Except FileFault String :=
  match files path with
  | .error fault => .error fault
  | .ok bytes =>
    match Text.Utf8.decode? bytes with
    | none => .error notText
    | some cs => .ok (String.ofList cs)

/-- The text of a file that holds `what`. -/
def Files.read (files : Files) (what path : String) : Except Failure String :=
  match files.text? path with
  | .ok s => .ok s
  | .error fault =>
    .error (Failure.dueTo
      { kind := fault.kind, message := some ("failed to read " ++ what ++ " file " ++ path) }
      (some (.other fault.cause none)))

end ResultGateway.CommandLine
