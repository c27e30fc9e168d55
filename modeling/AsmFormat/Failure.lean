import AsmFormat.Path
import AsmFormat.Text.Quoted

/-!
# Failures

Everything that can go wrong is one of four causes: a file or the standard output refused to be
read or written, a settings file makes no sense, a range of line numbers is empty, or an input is
not text. `Failure.message` is the wording for the user and `Failure.detail` the form that the
trace shows, with the fields of every value by name.
-/

set_option autoImplicit false

namespace AsmFormat

/-- The refusals of an operating system. -/
inductive SystemError where
  | notFound
  | permissionDenied
  | busy
  | alreadyExists
  | notADirectory
  | isADirectory
  | invalidArgument
  | noSpace
  | readOnly
  | nameTooLong
  /-- Any other refusal, by its number and wording. -/
  | other (number : Nat) (wording : String)
deriving DecidableEq

namespace SystemError

/-- The number of the refusal. -/
def number : SystemError → Nat
  | notFound => 2
  | permissionDenied => 13
  | busy => 16
  | alreadyExists => 17
  | notADirectory => 20
  | isADirectory => 21
  | invalidArgument => 22
  | noSpace => 28
  | readOnly => 30
  | nameTooLong => 36
  | other number _ => number

/-- The kind of the refusal. -/
def kind : SystemError → String
  | notFound => "NotFound"
  | permissionDenied => "PermissionDenied"
  | busy => "ResourceBusy"
  | alreadyExists => "AlreadyExists"
  | notADirectory => "NotADirectory"
  | isADirectory => "IsADirectory"
  | invalidArgument => "InvalidInput"
  | noSpace => "StorageFull"
  | readOnly => "ReadOnlyFilesystem"
  | nameTooLong => "InvalidFilename"
  | other _ _ => "Uncategorized"

/-- The wording of the refusal. -/
def wording : SystemError → String
  | notFound => "No such file or directory"
  | permissionDenied => "Permission denied"
  | busy => "Device or resource busy"
  | alreadyExists => "File exists"
  | notADirectory => "Not a directory"
  | isADirectory => "Is a directory"
  | invalidArgument => "Invalid argument"
  | noSpace => "No space left on device"
  | readOnly => "Read-only file system"
  | nameTooLong => "File name too long"
  | other _ wording => wording

/-- The wording with the number. -/
def message (e : SystemError) : Text :=
  e.wording.toList ++ " (os error ".toList ++ Nat.toDigits 10 e.number ++ [')']

/-- The refusal with its fields by name. -/
def detail (e : SystemError) : Text :=
  "Os \x7b code: ".toList ++ Nat.toDigits 10 e.number ++ ", kind: ".toList ++ e.kind.toList ++
    ", message: ".toList ++ Text.quoted e.wording.toList ++ " \x7d".toList

end SystemError

/-- Why reading or writing failed. -/
inductive AccessError where
  /-- The operating system refused. -/
  | system (e : SystemError)
  /-- The operating system refused to create a temporary file at the path. -/
  | temporary (path : Path) (e : SystemError)
  /-- The contents of a settings file are not text. -/
  | notText
  /-- A file name holds the character NUL. -/
  | nulInName
  /-- Any other cause. -/
  | other (message : Text)
deriving DecidableEq

namespace AccessError

/-- The kind of the error. -/
def kind : AccessError → String
  | system e => e.kind
  | temporary _ e => e.kind
  | notText => "InvalidData"
  | nulInName => "InvalidInput"
  | other _ => "Other"

/-- The wording of the error. -/
def message : AccessError → Text
  | system e => e.message
  | temporary path e => e.message ++ " at path ".toList ++ Text.quoted path
  | notText => "stream did not contain valid UTF-8".toList
  | nulInName => "file name contained an unexpected NUL byte".toList
  | other message => message

/-- The error with its fields by name. -/
def detail (e : AccessError) : Text :=
  match e with
  | system s => s.detail
  | temporary path s =>
    "Custom \x7b kind: ".toList ++ e.kind.toList ++ ", error: PathError \x7b path: ".toList ++
      Text.quoted path ++ ", err: ".toList ++ s.detail ++ " \x7d \x7d".toList
  | other message =>
    "Custom \x7b kind: Other, error: ".toList ++ Text.quoted message ++ " \x7d".toList
  | _ =>
    "Error \x7b kind: ".toList ++ e.kind.toList ++ ", message: ".toList ++
      Text.quoted e.message ++ " \x7d".toList

end AccessError

/-- What was being done. -/
inductive Access where
  | read
  | write
deriving DecidableEq

/-- What it was done to. -/
inductive Target where
  | file (path : Path)
  | standardOutput
deriving DecidableEq

/-- The verb of an access. -/
def Access.verb : Access → String
  | read => "read"
  | write => "write"

/-- The name of a target. -/
def Target.name : Target → Text
  | file path => "file ".toList ++ path
  | standardOutput => "standard output".toList

/-- The causes of failure. -/
inductive Failure where
  /-- Reading or writing failed. -/
  | access (action : Access) (target : Target) (error : AccessError)
  /-- The settings file makes no sense. -/
  | badSettings (file : Path) (reason : Text)
  /-- The range of line numbers is empty or holds the number zero. -/
  | badLineRange (first last : UInt64)
  /-- The input is not text. -/
  | notUnicode (file : Path)
deriving DecidableEq

namespace Failure

/-- The wording for the user. -/
def message : Failure → Text
  | access action target error =>
    "failed to ".toList ++ action.verb.toList ++ ' ' :: target.name ++ ": ".toList ++ error.message
  | badSettings file reason => "bad settings in ".toList ++ file ++ ": ".toList ++ reason
  | badLineRange first last =>
    let first' := Nat.toDigits 10 first.toNat
    let last' := Nat.toDigits 10 last.toNat
    if first = 0 ∨ last = 0 then
      "line numbers start at 1, but the range ".toList ++ first' ++ "..=".toList ++ last' ++
        " includes 0".toList
    else
      "the first line (".toList ++ first' ++ ") of the range comes after the last (".toList ++
        last' ++ [')']
  | notUnicode file => "input file ".toList ++ file ++ " is not valid UTF-8".toList

/-- The error behind a failed access. -/
def source? : Failure → Option AccessError
  | access _ _ error => some error
  | _ => none

/-- The failure with its fields by name. -/
def detail : Failure → Text
  | access action target error =>
    let action' := match action with
      | .read => "Read"
      | .write => "Write"
    let target' := match target with
      | .file path => "File(".toList ++ Text.quoted path ++ [')']
      | .standardOutput => "Stdout".toList
    "Io(IoFailed \x7b action: ".toList ++ action'.toList ++ ", target: ".toList ++ target' ++
      ", error: ".toList ++ error.detail ++ " \x7d)".toList
  | badSettings file reason =>
    "BadConfig \x7b filename: ".toList ++ Text.quoted file ++ ", msg: ".toList ++
      Text.quoted reason ++ " \x7d".toList
  | badLineRange first last =>
    "BadLineRange \x7b first: ".toList ++ Nat.toDigits 10 first.toNat ++ ", last: ".toList ++
      Nat.toDigits 10 last.toNat ++ " \x7d".toList
  | notUnicode file => "NotUnicode \x7b filename: ".toList ++ Text.quoted file ++ " \x7d".toList

end Failure

end AsmFormat
