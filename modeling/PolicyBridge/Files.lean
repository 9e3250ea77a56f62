import PolicyBridge.Text.Parts
import PolicyBridge.Text.Utf8

namespace PolicyBridge

namespace Path

def parts (path : String) : List String := Text.split '/' path

def fileName? (path : String) : Option String :=
  match ((parts path).filter fun p => p ≠ "" ∧ p ≠ ".").getLast? with
  | some ".." => none
  | last => last

def splitLastDot (cs : List Char) : Option (List Char × List Char) :=
  let after := (cs.reverse.takeWhile (· ≠ '.')).reverse
  if after.length = cs.length then none
  else some (cs.take (cs.length - after.length - 1), after)

def extension? (path : String) : Option String := do
  match splitLastDot (← fileName? path).toList with
  | some (_ :: _, after) => some (String.ofList after)
  | _ => none

def origin (path : String) : List String := if path.startsWith "/" then ["/"] else []

def above (dir : List String) : List String :=
  match dir.getLast? with
  | none => [".."]
  | some ".." => dir ++ [".."]
  | some "/" => dir
  | some _ => dir.dropLast

def follow (dir : List String) (part : String) : List String :=
  if part = "" ∨ part = "." then dir else if part = ".." then above dir else dir ++ [part]

def place (path : String) : List String := (parts path).foldl follow (origin path)

def directories (path : String) : List (List String) :=
  (List.range (parts path).length).map fun n => ((parts path).take n).foldl follow (origin path)

end Path

inductive FileError where
  | notFound
  | notADirectory
  | isADirectory
  | nameTooLong
  | nulInName
  | invalidText
deriving DecidableEq

def FileError.message : FileError → String
  | .notFound => "No such file or directory (os error 2)"
  | .notADirectory => "Not a directory (os error 20)"
  | .isADirectory => "Is a directory (os error 21)"
  | .nameTooLong => "File name too long (os error 36)"
  | .nulInName => "file name contained an unexpected NUL byte"
  | .invalidText => "stream did not contain valid UTF-8"

/-- Files by the names on the way to them from the working directory, which may begin by going up,
or from the root. -/
abbrev Files := List (List String × List UInt8)

namespace Files

def file? (fs : Files) (path : List String) : Option (List UInt8) := fs.lookup path

def isDirectory (fs : Files) (path : List String) : Bool :=
  path.all (· ∈ ["..", "/"]) ||
    fs.any fun f => path.length < f.1.length && f.1.take path.length = path

def pathLimit : Nat := 4096

def nameLimit : Nat := 255

/-- Walks along a path from a directory; `none` stands for a directory reached. -/
def walk (fs : Files) : List String → List String → Except FileError (Option (List UInt8))
  | _, [] => .ok none
  | dir, part :: rest =>
    if part = "" ∨ part = "." then walk fs dir rest
    else if part = ".." then walk fs (Path.above dir) rest
    else if nameLimit < part.utf8ByteSize then .error .nameTooLong
    else
      let next := dir ++ [part]
      match fs.file? next with
      | some bytes => if rest.isEmpty then .ok (some bytes) else .error .notADirectory
      | none => if fs.isDirectory next then walk fs next rest else .error .notFound

def read (fs : Files) (path : String) : Except FileError String :=
  if path = "" then .error .notFound
  else if '\x00' ∈ path.toList then .error .nulInName
  else if pathLimit ≤ path.utf8ByteSize then .error .nameTooLong
  else
    match fs.walk (Path.origin path) (Path.parts path) with
    | .error e => .error e
    | .ok none => .error .isADirectory
    | .ok (some bytes) =>
      match Text.decodeUtf8? bytes with
      | some s => .ok s
      | none => .error .invalidText

end Files

end PolicyBridge
