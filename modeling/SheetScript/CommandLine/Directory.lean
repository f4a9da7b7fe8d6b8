import SheetScript.Text.Cut
import SheetScript.Text.Quoted

namespace SheetScript.CommandLine

inductive WriteError where
  | missing
  | notDirectory
  | directory
  | tooLong
deriving DecidableEq

def WriteError.reason : WriteError → String
  | missing => "[Errno 2] No such file or directory"
  | notDirectory => "[Errno 20] Not a directory"
  | directory => "[Errno 21] Is a directory"
  | tooLong => "[Errno 36] File name too long"

def WriteError.message (e : WriteError) (path : String) : String :=
  e.reason ++ ": " ++ Text.quote path

def noSpace : String := "[Errno 28] No space left on device"

/-- A text with fewer bytes is written only when its file is closed. -/
def bufferSize : Nat := 8192

def maxName : Nat := 255

def maxPath : Nat := 4095

inductive Target where
  | file (name : String)
  | elsewhere
  | full
deriving DecidableEq

abbrev Location := List String

/-- The working directory stands in `/tmp`. Its own name is not known, and no path can lead back
into it, because no part of a path is empty. -/
def workingDirectory : Location := ["tmp", ""]

def directories : List Location :=
  [["bin"], ["boot"], ["dev"], ["dev", "pts"], ["dev", "shm"], ["etc"], ["home"], ["lib"], ["mnt"],
    ["opt"], ["proc"], ["root"], ["run"], ["sbin"], ["srv"], ["sys"], ["tmp"], ["usr"],
    ["usr", "bin"], ["usr", "lib"], ["usr", "local"], ["usr", "sbin"], ["usr", "share"], ["var"],
    ["var", "lib"], ["var", "log"], ["var", "tmp"]]

def files : List Location :=
  [["dev", "full"], ["dev", "null"], ["dev", "random"], ["dev", "urandom"], ["dev", "zero"],
    ["etc", "group"], ["etc", "hostname"], ["etc", "hosts"], ["etc", "passwd"]]

def target (directory : Location) (name : String) : Target :=
  if directory = workingDirectory then .file name
  else if directory ++ [name] = ["dev", "full"] then .full
  else .elsewhere

def follow (directory : Location) : List (List Char) → Except WriteError Target
  | [] => .error .directory
  | part :: parts =>
    let name := String.ofList part
    let location := directory ++ [name]
    if part = [] ∨ part = ['.'] then follow directory parts
    else if part = ['.', '.'] then follow directory.dropLast parts
    else if maxName < name.utf8ByteSize then .error .tooLong
    else if location ∈ directories then follow location parts
    else if parts = [] then .ok (target directory name)
    else if location ∈ files then .error .notDirectory
    else if parts.all (· = []) then .error .directory
    else .error .missing

def place (path : String) : Except WriteError Target :=
  if maxPath < path.utf8ByteSize then .error .tooLong
  else
    follow (if path.toList.head? = some '/' then [] else workingDirectory)
      (Text.cutAt '/' path.toList)

end SheetScript.CommandLine
