/-
# A tree of files

The part of a file system that a log needs: files with their contents and
directories, under their paths from the root. A path that does not begin with a
slash leads from the working directory. Making a directory and opening a file
fail as they do on a POSIX system, and the failure names the path as it was
given. A name has at most 255 bytes and a path at most 4095, and neither holds
the mark that ends a path.

Making a directory with its parents makes every directory on the way that is
not there. Whether it is a failure that the last one is there already is up to
the caller.

Key definitions: `FileTree`, `Folder`, `usable`, `FileTree.walk`,
`FileTree.makeDirectory`, `FileTree.makeDirectories`, `FileTree.append`,
`FileTree.overwrite`, `FileTree.listing`.
-/
import TableLoader.Text.Quoted

namespace TableLoader

/-- A file or a directory. -/
inductive FileEntry where
  | file (content : String)
  | directory (entries : List (String × FileEntry))

/-- Entries of a directory by their names. -/
abbrev Folder := List (String × FileEntry)

/-- Names from the root to a file or directory. -/
abbrev FilePath := List String

/-- All files and directories. -/
structure FileTree where
  root : Folder
  workingDirectory : FilePath

/-- Why a path cannot be used. -/
inductive PathFault where
  | notFound
  | occupied
  | notDirectory
  | isDirectory
  | invalid
  | nameTooLong
deriving DecidableEq, Repr

/-- The number of the failure. -/
def PathFault.number : PathFault → Nat
  | .notFound => 2
  | .occupied => 17
  | .notDirectory => 20
  | .isDirectory => 21
  | .invalid => 22
  | .nameTooLong => 36

/-- What the failure says. -/
def PathFault.reason : PathFault → String
  | .notFound => "No such file or directory"
  | .occupied => "File exists"
  | .notDirectory => "Not a directory"
  | .isDirectory => "Is a directory"
  | .invalid => "Invalid argument"
  | .nameTooLong => "File name too long"

/-- A path that cannot be used. -/
structure PathFailure where
  fault : PathFault
  path : List Char

/-- The text of a failure. -/
def PathFailure.message (f : PathFailure) : String :=
  "[Errno " ++ toString f.fault.number ++ "] " ++ f.fault.reason ++ ": " ++
    String.ofList (Text.quoteChars f.path)

/-- The largest number of bytes of a path. -/
def pathLimit : Nat := 4095

/-- The mark behind the end of a path. -/
def pathEnd : Char := Char.ofNat 0

/-- Whether a path can be looked up at all. -/
def usable (p : List Char) : Except PathFault Unit :=
  if pathEnd ∈ p then .error .invalid
  else if pathLimit < (String.ofList p).utf8ByteSize then .error .nameTooLong
  else if p = [] then .error .notFound
  else .ok ()

/-- A path without its last name, and the name. Slashes between the two belong to neither,
unless there is nothing else in front. -/
def splitPath (p : List Char) : List Char × List Char :=
  let name := (p.reverse.takeWhile (· ≠ '/')).reverse
  let front := p.take (p.length - name.length)
  (if front.all (· = '/') then front else (front.reverse.dropWhile (· = '/')).reverse, name)

/-- A path without its last name, and the name; slashes at the end are passed over. -/
def splitLast (p : List Char) : List Char × List Char :=
  let (front, name) := splitPath p
  if name = [] then splitPath front else (front, name)

/-- The names that a path is made of; an empty one stands at each end where a slash is. -/
def pathNames (p : List Char) : List String := (p.splitOn '/').map String.ofList

namespace Folder

/-- Gives the name the entry: in its place if the name is there, else at the end. -/
def set (name : String) (e : FileEntry) : Folder → Folder
  | [] => [(name, e)]
  | (n, old) :: rest => if n = name then (n, e) :: rest else (n, old) :: set name e rest

/-- What a directory of that name holds; nothing if there is none. -/
def inside (name : String) (f : Folder) : Folder :=
  match f.lookup name with
  | some (.directory entries) => entries
  | _ => []

/-- Puts an entry where names lead. -/
def put (e : FileEntry) : FilePath → Folder → Folder
  | [], f => f
  | [name], f => f.set name e
  | name :: rest, f => f.set name (.directory (put e rest (f.inside name)))

end Folder

/-- The directories from the root to one of them, the nearest first, each with its name and what
it holds. The root is not among them. -/
abbrev Trail := List (String × Folder)

namespace FileTree

/-- What the directory at the end of a trail holds. -/
def folderAt (t : FileTree) (trail : Trail) : Folder :=
  match trail with
  | [] => t.root
  | (_, f) :: _ => f

/-- The entry of a name in the directory at the end of a trail. -/
def entry? (t : FileTree) (trail : Trail) (name : String) : Option FileEntry :=
  (t.folderAt trail).lookup name

/-- The path to an entry of the directory at the end of a trail. -/
def pathTo (trail : Trail) (name : String) : FilePath := (trail.map Prod.fst).reverse ++ [name]

/-- A name that is too long for any directory. -/
def isLongName (name : String) : Bool := 255 < name.utf8ByteSize

/-- A name that leads to a directory that is there already. -/
def isStep (name : String) : Bool := name = "" || name = "." || name = ".."

/-- The directory to which names lead from the end of a trail. -/
def walk (t : FileTree) (trail : Trail) : List String → Except PathFault Trail
  | [] => .ok trail
  | name :: rest =>
    if name = "" ∨ name = "." then walk t trail rest
    else if name = ".." then walk t trail.tail rest
    else if isLongName name then .error .nameTooLong
    else
      match t.entry? trail name with
      | none => .error .notFound
      | some (.file _) => .error .notDirectory
      | some (.directory entries) => walk t ((name, entries) :: trail) rest

/-- The trail from the root to the directory from which a path leads. -/
def startOf (t : FileTree) (p : List Char) : Except PathFault Trail :=
  if p.head? = some '/' then .ok [] else t.walk [] t.workingDirectory

/-- The directory to which names lead from where a path leads. -/
def reach (t : FileTree) (p : List Char) (names : List String) : Except PathFault Trail := do
  usable p
  t.walk (← t.startOf p) names

/-- The path leads to a directory. -/
def isDirectory (t : FileTree) (p : List Char) : Bool := (t.reach p (pathNames p)).isOk

/-- The path leads to a file. -/
def isFile (t : FileTree) (p : List Char) : Bool :=
  match t.reach p (pathNames p).dropLast with
  | .error _ => false
  | .ok trail =>
    match t.entry? trail ((pathNames p).getLast?.getD "") with
    | some (.file _) => true
    | _ => false

/-- The path leads to something. -/
def hasPath (t : FileTree) (p : List Char) : Bool := t.isDirectory p || t.isFile p

/-- Puts an entry under a path from the root. -/
def put (t : FileTree) (path : FilePath) (e : FileEntry) : FileTree :=
  { t with root := t.root.put e path }

/-- `p` without slashes at its end. -/
def withoutTail (p : List Char) : List Char := (p.reverse.dropWhile (· = '/')).reverse

/-- Where a new entry of the path `p` would stand: its directory, and its name unless the path
ends in a name that stands for a directory. -/
def place (t : FileTree) (p : List Char) : Except PathFault (Trail × Option String) := do
  let names := pathNames (withoutTail p)
  let trail ← t.reach p names.dropLast
  let name := names.getLast?.getD ""
  return (trail, if isStep name then none else some name)

/-- Makes the directory of a path whose parent is there. -/
def makeDirectory (t : FileTree) (p : List Char) : Except PathFault FileTree := do
  let (trail, name) ← t.place p
  match name with
  | none => .error .occupied
  | some n =>
    if isLongName n then .error .nameTooLong
    else if (t.entry? trail n).isSome then .error .occupied
    else return t.put (pathTo trail n) (.directory [])

theorem splitPath_length (p : List Char) :
    (splitPath p).1.length + (splitPath p).2.length ≤ p.length := by
  simp only [splitPath]
  have hname : (p.reverse.takeWhile (· ≠ '/')).length ≤ p.length := by
    have := (List.takeWhile_sublist (· ≠ '/') (l := p.reverse)).length_le
    simpa using this
  split
  · simp only [List.length_take, List.length_reverse]
    omega
  · have hfront := (List.dropWhile_sublist (· = '/')
      (l := (p.take (p.length - (p.reverse.takeWhile (· ≠ '/')).reverse.length)).reverse)).length_le
    simp only [List.length_reverse, List.length_take] at hfront ⊢
    omega

theorem splitLast_length {p : List Char} (h : (splitLast p).2 ≠ []) :
    (splitLast p).1.length < p.length := by
  have hp := splitPath_length p
  have hfront := splitPath_length (splitPath p).1
  simp only [splitLast] at h ⊢
  split at h <;> rename_i hname
  · have := List.length_pos_iff.mpr h
    simp only [hname, if_true]
    omega
  · have := List.length_pos_iff.mpr hname
    simp only [hname, if_false]
    omega

/-- Makes the directory `p`, whose parent is there if it can be. If `settled`, a directory that
is already there is no failure. -/
def settleDirectory (t : FileTree) (settled : Bool) (p : List Char) :
    FileTree × Option PathFailure :=
  match t.makeDirectory p with
  | .ok t => (t, none)
  | .error fault =>
    if settled && t.isDirectory p then (t, none) else (t, some ⟨fault, p⟩)

/-- Makes the directory of a path and the directories on the way to it. If `settled`, a directory
that is already there is no failure; on the way it never is one. -/
def makeDirectories (t : FileTree) (settled : Bool) (p : List Char) :
    FileTree × Option PathFailure :=
  let front := (splitLast p).1
  let name := (splitLast p).2
  if h : front ≠ [] ∧ name ≠ [] ∧ t.hasPath front = false then
    have : front.length < p.length := splitLast_length h.2.1
    let (t, failure) := makeDirectories t settled front
    match failure with
    | some f =>
      if f.fault = .occupied then
        if name = ['.'] then (t, none) else settleDirectory t settled p
      else (t, some f)
    | none => if name = ['.'] then (t, none) else settleDirectory t settled p
  else settleDirectory t settled p
termination_by p.length

/-- Where the file of a path stands, and what it holds; a file that is not there holds nothing. A
path with a slash at its end names no file. -/
def fileAt (t : FileTree) (p : List Char) : Except PathFault (FilePath × String) := do
  let (trail, name) ← t.place p
  match name with
  | none => .error .isDirectory
  | some n =>
    if p.getLast? = some '/' then .error .isDirectory
    else if isLongName n then .error .nameTooLong
    else
      match t.entry? trail n with
      | some (.directory _) => .error .isDirectory
      | some (.file content) => return (pathTo trail n, content)
      | none => return (pathTo trail n, "")

/-- Adds a text at the end of the file of a path; the file is made if it is not there. -/
def append (t : FileTree) (p : List Char) (s : String) : Except PathFault FileTree := do
  let (path, content) ← t.fileAt p
  return t.put path (.file (content ++ s))

/-- Replaces what the file of a path holds; the file is made if it is not there. -/
def overwrite (t : FileTree) (p : List Char) (s : String) : Except PathFault FileTree := do
  let (path, _) ← t.fileAt p
  return t.put path (.file s)

/-- A tree with an empty working directory two levels below the root. -/
def empty : FileTree where
  root := [("tmp", .directory [("work", .directory [])])]
  workingDirectory := ["tmp", "work"]

mutual

/-- An entry under the path `path`, with what it holds: a file with its content, a directory
with a slash behind its path. -/
def listEntry (path : String) : FileEntry → List (String × Option String)
  | .file content => [(path, some content)]
  | .directory entries => (path ++ "/", none) :: listEntries (path ++ "/") entries

def listEntries (start : String) : List (String × FileEntry) → List (String × Option String)
  | [] => []
  | (name, e) :: rest => listEntry (start ++ name) e ++ listEntries start rest

end

/-- What lies in the working directory, by path. -/
def listing (t : FileTree) : List (String × Option String) :=
  match t.walk [] t.workingDirectory with
  | .error _ => []
  | .ok trail => (listEntries "" (t.folderAt trail)).mergeSort fun a b => a.1 ≤ b.1

end FileTree
end TableLoader
