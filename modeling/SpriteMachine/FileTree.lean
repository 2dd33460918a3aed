/-! Files as the command line sees them: why a file cannot be read, and what a path names in a tree of
folders. -/

namespace SpriteMachine

inductive FileFault where
  | missing
  | isFolder
  | notFolder
  | nameTooLong
  | nulInPath
  | other (reason : String)
  deriving DecidableEq, Repr

def FileFault.message : FileFault → String
  | missing => "No such file or directory (os error 2)"
  | isFolder => "Is a directory (os error 21)"
  | notFolder => "Not a directory (os error 20)"
  | nameTooLong => "File name too long (os error 36)"
  | nulInPath => "file name contained an unexpected NUL byte"
  | other reason => reason

inductive FileTree where
  | file (data : List UInt8)
  | folder (entries : List (String × FileTree))

namespace FileTree

def nameLimit : Nat := 255

def pathLimit : Nat := 4095

def components (path : String) : List String :=
  path.splitOn "/"

def entry? : FileTree → List String → Option FileTree
  | here, [] => some here
  | .file _, _ :: _ => none
  | .folder entries, name :: rest => (entries.lookup name).bind fun entry => entry.entry? rest

/-- The names that lead to the same place as the trail followed by the components. An empty component
stands for the folder itself, and above the topmost folder there is only that folder. Whether the last
name exists is left open. -/
def follow (root : FileTree) : (trail : List String) → List String → Except FileFault (List String)
  | trail, [] => .ok trail
  | trail, step :: rest =>
    match root.entry? trail with
    | none => .error .missing
    | some (.file _) => .error .notFolder
    | some (.folder _) =>
      if step = "" ∨ step = "." then follow root trail rest
      else if step = ".." then follow root trail.dropLast rest
      else if nameLimit < step.utf8ByteSize then .error .nameTooLong
      else follow root (trail ++ [step]) rest

/-- The names that a path means for someone who works in a folder. A path that starts with a separator is
followed from the topmost folder. -/
def locate (root : FileTree) (work : List String) (path : String) :
    Except FileFault (List String) :=
  if path = "" then .error .missing
  else if path.contains '\x00' then .error .nulInPath
  else if pathLimit < path.utf8ByteSize then .error .nameTooLong
  else root.follow (if path.startsWith "/" then [] else work) (components path)

def read (root : FileTree) (work : List String) (path : String) : Except FileFault (List UInt8) :=
  match root.locate work path with
  | .error fault => .error fault
  | .ok names =>
    match root.entry? names with
    | none => .error .missing
    | some (.folder _) => .error .isFolder
    | some (.file data) => .ok data

/-- Puts a file where the names lead, replacing what was there. Folders on the way have to exist. -/
def put (data : List UInt8) : List String → FileTree → FileTree
  | [], _ => .file data
  | _ :: _, .file old => .file old
  | [name], .folder entries => .folder ((name, .file data) :: entries.filter (·.1 != name))
  | name :: rest, .folder entries =>
    .folder (entries.map fun (key, entry) => (key, if key = name then put data rest entry else entry))

def write (root : FileTree) (work : List String) (path : String) (data : List UInt8) :
    Except FileFault FileTree :=
  match root.locate work path with
  | .error fault => .error fault
  | .ok names =>
    match root.entry? names with
    | some (.folder _) => .error .isFolder
    | _ => .ok (root.put data names)

end FileTree

end SpriteMachine
