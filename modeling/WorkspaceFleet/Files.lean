import WorkspaceFleet.Text.Utf8

/-!
# WorkspaceFleet.Files

The files that configuration and certificates are read from: a tree of directories as a list of paths
with what stands under each.

A directory is there when it is listed or when something is listed below it. A path is walked step by
step, and every place on its way has to be a directory; repeated slashes and single dots make no difference,
and two dots step back. `place` is where a path leads if nothing is in its way.
-/

namespace WorkspaceFleet

inductive FileEntry where
  | file (bytes : List UInt8)
  | directory
  deriving DecidableEq, Repr

inductive FileError where
  | notFound
  | exists
  | notDirectory
  | isDirectory
  /-- A text was expected and the bytes are none. -/
  | notText
  deriving DecidableEq, Repr

def FileError.message : FileError → String
  | .notFound => "No such file or directory (os error 2)"
  | .exists => "File exists (os error 17)"
  | .notDirectory => "Not a directory (os error 20)"
  | .isDirectory => "Is a directory (os error 21)"
  | .notText => "stream did not contain valid UTF-8"

structure Files where
  /-- The steps from the root or the working directory, and what stands there. -/
  entries : List (List String × FileEntry)

namespace Files

def empty : Files := ⟨[]⟩

/-- The steps of a path; a path from the root begins with an empty step. -/
def steps (path : String) : List String :=
  let parts := path.splitOn "/"
  let named := parts.filter (fun p => p ≠ "" ∧ p ≠ ".")
  if path.startsWith "/" then "" :: named else named

/-- Whether only a directory can stand at the end of a path. -/
def wantsDirectory (path : String) : Bool :=
  ["", ".", ".."].contains ((path.splitOn "/").getLastD "")

/-- The place one step further. There is nothing above the root, and what is above the working directory
is not known by another name. -/
def next (at_ : List String) (step : String) : List String :=
  if step ≠ ".." then at_ ++ [step]
  else if at_ = [""] then at_
  else if at_.all (· == "..") then at_ ++ [step]
  else at_.dropLast

def place (path : String) : List String := (steps path).foldl next []

def ofList (l : List (String × FileEntry)) : Files := ⟨l.map (fun e => (place e.1, e.2))⟩

/-- What stands at a place. Where every path begins there are directories. -/
def entry? (fs : Files) (at_ : List String) : Option FileEntry :=
  match fs.entries.lookup at_ with
  | some e => some e
  | none =>
    if at_ = [""] ∨ at_.all (· == "..") ∨ fs.entries.any (fun e => at_.isPrefixOf e.1) then
      some .directory
    else none

def walk (fs : Files) (at_ : List String) : List String → Except FileError (List String)
  | [] => .ok at_
  | step :: rest =>
    match fs.entry? at_ with
    | some .directory => fs.walk (next at_ step) rest
    | some (.file _) => .error .notDirectory
    | none => .error .notFound

def read (fs : Files) (path : String) : Except FileError (List UInt8) := do
  if path = "" then throw .notFound
  match fs.entry? (← fs.walk [] (steps path)) with
  | some (.file bytes) => if wantsDirectory path then throw .notDirectory else return bytes
  | some .directory => throw .isDirectory
  | none => throw .notFound

def readText (fs : Files) (path : String) : Except FileError String := do
  match Text.Utf8.decode? (← fs.read path) with
  | some s => return s
  | none => .error .notText

/-- Walks on from a place, and makes the directories that are not there. -/
def makeDirectories (fs : Files) (at_ : List String) : List String → Except FileError Files
  | [] => .ok fs
  | step :: rest =>
    let here := next at_ step
    match fs.entry? here with
    | some .directory => fs.makeDirectories here rest
    | some (.file _) => .error (if rest.isEmpty then .exists else .notDirectory)
    | none => makeDirectories ⟨fs.entries ++ [(here, .directory)]⟩ here rest

def createDirectory (fs : Files) (path : String) : Except FileError Files :=
  fs.makeDirectories [] (steps path)

end Files
end WorkspaceFleet
