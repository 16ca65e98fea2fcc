import QualifierBindings.Config.Loading

/-! The files below one directory, and how a path leads to them.
-/

namespace QualifierBindings

/-- The files and directories below one directory, each under the names that lead to
it. Every beginning of such a path is a directory. -/
structure FileTree where
  files : List (List String × ByteArray)
  directories : List (List String)

/-- What a path may lead to. -/
inductive FileEntry where
  | file (content : ByteArray)
  | directory
  | missing

/-- Where a walk along a path stands. -/
inductive Place where
  /-- In the tree, at the given path. -/
  | inside (path : List String)
  /-- In a directory outside of the tree, of which nothing else is known. -/
  | outside
  /-- At something outside of the tree that is not there. -/
  | unknown
deriving DecidableEq

namespace FileTree

def entry (tree : FileTree) (path : List String) : FileEntry :=
  match tree.files.find? (fun file => file.1 = path) with
  | some file => .file file.2
  | none =>
      if path.isEmpty || tree.files.any (fun file => path.isPrefixOf file.1)
          || tree.directories.any (fun directory => path.isPrefixOf directory) then .directory
      else .missing

def at? (tree : FileTree) : Place → FileEntry
  | .inside path => tree.entry path
  | .outside => .directory
  | .unknown => .missing

/-- One step of a walk; every step but the last needs a directory to start from, and
so does an empty one after a slash at the end. -/
def step (tree : FileTree) (place : Place) (segment : String) : Except FileFault Place :=
  match tree.at? place with
  | .missing => .error .notFound
  | .file _ => .error .notDirectory
  | .directory =>
      if segment = "" || segment = "." then .ok place
      else
        match place with
        | .inside path =>
            -- the parent of the root of the tree is outside of it
            if segment = ".." then
              if path.isEmpty then .ok .outside else .ok (.inside path.dropLast)
            else .ok (.inside (path ++ [segment]))
        | .outside => if segment = ".." then .ok .outside else .ok .unknown
        | .unknown => .ok .unknown

def segments (path : String) : List String :=
  (Text.split '/' path.toList).map String.ofList

def read (tree : FileTree) (start : Place) (path : String) : Except FileFault String := do
  let place ← (segments path).foldlM tree.step start
  match tree.at? place with
  | .missing => .error .notFound
  | .directory => .error .isDirectory
  | .file content =>
      match String.fromUTF8? content with
      | some text => .ok text
      | none => .error .invalidText

def isFile (tree : FileTree) (path : List String) : Bool :=
  match tree.entry path with
  | .file _ => true
  | _ => false

end FileTree

end QualifierBindings
