import ChatRelay.Text.Utf8

/-! # Files by path

The part of a file system that settings are read from: files and directories by their paths from the
working directory, and the few places outside it that every system has. A path that lies below a
file, one that is too long and one that names nothing are told apart.
-/

namespace ChatRelay

/-- What a path names. -/
inductive DiskEntry where
  | file (content : Bytes)
  | directory
  deriving Repr, DecidableEq

/-- A place that a path leads to. -/
inductive Place where
  /-- By names from the working directory, or from the one that is `ups` levels above it. -/
  | relative (ups : Nat) (parts : List String)
  /-- From the root of the file system. -/
  | fromRoot (parts : List String)
  deriving Repr, DecidableEq

/-- Files and directories by their places. -/
abbrev Disk := List (Place × DiskEntry)

/-- Why a file cannot be read. -/
inductive ReadFault where
  | missing
  | isDirectory
  /-- The path goes on below a file. -/
  | notDirectory
  | nameTooLong
  /-- No path contains a NUL. -/
  | nulInPath
  /-- The content is not valid text. -/
  | notText
  deriving Repr, DecidableEq

/-- What is wrong, in words. -/
def ReadFault.message : ReadFault → String
  | .missing => "No such file or directory (os error 2)"
  | .isDirectory => "Is a directory (os error 21)"
  | .notDirectory => "Not a directory (os error 20)"
  | .nameTooLong => "File name too long (os error 36)"
  | .nulInPath => "file name contained an unexpected NUL byte"
  | .notText => "stream did not contain valid UTF-8"

namespace Place

/-- Where a path starts. -/
def start (path : String) : Place :=
  if path.toList.head? = some '/' then fromRoot [] else relative 0 []

/-- The parts of a path between its slashes. -/
def parts (path : String) : List String := (path.toList.splitOn '/').map String.ofList

/-- The directory above a place. There is none above the root. -/
def parent : Place → Place
  | relative ups [] => relative (ups + 1) []
  | relative ups parts => relative ups parts.dropLast
  | fromRoot parts => fromRoot parts.dropLast

/-- The place of that name in a directory. -/
def child (name : String) : Place → Place
  | relative ups parts => relative ups (parts ++ [name])
  | fromRoot parts => fromRoot (parts ++ [name])

/-- One part of a path further: to this directory, the one above, or a name in this one. -/
def step (place : Place) (part : String) : Place :=
  if part.isEmpty || part == "." then place
  else if part == ".." then place.parent
  else place.child part

/-- The places that a path passes, the last one first. -/
def passed (path : String) : List Place :=
  (parts path).foldl (fun places part =>
    (places.head?.getD (start path)).step part :: places) [start path]

end Place

namespace Disk

/-- Longest name of a file in bytes. -/
def nameLimit : Nat := 255

/-- Longest path in bytes. -/
def pathLimit : Nat := 4095

/-- Put an entry where a path leads. What the path passes on the way are directories. -/
def put (disk : Disk) (path : String) (entry : DiskEntry) : Disk :=
  match Place.passed path with
  | [] => disk
  | last :: before => (last, entry) :: (disk ++ before.map (·, .directory))

/-- A disk with some entries by their paths; of two at one place, the later one counts. -/
def ofEntries (entries : List (String × DiskEntry)) : Disk :=
  entries.foldl (fun disk (path, entry) => disk.put path entry) []

/-- Directories that every system has. -/
def systemDirectories : List (List String) :=
  [[], ["bin"], ["dev"], ["etc"], ["home"], ["lib"], ["opt"], ["proc"], ["root"], ["run"], ["sbin"],
    ["sys"], ["tmp"], ["usr"], ["usr", "bin"], ["usr", "lib"], ["var"]]

/-- Files that every system has: one that is empty and the table of accounts, of which the first
    line is given. -/
def systemFiles : List (List String × DiskEntry) :=
  [(["dev", "null"], .file []),
   (["etc", "passwd"], .file (Utf8.ofString "root:x:0:0:root:/root:/bin/sh\n"))]

/-- What every system has at a place. The working directory and those above it exist. -/
def systemEntry? : Place → Option DiskEntry
  | .relative _ parts => if parts.isEmpty then some .directory else none
  | .fromRoot parts =>
    if systemDirectories.contains parts then some .directory else systemFiles.lookup parts

/-- What is at a place, if anything. -/
def entry? (disk : Disk) (place : Place) : Option DiskEntry :=
  systemEntry? place <|> disk.lookup place

/-- Follow the parts of a path from a place. -/
def follow (disk : Disk) : (place : Place) → List String → Except ReadFault DiskEntry
  | place, [] =>
    match disk.entry? place with
    | some entry => .ok entry
    | none => .error .missing
  | place, part :: rest =>
    match disk.entry? place with
    | none => .error .missing
    | some (.file _) => .error .notDirectory
    | some .directory =>
      if nameLimit < part.utf8ByteSize then .error .nameTooLong
      else follow disk (place.step part) rest

/-- The content of the file that a path names. -/
def read (disk : Disk) (path : String) : Except ReadFault Bytes :=
  if path.toList.contains '\x00' then .error .nulInPath
  else if path.isEmpty then .error .missing
  else if pathLimit < path.utf8ByteSize then .error .nameTooLong
  else
    match disk.follow (Place.start path) (Place.parts path) with
    | .error fault => .error fault
    | .ok .directory => .error .isDirectory
    | .ok (.file content) => .ok content

end Disk
end ChatRelay
