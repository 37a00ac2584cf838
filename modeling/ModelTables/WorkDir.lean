/-! # Work directories

The generator reads its manifest and configuration from files and writes its
modules into a directory.  A work directory is the list of its files, each under
its path relative to the directory; directories are implied by the paths.

Paths are joined as path texts are: taken apart into segments, empty segments
and `.` vanish and `..` goes back one level, so different spellings of one path
name the same file (`segments`).  Reading a file resolves its path as the file
system does instead (`read?`): every segment before the last must be a directory
that exists, so `x/../m.json` needs a directory `x`, and a path that ends in `/`
names a directory, which cannot be read.  The extension of a path is the part of
its last segment from the last dot on, unless that dot starts the segment.
-/

namespace ModelTables

/-- The files of a work directory, by relative path. -/
abbrev WorkDir := List (String × String)

namespace WorkDir

/-- The parts of a path between its slashes. -/
def parts (path : String) : List String :=
  (path.toList.splitOn '/').map String.ofList

/-- One part of a path laid on the segments before it: an empty part and `.` vanish,
`..` goes back one level. -/
def pushPart (acc : List String) (part : String) : List String :=
  if part.isEmpty || part == "." then acc
  else if part == ".." then acc.dropLast
  else acc ++ [part]

/-- The segments of a relative path, with `.` and `..` resolved. -/
def segments (path : String) : List String :=
  (parts path).foldl pushPart []

/-- The path of segments. -/
def pathOf (segments : List String) : String := "/".intercalate segments

/-- Whether a path names a directory: some file lies below it. -/
def isDirectory (dir : WorkDir) (path : List String) : Bool :=
  path.isEmpty || dir.any fun (name, _) =>
    let s := segments name
    s.length > path.length && s.take path.length == path

/-- Resolve the parts of a relative path from the directory `current`: each part
but the last must lead into a directory that exists (`.` and empty parts stay,
`..` goes up, but not above the work directory); the last part must be a name. -/
def resolveParts (dir : WorkDir) : List String → List String → Option (List String)
  | [], _ => none
  | [last], current =>
    if last.isEmpty || last == "." || last == ".." then none else some (current ++ [last])
  | part :: rest, current =>
    if part.isEmpty || part == "." then resolveParts dir rest current
    else if part == ".." then
      if current.isEmpty then none else resolveParts dir rest current.dropLast
    else if isDirectory dir (current ++ [part]) then resolveParts dir rest (current ++ [part])
    else none

/-- The content of the file at the given segments, if there is one. -/
def fileAt (dir : WorkDir) (target : List String) : Option String :=
  (dir.find? fun (name, _) => segments name == target).map (·.2)

/-- The content of the file a relative path names, if the path resolves to a file. -/
def read? (dir : WorkDir) (path : String) : Option String :=
  if path.startsWith "/" then none
  else (resolveParts dir (parts path) []).bind dir.fileAt

/-- Whether a path names a file. -/
def isFile (dir : WorkDir) (path : List String) : Bool :=
  dir.any fun (name, _) => segments name == path

/-- Whether a directory can be made at a path: no file stands at it or at any
of the directories above it. -/
def canMakeDirectory (dir : WorkDir) (path : List String) : Bool :=
  (List.range path.length).all fun k => !dir.isFile (path.take (k + 1))

/-- Write a file, replacing one at the same path. -/
def write (dir : WorkDir) (path : List String) (content : String) : WorkDir :=
  (dir.filter fun (name, _) => segments name != path) ++ [(pathOf path, content)]

end WorkDir

/-- The extension of a path: from the last dot of its last segment on, unless
that dot starts the segment or the segment is `..`; empty when there is none. -/
def extensionOf (path : String) : String :=
  let chars := path.toList.reverse.dropWhile (· == '/')
  let name := (chars.takeWhile (· != '/')).reverse
  match name.reverse.findIdx? (· == '.') with
  | some k =>
    let dot := name.length - 1 - k
    if dot == 0 || name == ['.', '.'] then "" else String.ofList (name.drop dot)
  | none => ""

end ModelTables
