import ClusterPlan.Text.Split

/-!
# Files

`Files` are some files in a folder, by their paths. `Files.read` gives the content of one, or the
reason why it cannot be read. `homeFolder` is the folder of the user.
-/

namespace ClusterPlan

/-- Why a file cannot be read. -/
inductive FileError where
  | missing
  | isFolder
  /-- The path leads through a file as if it were a folder. -/
  | notAFolder
  /-- The bytes of the file are no text. -/
  | notText
  | other (reason : String)
deriving Repr, DecidableEq

/-- The message that reports a failure. -/
def FileError.message : FileError → String
  | .missing => "No such file or directory (os error 2)"
  | .isFolder => "Is a directory (os error 21)"
  | .notAFolder => "Not a directory (os error 20)"
  | .notText => "stream did not contain valid UTF-8"
  | .other reason => reason

/-- The failure that a system reports by a number and a text. -/
def FileError.ofSystem (number : Nat) (text : String) : FileError :=
  match number with
  | 2 => .missing
  | 20 => .notAFolder
  | 21 => .isFolder
  | _ => .other s!"{text} (os error {number})"

/-- Whether it shows in an attempt to read a file that the path leads somewhere. It does not if the
attempt fails for another reason than those that are told apart. -/
def leadsSomewhere : Except FileError String → Bool
  | .ok _ | .error .isFolder | .error .notText => true
  | .error .missing | .error .notAFolder | .error (.other _) => false

/-- The parts of a path. -/
abbrev Path := List (List Char)

namespace Path

/-- The parts of a path between its slashes. -/
def ofString (path : String) : Path :=
  Text.fields '/' path.toList

/-- Whether a part of a path leads nowhere else. -/
def isIdle (part : List Char) : Bool :=
  part = [] || part = ['.']

end Path

/-- Files in a folder, with their paths from there and their contents. -/
structure Files where
  entries : List (Path × String)

namespace Files

/-- The files with paths and contents. -/
def ofList (entries : List (String × String)) : Files :=
  ⟨entries.map fun (path, content) => ((Path.ofString path).filter (!Path.isIdle ·), content)⟩

/-- The content of the file at a path. -/
def content? (f : Files) (path : Path) : Option String :=
  f.entries.lookup path

/-- Whether there are files below a path. -/
def isFolder (f : Files) (path : Path) : Bool :=
  f.entries.any fun (entry, _) => path.isPrefixOf entry && path ≠ entry

/-- The content of the file to which the rest of a path leads from a folder. -/
def readFrom (f : Files) (folder : Path) : Path → Except FileError String
  | [] => .error .isFolder
  | part :: rest =>
    if Path.isIdle part then readFrom f folder rest
    else if part = ['.', '.'] then
      if folder = [] then .error .missing else readFrom f folder.dropLast rest
    else
      let path := folder ++ [part]
      match f.content? path with
      | some content => if rest = [] then .ok content else .error .notAFolder
      | none => if f.isFolder path then readFrom f path rest else .error .missing

/-- The content of the file at a path. Nothing is known of what is outside the folder. -/
def read (f : Files) (path : String) : Except FileError String :=
  if path = "" ∨ path.toList.head? = some '/' then .error .missing
  else f.readFrom [] (Path.ofString path)

end Files

/-! ## The folder of the user -/

/-- The number of the user, in what a system tells of a process: a line for each property, with its
name and its values divided by tabs. -/
def userNumber? (status : String) : Option String :=
  (Text.fields '\n' status.toList).findSome? fun line =>
    match Text.fields '\t' line with
    | name :: number :: _ => if name = "Uid:".toList then some (String.ofList number) else none
    | _ => none

/-- The folder of the user with a number, in a list with a line for each user: name, password, number,
group, remark, folder and shell, divided by colons. -/
def folderOfUser? (users number : String) : Option String :=
  (Text.fields '\n' users.toList).findSome? fun line =>
    match Text.fields ':' line with
    | [_, _, n, _, _, folder, _] => if n = number.toList then some (String.ofList folder) else none
    | _ => none

/-- The folder of the user: the one that the environment names, else the one in the list of users,
else the current one. A folder without a name is none. -/
def homeFolder (named? listed? : Option String) : String :=
  ((named?.filter (· ≠ "")).or (listed?.filter (· ≠ ""))).getD "."

end ClusterPlan
