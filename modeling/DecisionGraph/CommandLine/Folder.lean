/-!
A folder of texts kept in memory, with the answers that an operating system gives. A path is walked
name by name: every name but the last has to be that of a folder, even when dots lead back out of
it. Around the folder there is a root with the usual folders and devices, and nothing else.
-/

namespace DecisionGraph

/-- Why a text cannot be had from a path or put there. -/
inductive PathFault
  | missing | notFolder | isFolder | full | tooLong
  deriving DecidableEq, Repr

namespace PathFault

def all : List PathFault := [missing, notFolder, isFolder, full, tooLong]

def code : PathFault → Nat
  | missing => 2
  | notFolder => 20
  | isFolder => 21
  | full => 28
  | tooLong => 36

def ofCode? (code : Nat) : Option PathFault := all.find? (·.code = code)

def reason : PathFault → String
  | missing => "No such file or directory"
  | notFolder => "Not a directory"
  | isFolder => "Is a directory"
  | full => "No space left on device"
  | tooLong => "File name too long"

def message (fault : PathFault) : String := s!"{fault.reason} (os error {fault.code})"

end PathFault

abbrev Route := List String

/-- What stands at a route. A device is empty when it is read; what is written to it is gone, unless
it takes nothing. -/
inductive Entry
  | folder
  | text (content : String)
  | device (takes : Bool)

/-- Where a path leads: to a folder that its dots or slashes alone lead to, or to a name that is
still to be looked up, which a slash behind it may demand to be a folder. -/
inductive Spot
  | folder
  | named (route : Route) (slash : Bool)
  deriving DecidableEq, Repr

/-- Texts by route. A folder exists as long as a text is in it. -/
structure Folder where
  files : List (Route × String)

namespace Folder

/-- Where paths start that do not start at the root. Its own name is blank: no path can spell it. -/
def home : Route := ["tmp", ""]

def standing : List String :=
  ["bin", "boot", "dev", "etc", "home", "lib", "media", "mnt", "opt", "proc", "root", "run", "sbin",
    "srv", "sys", "tmp", "usr", "var"]

/-- Devices that every root has, with whether they take what is written to them. -/
def devices : List (Route × Bool) := [(["dev", "null"], true), (["dev", "full"], false)]

/-- The most bytes that a path and a name in it may have. -/
def longestPath : Nat := 4095
def longestName : Nat := 255

def namesOf (path : String) : List String := (path.splitOn "/").filter (· ≠ "")

def isDots (name : String) : Bool := name = "." || name = ".."

/-- The route one name further on; a dot stays where it is, two dots go back. -/
def step (route : Route) (name : String) : Route :=
  if name = "." then route else if name = ".." then route.dropLast else route ++ [name]

def ofFiles (files : List (String × String)) : Folder :=
  ⟨files.map fun (path, text) => ((namesOf path).foldl step home, text)⟩

def text? (folder : Folder) (route : Route) : Option String :=
  (folder.files.find? (·.1 = route)).map (·.2)

def hasFolder (folder : Folder) (route : Route) : Bool :=
  route.isPrefixOf home || standing.any (route = [·])
    || folder.files.any fun file => route.length < file.1.length && route.isPrefixOf file.1

/-- What stands at a route whose last name was not tried yet. -/
def entry (folder : Folder) (route : Route) : Except PathFault Entry :=
  if longestName < (route.getLastD "").utf8ByteSize then .error .tooLong
  else if folder.hasFolder route then .ok .folder
  else
    match devices.find? (·.1 = route), folder.text? route with
    | some (_, takes), _ => .ok (.device takes)
    | none, some content => .ok (.text content)
    | none, none => .error .missing

def enter (folder : Folder) (route : Route) (name : String) : Except PathFault Route :=
  if isDots name then .ok (step route name)
  else
    match folder.entry (step route name) with
    | .error fault => .error fault
    | .ok .folder => .ok (step route name)
    | .ok _ => .error .notFolder

def spot (folder : Folder) (path : String) : Except PathFault Spot :=
  if longestPath < path.utf8ByteSize then .error .tooLong
  else
    match (namesOf path).getLast? with
    | none => .ok .folder
    | some last =>
      let start := if path.startsWith "/" then [] else home
      match (namesOf path).dropLast.foldlM folder.enter start with
      | .error fault => .error fault
      | .ok route =>
        .ok (if isDots last then .folder else .named (step route last) (path.endsWith "/"))

def read (folder : Folder) (path : String) : Except PathFault String :=
  match folder.spot path with
  | .error fault => .error fault
  | .ok .folder => .error .isFolder
  | .ok (.named route slash) =>
    match folder.entry route with
    | .error fault => .error fault
    | .ok .folder => .error .isFolder
    | .ok (.text content) => if slash then .error .notFolder else .ok content
    | .ok (.device _) => if slash then .error .notFolder else .ok ""

def put (folder : Folder) (route : Route) (text : String) : Folder :=
  ⟨(route, text) :: folder.files.filter fun file => file.1 ≠ route⟩

/-- The folder with a text written to a path, or why that is not possible. -/
def write (folder : Folder) (path text : String) : Except PathFault Folder :=
  match folder.spot path with
  | .error fault => .error fault
  | .ok .folder => .error .isFolder
  | .ok (.named route slash) =>
    if slash then .error .isFolder
    else
      match folder.entry route with
      | .ok .folder => .error .isFolder
      | .ok (.device takes) => if takes then .ok folder else .error .full
      | .ok (.text _) | .error .missing => .ok (folder.put route text)
      | .error fault => .error fault

end Folder

end DecisionGraph
