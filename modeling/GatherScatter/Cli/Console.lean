import GatherScatter.Cli.Program
/-! # The program on a console held in memory -/

namespace GatherScatter.Cli

/-- The state of an in-memory console. -/
structure Console where
  files : List (String × String) := []
  full : Bool := false
  stdout : String := ""
  stderr : String := ""
  ticks : Nat := 0
  deriving DecidableEq, Repr

abbrev Simulated := StateM Console

def noSpace : String := "No space left on device (os error 28)"

def noSuchFile : String := "No such file or directory (os error 2)"

def isDirectory : String := "Is a directory (os error 21)"

def notDirectory : String := "Not a directory (os error 20)"

def nameTooLong : String := "File name too long (os error 36)"

def nameLimit : Nat := 255

def pathLimit : Nat := 4096

inductive Place where
  | system (names : List String)
  | work
  | file (text : String)
  deriving DecidableEq, Repr

def systemDirectories : List (List String) :=
  [[], ["bin"], ["boot"], ["dev"], ["etc"], ["home"], ["lib"], ["media"], ["mnt"], ["opt"],
   ["proc"], ["root"], ["run"], ["sbin"], ["srv"], ["sys"], ["tmp"], ["usr"], ["var"]]

def systemFiles : List (List String × String) := [(["dev", "null"], "")]

def Place.step (files : List (String × String)) (p : Place) (name : String) :
    Except String Place :=
  match p with
  | .file _ => .error notDirectory
  | .work =>
    if name = "" ∨ name = "." then pure .work
    else if name = ".." then pure (.system ["tmp"])
    else if nameLimit < name.utf8ByteSize then .error nameTooLong
    else match files.lookup name with
      | some text => pure (.file text)
      | none => .error noSuchFile
  | .system names =>
    if name = "" ∨ name = "." then pure p
    else if name = ".." then pure (.system names.dropLast)
    else if nameLimit < name.utf8ByteSize then .error nameTooLong
    else
      let down := names ++ [name]
      if systemDirectories.contains down then pure (.system down)
      else match systemFiles.lookup down with
        | some text => pure (.file text)
        | none => .error noSuchFile

def lookup (files : List (String × String)) (path : String) : Except String String :=
  if path.isEmpty then .error noSuchFile
  else if pathLimit ≤ path.utf8ByteSize then .error nameTooLong
  else
    let (start, names) := match path.toList with
      | '/' :: rest => (Place.system [], Text.split '/' (String.ofList rest))
      | _ => (Place.work, Text.split '/' path)
    match names.foldlM (Place.step files) start with
    | .ok (.file text) => .ok text
    | .ok _ => .error isDirectory
    | .error reason => .error reason

def Console.host : Host Simulated where
  readFile path := do pure (lookup (← get).files path)
  writeOut text := modifyGet fun c =>
    if c.full then (.error noSpace, c) else (.ok (), { c with stdout := c.stdout ++ text })
  writeErr text := modify fun c => { c with stderr := c.stderr ++ text }
  clock := modifyGet fun c => (c.ticks * 1000, { c with ticks := c.ticks + 1 })

/-- Runs the program on an in-memory console: the exit status and the console afterwards. -/
def simulate (inv : Invocation) (console : Console) : Nat × Console :=
  (program Console.host inv).run console

end GatherScatter.Cli
