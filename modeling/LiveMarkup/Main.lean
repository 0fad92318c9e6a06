import LiveMarkup.Command.Watch
/-
# LiveMarkup.Main -- the program

The program takes the directory of a project in as a `Disk`, carries out its command line
on that, prints the answer and writes the files that are not as they were.  Only what a
run looks at is taken in: directories without an ignored name, and the content of sources
and settings.
-/

namespace LiveMarkup.Program

set_option autoImplicit false

/-- The names on the way to an absolute place. -/
def namesOf (place : String) : List String := Disk.steps ⟨place⟩

/-- What the bytes of a file hold. -/
def contentOf (bytes : ByteArray) : FileContent :=
  match String.fromUTF8? bytes with
  | some text => .text text
  | none => .binary bytes.toList

/-- Is the content of a file of interest to a run? -/
def isRead (path : Path) : Bool := path.isSource || path.fileName? == some Config.fileName

/-- Take in what is at a place, seen from the directories it stands in.  Nothing is known
of what cannot be read, nor of a link to a directory that it stands in. -/
partial def takeIn (ignored above : List String) (place : String) : IO (Option DiskNode) := do
  let path : Path := ⟨place⟩
  try
    let real ← IO.FS.realPath place
    if ← real.isDir then
      if above.contains real.toString then return none
      if !above.isEmpty && (path.fileName?.map ignored.contains).getD false then
        return some (.directory [])
      let mut entries := []
      for e in ← real.readDir do
        match ← takeIn ignored (real.toString :: above) (place ++ "/" ++ e.fileName) with
        | some n => entries := DiskNode.putEntry e.fileName n entries
        | none => pure ()
      return some (.directory entries)
    else if isRead path then return some (.file (contentOf (← IO.FS.readBinFile real)))
    else return some (.file (.text ""))
  catch _ => return none

/-- A disk on which the current directory is. -/
def diskOf (current : List String) (tree : DiskNode) : Disk where
  tree := if (tree.at? current).isSome then tree else tree.putAt current (.directory [])
  current := current

/-- Put the file with the settings on a disk, when it is named and can be read. -/
def putSettings (d : Disk) : Option Path → IO Disk
  | none => return d
  | some path => do
      try
        let real ← IO.FS.realPath path.text
        if ← real.isDir then return (d.makeDirectories (path.components.length + 1) path).2
        else return (d.write path (contentOf (← IO.FS.readBinFile real))).2
      catch _ => return d

/-- The disk as a run sees it that works in a directory. -/
def takeProject (current : List String) (i : Command.Invocation) (root : String) : IO Disk := do
  let place (node : DiskNode) : Disk :=
    diskOf current ((DiskNode.directory []).putAt (namesOf root) node)
  let settings ← takeIn [] [] (root ++ "/" ++ Config.fileName)
  let first ← putSettings
    (place (.directory (settings.map fun n => (Config.fileName, n)).toList)) i.config
  match Command.prepare first i with
  | .error _ => return first
  | .ok (_, config) =>
      let tree ← takeIn config.ignoredDirs [] root
      putSettings (place (tree.getD (.directory []))) i.config

/-- The disk as a run sees it, and the run with its root in the one absolute spelling. -/
def takeDisk (i : Command.Invocation) : IO (Disk × Command.Invocation) := do
  let current := namesOf (← IO.currentDir).toString
  let root? ← try
      let real ← IO.FS.realPath i.root.text
      pure (some real.toString)
    catch _ => pure none
  match root? with
  | none => return (diskOf current (.directory []), i)
  | some root =>
      let i := { i with root := ⟨root⟩ }
      return (← takeProject current i root, i)

/-- Write the files that are not as they were. -/
def writeBack (before after : Disk) : IO Unit := do
  for (names, content) in before.changedFiles after do
    IO.FS.createDirAll (Disk.ofNames names.dropLast).text
    let place := (Disk.ofNames names).text
    match content with
    | .text s => IO.FS.writeFile place s
    | .binary bytes => IO.FS.writeBinFile place ⟨bytes.toArray⟩

/-- End a run with its answer. -/
def finish (before : Disk) (a : Command.Answer) : IO UInt32 := do
  IO.eprint a.errors
  IO.print a.output
  writeBack before a.disk
  return a.exit.toUInt32

/-- Look at the disk for as long as the program runs. -/
partial def follow (w : Workshop) (i : Command.Invocation) (t : Command.Watch) : IO UInt32 := do
  IO.sleep (max 10 t.session.config.debounceMs).toUInt32
  let (disk, _) ← takeDisk i
  let (t, errors) := t.look w disk
  IO.eprint errors
  writeBack disk t.session.store.disk
  follow w i t

/-- Carry out an invocation on the files of the machine. -/
def carryOut (w : Workshop) (i : Command.Invocation) : IO UInt32 := do
  let (disk, i) ← takeDisk i
  match i.request, Command.loadProject w disk 0 i with
  | .watch, .ok p =>
      IO.eprint (Command.diagnosticLines p.session.registry)
      writeBack disk p.session.store.disk
      follow w i (.ofSession p.session)
  | _, _ => finish disk (Command.invoke w disk 0 i)

/-- A workshop whose identifiers number upwards from a random place. -/
def openWorkshop : IO Workshop := do
  let bytes ← IO.getRandomBytes 7
  return ⟨.standard, .counted (bytes.toList.foldl (fun n b => 256 * n + b.toNat) 0)⟩

end LiveMarkup.Program

open LiveMarkup in
def main (arguments : List String) : IO UInt32 := do
  let w ← Program.openWorkshop
  match Command.parse arguments with
  | .run i => Program.carryOut w i
  | .help | .usageError =>
      let empty := Program.diskOf [] (.directory [])
      Program.finish empty (Command.run w empty 0 arguments)
