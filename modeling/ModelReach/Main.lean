import ModelReach.Run.CommandLine

/-! The program: it takes a picture of the files that a command line refers to, in which links are what they lead to,
runs the command on it, and writes what has changed. -/
namespace ModelReach.Main
set_option autoImplicit false

open Files (FileTree Node PurePath)
open Run (Request)

/-! ## Reading files -/

def render (parts : List String) : String := PurePath.render ⟨"/", parts⟩

/-- The bytes of a file; none if it may not be read. -/
def readBytes (parts : List String) : IO (Option (List Nat)) := do
  try
    let bytes ← IO.FS.readBinFile (render parts)
    pure (some (bytes.toList.map UInt8.toNat))
  catch _ => pure none

def addFile (t : FileTree) (parts : List String) : IO FileTree := do
  match ← readBytes parts with
  | some bytes => pure (t.put parts (.file bytes))
  | none =>
    let t := t.put parts (.file [])
    pure { t with unreadable := parts :: t.unreadable }

/-- Add what stands at a path, if anything does, but nothing below it. -/
def addAlone (t : FileTree) (parts : List String) : IO FileTree := do
  try
    let path ← IO.FS.realPath (render parts)
    if ← path.isDir then pure (t.put parts .directory)
    else if ← path.pathExists then addFile t parts
    else pure t
  catch _ => pure t

def addPath (t : FileTree) (parts : List String) : IO FileTree :=
  (List.range (parts.length + 1)).foldlM (fun t n =>
    if n = 0 then pure t else addAlone t (parts.take n)) t

partial def addBelow (t : FileTree) (parts : List String) : IO FileTree := do
  try
    let path ← IO.FS.realPath (render parts)
    if ← path.isDir then
      let entries ← path.readDir
      entries.foldlM (fun t entry => do
        let parts := parts ++ [entry.fileName]
        let t ← addAlone t parts
        addBelow t parts) t
    else pure t
  catch _ => pure t

def addPaths (request : Request) (t : FileTree) : IO FileTree := do
  let use := request.paths t
  let partsOf (path : String) : List String :=
    Files.absoluteParts t.workDir (PurePath.ofString path)
  let t ← use.files.foldlM (fun t path => addPath t (partsOf path)) t
  use.directories.foldlM (fun t path => do
    let t ← addPath t (partsOf path)
    addBelow t (partsOf path)) t

/-- The files that a request refers to: an options file may name the source, and only when that is there
the destination counts. -/
def picture (request : Request) : IO FileTree := do
  let workDir := (PurePath.ofString (← IO.currentDir).toString).parts
  let t ← addPath ⟨[], workDir, []⟩ workDir
  let t ← addPaths request t
  let t ← addPaths request t
  addPaths request t

/-! ## Writing files -/

def writeChanges (before after : FileTree) : IO Unit :=
  after.entries.forM fun entry =>
    if before.node? entry.1 = some entry.2 then pure ()
    else match entry.2 with
    | .directory => IO.FS.createDirAll (render entry.1)
    | .file content => IO.FS.writeBinFile (render entry.1) ⟨(content.map UInt8.ofNat).toArray⟩
    | .link _ => pure ()

end ModelReach.Main

open ModelReach in
def main (arguments : List String) : IO UInt32 := do
  let start ← IO.monoMsNow
  let request := Run.Request.ofArguments arguments
  let before ← Main.picture request
  let outcome := request.run before .inserted
  Main.writeChanges before (outcome.tree before)
  let stop ← IO.monoMsNow
  match outcome.print (stop - start).repr with
  | .error reason => do
    IO.eprintln reason.message
    pure 1
  | .ok printed => do
    printed.log.forM fun record => IO.eprintln record.line
    printed.err.forM fun line => IO.eprintln line
    printed.out.forM fun line => IO.println line
    pure printed.code.toUInt32
