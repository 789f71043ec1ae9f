import CssColor.CommandLine.Run

/-!
# The command

- `diskOf`: the files that a command line names, as they are.
- `main`: a run on the real files, input and outputs.
-/

namespace CssColor

namespace Command

/-- The texts that lead to a name, each ending before a slash, and the name itself. -/
def stages : Text → List Text
  | [] => [[]]
  | '/' :: rest => [] :: (stages rest).map ('/' :: ·)
  | c :: rest => (stages rest).map (c :: ·)

/-- Adds what stands under a name to a disk, and tells whether it is a directory. -/
def probe (d : Disk) (name : Text) : IO (Disk × Bool) := do
  let place := Location.ofName name
  let holding (entry : Entry) : Disk := { d with entries := d.entries ++ [(place, entry)] }
  try
    let bytes ← IO.FS.readBinFile (String.ofList name)
    return (holding (.file bytes.toList), false)
  catch
    | .noFileOrDirectory .. => return (d, false)
    | .inappropriateType .. => return (holding .directory, true)
    | e => return ({ d with unreadable := d.unreadable ++ [(name, (toString e).toList)] }, false)

/-- Adds what stands on the way to a name to a disk, up to the first that is no directory. -/
def probeStages (d : Disk) : List Text → IO Disk
  | [] => return d
  | name :: rest => do
    if name.isEmpty then probeStages d rest
    else
      let (d, isDirectory) ← probe d name
      if isDirectory then probeStages d rest else return d

/-- Marks a name if its file cannot be opened for writing. -/
def probeWriting (d : Disk) (name : Text) : IO Disk := do
  match d.file name with
  | .error _ => return d
  | .ok _ =>
    try
      let _ ← IO.FS.Handle.mk (String.ofList name) .append
      return d
    catch e => return { d with unwritable := d.unwritable ++ [(name, (toString e).toList)] }

/-- The files that a run may read and write, as they are. -/
def diskOf (a : Arguments) : IO Disk := do
  let settings := (a.config.value?.map shownPath).getD Settings.usualFile
  let named := a.files.filter (· ≠ inputName)
  let d ← (settings :: named).foldlM (fun d name => probeStages d (stages name)) {}
  if a.inPlace then named.foldlM probeWriting d else return d

/-- Writes the files whose bytes have changed. -/
def writeChanged (before after : Disk) (names : List Text) : IO Unit :=
  names.forM fun name =>
    match before.file name, after.file name with
    | .ok (_, old), .ok (_, new) =>
      if old = new then pure () else IO.FS.writeBinFile (String.ofList name) ⟨new.toArray⟩
    | _, _ => pure ()

/-- All of the standard input, with a line feed at the end of each line. -/
def readInput : IO Text := do
  return Text.unifyLineEnds (← (← IO.getStdin).readToEnd).toList

/-- The end of a prepared run. A run that asks for a target shows its question first. -/
def finish : Prepared → IO Outcome
  | .over outcome => return outcome
  | .ready p s => do
    let input ← if p.files.contains inputName then readInput else pure []
    return (Prepared.ready p { s with input }).finish
  | .asking p s => do
    IO.eprint (String.ofList s.stderr)
    (← IO.getStderr).flush
    let line ← (← IO.getStdin).getLine
    return (Prepared.asking p { s with input := Text.unifyLineEnds line.toList, stderr := [] }).finish

end Command

end CssColor

open CssColor in
/-- A run on the real files; a fault ends it with the exit code of a run in which a colour
failed. -/
def main (args : List String) : IO UInt32 := do
  let argv := args.map String.toList
  let a := match Arguments.parse argv with
    | .ok a => a
    | .error _ => {}
  let disk ← Command.diskOf a
  let outcome ← Command.finish (prepare argv { disk })
  Command.writeChanged disk outcome.session.disk a.files
  IO.print (String.ofList outcome.session.stdout)
  IO.eprint (String.ofList outcome.session.stderr)
  match outcome.ending with
  | .exit code => return code.toUInt32
  | .fault f =>
    IO.eprintln (String.ofList f.message)
    return exitColorErrors.toUInt32
