import ClientForge.Command.Run

/-!
The command line. What a run may look at is looked at first, then the run is made, and at last its new
folders and files are.
-/

open ClientForge

/-- The path to a place. -/
def pathOf (t : Trail) : String := "/" ++ "/".intercalate t

/-- The directory with what stands at a place. -/
def lookAt (d : Directory) (t : Trail) : IO Directory := do
  let p := (← IO.currentDir) / pathOf t
  if ← p.isDir then return { d with folders := t :: d.folders }
  else if ← p.pathExists then
    let text ← try IO.FS.readFile p catch _ => pure ""
    return d.put t text
  else return d

/-- The directory with what stands on the way along paths. -/
def lookAlong (d : Directory) (paths : List FilePath) : IO Directory :=
  (paths.flatMap d.placesOn).eraseDups.foldlM lookAt d

/-- Make the folders and files that a directory did not have before. -/
def store (before after : Directory) : IO Unit := do
  for t in after.folders.reverse do
    if !before.isFolder t then IO.FS.createDirAll (pathOf t)
  for (t, text) in after.newSince before do
    IO.FS.writeFile (pathOf t) text

/-- A run looks for the files that it would write, too. -/
def main (args : List String) : IO UInt32 := do
  let here := (FilePath.ofText (toString (← IO.currentDir))).names
  let first ← lookAlong (.within here) ((pathsIn args).map .ofText)
  let writes := ((Outcome.ofArguments first args).directory.newSince first).map Prod.fst
  let found ← lookAlong first (writes.map fun t => { root := "/", names := t })
  let o := Outcome.ofArguments found args
  store found o.directory
  o.lines.forM IO.println
  if o.crash?.isSome then IO.eprintln "The run broke off."
  return o.exit.toUInt32
