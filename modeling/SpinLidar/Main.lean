import SpinLidar.Command.Summarize
open SpinLidar

def readText? (name : String) : IO (Option String) := do
  try
    return some (← IO.FS.readFile name)
  catch _ =>
    return none

def readBytes? (name : String) : IO (Option ByteArray) := do
  try
    return some (← IO.FS.readBinFile name)
  catch _ =>
    return none

def main (args : List String) : IO UInt32 := do
  let mut texts : List (String × String) := []
  let mut captures : List (String × ByteArray) := []
  for name in Command.filesNamed args do
    if let some t ← readText? name then texts := (name, t) :: texts
    if let some b ← readBytes? name then captures := (name, b) :: captures
  let files : Files := ⟨fun n => texts.lookup n, fun n => captures.lookup n⟩
  let r := Command.summarize files args
  for w in r.warnings do
    IO.eprintln ("WARNING: " ++ w)
  match r.result with
  | .ok p =>
    IO.print p.output
    return p.status.toUInt32
  | .error f =>
    IO.eprintln (f.kind.name ++ (match f.message with
      | some m => ": " ++ m
      | none => ""))
    return 1
