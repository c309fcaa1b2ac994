import PackageAudit.CommandLine.Run
import Std.Time.Zoned

namespace PackageAudit.Main

open CommandLine (State Ending)

def locationOf (path : String) : Location := (Path.ofText (Text.ofString path)).parts

def pathOf (l : Location) : String :=
  String.ofList ('/' :: ((Text.joinWith [Path.slash] l).filterMap CodePoint.char?))

partial def load (t : Tree) (path : String) : IO Tree := do
  let place := (← IO.currentDir) / path
  let l := locationOf place.toString
  if ← place.isDir then
    let mut t := if t.isDirectory l then t else { t with directories := t.directories ++ [l] }
    for e in ← place.readDir do
      t ← load t (path ++ "/" ++ e.fileName)
    return t
  else if t.isFile l || !(← place.pathExists) then return t
  else return { t with files := (l, (← IO.FS.readBinFile place).data.toList) :: t.files }

/-- The values that an argument can mean: itself, and what stands behind an equals sign. -/
def meanings (argument : String) : List String :=
  let cs := argument.toList
  [argument, String.ofList ((cs.dropWhile (· ≠ '=')).drop 1)]

/-- The files under the current directory and at all paths that the arguments can mean. -/
def picture (arguments : List String) : IO Tree := do
  let current := (← IO.currentDir).toString
  let mut t ← load { files := [], directories := [], current := locationOf current } current
  for m in arguments.flatMap meanings do
    let place := (← IO.currentDir) / m
    if let some above := place.parent then
      if ← above.isDir then
        t := { t with directories := t.directories ++ [locationOf above.toString] }
    t ← load t m
  return t

def carryOut (before after : Tree) : IO Unit := do
  for l in after.directories do
    unless before.isDirectory l do IO.FS.createDirAll (pathOf l)
  for (l, bytes) in after.files do
    unless before.content? l = some bytes do
      IO.FS.writeBinFile (pathOf l) ⟨bytes.toArray⟩

def timing (milliseconds : Int) : IO CommandLine.Timing := do
  let t ← Std.Time.PlainDateTime.now
  return ⟨⟨t.year.toInt.toNat, t.month.toNat, t.day.toNat, t.hour.toNat, t.minute.toNat,
    t.second.toNat, t.nanosecond.toNat / 1000⟩, milliseconds⟩

def screenWidth : IO Nat := return ((← IO.getEnv "COLUMNS").bind (·.toNat?)).getD 80

def run (arguments : List String) : IO UInt32 := do
  let start : State := ⟨← picture arguments, ← screenWidth, []⟩
  let session := CommandLine.run (← timing 0) (arguments.map Text.ofString)
  let (ending, state) := session.outcome start
  for line in state.printed do
    IO.println (String.ofList (line.filterMap CodePoint.char?))
  match ending with
  | .misused e => IO.eprintln (String.ofList (e.message.filterMap CodePoint.char?))
  | .broken b => IO.eprintln b.message
  | .done | .failed => pure ()
  carryOut start.tree state.tree
  return ending.status.toUInt32

end PackageAudit.Main

def main (arguments : List String) : IO UInt32 := PackageAudit.Main.run arguments
