import RequestBook.CommandLine
import RequestBook.Placeholder.Generator
import Std.Time.DateTime.Timestamp
import Std.Time.Zoned.Database

/-! The program: reads the files that an invocation asks for, and prints what it answers. -/
namespace RequestBook.Program

open CommandLine

def readFile (path : String) : IO (Except String Text.Bytes) := do
  try
    let bytes ← IO.FS.readBinFile path
    return .ok bytes.toList
  catch
    | .noFileOrDirectory .. => return .error "No such file or directory (os error 2)"
    | .permissionDenied .. => return .error "Permission denied (os error 13)"
    | e => return .error (toString e)

def environment : IO (List (String × String)) := do
  match ← readFile "/proc/self/environ" with
  | .error _ => return []
  | .ok bytes =>
    let entries := Text.splitAll (Char.ofNat 0) (Text.decodeLossy bytes)
    return entries.filterMap fun entry =>
      (Text.cutAt? '=' entry).map fun (name, value) => (String.ofList name, String.ofList value)

/-- The zone of the machine, and universal time if there is no telling. -/
def zone : IO Calendar.Zone := do
  try
    let rules ← Std.Time.Database.defaultGetLocalZoneRules
    return fun i => (rules.timezoneAt (.ofSecondsSinceUnixEpoch ⟨i.seconds⟩)).offset.second.val
  catch _ => return .universal

/-- Numbers that lie close together become numbers that do not. -/
def scatter (n : UInt64) : UInt64 :=
  let n := (n ^^^ (n >>> 30)) * 0xbf58476d1ce4e5b9
  let n := (n ^^^ (n >>> 27)) * 0x94d049bb133111eb
  n ^^^ (n >>> 31)

def entropyAt (seeds : List UInt64) (place : Place) : Nat :=
  let bits (seed : UInt64) : UInt64 :=
    place.foldl (fun sum n => scatter (sum + 0x9e3779b97f4a7c15 + n.toUInt64)) seed
  seeds.foldl (fun n seed => n * 0x10000000000000000 + (bits seed).toNat) 0

def randomSeed : IO UInt64 := do
  let bytes ← IO.getRandomBytes 8
  return bytes.toList.foldl (fun n byte => n * 256 + byte.toUInt64) 0

/-- The world of a run. Nothing is sent: there is no network here. -/
def world : IO World := do
  let now ← Std.Time.Timestamp.now
  let total := now.toNanosecondsSinceUnixEpoch.toInt
  let clock : Calendar.Clock := ⟨⟨total / 1000000000, (total % 1000000000).toNat⟩, ← zone⟩
  let values ← environment
  let seeds := [← randomSeed, ← randomSeed]
  return fun sent =>
    let sources (place : Place) : Sources :=
      ⟨clock, (values.lookup ·), entropyAt seeds (place ++ [sent.length])⟩
    { generation := .ofSources sources
      load := fun _ => .error ""
      send := fun _ => .error (.network "sending requests is not supported") }

partial def serve (world : World) (i : Invocation) (known : List (String × Except String Text.Bytes)) :
    IO Outcome := do
  match answer (known.lookup ·) world i with
  | .ok outcome => return outcome
  | .error path => serve world i ((path, ← readFile path) :: known)

def usage : String := "usage: (check | order | run) FILE [--config FILE]"

end RequestBook.Program

def main (words : List String) : IO UInt32 := do
  match RequestBook.CommandLine.Invocation.ofWords? words with
  | none =>
    IO.eprintln RequestBook.Program.usage
    return 2
  | some invocation =>
    let outcome ← RequestBook.Program.serve (← RequestBook.Program.world) invocation []
    IO.print outcome.output
    IO.eprint outcome.errors
    return UInt32.ofNat outcome.code
