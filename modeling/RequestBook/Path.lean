import RequestBook.Text.Cut

/-! File paths with slashes. Empty parts and parts that are a single point do not count, a point at
the very beginning apart. -/
namespace RequestBook.Path

def isAbsolute (path : List Char) : Bool := path.head? == some '/'

/-- The parts of a path that count, the root apart. -/
def components (path : List Char) : List (List Char) :=
  (Text.splitAll '/' path).filter fun part => part != [] && part != ['.']

/-- The beginning of a path that is no part of its own: the root, or a point for the current
directory. -/
def splitStart (path : List Char) : List Char × List Char :=
  match path with
  | '/' :: rest => (['/'], rest)
  | ['.'] => (['.'], [])
  | '.' :: '/' :: rest => (['.'], '/' :: rest)
  | _ => ([], path)

def dropIdle (reversed : List Char) : List Char :=
  let part := reversed.takeWhile (· != '/')
  if part = [] ∨ part = ['.'] then
    match found : reversed.dropWhile (· != '/') with
    | [] => []
    | _ :: rest =>
      have := Text.length_of_dropWhile found
      dropIdle rest
  else reversed
termination_by reversed.length

/-- The path without its last part. The root has no parent, and neither has the empty path. -/
def parent? (path : List Char) : Option (List Char) :=
  let (start, body) := splitStart path
  if components body = [] then
    if start = ['.'] then some [] else none
  else
    let last := (dropIdle body.reverse).dropWhile (· != '/')
    some (start ++ (dropIdle (last.drop 1)).reverse)

def join (directory path : List Char) : List Char :=
  if isAbsolute path then path
  else if directory.isEmpty || directory.getLast? == some '/' then directory ++ path
  else directory ++ '/' :: path

end RequestBook.Path
