import RequestBook.Text.CaseTable

/-! Upper and lower case. The ASCII maps decide how header names and request names are compared;
the full Unicode maps decide how methods are accepted and exchanges are stored. On ASCII text the
two agree. -/
namespace RequestBook.Text

def isAscii (c : Char) : Bool := c.toNat < 0x80

def isAsciiLetter (c : Char) : Bool := ('a' ≤ c && c ≤ 'z') || ('A' ≤ c && c ≤ 'Z')

def lowerAscii (text : List Char) : List Char := text.map Char.toLower

def CaseRun.target? (n : Nat) (run : CaseRun) : Option Char :=
  if run.first ≤ n && n ≤ run.last && (n - run.first) % run.step == 0 then
    some (Char.ofNat (Int.toNat (n + run.distance)))
  else none

def mapRuns (runs : List CaseRun) (c : Char) : List Char :=
  [(runs.findSome? (CaseRun.target? c.toNat)).getD c]

def upperChar (c : Char) : List Char :=
  if isAscii c then [c.toUpper]
  else match upperExpansions.lookup c.toNat with
    | some codes => codes.map Char.ofNat
    | none => mapRuns upperRuns c

def upper (text : List Char) : List Char := text.flatMap upperChar

/-- The capital I with a dot above keeps its dot as a combining mark. -/
def lowerChar (c : Char) : List Char :=
  if isAscii c then [c.toLower]
  else if c == 'İ' then ['i', Char.ofNat 0x307]
  else mapRuns lowerRuns c

def inRanges (ranges : List (Nat × Nat)) (c : Char) : Bool :=
  ranges.any fun (first, last) => first ≤ c.toNat && c.toNat ≤ last

/-- Whether the next character that is not case-ignorable is cased. -/
def meetsCased (text : List Char) : Bool :=
  match text.dropWhile (inRanges caseIgnorableRanges) with
  | c :: _ => inRanges casedRanges c
  | [] => false

/-- Lower case of the rest of a text, given the characters before it in reverse. A capital sigma
becomes the final form when a cased letter stands before it and none after it. -/
def lowerAfter (before : List Char) : List Char → List Char
  | [] => []
  | 'Σ' :: rest =>
    (if meetsCased before && !meetsCased rest then 'ς' else 'σ') :: lowerAfter ('Σ' :: before) rest
  | c :: rest => lowerChar c ++ lowerAfter (c :: before) rest

def lower (text : List Char) : List Char := lowerAfter [] text

end RequestBook.Text
