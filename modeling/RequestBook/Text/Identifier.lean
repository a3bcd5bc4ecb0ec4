import RequestBook.Text.Case
import RequestBook.Text.Digit

/-! Identifiers: a letter or an underscore, then letters, digits, underscores and further marks
that depend on what is named. All letters and digits are ASCII. -/
namespace RequestBook.Text

def startsIdentifier (c : Char) : Bool := isAsciiLetter c || c == '_'

def continuesIdentifier (marks : List Char) (c : Char) : Bool :=
  isAsciiLetter c || isAsciiDigit c || c == '_' || marks.contains c

def readIdentifier (marks : List Char) : List Char → Option (List Char × List Char)
  | [] => none
  | c :: rest =>
    if startsIdentifier c then
      some (c :: rest.takeWhile (continuesIdentifier marks), rest.dropWhile (continuesIdentifier marks))
    else none

def requestMarks : List Char := ['-']

def variableMarks : List Char := ['.', '-']

end RequestBook.Text
