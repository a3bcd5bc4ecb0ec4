import RequestBook.Text.Cut

/-! The attributes of a tag. Reading is lenient: a piece that is no attribute is passed over and
reading goes on behind it, and values are taken as they stand. -/
namespace RequestBook.Markup

open Text (length_dropWhile_le length_of_dropWhile)

def isSpace (c : Char) : Bool := c == ' ' || c == '\t' || c == '\r' || c == '\n'

def isNameInner (c : Char) : Bool := c != '=' && !isSpace c

/-- The attributes in the text behind a tag's name; `seen` holds the names met so far.

* A name ends at an equals sign or at white space. Without an equals sign it is passed over.
* A name met before is passed over from its equals sign to the next white space.
* A value without quotes is passed over to the next white space; its name still counts as met.
* Without a value, or without the closing quote, reading ends. -/
def readAttributes (seen : List (List Char)) (text : List Char) : List (List Char × List Char) :=
  match found : text.dropWhile isSpace with
  | [] => []
  | c :: rest =>
    have := length_of_dropWhile found
    have := length_dropWhile_le isNameInner rest
    let name := c :: rest.takeWhile isNameInner
    match found : (rest.dropWhile isNameInner).dropWhile isSpace with
    | [] => []
    | '=' :: value =>
      have := length_of_dropWhile found
      have := length_dropWhile_le (fun d => !isSpace d) value
      if seen.contains name then
        readAttributes seen (value.dropWhile fun d => !isSpace d)
      else
        match found : value.dropWhile isSpace with
        | [] => []
        | quote :: inside =>
          have := length_of_dropWhile found
          have := length_dropWhile_le (fun d => !isSpace d) inside
          if quote = '"' ∨ quote = '\'' then
            match found : Text.cutAt? quote inside with
            | none => []
            | some (content, after) =>
              have := Text.length_of_cutAt? found
              (name, content) :: readAttributes (name :: seen) after
          else readAttributes (name :: seen) (inside.dropWhile fun d => !isSpace d)
    | d :: more =>
      have := length_of_dropWhile found
      readAttributes seen (d :: more)
termination_by text.length
decreasing_by all_goals (try simp only [List.length_cons]); omega

structure Tag where
  name : String
  attributes : List (String × String)
  deriving DecidableEq, Repr

def Tag.ofContent (content : List Char) : Tag where
  name := String.ofList (content.takeWhile fun c => !isSpace c)
  attributes := (readAttributes [] (content.dropWhile fun c => !isSpace c)).map fun (name, value) =>
    (String.ofList name, String.ofList value)

def Tag.attribute? (tag : Tag) (name : String) : Option String :=
  (tag.attributes.find? fun entry => entry.1 == name).map Prod.snd

end RequestBook.Markup
