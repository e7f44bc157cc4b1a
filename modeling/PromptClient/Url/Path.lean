import PromptClient.Text.Blank
import PromptClient.Text.Percent

/-! # Paths of URLs

A path is read segment by segment. Segments of one dot are dropped and segments of
two dots take the segment before them away, also where a dot is written as `%2e`.
What a request line cannot carry is percent-encoded.
-/

namespace PromptClient.Url

def isControlOrWide (char : Char) : Bool :=
  char.toNat < 32 || char.toNat > 126

def isEncodedInPath (char : Char) : Bool :=
  isControlOrWide char || " \"#<>?\x60\x7b\x7d".toList.contains char

def isEncodedInQuery (char : Char) : Bool :=
  isControlOrWide char || " \"#<>\x27".toList.contains char

def encodeWhere (test : Char → Bool) (text : List Char) : List Char :=
  text.flatMap fun char =>
    if test char then (Text.Utf8.encode (String.singleton char)).flatMap Text.Percent.triple
    else [char]

/-- A segment with its encoded dots written as dots. -/
def plainDots : List Char → List Char
  | '%' :: '2' :: 'e' :: rest => '.' :: plainDots rest
  | '%' :: '2' :: 'E' :: rest => '.' :: plainDots rest
  | char :: rest => char :: plainDots rest
  | [] => []

def isSingleDot (segment : List Char) : Bool :=
  plainDots segment = ['.']

def isDoubleDot (segment : List Char) : Bool :=
  plainDots segment = ['.', '.']

/-- Go along the segments of a path, from the segments gone along so far. A dot
segment at the end leaves an empty segment. -/
def resolveSegments (done : List (List Char)) : List (List Char) → List (List Char)
  | [] => done
  | [last] =>
      if isDoubleDot last then done.dropLast ++ [[]]
      else if isSingleDot last then done ++ [[]]
      else done ++ [last]
  | segment :: rest =>
      if isDoubleDot segment then resolveSegments done.dropLast rest
      else if isSingleDot segment then resolveSegments done rest
      else resolveSegments (done ++ [segment]) rest

def isSlash (char : Char) : Bool :=
  char = '/' || char = '\\'

def webPath (text : List Char) : List Char :=
  let body := match text with
    | first :: rest => if isSlash first then rest else text
    | [] => []
  let segments := (Text.splitWhere isSlash body).map (encodeWhere isEncodedInPath)
  (resolveSegments [] segments).flatMap fun segment => '/' :: segment

example : resolveSegments [] [['a'], ['.', '.'], ['b']] = [['b']] := by decide
example : resolveSegments [] [['a'], ['.', '.']] = [[]] := by decide

end PromptClient.Url
