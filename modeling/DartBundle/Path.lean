import DartBundle.Text.Basic
/-!
This module contains operations on path texts. A path text is not normalised: joining keeps what
was written, and only looking a path up in a file tree gives `.` and `..` their meaning.
-/

namespace DartBundle

namespace Path

def isAbsolute (path : String) : Bool :=
  path.toList.head? = some '/'

/--
Appends a part to a path. An absolute part replaces the path, and an empty part leaves a slash at
the end.
-/
def join (base part : String) : String :=
  if isAbsolute part || base.isEmpty || base.toList.getLast? = some '/' then
    if isAbsolute part then part else base ++ part
  else
    base ++ "/" ++ part

/--
Appends the segments of a text one after the other, so that none of them counts as absolute.
-/
def resolve (base relative : String) : String :=
  (List.splitOn '/' relative.toList).foldl (fun path segment => join path (String.ofList segment))
    base

def steps (path : String) : List String :=
  ((List.splitOn '/' path.toList).filter fun segment => !segment.isEmpty).map String.ofList

def namesDirectory (path : String) : Bool :=
  path.toList.getLast? = some '/'

def splitHead : List Char → List Char × List Char
  | '/' :: rest => (['/'], rest)
  | ['.'] => (['.'], [])
  | '.' :: '/' :: rest => (['.'], '/' :: rest)
  | path => ([], path)

def isIdle (segment : List Char) : Bool :=
  segment.isEmpty || segment = ['.']

def expandHome (home path : String) : String :=
  match List.splitOn '/' path.toList with
  | ['~'] :: rest =>
    (rest.filter fun segment => !isIdle segment).foldl
      (fun path segment => join path (String.ofList segment)) home
  | _ => path

def above (head : List Char) : List (List Char) → List String
  | [] => if head = ['.'] then [""] else []
  | segment :: rest =>
    if isIdle segment then
      above head rest
    else
      String.ofList (head ++ ['/'].intercalate (rest.dropWhile isIdle).reverse) :: above head rest

def parents (path : String) : List String :=
  let (head, body) := splitHead path.toList
  above head (List.splitOn '/' body).reverse

def parent? (path : String) : Option String :=
  (parents path).head?

end Path

end DartBundle
