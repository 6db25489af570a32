/-
CountingHouse.Path — paths as text.

A path is cut at its slashes. A part that is empty or a single dot names
nothing new, except at the very front: an empty first part means that
the path begins at the root, and a first part that is a dot stands for
the working directory.
-/

namespace CountingHouse.Path

/-! ## Parts -/

/-- The parts between the slashes of a path; there is always at least
one. -/
def partsOf : List Char → List (List Char)
  | [] => [[]]
  | '/' :: s => [] :: partsOf s
  | c :: s =>
    match partsOf s with
    | [] => [[c]]
    | part :: rest => (c :: part) :: rest

/-- Does the part name nothing new? -/
def isVoid (part : List Char) : Bool :=
  part = [] || part = ['.']

/-- Drops the void parts at the end of a path; the first part stays. -/
def dropVoidEnd : List (List Char) → List (List Char)
  | [] => []
  | first :: rest => first :: (rest.reverse.dropWhile isVoid).reverse

/-! ## Joining and taking apart -/

/-- Does the path begin at the root? -/
def isAbsolute (path : String) : Bool :=
  path.toList.head? = some '/'

/-- The path of `name` inside `directory`. An absolute name is a path of
its own. -/
def join (directory name : String) : String :=
  if isAbsolute name then name
  else if directory.isEmpty || directory.toList.getLast? = some '/' then directory ++ name
  else directory ++ "/" ++ name

/-- The path without its last part. The root and the empty path have no
part to lose. -/
def parent? (path : String) : Option String :=
  match dropVoidEnd (partsOf path.toList) with
  | [[]] => none
  | parts =>
    match dropVoidEnd parts.dropLast with
    | [[]] => some "/"
    | rest => some (String.ofList (['/'].intercalate rest))

/-- The directory a file stands in; the working directory when the path
does not say. -/
def directoryOf (path : String) : String :=
  match parent? path with
  | none | some "" => "."
  | some parent => parent

example : directoryOf "/tmp/bank/server.fifo" = "/tmp/bank" := by decide
example : directoryOf "server.fifo" = "." := by decide
example : directoryOf "./a/./b" = "./a" := by decide
example : directoryOf "//x" = "/" := by decide
example : directoryOf "a/." = "." := by decide
example : join "a//b" "c" = "a//b/c" := by decide

end CountingHouse.Path
