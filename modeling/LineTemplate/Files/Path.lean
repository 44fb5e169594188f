import LineTemplate.Text.Split

/-!
The folder of a path: the path without its last name.
-/

namespace LineTemplate

/-- Whether a piece between slashes names something. Empty pieces and single dots do not. -/
def isName (piece : List Char) : Bool :=
  piece != [] && piece != ['.']

/-- The start of a path that is not a name below something, and the rest. -/
def splitRoot : List Char → List Char × List Char
  | '/' :: rest => (['/'], rest)
  | ['.'] => (['.'], [])
  | '.' :: '/' :: rest => (['.'], '/' :: rest)
  | characters => ([], characters)

/-- The path without its last name, the slashes before it and whatever follows it. Without a name
in the path it is empty. -/
def folderOf (path : String) : String :=
  let (root, body) := splitRoot path.toList
  let pieces := (Text.splitOn '/' body).reverse.dropWhile fun piece => !isName piece
  match pieces with
  | [] => ""
  | _ :: outer =>
      let kept := (outer.dropWhile fun piece => !isName piece).reverse
      String.ofList (root ++ List.intercalate ['/'] kept)

end LineTemplate
