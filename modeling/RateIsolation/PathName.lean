/-
  Names of files: parts with a slash between each two.

  Empty parts and parts of a single dot do not change what a name leads to;
  `PathName.normal` leaves them out.
-/

namespace RateIsolation.PathName

/-- Split at every slash. -/
def splitSlashes : List Char → List (List Char)
  | [] => [[]]
  | '/' :: rest => [] :: splitSlashes rest
  | c :: rest =>
    match splitSlashes rest with
    | [] => [[c]]
    | part :: parts => (c :: part) :: parts

/-- The parts of a name, without empty ones and single dots. -/
def parts (path : String) : List String :=
  ((splitSlashes path.toList).filter fun p => !p.isEmpty && p != ['.']).map String.ofList

/-- The name that leads to the same file, without empty parts and single dots; two slashes at the
    start, and no more, are kept. -/
def normal (path : String) : String :=
  let body := "/".intercalate (parts path)
  match path.toList with
  | '/' :: '/' :: '/' :: _ => "/" ++ body
  | '/' :: '/' :: _ => "//" ++ body
  | '/' :: _ => "/" ++ body
  | _ => if body.isEmpty then "." else body

end RateIsolation.PathName
