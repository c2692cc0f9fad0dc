/-
  The content type of a message.

  Parameters are separated by semicolons outside quotes; their names are in
  any case, and a value may be between quotes.

  * `MediaType.charset?` is the encoding that the parameters name;
  * `MediaType.isJson` holds for `application/json` and for the types under
    `application` whose name ends in `+json`.
-/
import RateIsolation.Text.CharClass
import RateIsolation.Text.UpperCase

namespace RateIsolation.MediaType

/-- Split at the semicolons that follow an even number of unescaped quotes. -/
def splitParameters (quoted : Bool) (previous : Char) : List Char → List (List Char)
  | [] => [[]]
  | c :: rest =>
    if c = ';' ∧ quoted = false then [] :: splitParameters false ' ' rest
    else
      let quoted' := if c = '"' ∧ previous ≠ '\\' then !quoted else quoted
      match splitParameters quoted' c rest with
      | [] => [[c]]
      | part :: parts => (c :: part) :: parts

/-- Take the backslash from an escaped backslash or quote. -/
def unescape : List Char → List Char
  | '\\' :: '\\' :: rest => '\\' :: unescape rest
  | '\\' :: '"' :: rest => '"' :: unescape rest
  | c :: rest => c :: unescape rest
  | [] => []

/-- A value without its quotes or angle brackets. -/
def unquote (cs : List Char) : List Char :=
  if cs.length < 2 then cs
  else if cs.head? == some '"' && cs.getLast? == some '"' then unescape (cs.drop 1).dropLast
  else if cs.head? == some '<' && cs.getLast? == some '>' then (cs.drop 1).dropLast
  else cs

/-- The name and value of a parameter. -/
def parameter (cs : List Char) : List Char × List Char :=
  let name := cs.takeWhile (· != '=')
  ((Text.trimBlankList name).map Char.toLower,
    unquote (Text.trimBlankList (cs.drop (name.length + 1))))

/-- The encoding that a content type names, in lower case. -/
def charset? (contentType : String) : Option String :=
  let parameters := (splitParameters false ' ' contentType.toList).map parameter
  match parameters.find? fun p => p.1 == "charset".toList with
  | none => none
  | some (_, value) =>
    if value.all (·.toNat < 128) then some (Text.toAsciiLower (String.ofList value)) else none

/-- The type without its parameters. -/
def essence (contentType : String) : List Char :=
  (Text.trimBlankList (contentType.toList.takeWhile (· != ';'))).map Char.toLower

/-- Whether the type is one of JSON. -/
def isJson (contentType : String) : Bool :=
  let type := essence contentType
  let main := type.takeWhile (· != '/')
  let sub := type.drop (main.length + 1)
  main == "application".toList && !sub.contains '/' &&
    (sub == "json".toList || "+json".toList.isSuffixOf sub)

end RateIsolation.MediaType
