namespace Exemplar.TypeName

/-- What follows the last double colon, if there is one. -/
def afterLastColons? : List Char → Option (List Char)
  | [] => none
  | c :: rest =>
    match afterLastColons? rest with
    | some name => some name
    | none =>
      match c, rest with
      | ':', ':' :: name => some name
      | _, _ => none

/-- The last segment of the path in front of the first angle bracket. -/
def short (full : String) : String :=
  let path := full.toList.takeWhile (· ≠ '<')
  String.ofList ((afterLastColons? path).getD path)

end Exemplar.TypeName
