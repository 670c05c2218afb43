/-
**Media types.**

A request says what its body is by a media type: a type and a subtype, then parameters.  A subtype may
end in a suffix after a plus sign, which tells the format that it builds on.

Main definitions:

* `Rulebook.Http.MediaType` — a type, a subtype and a suffix;
* `Rulebook.Http.MediaType.ofText?` — the media type that a text spells;
* `Rulebook.Http.MediaType.isJson` — whether it says that a body is JSON.
-/

set_option autoImplicit false

namespace Rulebook.Http

/-- What a body is, in lower case and without parameters. -/
structure MediaType where
  type : List Char
  subtype : List Char
  /-- What follows the last plus sign of the subtype. -/
  suffix : Option (List Char)
  deriving DecidableEq, Repr

/-- The characters of the names in a media type. -/
def isTokenChar (c : Char) : Bool :=
  c.isAlphanum || "!#$%&\x27+-.^_`|~".toList.contains c

/-- The characters that may stand in the quotes of a parameter. -/
def isQuotedChar (c : Char) : Bool := 0x20 ≤ c.toNat && c.toNat ≠ 0x7F

namespace MediaType

/-! ### Parameters -/

/-- What follows the quotes of a parameter: spaces and, if more parameters follow, a semicolon. -/
def afterQuotes? : List Char → Option (List Char)
  | [] => some []
  | ';' :: cs => some cs
  | ' ' :: cs => afterQuotes? cs
  | _ => none

/-- What follows the value of a parameter: a token up to a semicolon or the end, or a text in quotes,
neither of them empty. -/
def afterValue? : List Char → Option (List Char)
  | '"' :: cs =>
    match cs with
    | [] => none
    | c :: rest =>
      if isQuotedChar c then
        match rest.dropWhile fun c => isQuotedChar c && c != '"' with
        | '"' :: after => afterQuotes? after
        | _ => none
      else none
  | cs =>
    match cs.dropWhile isTokenChar with
    | [] => some []
    | ';' :: after => if (cs.takeWhile isTokenChar).isEmpty then none else some after
    | _ => none

/-- Whether a text is a row of parameters, each a name and a value with an equals sign between them and
spaces before it.  `fuel` goes down by one at every parameter. -/
def areParameters (fuel : Nat) (cs : List Char) : Bool :=
  match fuel with
  | 0 => false
  | fuel + 1 =>
    match cs.dropWhile (· == ' ') with
    | [] => true
    | cs =>
      match cs.dropWhile isTokenChar with
      | '=' :: value =>
        !(cs.takeWhile isTokenChar).isEmpty &&
          match afterValue? value with
          | some rest => areParameters fuel rest
          | none => false
      | _ => false

/-! ### Types -/

/-- A subtype cut at its last plus sign, unless that comes first. -/
def cutSuffix (subtype : List Char) : List Char × Option (List Char) :=
  let ending := (subtype.reverse.takeWhile (· != '+')).reverse
  let before := subtype.take (subtype.length - ending.length - 1)
  if before.isEmpty || ending.length == subtype.length then (subtype, none) else (before, some ending)

/-- The media type that a text spells. -/
def ofText? (s : String) : Option MediaType :=
  let cs := s.toList.map Char.toLower
  let type := cs.takeWhile isTokenChar
  match cs.dropWhile isTokenChar with
  | '/' :: rest =>
    let subtype := rest.takeWhile isTokenChar
    let parameters := rest.dropWhile isTokenChar
    let wellFormed := match parameters with
      | [] => true
      | ';' :: ps => !subtype.isEmpty && areParameters (ps.length + 1) ps
      | _ => false
    if !type.isEmpty && wellFormed then
      let (subtype, suffix) := cutSuffix subtype
      some ⟨type, subtype, suffix⟩
    else none
  | _ => none

/-- Whether a body is JSON: its subtype or its suffix says so. -/
def isJson (m : MediaType) : Bool :=
  m.type = "application".toList && (m.subtype = "json".toList || m.suffix = some "json".toList)

end MediaType

end Rulebook.Http
