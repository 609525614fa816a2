/-! The parameters of a content type. A type, a slash and a subtype come first, and every parameter
stands behind a semicolon: a name and a value, which is a word or is put in quotes. A text that is
written otherwise anywhere has no parameters at all. -/
namespace Checkout.Text.MediaType

/-- A character of a word. -/
def isWordChar (c : Char) : Bool := c.isAlphanum || "!#$%&'*+-.^_`|~".toList.contains c

/-- A character that may stand in quotes; nothing is escaped there. -/
def isQuotable (c : Char) : Bool := 0x20 ≤ c.toNat && c.toNat < 0x7F

/-- The name and the value of a parameter. -/
abbrev Parameter := List Char × List Char

/-- Where the parameters have been read to. What has been read so far of a name or a value is given
in reverse. -/
inductive Place where
  | name (soFar : List Char)
  | value (name soFar : List Char)
  | quoted (name soFar : List Char)
  | behindQuote

/-- Reads parameters on from a place, behind those given in reverse. An empty value may stand only at
the end, and a quote right behind the one that opens a value is part of the value. -/
def readOn (done : List Parameter) : Place → List Char → Option (List Parameter)
  | .name [], [] | .behindQuote, [] => some done.reverse
  | .value name soFar, [] => some ((name, soFar.reverse) :: done).reverse
  | .name _, [] | .quoted .., [] => none
  | .name soFar, c :: cs =>
    if c = ' ' ∧ soFar = [] then readOn done (.name []) cs
    else if isWordChar c then readOn done (.name (c :: soFar)) cs
    else if c = '=' ∧ soFar ≠ [] then readOn done (.value soFar.reverse []) cs
    else none
  | .value name soFar, c :: cs =>
    if c = '"' ∧ soFar = [] then readOn done (.quoted name []) cs
    else if isWordChar c then readOn done (.value name (c :: soFar)) cs
    else if c = ';' ∧ soFar ≠ [] then readOn ((name, soFar.reverse) :: done) (.name []) cs
    else none
  | .quoted name soFar, c :: cs =>
    if c = '"' ∧ soFar ≠ [] then readOn ((name, soFar.reverse) :: done) .behindQuote cs
    else if isQuotable c then readOn done (.quoted name (c :: soFar)) cs
    else none
  | .behindQuote, c :: cs =>
    if c = ';' then readOn done (.name []) cs
    else if c = ' ' then readOn done .behindQuote cs
    else none

/-- The parameters of a content type, in their order. -/
def parameters? (contentType : List Char) : Option (List Parameter) :=
  let type := contentType.takeWhile isWordChar
  match type, contentType.drop type.length with
  | _ :: _, '/' :: rest =>
    let subtype := rest.takeWhile isWordChar
    match subtype, rest.drop subtype.length with
    | _, [] => some []
    | _ :: _, ';' :: behind => readOn [] (.name []) behind
    | _, _ => none
  | _, _ => none

/-- The value of the first parameter of a name, whatever the case of the name's letters. -/
def parameter? (name contentType : String) : Option (List Char) := do
  let parameters ← parameters? contentType.toList
  let (_, value) ← parameters.find? fun p => p.1.map Char.toLower = name.toList
  return value

example : parameter? "charset" "text/html; a=1;Charset=\"Latin1\" ; b" = none := by decide +kernel
example : parameter? "charset" "text/html; a=1;Charset=\"Latin1\" ; b=2" =
    some "Latin1".toList := by
  decide +kernel

end Checkout.Text.MediaType
